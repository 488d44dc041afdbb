import Sturdy.Errors
import Sturdy.Workspace
import Sturdy.WorkspaceMemory
import Sturdy.Locker
import Sturdy.Queue
import Sturdy.Collaborators
import Sturdy.PullRequest
import Sturdy.PullRequestPush
import Sturdy.Trunk
import Sturdy.Merge
import Sturdy.MergeLanded
import Sturdy.MergeRuns
import Sturdy.Suggestion
import Sturdy.SuggestionRaces
import Sturdy.SuggestionService
import Sturdy.SuggestionSpec
import Sturdy.SuggestionModes
import Sturdy.SuggestionFailures
import Sturdy.Remote
import Sturdy.RemoteSpec
import Sturdy.RemoteStore
import Sturdy.Allower
import Sturdy.AllowerSpec
import Sturdy.Codebase
import Sturdy.SuggestionLists
import Sturdy.Views
import Sturdy.TrunkRuns
import Sturdy.PullRequestMerge
import Sturdy.PullRequestMergeSpec
import Sturdy.PrimaryPullRequest
import Sturdy.SuggestionDereferences
import Sturdy.HunkLedger
import Sturdy.HunkLedgerRuns
import Sturdy.SuggestionInvariants
import Sturdy.SuggestionRuns
import Sturdy.SuggestionNotifications
