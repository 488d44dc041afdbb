import Sturdy.Trunk
import Sturdy.SuggestionService

namespace Sturdy

/-- A codebase's generic git remote (`remote.Remote`). -/
structure Remote where
  id : String
  codebaseID : String
  name : String := ""
  url : String := ""
  basicAuthUsername : String := ""
  basicAuthPassword : String := ""
  trackedBranch : String := ""
  browserLinkRepo : String := ""
  browserLinkBranch : String := ""
  deriving DecidableEq, Repr

structure SetRemoteInput where
  name : String := ""
  url : String := ""
  basicAuthUsername : String := ""
  basicAuthPassword : String := ""
  trackedBranch : String := ""
  browserLinkRepo : String := ""
  browserLinkBranch : String := ""
  deriving DecidableEq, Repr

/-- The fields `SetRemote` copies from its input, onto the stored remote or a new one. -/
def Remote.setInput (r : Remote) (input : SetRemoteInput) : Remote :=
  { r with
    name := input.name, url := input.url, basicAuthUsername := input.basicAuthUsername,
    basicAuthPassword := input.basicAuthPassword, trackedBranch := input.trackedBranch,
    browserLinkRepo := input.browserLinkRepo, browserLinkBranch := input.browserLinkBranch }

/-- What a commit made for a workspace's branch is built from: a snapshot's commit
(`CreateNewCommitBasedOnCommit`), or the tree of a view's patches
(`CreateChangesTreeFromPatches`). -/
inductive CommitBase where
  | snapshot (commitID : String)
  | view (viewID treeID : String)
  deriving DecidableEq, Repr

/-- The trunk world with what the remote integration reads and writes besides: the
remotes, each snapshot's commit, the branches of each trunk repository other than
`sturdytrunk` (whose tip is `trunkTip`), the commits made for branches, and the branches
of each remote URL. -/
structure RemoteWorld extends TrunkWorld where
  remotes : List Remote := []
  snapshotCommits : List (String × String) := []
  branches : String → String → Option String := fun _ _ => none
  commits : List (String × CommitBase) := []
  published : String → String → Option String := fun _ _ => none

/-- Where the remote operations can fail, and what the collaborators create: the remote's
lookup (a database failure other than finding no row) and writes, the snapshot's lookup,
each git step and the executors around them. -/
structure RemoteFaults where
  getRemote : Option String := none
  update : Option Err := none
  create : Option Err := none
  newRemoteID : String := "remote"
  getSnapshot : Option Err := none
  execPrepare : Option Err := none
  createCommit : Option Err := none
  execView : Option Err := none
  changesTree : Except Err (Option String) := .ok (some "tree")
  createBranch : Option Err := none
  commitIndex : Option Err := none
  forcePush : Option Err := none
  newCommitSHA : String := "commit"
  execPush : Option Err := none
  pushRemote : Option Err := none

namespace RemoteWorld

/-- The remote a codebase has: what `GetByCodebaseID` finds. -/
def remoteOf (w : RemoteWorld) (codebaseID : String) : Option Remote :=
  w.remotes.find? (·.codebaseID == codebaseID)

/-- `repo.GetByCodebaseID`. Modelled from the spec: the remote row of the codebase. -/
def getByCodebaseID (w : RemoteWorld) (fault : Option String) (codebaseID : String) :
    Except Err Remote :=
  fetch (fault.map Err.new) (w.remoteOf codebaseID)

/-- `repo.Update`. Modelled from the spec: the row with the remote's id is overwritten. -/
def updateRemote (w : RemoteWorld) (rep : Remote) : RemoteWorld :=
  { w with remotes := w.remotes.map fun r => if r.id = rep.id then rep else r }

/-- `EnterpriseService.SetRemote`: overwrite the codebase's remote with the input, or add
one when the lookup finds no row. -/
def setRemote (w : RemoteWorld) (codebaseID : String) (input : SetRemoteInput)
    (f : RemoteFaults) : Except Err Remote × RemoteWorld :=
  match w.getByCodebaseID f.getRemote codebaseID with
  | .ok rep =>
    let rep := rep.setInput input
    match f.update with
    | some e => (.error (e.wrap "failed to update remote"), w)
    | none => (.ok rep, w.updateRemote rep)
  | .error e =>
    if e.cause = .noRows then
      let r := ({ id := f.newRemoteID, codebaseID } : Remote).setInput input
      match f.create with
      | some e => (.error (e.wrap "failed to add remote"), w)
      | none => (.ok r, { w with remotes := w.remotes ++ [r] })
    else (.error (e.wrap "failed to set remote"), w)

/-- The tip of a branch of the codebase's trunk repository; `sturdytrunk` is the trunk. -/
def branchTip (w : RemoteWorld) (codebaseID name : String) : Option String :=
  if name = "sturdytrunk" then some (w.trunkTip codebaseID) else w.branches codebaseID name

/-- A new commit in the codebase's trunk repository, with a branch set to it. -/
def commitBranch (w : RemoteWorld) (codebaseID name sha : String) (base : CommitBase) :
    RemoteWorld :=
  let w := { w with
    objects := Function.update w.objects codebaseID (w.objects codebaseID ++ [sha])
    commits := w.commits ++ [(sha, base)] }
  if name = "sturdytrunk" then { w with trunkTip := Function.update w.trunkTip codebaseID sha }
  else
    { w with
      branches := Function.update w.branches codebaseID
        (Function.update (w.branches codebaseID) name (some sha)) }

/-- `prepareBranchForPullRequestFromSnapshot`: on the trunk, a commit based on the
snapshot's commit, on the branch. The executor's error is not wrapped, only replaced. -/
def prepareBranchForPullRequestFromSnapshot (w : RemoteWorld) (prBranchName : String)
    (ws : Workspace) (snapshotID : String) (f : RemoteFaults) : Except Err String × RemoteWorld :=
  match fetch f.getSnapshot (w.snapshotCommits.lookup snapshotID) with
  | .error e => (.error (e.wrap "failed to get snapshot"), w)
  | .ok commitID =>
    match f.execPrepare <|> f.createCommit with
    | some _ => (.error (Err.new "failed to create pr branch from snapshot"), w)
    | none =>
      (.ok f.newCommitSHA,
        w.commitBranch ws.codebaseID prBranchName f.newCommitSHA (.snapshot commitID))

end RemoteWorld

/-- The step `prepareBranchForPullRequestWithView` runs on the view: the tree of the
view's patches, a branch on `HEAD`, the tree committed on it, and a force push of the
branch to the trunk repository. Its result is the tree. -/
def RemoteFaults.viewStep (f : RemoteFaults) : Except Err String :=
  match f.execView, f.changesTree with
  | some e, _ => .error e
  | none, .error e => .error e
  | none, .ok none => .error (Err.new "no changes to add")
  | none, .ok (some treeID) =>
    match f.createBranch, f.commitIndex, f.forcePush with
    | some e, _, _ => .error (e.wrap "failed to create pr branch")
    | none, some e, _ => .error (e.wrap "failed save change")
    | none, none, some e => .error (e.wrap "failed to push to sturdytrunk")
    | none, none, none => .ok treeID

namespace RemoteWorld

/-- `prepareBranchForPullRequestWithView`: the trunk repository receives the branch only
when the whole step on the view succeeds. -/
def prepareBranchForPullRequestWithView (w : RemoteWorld) (prBranchName : String)
    (ws : Workspace) (viewID : String) (f : RemoteFaults) : Except Err String × RemoteWorld :=
  match f.viewStep with
  | .error e => (.error (e.wrap "failed to create pr branch from view"), w)
  | .ok treeID =>
    (.ok f.newCommitSHA,
      w.commitBranch ws.codebaseID prBranchName f.newCommitSHA (.view viewID treeID))

/-- `EnterpriseService.PrepareBranchForPush`: from the latest snapshot when the workspace
has no view, else from its view. Both paths wrap their error with the same text. -/
def prepareBranchForPush (w : RemoteWorld) (prBranchName : String) (ws : Workspace)
    (f : RemoteFaults) : Except Err String × RemoteWorld :=
  match ws.viewID, ws.latestSnapshotID with
  | none, some snapshotID =>
    let r := w.prepareBranchForPullRequestFromSnapshot prBranchName ws snapshotID f
    (r.1.mapError (Err.wrap "failed to prepare branch from snapshot"), r.2)
  | some viewID, _ =>
    let r := w.prepareBranchForPullRequestWithView prBranchName ws viewID f
    (r.1.mapError (Err.wrap "failed to prepare branch from snapshot"), r.2)
  | none, none => (.error (Err.new "workspace does not have either view nor snapshot"), w)

/-- The remote at `url` has its branch set to `sha`. -/
def publish (w : RemoteWorld) (url branch sha : String) : RemoteWorld :=
  { w with
    published := Function.update w.published url
      (Function.update (w.published url) branch (some sha)) }

/-- `PushRemoteUrlWithRefspec` from the trunk repository with the refspec
`refs/heads/<src>:refs/heads/<dst>`. Modelled from the spec: the remote's branch gets the
source branch's tip; git refuses a source branch that does not exist. -/
def pushBranch (w : RemoteWorld) (fault : Option Err) (codebaseID url src dst : String) :
    Except Err RemoteWorld :=
  match fault, w.branchTip codebaseID src with
  | some e, _ => .error e
  | none, none => .error (Err.new "src refspec does not match any")
  | none, some sha => .ok (w.publish url dst sha)

/-- The push step shared by `Push` and `PushTrunk`: a trunk executor running the push,
with the operation's own error text around it. -/
def pushWith (w : RemoteWorld) (f : RemoteFaults) (codebaseID url src dst context : String) :
    Except Err Unit × RemoteWorld :=
  match f.execPush with
  | some e => (.error (e.wrap context), w)
  | none =>
    match w.pushBranch f.pushRemote codebaseID url src dst with
    | .error e => (.error ((e.wrap "failed to push").wrap context), w)
    | .ok w' => (.ok (), w')

/-- `EnterpriseService.Push`: the workspace's branch `sturdy-<id>` is prepared on the
trunk and pushed to the remote's branch of the same name. -/
def push (w : RemoteWorld) (ws : Workspace) (f : RemoteFaults) : Except Err Unit × RemoteWorld :=
  match w.getByCodebaseID f.getRemote ws.codebaseID with
  | .error e => (.error (e.wrap "could not get remote"), w)
  | .ok rem =>
    let localBranchName := "sturdy-" ++ ws.id
    match w.prepareBranchForPush localBranchName ws f with
    | (.error e, w') => (.error e, w')
    | (.ok _, w') =>
      w'.pushWith f ws.codebaseID rem.url localBranchName ("sturdy-" ++ ws.id)
        "failed to push workspace to remote"

/-- `EnterpriseService.PushTrunk`: `sturdytrunk` is pushed to the remote's tracked
branch. -/
def pushTrunk (w : RemoteWorld) (codebaseID : String) (f : RemoteFaults) :
    Except Err Unit × RemoteWorld :=
  match w.getByCodebaseID f.getRemote codebaseID with
  | .error e => (.error (e.wrap "could not get remote"), w)
  | .ok rem =>
    w.pushWith f codebaseID rem.url "sturdytrunk" rem.trackedBranch "failed to push trunk to remote"

end RemoteWorld

/-- A call to the remote integration that reads or writes remotes and branches. -/
inductive RemoteOp where
  | setRemote (codebaseID : String) (input : SetRemoteInput) (f : RemoteFaults)
  | push (ws : Workspace) (f : RemoteFaults)
  | pushTrunk (codebaseID : String) (f : RemoteFaults)

def RemoteOp.apply (w : RemoteWorld) : RemoteOp → RemoteWorld
  | .setRemote codebaseID input f => (w.setRemote codebaseID input f).2
  | .push ws f => (w.push ws f).2
  | .pushTrunk codebaseID f => (w.pushTrunk codebaseID f).2

/-- The world after the calls, one after another, each whatever it returned. -/
def RemoteOp.run (w : RemoteWorld) (ops : List RemoteOp) : RemoteWorld := ops.foldl RemoteOp.apply w

end Sturdy
