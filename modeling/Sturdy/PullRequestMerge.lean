import Sturdy.Merge
import Sturdy.Suggestion

namespace Sturdy

/-- What GitHub reports of a pull request (`api.PullRequest`), by the fields the merge
paths read. -/
structure GitHubPR where
  state : String := "open"
  merged : Bool := false
  mergeCommitSHA : String := ""
  baseSHA : String := ""
  deriving DecidableEq, Repr

def getPRState (gitHubPR : GitHubPR) : PullRequestState :=
  match gitHubPR.state with
  | "open" => .open
  | "closed" => if gitHubPR.merged then .merged else .closed
  | _ => .unknown

/-- What `PullRequests.Merge` answers: an error, with the status of its response (none
when there is no response) and GitHub's message when the error is an `ErrorResponse`; or
a result with its `Merged` flag. -/
inductive MergeAnswer where
  | failed (e : Err) (status : Option Nat) (errorResponse : Option String)
  | result (merged : Bool)
  deriving DecidableEq, Repr

/-- The trunk world with the stored pull request rows (`gitHubPullRequestRepo`). -/
structure PullRequestWorld extends TrunkWorld where
  pullRequests : List PullRequest := []

/-- Where the collaborators of `UpdatePullRequestFromGitHub` fail, and what they answer.
`updatePullRequest` is `UpdatePullRequest`, and `unarchive` and `archive` are the
workspace service's, none of them in the sources. -/
structure FromGitHubFaults where
  getWorkspace : Option Err := none
  description : Except Err String := .ok ""
  updateFields : Option Err := none
  unarchive : Option Err := none
  archive : Option Err := none
  updatePullRequest : Option Err := none
  updatePR : Option Err := none
  merge : MergeFaults := {}
  now : Nat := 0

/-- The answers of `MergePullRequest`'s collaborators, in call order: the signed-in user,
the GitHub user's access token, `ListOpenedByWorkspace` of a workspace id, the repository and installation
lookups, the write of the first `setPRState`, the `Get` before the merge, the merge, the
write of the rollback, the `Get` after the merge, and what `UpdatePullRequestFromGitHub`
meets. -/
structure MergePullRequestEnv where
  userID : Except Err String := .ok "user"
  accessToken : Except Err (Option String) := .ok (some "token")
  opened : String → Except Err (List PullRequest) := fun _ => .ok []
  repository : Except Err GitHubRepository := .ok {}
  installation : Except Err Unit := .ok ()
  setMerging : Option Err := none
  getBefore : Except Err GitHubPR := .error (Err.new "not found")
  merge : MergeAnswer := .result true
  rollback : Option Err := none
  getAfter : Except Err GitHubPR := .ok {}
  fromGitHub : FromGitHubFaults := {}

namespace PullRequestWorld

/-- Modelled from the spec: `gitHubPullRequestRepo.Update`, not in the sources, writes the
record over the stored row with its id. -/
def updatePR (w : PullRequestWorld) (fault : Option Err) (pr : PullRequest) :
    Except Err PullRequestWorld :=
  match fault with
  | some e => .error e
  | none => .ok { w with pullRequests := w.pullRequests.map fun row => if row.id = pr.id then pr else row }

/-- The stored state of the pull request with the id. -/
def storedState (w : PullRequestWorld) (id : String) : Option PullRequestState :=
  (w.pullRequests.find? (·.id == id)).map (·.state)

/-- `setPRState`: the caller's record is set to `PullRequestStateMerged`, whatever `state`
asks for, and written; a failed `GitHubPRUpdated` event is only logged. The record is
changed also when the write fails. -/
def setPRState (w : PullRequestWorld) (fault : Option Err) (pr : PullRequest)
    (state : PullRequestState) : Except Err Unit × PullRequest × PullRequestWorld :=
  let pr := { pr with state := .merged }
  match w.updatePR fault pr with
  | .error e => (.error (e.wrap "failed to update pull request"), pr, w)
  | .ok w' => (.ok (), pr, w')

/-- `updatePRFromGitHub`: the record takes GitHub's state and the time and is written; a
failed write is only logged, so it never fails. -/
def updatePRFromGitHub (w : PullRequestWorld) (fault : Option Err) (now : Nat) (pr : PullRequest)
    (gitHubPR : GitHubPR) : PullRequestWorld :=
  match w.updatePR fault { pr with updatedAt := some now, state := getPRState gitHubPR } with
  | .error _ => w
  | .ok w' => w'

/-- `workspaceWriter.UpdateFields` of the workspace with the setters. Modelled from the spec:
the workspace service's `Archive` and `Unarchive`, not in the sources, are such writes of the
archived fields, toggling the workspace's archived state. -/
def writeWorkspace (w : PullRequestWorld) (fault : Option Err) (id : String)
    (fields : List UpdateOption) : Except Err PullRequestWorld :=
  match fault with
  | some e => .error e
  | none => (w.workspaces.updateFields id fields).map fun m => { w with workspaces := m }

/-- The branch of `UpdatePullRequestFromGitHub` chosen by GitHub's state: archive an
imported closed pull request, update one that is not merged, or land a merged one with
`mergePullRequest`; each but the archive then writes GitHub's state. -/
def applyGitHubState (w : PullRequestWorld) (ws : Workspace) (pr : PullRequest)
    (gitHubPR : GitHubPR) (f : FromGitHubFaults) : Except Err Unit × PullRequestWorld :=
  let newState := getPRState gitHubPR
  if newState = .closed ∧ pr.importing then
    let w := w.updatePRFromGitHub f.updatePR f.now pr gitHubPR
    match w.writeWorkspace f.archive ws.id [.setArchivedAt (some f.now)] with
    | .error e => (.error e, w)
    | .ok w => (.ok (), w)
  else if newState ≠ .merged then
    match f.updatePullRequest with
    | some e => (.error (e.wrap "failed to update pull request"), w)
    | none => (.ok (), w.updatePRFromGitHub f.updatePR f.now pr gitHubPR)
  else
    match Sturdy.mergePullRequest w.toTrunkWorld
        ⟨pr.state, pr.workspaceID, pr.codebaseID, gitHubPR.mergeCommitSHA, gitHubPR.baseSHA⟩ f.merge with
    | (.error e, t) => (.error (e.wrap "failed to merge pull request"), { w with toTrunkWorld := t })
    | (.ok (), t) => (.ok (), ({ w with toTrunkWorld := t }).updatePRFromGitHub f.updatePR f.now pr gitHubPR)

/-- `UpdatePullRequestFromGitHub`. -/
def updatePullRequestFromGitHub (w : PullRequestWorld) (pr : PullRequest) (gitHubPR : GitHubPR)
    (f : FromGitHubFaults) : Except Err Unit × PullRequestWorld :=
  match w.getWorkspace f.getWorkspace pr.workspaceID with
  | .error e =>
    if e.cause = .noRows then (.ok (), w) else (.error (e.wrap "failed to get workspace from db"), w)
  | .ok ws =>
    let described : Except Err PullRequestWorld :=
      if pr.importing then
        match f.description with
        | .error e => .error (e.wrap "failed to build description")
        | .ok d =>
          (w.writeWorkspace f.updateFields ws.id [.setDraftDescription d]).mapError
            (·.wrap "failed to update workspace")
      else .ok w
    match described with
    | .error e => (.error e, w)
    | .ok w =>
      let unarchived : Except Err PullRequestWorld :=
        if getPRState gitHubPR = .open ∧ pr.importing then
          (w.writeWorkspace f.unarchive ws.id [.setArchivedAt none, .setUnarchivedAt (some f.now)]).mapError
            (·.wrap "failed to unarchive workspace")
        else .ok w
      match unarchived with
      | .error e => (.error e, w)
      | .ok w => w.applyGitHubState ws pr gitHubPR f

/-- What `MergePullRequest` does after the merge call: on an error or a refused merge it
writes the previous state back and fails; after a merge it reads the pull request again and
hands it to `fromGitHub` (`UpdatePullRequestFromGitHub`). -/
def mergeAnswered (w : PullRequestWorld) (pr : PullRequest) (previousState : PullRequestState)
    (env : MergePullRequestEnv) (fromGitHub : GitHubPR → Except Failure Unit × PullRequestWorld) :
    Except Failure Unit × PullRequestWorld :=
  match env.merge with
  | .failed e status errorResponse =>
    match w.setPRState env.rollback pr previousState with
    | (.error e', _, w) => (.error (.error (e'.wrap "failed to update pull request state")), w)
    | (.ok (), _, w) =>
      match status, errorResponse with
      | none, _ => (.error nilDereference, w)
      | some 405, some message => (.error (.error (Err.new message)), w)
      | some _, _ => (.error (.error (e.wrap "failed to merge pr")), w)
  | .result merged =>
    if !merged then
      match w.setPRState env.rollback pr previousState with
      | (.error e', _, w) => (.error (.error (e'.wrap "failed to update pull request state")), w)
      | (.ok (), _, w) => (.error (.error (Err.new "pull request was not merged")), w)
    else
      match env.getAfter with
      | .error e => (.error (.error (e.wrap "failed to get pull request")), w)
      | .ok apiPR => fromGitHub apiPR

/-- The steps of `MergePullRequest` from the first `setPRState` on: mark the pull request,
take the shortcut when GitHub already reports it merged, else merge. -/
def mergeAndRollback (w : PullRequestWorld) (pr : PullRequest) (env : MergePullRequestEnv) :
    Except Failure Unit × PullRequestWorld :=
  let previousState := pr.state
  match w.setPRState env.setMerging pr .merging with
  | (.error e, _, w) => (.error (.error (e.wrap "failed to update pull request state")), w)
  | (.ok (), pr, w) =>
    let fromGitHub (apiPR : GitHubPR) : Except Failure Unit × PullRequestWorld :=
      let run := w.updatePullRequestFromGitHub pr apiPR env.fromGitHub
      (run.1.mapError .error, run.2)
    match env.getBefore with
    | .ok apiPR =>
      if apiPR.merged then fromGitHub apiPR
      else w.mergeAnswered pr previousState env fromGitHub
    | .error _ => w.mergeAnswered pr previousState env fromGitHub

/-- `MergePullRequest` on the workspace's one open pull request. -/
def mergePullRequest (w : PullRequestWorld) (ws : Workspace) (env : MergePullRequestEnv) :
    Except Failure Unit × PullRequestWorld :=
  let fail (e : Err) : Except Failure Unit × PullRequestWorld := (.error (.error e), w)
  match env.userID with
  | .error e => fail e
  | .ok userID =>
    match env.accessToken with
    | .error e => fail (e.wrap "failed to get github user")
    | .ok none => fail (Err.new ("no github access token found for user " ++ userID))
    | .ok (some _) =>
      match env.opened ws.id with
      | .error e => fail (e.wrap "pull request not found")
      | .ok [pr] =>
        match env.repository with
        | .error e => fail (e.wrap "gh repo not found")
        | .ok _ =>
          match env.installation with
          | .error e => fail (e.wrap "gh installation not found")
          | .ok () => w.mergeAndRollback pr env
      | .ok _ => fail (Err.new "unexpected number of open pull requests found")

end PullRequestWorld

end Sturdy
