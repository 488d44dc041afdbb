import Sturdy.Trunk
import Sturdy.PullRequest

namespace Sturdy

/-- The pull request and what GitHub reports about it, as `mergePullRequest` reads them. -/
structure MergeRequest where
  state : PullRequestState
  workspaceID : String
  codebaseID : String
  mergeCommitSHA : String
  baseSHA : String
  deriving DecidableEq, Repr

/-- What the collaborators of one `mergePullRequest` run do: where they fail, what the
fetch brings, the new change's id and the time. -/
structure MergeFaults where
  getWorkspace : Option Err := none
  check : Option Err := none
  fetch : Option Err := none
  fetched : Fetched := ⟨"", []⟩
  createChange : Option String := none
  changeID : String := "change"
  unset : Option Err := none
  activity : Option Err := none
  setChange : Option Err := none
  moveComments : Option Err := none
  archive : Option Err := none
  now : Nat := 0

namespace TrunkWorld

/-- `workspacesService.GetByID`. -/
def getWorkspace (w : TrunkWorld) (fault : Option Err) (id : String) : Except Err Workspace :=
  match fault with
  | some e => .error e
  | none => w.workspaces.get id

/-- `pullFromGitHubIfCommitNotExists`: fetch the tracked branch into the trunk when one
of the commits is missing from the trunk. -/
def pullFromGitHubIfCommitNotExists (w : TrunkWorld) (codebaseID : String)
    (commitShas : List String) (f : MergeFaults) : Except Err Unit × TrunkWorld :=
  match f.check with
  | some e => (.error (e.wrap "failed to fetch changes from github"), w)
  | none =>
    if commitShas.all (· ∈ w.objects codebaseID) then (.ok (), w)
    else
      match f.fetch with
      | some e => (.error (e.wrap "failed to fetch changes from github"), w)
      | none => (.ok (), w.fetchIntoTrunk codebaseID f.fetched)

/-- Modelled from the spec: `changeService.CreateWithCommitAsParent` is not in the sources.
It records a change for the commit, failing with `ErrAlreadyExists` when a change for
that commit is recorded already. -/
def createWithCommitAsParent (w : TrunkWorld) (ws : Workspace) (commitSHA : String)
    (f : MergeFaults) : Except Err Change × TrunkWorld :=
  if w.changes.any (·.commitSHA == commitSHA) then (.error ⟨[], .alreadyExists⟩, w)
  else
    match f.createChange with
    | some text => (.error (Err.new text), w)
    | none =>
      let ch : Change := ⟨f.changeID, commitSHA, ws.id⟩
      (.ok ch, { w with changes := w.changes ++ [ch] })

/-- Modelled from the spec: `workspacesService.ArchiveWithChange` is not in the sources.
It archives the workspace and sets its `ChangeID`. -/
def archiveWithChange (w : TrunkWorld) (ws : Workspace) (ch : Change) (f : MergeFaults) :
    Except Err TrunkWorld :=
  match f.archive with
  | some e => .error e
  | none =>
    match w.workspaces.updateFields ws.id [.setArchivedAt (some f.now), .setChangeID (some ch.id)] with
    | .ok m => .ok { w with workspaces := m }
    | .error e => .error e

/-- `activityService.SetChange`: the workspace's activities now belong to the change. -/
def setChange (w : TrunkWorld) (workspaceID changeID : String) : TrunkWorld :=
  { w with activities := w.activities ++ [(workspaceID, changeID)] }

/-- `commentsService.MoveCommentsFromWorkspaceToChange`. -/
def moveComments (w : TrunkWorld) (workspaceID changeID : String) : TrunkWorld :=
  { w with comments := w.comments ++ [(workspaceID, changeID)] }

/-- The steps of `mergePullRequest` after the change is created. -/
def landChange (w : TrunkWorld) (ws : Workspace) (ch : Change) (f : MergeFaults) :
    Except Err Unit × TrunkWorld :=
  match f.unset with
  | some e => (.error (e.wrap "failed to unset up to date with trunk for all in codebase"), w)
  | none =>
    let w := w.unsetUpToDate ws.codebaseID
    match f.activity with
    | some e => (.error (e.wrap "failed to create workspace activity"), w)
    | none =>
      match f.setChange with
      | some e => (.error (e.wrap "failed to set change"), w)
      | none =>
        let w := w.setChange ws.id ch.id
        match f.moveComments with
        | some e => (.error (e.wrap "failed to migrate comments"), w)
        | none =>
          let w := w.moveComments ws.id ch.id
          match w.archiveWithChange ws ch f with
          | .error e => (.error (e.wrap "failed to archive workspace"), w)
          | .ok w => (.ok (), w)

end TrunkWorld

/-- `Service.mergePullRequest`. -/
def mergePullRequest (w : TrunkWorld) (pr : MergeRequest) (f : MergeFaults) :
    Except Err Unit × TrunkWorld :=
  if pr.state = .merging then (.ok (), w)
  else
    match w.getWorkspace f.getWorkspace pr.workspaceID with
    | .error e => (.error (e.wrap "failed to get workspace"), w)
    | .ok ws =>
      if pr.state = .merged ∧ ws.changeID.isSome then (.ok (), w)
      else
        match w.pullFromGitHubIfCommitNotExists pr.codebaseID [pr.mergeCommitSHA, pr.baseSHA] f with
        | (.error e, w) => (.error (e.wrap "failed to pullFromGitHubIfCommitNotExists"), w)
        | (.ok (), w) =>
          match w.createWithCommitAsParent ws pr.mergeCommitSHA f with
          | (.error e, w) =>
            if e.cause = .alreadyExists then (.ok (), w)
            else (.error (e.wrap "failed to create change"), w)
          | (.ok ch, w) => w.landChange ws ch f

/-- Runs of `mergePullRequest` one after another, each with its own faults. -/
def mergeRuns (w : TrunkWorld) (runs : List (MergeRequest × MergeFaults)) : TrunkWorld :=
  runs.foldl (fun w run => (mergePullRequest w run.1 run.2).2) w

end Sturdy
