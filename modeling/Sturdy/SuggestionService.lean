import Sturdy.Suggestion
import Sturdy.WorkspaceMemory

namespace Sturdy

/-- A snapshot record (`snapshots.Snapshot`) with the tree its commit holds. -/
structure Snapshot (Tree : Type) where
  id : String
  workspaceID : String
  tree : Tree
  deriving DecidableEq, Repr

/-- Modelled from the spec: the VCS layer under the suggestion service, which is not in
the sources. Working trees are values of `Tree`. -/
structure PatchEngine (Tree : Type) where
  /-- `ApplyPatchesToWorkdir` of one patch: the patched tree, or why it does not apply. -/
  applyPatch : Tree → String → Except Err Tree
  /-- `RemoveWithPatches(patches, ids)`: the tree with the selected patches undone. -/
  removeWithPatches : List String → List String → Tree → Except Err Tree
  /-- The closure `diffs` runs on the trunk: `DiffCommits` of two snapshots, then
  `Decorate`, with the errors it wraps. -/
  diffTrees : Tree → Tree → Except Err (List RawFileDiff)

namespace PatchEngine

variable {Tree : Type}

/-- `ApplyPatchesToWorkdir`: every patch in turn; if one does not apply, the whole batch
is aborted. -/
def applyPatches (engine : PatchEngine Tree) (patches : List String) (t : Tree) :
    Except Err Tree :=
  patches.foldlM engine.applyPatch t

/-- `CanApplyPatch`: a dry run of applying the patch. -/
def canApplyPatch (engine : PatchEngine Tree) (t : Tree) (patch : String) : Bool :=
  (engine.applyPatch t patch).toBool

end PatchEngine

/-- A notification `RecordActivity` asked `notificationSender.User` for: the user, the
suggestion, and whether the send succeeded. -/
structure Notification where
  userID : String
  suggestionID : String
  sent : Bool
  deriving DecidableEq, Repr

/-- What the suggestion service reads and writes: the workspace records, each view's
working tree, the snapshots, the stored suggestions and the notifications asked for. -/
structure SuggestionWorld (Tree : Type) where
  workspaces : Memory
  views : String → Tree
  snapshots : List (Snapshot Tree)
  suggestions : List Suggestion
  notifications : List Notification := []

/-- Where the collaborators of one call fail, and the ids and time they hand out. `exec`
is the executor failing before the call's own step runs (opening the view, or allocating
the temporary view and `CheckoutSnapshot`); `snapshot` is the snapshotter failing up to
persisting the snapshot record, and `markLatest` its step 5, updating the workspace's latest
snapshot; `notify` is `notificationSender.User`. -/
structure SuggestionFaults where
  getSuggestion : Option Err := none
  getCodebase : Option Err := none
  getOriginal : Option Err := none
  getSuggesting : Option Err := none
  getWorkspace : Option Err := none
  getSuggestingSnapshot : Option Err := none
  getBaseSnapshot : Option Err := none
  canApply : Option Err := none
  viewExec : Option Err := none
  getSnapshot : Option Err := none
  exec : Option Err := none
  snapshot : Option Err := none
  markLatest : Option Err := none
  notify : Option Err := none
  createFromWorkspace : Option Err := none
  copyPatches : Option Err := none
  update : Option Err := none
  create : Option Err := none
  newWorkspaceID : String := "suggesting"
  newSnapshotID : String := "snapshot"
  newSuggestionID : String := "suggestion"
  now : Nat := 0

/-- A read of a store: the collaborator's failure, else the record found, else
`ErrNoRows`. -/
def fetch {α : Type} (fault : Option Err) (found : Option α) : Except Err α :=
  match fault with
  | some e => .error e
  | none =>
    match found with
    | some a => .ok a
    | none => .error errNoRows

/-- Marks the hunk a ledger position names, as the marking loop of `diffs` does: it checks
`len(fd.Hunks) > index`, so a negative index panics. -/
def markAt (set : Hunk → Hunk) (fd : FileDiff) (pos : HunkPos) : Except Failure FileDiff :=
  if pos.fileName = fd.preferredName ∧ pos.index < fd.hunks.length then
    if pos.index < 0 then .error (.panic "index out of range")
    else .ok { fd with hunks := fd.hunks.modify set pos.index.toNat }
  else .ok fd

/-- The applied, then the dismissed positions marked on one file. -/
def markLedger (applied dismissed : List HunkPos) (fd : FileDiff) : Except Failure FileDiff := do
  let fd ← applied.foldlM (markAt fun h => { h with isApplied := true }) fd
  dismissed.foldlM (markAt fun h => { h with isDismissed := true }) fd

/-- The outdated check of one hunk on the target's view: `CanApplyPatch`, skipped for
applied and dismissed hunks. -/
def markOutdatedHunk {Tree : Type} (engine : PatchEngine Tree) (t : Tree) (fault : Option Err)
    (h : Hunk) : Except Err Hunk :=
  if h.isApplied || h.isDismissed then .ok h
  else
    match fault with
    | some e => .error (e.wrap "can not check if patch can be applied")
    | none => .ok (if engine.canApplyPatch t h.patch then h else { h with isOutdated := true })

def markOutdated {Tree : Type} (engine : PatchEngine Tree) (t : Tree) (fault : Option Err)
    (d : List FileDiff) : Except Err (List FileDiff) :=
  d.mapM fun fd => return { fd with hunks := ← fd.hunks.mapM (markOutdatedHunk engine t fault) }

/-- The hunks `ApplyHunks` and `DismissHunks` select, in diff order: each one's patch and
its ledger entry. -/
def selectHunks (hunkIDs : List String) (d : List FileDiff) : List (String × String) :=
  d.flatMap fun fd =>
    (fd.hunks.enum.filter fun (_, h) => hunkIDs.contains h.id).map fun (i, h) =>
      (h.patch, (HunkPos.mk fd.preferredName i).toEntry)

namespace SuggestionWorld

variable {Tree : Type} (engine : PatchEngine Tree) (parse : String → Except Err HunkPos)

/-- `workspaceService.GetByID`. -/
def getWorkspace (s : SuggestionWorld Tree) (fault : Option Err) (id : String) :
    Except Err Workspace :=
  fetch fault (s.workspaces.lookup id)

/-- `snapshotter.GetByID`. -/
def getSnapshot (s : SuggestionWorld Tree) (fault : Option Err) (id : String) :
    Except Err (Snapshot Tree) :=
  fetch fault (s.snapshots.find? (·.id == id))

/-- The content of a workspace: its view's working tree, or the tree of its latest
snapshot when it has no view. -/
def content (s : SuggestionWorld Tree) (ws : Workspace) : Option Tree :=
  match ws.viewID with
  | some v => some (s.views v)
  | none => ws.latestSnapshotID.bind fun id => (s.snapshots.find? (·.id == id)).map (·.tree)

/-- The content of the stored workspace with this id. -/
def contentOf (s : SuggestionWorld Tree) (id : String) : Option Tree :=
  (s.workspaces.lookup id).bind s.content

/-- Step 4 of the snapshotter: the snapshot record is persisted. -/
def recordSnapshot (s : SuggestionWorld Tree) (snapshotID workspaceID : String) (t : Tree) :
    SuggestionWorld Tree :=
  { s with snapshots := s.snapshots ++ [⟨snapshotID, workspaceID, t⟩] }

/-- Modelled from the spec: `snapshotter.Snapshot` with `WithMarkAsLatestInWorkspace`. When
a step up to the record fails (`fault`) nothing is recorded. Otherwise the snapshot record
is persisted, then the workspace's latest snapshot is pointed at it; when that step 5 fails
(`markFault`, or a workspace that is not stored) the record stays and the error is
returned. -/
def snapshot (s : SuggestionWorld Tree) (fault markFault : Option Err) (snapshotID workspaceID : String)
    (t : Tree) : Except Err Unit × SuggestionWorld Tree :=
  match fault with
  | some e => (.error e, s)
  | none =>
    let recorded := s.recordSnapshot snapshotID workspaceID t
    match markFault with
    | some e => (.error e, recorded)
    | none =>
      match s.workspaces.updateFields workspaceID [.setLatestSnapshotID (some snapshotID)] with
      | .error e => (.error e, recorded)
      | .ok m => (.ok (), { recorded with workspaces := m })

/-- `suggestionRepo.Update`: the stored record with the suggestion's id is replaced. -/
def update (s : SuggestionWorld Tree) (fault : Option Err) (sugg : Suggestion) :
    Except Err (SuggestionWorld Tree) :=
  match fault with
  | some e => .error e
  | none => .ok { s with suggestions := s.suggestions.map fun x => if x.id = sugg.id then sugg else x }

/-- The steps of `diffs` from the suggesting workspace's latest snapshot to the marks of
the applied and dismissed hunks. -/
def markedDiffs (s : SuggestionWorld Tree) (sugg : Suggestion) (latest : String)
    (f : SuggestionFaults) : Except Failure (List FileDiff) := do
  let suggestingSnapshot ←
    wrapErr "failed to get suggesting snapshot" (s.getSnapshot f.getSuggestingSnapshot latest)
  let baseSnapshot ←
    wrapErr "failed to get base snapshot" (s.getSnapshot f.getBaseSnapshot sugg.forSnapshotID)
  let raw ← wrapErr "failed to schedule repo on trunk"
    (engine.diffTrees baseSnapshot.tree suggestingSnapshot.tree)
  let applied ← wrapErr "couldn't parse applied hunk id" (sugg.appliedHunks.mapM parse)
  let dismissed ← wrapErr "couldn't parse applied hunk id" (sugg.dismissedHunks.mapM parse)
  (raw.map FileDiff.ofRaw).mapM (markLedger applied dismissed)

/-- The outdated marks, run with `ExecView` on the target's view. -/
def outdatedOnView (s : SuggestionWorld Tree) (v : String) (f : SuggestionFaults)
    (d : List FileDiff) : Except Err (List FileDiff) :=
  match f.viewExec with
  | some e => .error e
  | none => markOutdated engine (s.views v) f.canApply d

/-- `diffs`: the suggestion's hunks against the target workspace `original`, with the
ledger's marks, and the outdated marks when the target is on a view. -/
def diffs (s : SuggestionWorld Tree) (sugg : Suggestion) (original : Workspace)
    (f : SuggestionFaults) : Except Failure (List FileDiff) := do
  let suggesting ←
    wrapErr "failed to get suggesting workspace" (s.getWorkspace f.getSuggesting sugg.workspaceID)
  match suggesting.latestSnapshotID with
  | none => pure []
  | some latest =>
    let marked ← s.markedDiffs engine parse sugg latest f
    match original.viewID with
    | none => pure marked
    | some v => wrapErr "failed to calculate outdated diffs" (s.outdatedOnView engine v f marked)

/-- `Diffs`: `diffs` against the stored target workspace. -/
def diffsOf (s : SuggestionWorld Tree) (sugg : Suggestion) (f : SuggestionFaults) :
    Except Failure (List FileDiff) :=
  match s.getWorkspace f.getOriginal sugg.forWorkspaceID with
  | .error e => .error (.error (e.wrap "failed to get original workspace"))
  | .ok original => s.diffs engine parse sugg original f

/-- The patch step of `ApplyHunks`: `ExecView` on the target's view, or, for a target with
no view, `CheckoutSnapshot` of its latest snapshot into a temporary view, the patches, and
a snapshot marked as the target's latest. -/
def applyToTarget (s : SuggestionWorld Tree) (original : Workspace) (patches : List String)
    (f : SuggestionFaults) : Except Failure Unit × SuggestionWorld Tree :=
  match original.viewID with
  | none =>
    match original.latestSnapshotID with
    | none => (.error nilDereference, s)
    | some id =>
      match s.getSnapshot f.getSnapshot id with
      | .error e => (.error (.error (e.wrap "failed to get snapshot")), s)
      | .ok snap =>
        match f.exec with
        | some e => (.error (.error (e.wrap "failed to apply patches")), s)
        | none =>
          match engine.applyPatches patches snap.tree with
          | .error e => (.error (.error ((e.wrap "failed to apply patches").wrap "failed to apply patches")), s)
          | .ok t =>
            match s.snapshot f.snapshot f.markLatest f.newSnapshotID original.id t with
            | (.error e, after) =>
              (.error (.error ((e.wrap "failed to snapshot").wrap "failed to apply patches")), after)
            | (.ok (), after) => (.ok (), after)
  | some v =>
    match f.exec with
    | some e => (.error (.error (e.wrap "failed to apply patches")), s)
    | none =>
      match engine.applyPatches patches (s.views v) with
      | .error e => (.error (.error (e.wrap "failed to apply patches")), s)
      | .ok t => (.ok (), { s with views := Function.update s.views v t })

/-- `ApplyHunks`. -/
def applyHunks (s : SuggestionWorld Tree) (sugg : Suggestion) (hunkIDs : List String)
    (f : SuggestionFaults) : Except Failure Unit × SuggestionWorld Tree :=
  if hunkIDs.isEmpty then (.ok (), s)
  else
    match s.getWorkspace f.getOriginal sugg.forWorkspaceID with
    | .error e => (.error (.error (e.wrap "failed to get original workspace")), s)
    | .ok original =>
      match s.diffs engine parse sugg original f with
      | .error p => (.error (p.wrap "failed to get diffs"), s)
      | .ok fileDiffs =>
        let selected := selectHunks hunkIDs fileDiffs
        match s.applyToTarget engine original (selected.map (·.1)) f with
        | (.error p, after) => (.error p, after)
        | (.ok (), patched) =>
          match patched.update f.update (sugg.appendApplied (selected.map (·.2))) with
          | .error e => (.error (.error (e.wrap "failed to update")), patched)
          | .ok updated => (.ok (), updated)

/-- `DismissHunks`. -/
def dismissHunks (s : SuggestionWorld Tree) (sugg : Suggestion) (hunkIDs : List String)
    (f : SuggestionFaults) : Except Failure Unit × SuggestionWorld Tree :=
  if hunkIDs.isEmpty then (.ok (), s)
  else
    match s.getWorkspace f.getOriginal sugg.forWorkspaceID with
    | .error e => (.error (.error (e.wrap "failed to get original workspace")), s)
    | .ok original =>
      match s.diffs engine parse sugg original f with
      | .error p => (.error (p.wrap "failed to get diffs"), s)
      | .ok fileDiffs =>
        match s.update f.update (sugg.appendDismissed ((selectHunks hunkIDs fileDiffs).map (·.2))) with
        | .error e => (.error (.error (e.wrap "failed to update")), s)
        | .ok updated => (.ok (), updated)

/-- `Dismiss`. -/
def dismiss (s : SuggestionWorld Tree) (sugg : Suggestion) (f : SuggestionFaults) :
    Except Failure Unit × SuggestionWorld Tree :=
  match s.update f.update (sugg.dismissAt f.now) with
  | .error e => (.error (.error (e.wrap "failed to update suggestion")), s)
  | .ok updated => (.ok (), updated)

/-- `GetByWorkspaceID`: the suggestion made from the workspace, and its codebase check. -/
def getByWorkspaceID (s : SuggestionWorld Tree) (workspaceID : String) (f : SuggestionFaults) :
    Except Err Suggestion :=
  match fetch f.getSuggestion (s.suggestions.find? (·.workspaceID == workspaceID)) with
  | .error e => .error (e.wrap "failed to get suggestion")
  | .ok sugg =>
    match f.getCodebase with
    | some e => .error (e.wrap "failed to get codebase")
    | none => .ok sugg

/-- `RecordActivity`: a notification to the target's owner when `NotifiedAt` is unset, and
the suggestion written back when `recordActivityUpdate` changes it. A send that fails is
only logged, and `NotifiedAt` is set all the same. -/
def recordActivity (s : SuggestionWorld Tree) (workspaceID : String) (f : SuggestionFaults) :
    Except Failure Unit × SuggestionWorld Tree :=
  match s.getByWorkspaceID workspaceID f with
  | .error e =>
    if e.cause = .noRows then (.ok (), s) else (.error (.error (e.wrap "failed to get suggestion")), s)
  | .ok sugg =>
    match s.getWorkspace f.getOriginal sugg.forWorkspaceID with
    | .error e => (.error (.error (e.wrap "failed to get workspace")), s)
    | .ok forWorkspace =>
      let notified := if sugg.notifiedAt.isNone then
        { s with notifications := s.notifications ++ [⟨forWorkspace.userID, sugg.id, f.notify.isNone⟩] }
        else s
      match Suggestion.recordActivityUpdate f.now sugg with
      | none => (.ok (), notified)
      | some written =>
        match notified.update f.update written with
        | .error e => (.error (.error (e.wrap "failed to update suggestion")), notified)
        | .ok updated => (.ok (), updated)

/-- The patches of every hunk of the suggestion, as `RemovePatches` collects them. -/
def allPatches (d : List FileDiff) : List String := d.flatMap fun fd => fd.hunks.map (·.patch)

/-- `RemovePatches`: the selected patches undone in the suggesting workspace, on its view
followed by a snapshot, or in a temporary view checked out from its latest snapshot. On
that second path the snapshot call dereferences the absent `ViewID`. -/
def removePatches (s : SuggestionWorld Tree) (sugg : Suggestion) (patchIDs : List String)
    (f : SuggestionFaults) : Except Failure Unit × SuggestionWorld Tree :=
  if patchIDs.isEmpty then (.ok (), s)
  else
    match s.getWorkspace f.getWorkspace sugg.workspaceID with
    | .error e => (.error (.error (e.wrap "failed to get workspace")), s)
    | .ok ws =>
      match s.diffsOf engine parse sugg f with
      | .error p => (.error (p.wrap "failed to get diffs"), s)
      | .ok d =>
        match ws.viewID with
        | some v =>
          match f.exec with
          | some e => (.error (.error (e.wrap "failed to apply patches")), s)
          | none =>
            match engine.removeWithPatches (allPatches d) patchIDs (s.views v) with
            | .error e => (.error (.error (e.wrap "failed to apply patches")), s)
            | .ok t =>
              let removed := { s with views := Function.update s.views v t }
              match removed.snapshot f.snapshot f.markLatest f.newSnapshotID ws.id t with
              | (.error e, after) =>
                (.error (.error ((e.wrap "failed to snapshot").wrap "failed to apply patches")), after)
              | (.ok (), snapshotted) => (.ok (), snapshotted)
        | none =>
          match ws.latestSnapshotID with
          | none => (.error (.error (Err.new "workspace has no view nor latest snapshot")), s)
          | some id =>
            match s.getSnapshot f.getSnapshot id with
            | .error e => (.error (.error (e.wrap "failed to get snapshot")), s)
            | .ok snap =>
              match f.exec with
              | some e => (.error (.error (e.wrap "failed to apply patches")), s)
              | none =>
                match engine.removeWithPatches (allPatches d) patchIDs snap.tree with
                | .error e => (.error (.error (e.wrap "failed to apply patches")), s)
                | .ok _ => (.error nilDereference, s)

/-- Modelled from the spec: `workspaceService.CreateFromWorkspace`, not in the sources,
inserts a new workspace of the user, cloned from the workspace's latest snapshot. -/
def createFromWorkspace (s : SuggestionWorld Tree) (source : Workspace) (userID name : String)
    (f : SuggestionFaults) : Except Err (Workspace × SuggestionWorld Tree) :=
  match f.createFromWorkspace with
  | some e => .error e
  | none =>
    let ws : Workspace := { id := f.newWorkspaceID, codebaseID := source.codebaseID, userID,
                            name := some name, latestSnapshotID := source.latestSnapshotID }
    .ok (ws, { s with workspaces := s.workspaces.create ws })

/-- Modelled from the spec: `workspaceService.CopyPatches(dst, src)`, not in the sources,
snapshots `src`'s content as `dst`'s latest snapshot. -/
def copyPatches (s : SuggestionWorld Tree) (dst src : Workspace) (f : SuggestionFaults) :
    Except Err Unit × SuggestionWorld Tree :=
  match f.copyPatches with
  | some e => (.error e, s)
  | none =>
    match s.content src with
    | none => (.error errNoRows, s)
    | some t => s.snapshot none none f.newSnapshotID dst.id t

/-- `Create`. -/
def create (s : SuggestionWorld Tree) (userID : String) (forWorkspace : Workspace)
    (f : SuggestionFaults) : Except Failure Suggestion × SuggestionWorld Tree :=
  match forWorkspace.latestSnapshotID with
  | none => (.error (.error (Err.new "workspace has no snapshot")), s)
  | some forSnapshotID =>
    let name := match forWorkspace.name with
      | some n => "Suggestions: " ++ n
      | none => ""
    match s.createFromWorkspace forWorkspace userID name f with
    | .error e => (.error (.error (e.wrap "failed to copy workspace")), s)
    | .ok (ws, created) =>
      match created.copyPatches ws forWorkspace f with
      | (.error e, after) => (.error (.error (e.wrap "failed to copy patches")), after)
      | (.ok (), copied) =>
        let sugg : Suggestion := { id := f.newSuggestionID, codebaseID := ws.codebaseID,
                                   workspaceID := ws.id, forSnapshotID,
                                   forWorkspaceID := forWorkspace.id, userID, createdAt := f.now }
        match f.create with
        | some e => (.error (.error (e.wrap "failed to create")), copied)
        | none => (.ok sugg, { copied with suggestions := copied.suggestions ++ [sugg] })

end SuggestionWorld

end Sturdy
