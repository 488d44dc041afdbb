import Sturdy.WorkspaceMemory

namespace Sturdy

/-- A landed change (`changes.Change`): its id, its commit on the trunk and the workspace
it came from. -/
structure Change where
  id : String
  commitSHA : String
  workspaceID : String
  deriving DecidableEq, Repr

/-- What the server holds for the operations that move `refs/heads/sturdytrunk`: the
workspace records, each codebase's trunk tip and trunk object store, the changes, and
the workspace activities and comments moved to a change. -/
structure TrunkWorld where
  workspaces : Memory := {}
  trunkTip : String → String := fun _ => ""
  objects : String → List String := fun _ => []
  changes : List Change := []
  activities : List (String × String) := []
  comments : List (String × String) := []

/-- What a fetch of the remote tracked branch brings: its tip and its commits. -/
structure Fetched where
  tip : String
  commits : List String
  deriving DecidableEq, Repr

/-- `FetchUrlRemoteWithCreds` / `FetchTrackedToSturdytrunk` with a `+...:sturdytrunk`
refspec: the trunk is force-moved to the remote's tip. -/
def TrunkWorld.fetchIntoTrunk (w : TrunkWorld) (codebaseID : String) (fetched : Fetched) :
    TrunkWorld :=
  { w with
    trunkTip := Function.update w.trunkTip codebaseID fetched.tip
    objects := Function.update w.objects codebaseID (w.objects codebaseID ++ fetched.commits) }

def TrunkWorld.unsetUpToDate (w : TrunkWorld) (codebaseID : String) : TrunkWorld :=
  { w with workspaces := w.workspaces.unsetUpToDateWithTrunkForAllInCodebase codebaseID }

/-- Every workspace of the codebase has `UpToDateWithTrunk` unset. -/
def TrunkWorld.UpToDateCleared (w : TrunkWorld) (codebaseID : String) : Prop :=
  ∀ ws ∈ w.workspaces.workspaces, ws.codebaseID = codebaseID → ws.upToDateWithTrunk = none

theorem TrunkWorld.unsetUpToDate_cleared (w : TrunkWorld) (codebaseID : String) :
    (w.unsetUpToDate codebaseID).UpToDateCleared codebaseID := by
  intro ws member same
  simp only [unsetUpToDate, Memory.unsetUpToDateWithTrunkForAllInCodebase, List.mem_map] at member
  obtain ⟨old, -, rfl⟩ := member
  unfold Memory.unsetUpToDate at same ⊢
  split
  · rfl
  · rename_i other; simp [other] at same

/-- Where `EnterpriseService.Pull` can fail: the remote lookup, the fetch on the trunk,
`UnsetHeadChangeCache` and `UnsetUpToDateWithTrunkForAllInCodebase`. -/
structure PullFaults where
  remote : Option Err := none
  fetch : Option Err := none
  unsetHeadChangeCache : Option Err := none
  unsetUpToDate : Option Err := none

/-- `EnterpriseService.Pull`: fetch the remote's tracked branch into the trunk, then
unset the head change cache and every workspace's `UpToDateWithTrunk`. -/
def pull (w : TrunkWorld) (codebaseID : String) (fetched : Fetched) (faults : PullFaults) :
    Except Err Unit × TrunkWorld :=
  match faults.remote with
  | some e => (.error (e.wrap "could not get remote"), w)
  | none =>
    match faults.fetch with
    | some e => (.error ((e.wrap "failed to pull").wrap "failed to pull"), w)
    | none =>
      let fetchedWorld := w.fetchIntoTrunk codebaseID fetched
      match faults.unsetHeadChangeCache with
      | some e => (.error (e.wrap "failed to unset head"), fetchedWorld)
      | none =>
        match faults.unsetUpToDate with
        | some e =>
          (.error (e.wrap "failed to unset up to date with trunk for all in codebase"), fetchedWorld)
        | none => (.ok (), fetchedWorld.unsetUpToDate codebaseID)

end Sturdy
