import Sturdy.Merge

namespace Sturdy

@[simp] theorem Memory.unsetUpToDate_id (c : String) (ws : Workspace) :
    (Memory.unsetUpToDate c ws).id = ws.id := by unfold Memory.unsetUpToDate; split <;> rfl

@[simp] theorem Memory.unsetUpToDate_changeID (c : String) (ws : Workspace) :
    (Memory.unsetUpToDate c ws).changeID = ws.changeID := by unfold Memory.unsetUpToDate; split <;> rfl

@[simp] theorem Memory.unsetUpToDate_archivedAt (c : String) (ws : Workspace) :
    (Memory.unsetUpToDate c ws).archivedAt = ws.archivedAt := by
  unfold Memory.unsetUpToDate; split <;> rfl

@[simp] theorem Memory.unsetUpToDate_codebaseID (c : String) (ws : Workspace) :
    (Memory.unsetUpToDate c ws).codebaseID = ws.codebaseID := by
  unfold Memory.unsetUpToDate; split <;> rfl

namespace TrunkWorld

/-- A workspace whose `ChangeID` is set is archived, its activities and comments have been
moved to that change, and no workspace of its codebase is marked up to date. -/
def Landed (w : TrunkWorld) (x : Workspace) : Prop :=
  ∀ ch, x.changeID = some ch →
    x.archivedAt.isSome ∧ (x.id, ch) ∈ w.activities ∧ (x.id, ch) ∈ w.comments ∧
      w.UpToDateCleared x.codebaseID

/-- Every stored workspace with a `ChangeID` is landed. -/
def Inv (w : TrunkWorld) : Prop := ∀ x ∈ w.workspaces.workspaces, w.Landed x

/-- The stored record of a workspace has its `ChangeID` set and is landed. -/
def LandedWorkspace (w : TrunkWorld) (id : String) : Prop :=
  ∃ x, w.workspaces.lookup id = some x ∧ x.changeID.isSome ∧ w.Landed x

/-- `w'` keeps what `Landed` looks at in `w`: moved activities and comments, and
codebases with no workspace marked up to date. -/
structure Keeps (w w' : TrunkWorld) : Prop where
  activities : w.activities ⊆ w'.activities
  comments : w.comments ⊆ w'.comments
  cleared : ∀ c, w.UpToDateCleared c → w'.UpToDateCleared c

theorem Keeps.refl (w : TrunkWorld) : Keeps w w :=
  ⟨List.Subset.refl _, List.Subset.refl _, fun _ => id⟩

theorem Keeps.trans {w₁ w₂ w₃ : TrunkWorld} (k₁ : Keeps w₁ w₂) (k₂ : Keeps w₂ w₃) : Keeps w₁ w₃ :=
  ⟨k₁.activities.trans k₂.activities, k₁.comments.trans k₂.comments,
    fun c cleared => k₂.cleared c (k₁.cleared c cleared)⟩

theorem Landed.keep {w w' : TrunkWorld} {x : Workspace} (keeps : Keeps w w') (landed : w.Landed x) :
    w'.Landed x := fun ch set =>
  let ⟨archived, activity, comment, cleared⟩ := landed ch set
  ⟨archived, keeps.activities activity, keeps.comments comment, keeps.cleared _ cleared⟩

/-- A step that leaves the records alone and only adds moved activities or comments. -/
theorem Keeps.grow {w w' : TrunkWorld} (same : w'.workspaces = w.workspaces)
    (activities : w.activities ⊆ w'.activities) (comments : w.comments ⊆ w'.comments) :
    Keeps w w' :=
  ⟨activities, comments, fun c cleared => by simpa only [UpToDateCleared, same] using cleared⟩

theorem setChange_keeps (w : TrunkWorld) (workspaceID changeID : String) :
    Keeps w (w.setChange workspaceID changeID) :=
  Keeps.grow rfl (List.subset_append_left _ _) (List.Subset.refl _)

theorem moveComments_keeps (w : TrunkWorld) (workspaceID changeID : String) :
    Keeps w (w.moveComments workspaceID changeID) :=
  Keeps.grow rfl (List.Subset.refl _) (List.subset_append_left _ _)

theorem Inv.keep {w w' : TrunkWorld} (inv : w.Inv) (keeps : Keeps w w')
    (same : w'.workspaces = w.workspaces) : w'.Inv :=
  fun x member => (inv x (same ▸ member)).keep keeps

/-- `w'` keeps the records, the moved activities and comments, and the changes of `w`. -/
structure SameRecords (w w' : TrunkWorld) : Prop where
  workspaces : w'.workspaces = w.workspaces
  activities : w'.activities = w.activities
  comments : w'.comments = w.comments
  changes : w'.changes = w.changes

theorem SameRecords.refl (w : TrunkWorld) : SameRecords w w := ⟨rfl, rfl, rfl, rfl⟩

theorem SameRecords.inv {w w' : TrunkWorld} (same : SameRecords w w') (inv : w.Inv) : w'.Inv :=
  inv.keep (Keeps.grow same.workspaces (same.activities ▸ List.Subset.refl _)
    (same.comments ▸ List.Subset.refl _)) same.workspaces

theorem pullFromGitHubIfCommitNotExists_same (w : TrunkWorld) (c : String) (shas : List String)
    (f : MergeFaults) : SameRecords w (w.pullFromGitHubIfCommitNotExists c shas f).2 := by
  unfold pullFromGitHubIfCommitNotExists
  split
  · exact .refl w
  · split
    · exact .refl w
    · split
      · exact .refl w
      · exact ⟨rfl, rfl, rfl, rfl⟩

/-- `CreateWithCommitAsParent` either fails and changes nothing, failing with
`ErrAlreadyExists` only for a recorded commit, or records the new change. -/
theorem createWithCommitAsParent_cases (w : TrunkWorld) (ws : Workspace) (sha : String)
    (f : MergeFaults) :
    (∃ e, w.createWithCommitAsParent ws sha f = (.error e, w) ∧
      (e.cause = .alreadyExists → ∃ ch ∈ w.changes, ch.commitSHA = sha)) ∨
    ∃ ch, w.createWithCommitAsParent ws sha f = (.ok ch, { w with changes := w.changes ++ [ch] }) := by
  unfold createWithCommitAsParent
  split
  · rename_i recorded
    exact .inl ⟨_, rfl, fun _ => by simpa using recorded⟩
  · split
    · exact .inl ⟨_, rfl, fun other => by cases other⟩
    · exact .inr ⟨_, rfl⟩

theorem unsetUpToDate_keeps (w : TrunkWorld) (c : String) : Keeps w (w.unsetUpToDate c) := by
  refine ⟨List.Subset.refl _, List.Subset.refl _, fun c' cleared y member same => ?_⟩
  simp only [unsetUpToDate, Memory.unsetUpToDateWithTrunkForAllInCodebase, List.mem_map] at member
  obtain ⟨old, stored, rfl⟩ := member
  unfold Memory.unsetUpToDate at same ⊢
  split
  · rfl
  · rename_i other
    simp only [other, if_false] at same
    exact cleared old stored same

theorem unsetUpToDate_inv {w : TrunkWorld} (inv : w.Inv) (c : String) : (w.unsetUpToDate c).Inv := by
  intro x member ch set
  simp only [unsetUpToDate, Memory.unsetUpToDateWithTrunkForAllInCodebase, List.mem_map] at member
  obtain ⟨old, stored, rfl⟩ := member
  simp only [Memory.unsetUpToDate_changeID] at set
  simpa using ((inv old stored).keep (unsetUpToDate_keeps w c)) ch set

theorem lookup_mem {w : TrunkWorld} {id : String} {x : Workspace}
    (found : w.workspaces.lookup id = some x) : x ∈ w.workspaces.workspaces :=
  List.mem_of_find?_eq_some found

/-- `ArchiveWithChange` rewrites the stored record of the workspace, and only it, to be
archived with the change. -/
theorem archiveWithChange_records {w w' : TrunkWorld} {ws : Workspace} {ch : Change}
    {f : MergeFaults} (archived : w.archiveWithChange ws ch f = .ok w') :
    w'.activities = w.activities ∧ w'.comments = w.comments ∧
      ∃ r, w.workspaces.lookup ws.id = some r ∧
        w'.workspaces.lookup ws.id = some { r with archivedAt := some f.now, changeID := some ch.id } ∧
        ∀ y ∈ w'.workspaces.workspaces, y ∈ w.workspaces.workspaces ∨
          y = { r with archivedAt := some f.now, changeID := some ch.id } := by
  unfold archiveWithChange at archived
  split at archived
  · cases archived
  split at archived
  · rename_i m updated
    cases archived
    unfold Memory.updateFields at updated
    split at updated
    · rename_i l' loop
      cases updated
      have assigned : ∀ r, (Options.parse [.setArchivedAt (some f.now), .setChangeID (some ch.id)]).assign r =
          { r with archivedAt := some f.now, changeID := some ch.id } := fun r => by
        simp [Options.parse_assign, UpdateOption.apply]
      obtain ⟨r, found⟩ : ∃ r, w.workspaces.workspaces.find? (·.id == ws.id) = some r := by
        cases h : w.workspaces.workspaces.find? (·.id == ws.id) with
        | none => simp [Memory.updateFieldsIn_none.mpr h] at loop
        | some r => exact ⟨r, rfl⟩
      have entry := Memory.updateFieldsIn_find (k := ws.id) loop
      refine ⟨rfl, rfl, r, found, by simp [Memory.lookup, entry, found, assigned], fun y member => ?_⟩
      rcases Memory.updateFieldsIn_mem loop member with old | ⟨r', found', rfl⟩
      · exact .inl old
      · rw [found] at found'; cases found'; exact .inr (assigned r)
    · cases updated
  · cases archived

theorem archiveWithChange_keeps {w w' : TrunkWorld} {ws : Workspace} {ch : Change}
    {f : MergeFaults} (archived : w.archiveWithChange ws ch f = .ok w') : Keeps w w' := by
  obtain ⟨activities, comments, r, found, -, members⟩ := archiveWithChange_records archived
  refine ⟨activities ▸ List.Subset.refl _, comments ▸ List.Subset.refl _,
    fun c cleared y member same => ?_⟩
  rcases members y member with old | rfl
  · exact cleared y old same
  · exact cleared r (lookup_mem found) same

theorem archiveWithChange_inv {w w' : TrunkWorld} {ws : Workspace} {ch : Change} {f : MergeFaults}
    (inv : w.Inv) (archived : w.archiveWithChange ws ch f = .ok w')
    (activity : (ws.id, ch.id) ∈ w.activities) (comment : (ws.id, ch.id) ∈ w.comments)
    (cleared : ∀ r, w.workspaces.lookup ws.id = some r → w.UpToDateCleared r.codebaseID) :
    w'.Inv ∧ ∃ x, w'.workspaces.lookup ws.id = some x ∧ x.changeID = some ch.id := by
  obtain ⟨-, -, r, found, atWs, members⟩ := archiveWithChange_records archived
  have keeps := archiveWithChange_keeps archived
  refine ⟨fun x member => ?_, _, atWs, rfl⟩
  rcases members x member with old | rfl
  · exact (inv x old).keep keeps
  · intro c set
    obtain rfl : ch.id = c := Option.some.inj set
    have sameId : r.id = ws.id := by simpa using List.find?_some found
    exact ⟨rfl, keeps.activities (sameId ▸ activity), keeps.comments (sameId ▸ comment),
      keeps.cleared _ (cleared r found)⟩

/-- The steps after the change is created keep the invariant; when they all succeed the
workspace is landed. -/
theorem landChange_spec {w : TrunkWorld} {ws : Workspace} {ch : Change} {f : MergeFaults}
    (inv : w.Inv) (found : w.workspaces.lookup ws.id = some ws) :
    (w.landChange ws ch f).2.Inv ∧
      ((w.landChange ws ch f).1 = .ok () → (w.landChange ws ch f).2.LandedWorkspace ws.id) := by
  have unsetInv := unsetUpToDate_inv inv ws.codebaseID
  have activityKeeps := setChange_keeps (w.unsetUpToDate ws.codebaseID) ws.id ch.id
  have commentKeeps := moveComments_keeps ((w.unsetUpToDate ws.codebaseID).setChange ws.id ch.id) ws.id ch.id
  have activityInv := unsetInv.keep activityKeeps rfl
  have commentInv := activityInv.keep commentKeeps rfl
  unfold landChange
  split
  · exact ⟨inv, by simp⟩
  split
  · exact ⟨unsetInv, by simp⟩
  split
  · exact ⟨unsetInv, by simp⟩
  split
  · exact ⟨activityInv, by simp⟩
  dsimp only
  split
  · exact ⟨commentInv, by simp⟩
  rename_i final archived
  have unsetFound : (w.unsetUpToDate ws.codebaseID).workspaces.lookup ws.id =
      some (Memory.unsetUpToDate ws.codebaseID ws) := by
    simp [unsetUpToDate, Memory.lookup_unset, found]
  obtain ⟨finalInv, x, atX, changed⟩ := archiveWithChange_inv commentInv archived
    (by simp [setChange, moveComments]) (by simp [moveComments]) (fun r atR => by
      rw [show r = Memory.unsetUpToDate ws.codebaseID ws from
        Option.some.inj (atR.symm.trans unsetFound), Memory.unsetUpToDate_codebaseID]
      exact (activityKeeps.trans commentKeeps).cleared _ (unsetUpToDate_cleared w ws.codebaseID))
  exact ⟨finalInv, fun _ => ⟨x, atX, by simp [changed], finalInv x (lookup_mem atX)⟩⟩

theorem getWorkspace_ok {w : TrunkWorld} {fault : Option Err} {id : String} {ws : Workspace}
    (got : w.getWorkspace fault id = .ok ws) : w.workspaces.lookup ws.id = some ws ∧ ws.id = id := by
  unfold getWorkspace Memory.get at got
  split at got
  · cases got
  · split at got
    · rename_i found
      cases got
      have same : ws.id = id := by simpa using List.find?_some found
      exact ⟨by rw [same]; exact found, same⟩
    · cases got

/-- Every run of `mergePullRequest` either keeps the records, activities, comments and
changes, returning nil only at the `Merging` check, for a workspace that already has its
change, or at `ErrAlreadyExists` for a recorded merge commit; or it records a change and
runs `landChange` for the stored workspace. -/
theorem mergePullRequest_cases (w : TrunkWorld) (pr : MergeRequest) (f : MergeFaults) :
    (SameRecords w (mergePullRequest w pr f).2 ∧
      ((mergePullRequest w pr f).1 = .ok () → pr.state = .merging ∨
        (∃ x, w.workspaces.lookup pr.workspaceID = some x ∧ x.changeID.isSome) ∨
        ∃ ch ∈ w.changes, ch.commitSHA = pr.mergeCommitSHA)) ∨
    ∃ ws w₁ ch, w.workspaces.lookup ws.id = some ws ∧ ws.id = pr.workspaceID ∧ SameRecords w w₁ ∧
      mergePullRequest w pr f = ({ w₁ with changes := w₁.changes ++ [ch] }).landChange ws ch f := by
  unfold mergePullRequest
  split
  · exact .inl ⟨.refl w, fun _ => .inl ‹_›⟩
  split
  · exact .inl ⟨.refl w, fun ok => by cases ok⟩
  rename_i ws got
  obtain ⟨found, sameId⟩ := getWorkspace_ok got
  split
  · rename_i merged
    exact .inl ⟨.refl w, fun _ => .inr (.inl ⟨ws, sameId ▸ found, merged.2⟩)⟩
  have pulled := pullFromGitHubIfCommitNotExists_same w pr.codebaseID [pr.mergeCommitSHA, pr.baseSHA] f
  split
  · rename_i e w₁ failed
    rw [failed] at pulled
    exact .inl ⟨pulled, fun ok => by cases ok⟩
  rename_i w₁ fetched
  rw [fetched] at pulled
  rcases createWithCommitAsParent_cases w₁ ws pr.mergeCommitSHA f with ⟨e, failed, exists_⟩ | ⟨ch, created⟩
  · rw [failed]
    refine .inl ⟨by dsimp only; split <;> exact pulled, fun ok => ?_⟩
    have already : e.cause = .alreadyExists := by
      by_contra other
      simp [other] at ok
    obtain ⟨ch, member, sha⟩ := exists_ already
    exact .inr (.inr ⟨ch, pulled.changes ▸ member, sha⟩)
  · rw [created]
    exact .inr ⟨ws, w₁, ch, found, sameId, pulled, rfl⟩

/-- Every run of `mergePullRequest`, whichever step fails, keeps the invariant. -/
theorem mergePullRequest_inv {w : TrunkWorld} (inv : w.Inv) (pr : MergeRequest) (f : MergeFaults) :
    (mergePullRequest w pr f).2.Inv := by
  rcases mergePullRequest_cases w pr f with ⟨same, -⟩ | ⟨ws, w₁, ch, found, -, same, run⟩
  · exact same.inv inv
  · have inv₂ : ({ w₁ with changes := w₁.changes ++ [ch] } : TrunkWorld).Inv := same.inv inv
    rw [← same.workspaces] at found
    rw [run]
    exact (landChange_spec inv₂ found).1

/-- A run that returns nil, did not stop at the `Merging` check, and did not stop at
`ErrAlreadyExists` (no change for the merge commit was recorded, or the workspace already
had its change) leaves the workspace landed. -/
theorem mergePullRequest_landed {w : TrunkWorld} {pr : MergeRequest} {f : MergeFaults}
    (inv : w.Inv) (ok : (mergePullRequest w pr f).1 = .ok ()) (notMerging : pr.state ≠ .merging)
    (notRecorded : (∀ ch ∈ w.changes, ch.commitSHA ≠ pr.mergeCommitSHA) ∨
      ∃ x, w.workspaces.lookup pr.workspaceID = some x ∧ x.changeID.isSome) :
    (mergePullRequest w pr f).2.LandedWorkspace pr.workspaceID := by
  rcases mergePullRequest_cases w pr f with ⟨same, returned⟩ | ⟨ws, w₁, ch, found, sameId, same, run⟩
  · have kept : ∀ x, w.workspaces.lookup pr.workspaceID = some x → x.changeID.isSome →
        (mergePullRequest w pr f).2.LandedWorkspace pr.workspaceID := fun x atX set => by
      rw [← same.workspaces] at atX
      exact ⟨x, atX, set, same.inv inv x (lookup_mem atX)⟩
    rcases returned ok with merging | ⟨x, atX, set⟩ | ⟨ch, member, sha⟩
    · exact absurd merging notMerging
    · exact kept x atX set
    · rcases notRecorded with fresh | ⟨x, atX, set⟩
      · exact absurd sha (fresh ch member)
      · exact kept x atX set
  · have inv₂ : ({ w₁ with changes := w₁.changes ++ [ch] } : TrunkWorld).Inv := same.inv inv
    rw [← same.workspaces] at found
    rw [run] at ok ⊢
    exact sameId ▸ (landChange_spec inv₂ found).2 ok

end TrunkWorld

end Sturdy
