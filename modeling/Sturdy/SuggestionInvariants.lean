import Sturdy.HunkLedger
import Sturdy.SuggestionDereferences
import Sturdy.SuggestionFailures

namespace Sturdy

/-- A ledger entry as `ApplyHunks` and `DismissHunks` write it: it parses back to a hunk
position with no negative index, so the marking loop of `diffs` can use it. -/
def entryWF (entry : String) : Bool :=
  match parseAppliedHunkID entry with
  | .ok pos => decide (0 ≤ pos.index)
  | .error _ => false

def LedgerWF (entries : List String) : Prop := ∀ e ∈ entries, entryWF e

theorem LedgerWF.append {l l' : List String} (wf : LedgerWF l) (wf' : LedgerWF l') : LedgerWF (l ++ l') :=
  fun e member => (List.mem_append.mp member).elim (wf e) (wf' e)

/-- The entries `ApplyHunks` and `DismissHunks` append are well formed, whatever the diff. -/
theorem ledgerWF_selectHunks (hunkIDs : List String) (d : List FileDiff) :
    LedgerWF ((selectHunks hunkIDs d).map (·.2)) := by
  rw [selectHunks_entries]
  intro e member
  obtain ⟨pos, selected, rfl⟩ := List.mem_map.mp member
  simp [entryWF, parseAppliedHunkID_toEntry (selectedPositions_nonneg pos selected),
    selectedPositions_nonneg pos selected]

/-- A well-formed ledger parses to positions with no negative index. -/
theorem LedgerWF.parse : ∀ {l : List String}, LedgerWF l →
    ∃ ps, l.mapM parseAppliedHunkID = .ok ps ∧ ∀ p ∈ ps, 0 ≤ p.index
  | [], _ => ⟨[], rfl, fun _ absent => absurd absent (List.not_mem_nil _)⟩
  | e :: l, wf => by
    obtain ⟨ps, parsed, nonneg⟩ := LedgerWF.parse fun e' member => wf e' (List.mem_cons_of_mem _ member)
    have first := wf e (List.mem_cons_self _ _)
    unfold entryWF at first
    split at first
    · next pos parsedFirst =>
      refine ⟨pos :: ps, by rw [List.mapM_cons, parsedFirst, parsed]; rfl, ?_⟩
      exact List.forall_mem_cons.mpr ⟨of_decide_eq_true first, nonneg⟩
    · cases first

namespace SuggestionWorld

variable {Tree : Type}

section Effects

variable {engine : PatchEngine Tree} {parse : String → Except Err HunkPos} {s s' : SuggestionWorld Tree}
  {sugg : Suggestion}

theorem update_ok {fault : Option Err} {w : Suggestion} (written : s.update fault w = .ok s') :
    s' = { s with suggestions := s.suggestions.map fun x => if x.id = w.id then w else x } := by
  unfold SuggestionWorld.update at written
  split at written
  · cases written
  · cases written; rfl

theorem update_error {fault : Option Err} {w : Suggestion} {e : Err} (failed : s.update fault w = .error e) :
    fault.isSome := by
  unfold SuggestionWorld.update at failed
  split at failed
  · rfl
  · cases failed

/-- A write-back keeps the ids of the stored suggestions. -/
theorem writeBack_ids (l : List Suggestion) (w : Suggestion) :
    (l.map fun x => if x.id = w.id then w else x).map (·.id) = l.map (·.id) := by
  simp only [List.map_map]
  exact List.map_congr_left fun x _ => by by_cases same : x.id = w.id <;> simp [same]

theorem getByWorkspaceID_mem {workspaceID : String} {f : SuggestionFaults}
    (got : s.getByWorkspaceID workspaceID f = .ok sugg) : sugg ∈ s.suggestions := by
  unfold getByWorkspaceID at got
  split at got
  · cases got
  · next found =>
    split at got
    · cases got
    · cases got
      exact List.mem_of_find?_eq_some (fetch_ok found).2

/-- `DismissHunks` writes nothing, or writes back its copy with well-formed entries after
`DismissedHunks`. -/
theorem dismissHunks_cases (s : SuggestionWorld Tree) (sugg : Suggestion) (hunkIDs : List String)
    (f : SuggestionFaults) :
    (s.dismissHunks engine parse sugg hunkIDs f).2 = s ∨
    ∃ entries, LedgerWF entries ∧
      s.update f.update (sugg.appendDismissed entries) = .ok (s.dismissHunks engine parse sugg hunkIDs f).2 := by
  unfold SuggestionWorld.dismissHunks
  split
  · exact .inl rfl
  split
  · exact .inl rfl
  split
  · exact .inl rfl
  split
  · exact .inl rfl
  · exact .inr ⟨_, ledgerWF_selectHunks _ _, ‹_›⟩

theorem dismiss_cases (s : SuggestionWorld Tree) (sugg : Suggestion) (f : SuggestionFaults) :
    (s.dismiss sugg f).2 = s ∨ s.update f.update (sugg.dismissAt f.now) = .ok (s.dismiss sugg f).2 := by
  unfold SuggestionWorld.dismiss
  split
  · exact .inl rfl
  · exact .inr ‹_›

/-- `RecordActivity` writes nothing, or finds a stored suggestion, notifies the target's
owner when its `NotifiedAt` is unset, and then may write it back as `recordActivityUpdate`
changes it; it writes back nothing only when there is nothing to change or the write fails. -/
theorem recordActivity_cases (s : SuggestionWorld Tree) (workspaceID : String) (f : SuggestionFaults) :
    (s.recordActivity workspaceID f).2 = s ∨
    ∃ sugg owner notified, sugg ∈ s.suggestions ∧ notified.workspaces = s.workspaces ∧
      notified.snapshots = s.snapshots ∧ notified.suggestions = s.suggestions ∧
      notified.notifications = (if sugg.notifiedAt.isNone then
        s.notifications ++ [⟨owner, sugg.id, f.notify.isNone⟩] else s.notifications) ∧
      ((s.recordActivity workspaceID f).2 = notified ∧ (sugg.recordActivityUpdate f.now = none ∨ f.update.isSome) ∨
        ∃ w, sugg.recordActivityUpdate f.now = some w ∧
          notified.update f.update w = .ok (s.recordActivity workspaceID f).2) := by
  unfold recordActivity
  split
  · exact .inl (by split <;> rfl)
  next sugg found =>
  split
  · exact .inl rfl
  next forWorkspace _ =>
  refine .inr ⟨sugg, forWorkspace.userID, if sugg.notifiedAt.isNone then
      { s with notifications := s.notifications ++ [⟨forWorkspace.userID, sugg.id, f.notify.isNone⟩] } else s,
    getByWorkspaceID_mem found, by split <;> rfl, by split <;> rfl, by split <;> rfl, by split <;> rfl, ?_⟩
  dsimp only
  split
  · exact .inl ⟨rfl, .inl ‹_›⟩
  next w wrote =>
  split
  · exact .inl ⟨rfl, .inr (update_error ‹_›)⟩
  · exact .inr ⟨w, wrote, ‹_›⟩

end Effects

/-- `s'` keeps what `s` stored: `s`'s snapshots, unchanged, before any new ones, and the ids
of `s`'s workspace and suggestion records before any new ones. -/
structure Grows (s s' : SuggestionWorld Tree) : Prop where
  snapshots : s.snapshots <+: s'.snapshots
  workspaceIDs : s.workspaces.workspaces.map (·.id) <+: s'.workspaces.workspaces.map (·.id)
  suggestionIDs : s.suggestions.map (·.id) <+: s'.suggestions.map (·.id)

theorem Grows.refl (s : SuggestionWorld Tree) : s.Grows s :=
  ⟨List.prefix_refl _, List.prefix_refl _, List.prefix_refl _⟩

theorem Grows.trans {s₁ s₂ s₃ : SuggestionWorld Tree} (first : s₁.Grows s₂) (next : s₂.Grows s₃) :
    s₁.Grows s₃ :=
  ⟨first.snapshots.trans next.snapshots, first.workspaceIDs.trans next.workspaceIDs,
    first.suggestionIDs.trans next.suggestionIDs⟩

theorem Grows.of_eq {s s' : SuggestionWorld Tree} (workspaces : s'.workspaces = s.workspaces)
    (snapshots : s'.snapshots = s.snapshots) (suggestions : s'.suggestions = s.suggestions) : s.Grows s' :=
  ⟨snapshots ▸ List.prefix_refl _, workspaces ▸ List.prefix_refl _, suggestions ▸ List.prefix_refl _⟩

/-- A suggestion as the service relies on it: both ledgers parse, and its suggesting
workspace, its target workspace and its base snapshot are stored. -/
structure SoundSuggestion (s : SuggestionWorld Tree) (sugg : Suggestion) : Prop where
  applied : LedgerWF sugg.appliedHunks
  dismissed : LedgerWF sugg.dismissedHunks
  suggesting : sugg.workspaceID ∈ s.workspaces.workspaces.map (·.id)
  target : sugg.forWorkspaceID ∈ s.workspaces.workspaces.map (·.id)
  base : sugg.forSnapshotID ∈ s.snapshots.map (·.id)

/-- A workspace as the service relies on it: its latest snapshot, if any, is stored, and it
has a view or a latest snapshot. -/
structure SoundWorkspace (s : SuggestionWorld Tree) (ws : Workspace) : Prop where
  latest : ∀ id, ws.latestSnapshotID = some id → id ∈ s.snapshots.map (·.id)
  editable : ws.viewID = none → ws.latestSnapshotID.isSome

/-- The records are consistent when every stored workspace and suggestion is sound. This is
the spec's universal invariants that a workspace's latest snapshot is null or refers to an
existing snapshot and that a suggestion's base snapshot exists, with invariant (a), the
references of a suggestion to its workspaces, and ledgers that `diffs` can parse. -/
structure Consistent (s : SuggestionWorld Tree) : Prop where
  workspaces : ∀ ws ∈ s.workspaces.workspaces, s.SoundWorkspace ws
  suggestions : ∀ sugg ∈ s.suggestions, s.SoundSuggestion sugg

section Sound

variable {s s' : SuggestionWorld Tree} {sugg : Suggestion}

theorem SoundSuggestion.mono (sound : s.SoundSuggestion sugg) (grows : s.Grows s') :
    s'.SoundSuggestion sugg :=
  ⟨sound.applied, sound.dismissed, grows.workspaceIDs.subset sound.suggesting,
    grows.workspaceIDs.subset sound.target, (grows.snapshots.map _).subset sound.base⟩

theorem SoundWorkspace.mono {ws : Workspace} (sound : s.SoundWorkspace ws) (grows : s.Grows s') :
    s'.SoundWorkspace ws :=
  ⟨fun id latest => (grows.snapshots.map _).subset (sound.latest id latest), sound.editable⟩

theorem SoundSuggestion.appendApplied (sound : s.SoundSuggestion sugg) {entries : List String}
    (wf : LedgerWF entries) : s.SoundSuggestion (sugg.appendApplied entries) :=
  { sound with applied := sound.applied.append wf }

theorem SoundSuggestion.appendDismissed (sound : s.SoundSuggestion sugg) {entries : List String}
    (wf : LedgerWF entries) : s.SoundSuggestion (sugg.appendDismissed entries) :=
  { sound with dismissed := sound.dismissed.append wf }

theorem SoundSuggestion.dismissAt (sound : s.SoundSuggestion sugg) (now : Nat) :
    s.SoundSuggestion (sugg.dismissAt now) :=
  ⟨sound.applied, sound.dismissed, sound.suggesting, sound.target, sound.base⟩

theorem SoundSuggestion.recordActivityUpdate (sound : s.SoundSuggestion sugg) {now : Nat} {w : Suggestion}
    (written : sugg.recordActivityUpdate now = some w) : s.SoundSuggestion w := by
  unfold Suggestion.recordActivityUpdate at written
  dsimp only at written
  split at written
  · cases written
    exact ⟨sound.applied, sound.dismissed, sound.suggesting, sound.target, sound.base⟩
  · cases written

theorem Consistent.viewOrSnapshot (consistent : s.Consistent) : s.ViewOrSnapshot :=
  fun ws member => (consistent.workspaces ws member).editable

end Sound

/-- `s'` keeps what `s` stored and its records are consistent. -/
structure Follows (s s' : SuggestionWorld Tree) : Prop where
  grows : s.Grows s'
  consistent : s'.Consistent

section Writes

variable {s s' : SuggestionWorld Tree}

theorem Follows.refl (consistent : s.Consistent) : s.Follows s := ⟨.refl s, consistent⟩

theorem Follows.trans {s₁ s₂ : SuggestionWorld Tree} (first : s.Follows s₁)
    (next : s₁.Consistent → s₁.Follows s₂) : s.Follows s₂ :=
  ⟨first.grows.trans (next first.consistent).grows, (next first.consistent).consistent⟩

/-- A step that keeps what a consistent world stored, and whose every record was stored
before or is sound, leaves the world consistent. -/
theorem Consistent.step (consistent : s.Consistent) (grows : s.Grows s')
    (workspaces : ∀ ws ∈ s'.workspaces.workspaces, ws ∈ s.workspaces.workspaces ∨ s'.SoundWorkspace ws)
    (suggestions : ∀ sugg ∈ s'.suggestions, sugg ∈ s.suggestions ∨ s'.SoundSuggestion sugg) :
    s.Follows s' :=
  ⟨grows, fun ws member => (workspaces ws member).elim (fun old => (consistent.workspaces ws old).mono grows) id,
    fun sugg member => (suggestions sugg member).elim (fun old => (consistent.suggestions sugg old).mono grows) id⟩

/-- A write of the views or the notifications. -/
theorem Follows.of_eq (consistent : s.Consistent) (workspaces : s'.workspaces = s.workspaces)
    (snapshots : s'.snapshots = s.snapshots) (suggestions : s'.suggestions = s.suggestions) : s.Follows s' :=
  consistent.step (.of_eq workspaces snapshots suggestions) (fun _ member => .inl (workspaces ▸ member))
    fun _ member => .inl (suggestions ▸ member)

/-- The snapshotter's step 4: the record is appended. -/
theorem Follows.recordSnapshot (consistent : s.Consistent) (snapshotID workspaceID : String) (t : Tree) :
    s.Follows (s.recordSnapshot snapshotID workspaceID t) :=
  consistent.step ⟨List.prefix_append _ _, List.prefix_refl _, List.prefix_refl _⟩
    (fun _ member => .inl member) fun _ member => .inl member

/-- Whatever its outcome, the snapshotter at most appends the snapshot and points the
workspace's record at it. -/
theorem Follows.snapshot (consistent : s.Consistent) (fault markFault : Option Err)
    (snapshotID workspaceID : String) (t : Tree) :
    s.Follows (s.snapshot fault markFault snapshotID workspaceID t).2 := by
  have recorded := Follows.recordSnapshot consistent snapshotID workspaceID t
  unfold SuggestionWorld.snapshot
  split
  · exact .refl consistent
  dsimp only
  split
  · exact recorded
  split
  · exact recorded
  next m updated =>
  unfold Memory.updateFields at updated
  split at updated
  · next l written =>
    cases updated
    have grows : s.Grows { s with workspaces := ⟨l⟩, snapshots := s.snapshots ++ [⟨snapshotID, workspaceID, t⟩] } :=
      ⟨List.prefix_append _ _, by simp [Memory.updateFieldsIn_ids written], List.prefix_refl _⟩
    refine consistent.step grows (fun ws member => ?_) fun _ member => .inl member
    rcases Memory.updateFieldsIn_mem written member with old | ⟨r, -, rfl⟩
    · exact .inl old
    · have latest : ((Options.parse [.setLatestSnapshotID (some snapshotID)]).assign r).latestSnapshotID =
          some snapshotID := rfl
      exact .inr ⟨fun id named => by simp_all [SuggestionWorld.recordSnapshot], fun _ => by rw [latest]; rfl⟩
  · cases updated

/-- A write-back of a sound record over the stored rows with its id. -/
theorem Follows.writeBack (consistent : s.Consistent) {w : Suggestion} (sound : s.SoundSuggestion w) :
    s.Follows { s with suggestions := s.suggestions.map fun x => if x.id = w.id then w else x } := by
  have grows : s.Grows { s with suggestions := s.suggestions.map fun x => if x.id = w.id then w else x } :=
    ⟨List.prefix_refl _, List.prefix_refl _, (writeBack_ids s.suggestions w).symm ▸ List.prefix_refl _⟩
  refine consistent.step grows (fun _ member => .inl member) fun sugg member => ?_
  obtain ⟨x, stored, rfl⟩ := List.mem_map.mp member
  split
  · exact .inr (sound.mono grows)
  · exact .inl stored

theorem Follows.update (consistent : s.Consistent) {fault : Option Err} {w : Suggestion}
    (sound : s.SoundSuggestion w) (written : s.update fault w = .ok s') : s.Follows s' :=
  update_ok written ▸ .writeBack consistent sound

theorem Follows.createWorkspace (consistent : s.Consistent) {ws : Workspace} (sound : s.SoundWorkspace ws) :
    s.Follows { s with workspaces := s.workspaces.create ws } := by
  have grows : s.Grows { s with workspaces := s.workspaces.create ws } :=
    ⟨List.prefix_refl _, by simp [Memory.create], List.prefix_refl _⟩
  refine consistent.step grows (fun x member => ?_) fun _ member => .inl member
  rcases List.mem_append.mp member with old | new
  · exact .inl old
  · exact .inr (List.mem_singleton.mp new ▸ sound.mono grows)

theorem Follows.createSuggestion (consistent : s.Consistent) {sugg : Suggestion} (sound : s.SoundSuggestion sugg) :
    s.Follows { s with suggestions := s.suggestions ++ [sugg] } := by
  have grows : s.Grows { s with suggestions := s.suggestions ++ [sugg] } :=
    ⟨List.prefix_refl _, List.prefix_refl _, by simp⟩
  refine consistent.step grows (fun _ member => .inl member) fun x member => ?_
  rcases List.mem_append.mp member with old | new
  · exact .inl old
  · exact .inr (List.mem_singleton.mp new ▸ sound.mono grows)

end Writes

section Calls

variable {engine : PatchEngine Tree} {parse : String → Except Err HunkPos} {s : SuggestionWorld Tree}
  {sugg : Suggestion}

theorem Follows.applyToTarget (consistent : s.Consistent) (original : Workspace) (patches : List String)
    (f : SuggestionFaults) : s.Follows (s.applyToTarget engine original patches f).2 := by
  rcases patched : s.applyToTarget engine original patches f with ⟨_ | _, s'⟩
  · rcases applyToTarget_error patched with rfl | ⟨t, -, rfl, -⟩
    · exact .refl consistent
    · exact .recordSnapshot consistent _ _ t
  · rcases applyToTarget_cases patched with ⟨v, t, -, -, rfl⟩ | ⟨id, snap, t, -, -, -, -, taken⟩
    · exact .of_eq consistent rfl rfl rfl
    · have follows := Follows.snapshot consistent f.snapshot f.markLatest f.newSnapshotID original.id t
      rwa [taken] at follows

theorem Follows.applyHunks (consistent : s.Consistent) (sound : s.SoundSuggestion sugg) (hunkIDs : List String)
    (f : SuggestionFaults) : s.Follows (s.applyHunks engine parse sugg hunkIDs f).2 := by
  rcases applyHunks_cases s sugg hunkIDs f with ⟨same, -⟩ |
    ⟨target, d, -, -, ⟨_, applied, -⟩ | ⟨patched, applied, ⟨e, -, run⟩ | run⟩⟩
  · rw [same]; exact .refl consistent
  all_goals
    have first : s.Follows (s.applyToTarget engine target ((selectHunks hunkIDs d).map (·.1)) f).2 :=
      .applyToTarget consistent _ _ f
    rw [applied] at first
  · exact first
  · rw [run]; exact first
  · rw [run]
    exact first.trans fun now =>
      .writeBack now ((sound.mono first.grows).appendApplied (ledgerWF_selectHunks hunkIDs d))

theorem Follows.dismissHunks (consistent : s.Consistent) (sound : s.SoundSuggestion sugg)
    (hunkIDs : List String) (f : SuggestionFaults) : s.Follows (s.dismissHunks engine parse sugg hunkIDs f).2 := by
  rcases dismissHunks_cases s sugg hunkIDs f with same | ⟨entries, wf, written⟩
  · rw [same]; exact .refl consistent
  · exact .update consistent (sound.appendDismissed wf) written

theorem Follows.dismiss (consistent : s.Consistent) (sound : s.SoundSuggestion sugg) (f : SuggestionFaults) :
    s.Follows (s.dismiss sugg f).2 := by
  rcases dismiss_cases s sugg f with same | written
  · rw [same]; exact .refl consistent
  · exact .update consistent (sound.dismissAt f.now) written

theorem Follows.recordActivity (consistent : s.Consistent) (workspaceID : String) (f : SuggestionFaults) :
    s.Follows (s.recordActivity workspaceID f).2 := by
  rcases recordActivity_cases s workspaceID f with same |
    ⟨sugg, -, notified, stored, workspaces, snapshots, suggestions, -, ⟨same, -⟩ | ⟨w, wrote, written⟩⟩
  · rw [same]; exact .refl consistent
  · rw [same]; exact .of_eq consistent workspaces snapshots suggestions
  · have first : s.Follows notified := .of_eq consistent workspaces snapshots suggestions
    exact first.trans fun now =>
      .update now (((consistent.suggestions sugg stored).mono first.grows).recordActivityUpdate wrote) written

theorem Follows.removePatches (consistent : s.Consistent) (patchIDs : List String) (f : SuggestionFaults) :
    s.Follows (s.removePatches engine parse sugg patchIDs f).2 := by
  rcases removePatches_cases s sugg patchIDs f with same | ⟨ws, v, t, -, -, made⟩
  · rw [same]; exact .refl consistent
  have viewed : s.Follows { s with views := Function.update s.views v t } := .of_eq consistent rfl rfl rfl
  refine viewed.trans fun now => ?_
  have follows := Follows.snapshot now f.snapshot f.markLatest f.newSnapshotID ws.id t
  rcases made with ⟨e, taken⟩ | ⟨taken, -⟩ <;> rwa [taken] at follows

theorem Follows.copyPatches (consistent : s.Consistent) (dst src : Workspace) (f : SuggestionFaults) :
    s.Follows (s.copyPatches dst src f).2 := by
  rcases copyPatches_cases s dst src f with same | ⟨t, taken⟩
  · rw [same]; exact .refl consistent
  · rw [taken]; exact .snapshot consistent none none f.newSnapshotID dst.id t

/-- `Create` inserts a sound workspace, snapshots it, and stores a suggestion whose
references resolve, when the target workspace it was handed is stored and sound. -/
theorem Follows.create (consistent : s.Consistent) {forWorkspace : Workspace}
    (read : forWorkspace.id ∈ s.workspaces.workspaces.map (·.id)) (source : s.SoundWorkspace forWorkspace)
    (userID : String) (f : SuggestionFaults) : s.Follows (s.create userID forWorkspace f).2 := by
  rcases create_cases s userID forWorkspace f with same | ⟨forSnapshotID, ws, latest, -, -, wsLatest, made⟩
  · rw [same]; exact .refl consistent
  have base := source.latest forSnapshotID latest
  have first : s.Follows { s with workspaces := s.workspaces.create ws } :=
    .createWorkspace consistent ⟨fun id named => Option.some.inj (wsLatest.symm.trans named) ▸ base,
      fun _ => by rw [wsLatest]; rfl⟩
  rcases made with made | ⟨copied, copiedIs, made⟩
  · rw [made]; exact first
  have second := Follows.copyPatches first.consistent ws forWorkspace f
  rw [copiedIs] at second
  have grows := first.grows.trans second.grows
  rcases made with made | ⟨sugg, -, suggesting, target, forSnapshot, applied, dismissed, -, run⟩
  · rw [made]; exact ⟨grows, second.consistent⟩
  rw [run]
  refine Follows.trans ⟨grows, second.consistent⟩ fun now => .createSuggestion now ⟨?_, ?_, ?_, ?_, ?_⟩
  · rw [applied]; exact fun _ absent => absurd absent (List.not_mem_nil _)
  · rw [dismissed]; exact fun _ absent => absurd absent (List.not_mem_nil _)
  · rw [suggesting]; exact second.grows.workspaceIDs.subset (by simp [Memory.create])
  · rw [target]; exact grows.workspaceIDs.subset read
  · rw [forSnapshot]; exact (grows.snapshots.map _).subset base

end Calls

end SuggestionWorld

end Sturdy
