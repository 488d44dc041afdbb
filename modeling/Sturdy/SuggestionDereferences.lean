import Sturdy.SuggestionSpec

namespace Sturdy

/-- The result of a call that did not stop at a nil pointer dereference. -/
def NoNilDereference {α : Type} (x : Except Failure α) : Prop := x ≠ .error nilDereference

section Combinators

variable {α β : Type}

theorem wrapErr_noNil (ctx : String) (x : Except Err α) : NoNilDereference (wrapErr ctx x) := by
  cases x <;> simp [NoNilDereference, wrapErr, Except.mapError, nilDereference]

theorem bind_noNil {x : Except Failure α} {f : α → Except Failure β} (first : NoNilDereference x)
    (rest : ∀ a, x = .ok a → NoNilDereference (f a)) : NoNilDereference (x >>= f) := by
  cases x with
  | error p => simpa [NoNilDereference, bind, Except.bind] using first
  | ok a => exact rest a rfl

theorem mapM_noNil {f : α → Except Failure β} (each : ∀ a, NoNilDereference (f a)) :
    ∀ l : List α, NoNilDereference (l.mapM f)
  | [] => by rw [List.mapM_nil]; simp [NoNilDereference, pure, Except.pure]
  | a :: l => by
    rw [List.mapM_cons]
    exact bind_noNil (each a) fun _ _ => bind_noNil (mapM_noNil each l) fun _ _ => by
      simp [NoNilDereference, pure, Except.pure]

theorem foldlM_noNil {f : β → α → Except Failure β} (each : ∀ b a, NoNilDereference (f b a)) :
    ∀ (l : List α) (b : β), NoNilDereference (l.foldlM f b)
  | [], _ => by simp [NoNilDereference, pure, Except.pure]
  | a :: l, b => by
    rw [List.foldlM_cons]
    exact bind_noNil (each b a) fun b' _ => foldlM_noNil each l b'

theorem Failure.wrap_eq_nilDereference {ctx : String} {p : Failure} :
    p.wrap ctx = nilDereference ↔ p = nilDereference := by
  cases p <;> simp [Failure.wrap, nilDereference]

end Combinators

/-- The marking loop of `diffs` may panic on a negative index, but never dereferences nil. -/
theorem markAt_noNil (set : Hunk → Hunk) (fd : FileDiff) (pos : HunkPos) :
    NoNilDereference (markAt set fd pos) := by
  unfold markAt
  split
  · split
    · simp [NoNilDereference, nilDereference]
    · simp [NoNilDereference]
  · simp [NoNilDereference]

theorem markLedger_noNil (applied dismissed : List HunkPos) (fd : FileDiff) :
    NoNilDereference (markLedger applied dismissed fd) :=
  bind_noNil (foldlM_noNil (markAt_noNil _) _ _) fun _ _ => foldlM_noNil (markAt_noNil _) _ _

namespace SuggestionWorld

variable {Tree : Type} (engine : PatchEngine Tree) (parse : String → Except Err HunkPos)

/-- Invariant (a) of the spec: every stored workspace without a view has a latest snapshot. -/
def ViewOrSnapshot (s : SuggestionWorld Tree) : Prop :=
  ∀ ws ∈ s.workspaces.workspaces, ws.viewID = none → ws.latestSnapshotID.isSome

theorem markedDiffs_noNil (s : SuggestionWorld Tree) (sugg : Suggestion) (latest : String)
    (f : SuggestionFaults) : NoNilDereference (s.markedDiffs engine parse sugg latest f) := by
  unfold markedDiffs
  refine bind_noNil (wrapErr_noNil _ _) fun _ _ => bind_noNil (wrapErr_noNil _ _) fun _ _ =>
    bind_noNil (wrapErr_noNil _ _) fun _ _ => bind_noNil (wrapErr_noNil _ _) fun _ _ =>
      bind_noNil (wrapErr_noNil _ _) fun _ _ => mapM_noNil (markLedger_noNil _ _) _

/-- `diffs` never dereferences nil, whether or not either workspace is on a view: it reads
the suggesting workspace's snapshot only when it has one, and the target's view only when
it is on one. -/
theorem diffs_noNil (s : SuggestionWorld Tree) (sugg : Suggestion) (original : Workspace)
    (f : SuggestionFaults) : NoNilDereference (s.diffs engine parse sugg original f) := by
  unfold diffs
  refine bind_noNil (wrapErr_noNil _ _) fun suggesting _ => ?_
  split
  · simp [NoNilDereference, pure, Except.pure]
  · refine bind_noNil (markedDiffs_noNil engine parse s sugg _ f) fun _ _ => ?_
    split
    · simp [NoNilDereference, pure, Except.pure]
    · exact wrapErr_noNil _ _

theorem diffsOf_noNil (s : SuggestionWorld Tree) (sugg : Suggestion) (f : SuggestionFaults) :
    NoNilDereference (s.diffsOf engine parse sugg f) := by
  unfold diffsOf
  split
  · simp [NoNilDereference, nilDereference]
  · exact diffs_noNil engine parse s sugg _ f

/-- The patch step of `ApplyHunks` dereferences nil only for a target with neither a view
nor a latest snapshot. -/
theorem applyToTarget_noNil (s : SuggestionWorld Tree) {original : Workspace} (patches : List String)
    (f : SuggestionFaults) (editable : original.viewID = none → original.latestSnapshotID.isSome) :
    NoNilDereference (s.applyToTarget engine original patches f).1 := by
  unfold applyToTarget
  split
  · rename_i noView
    split
    · rename_i noSnapshot
      simp [noView, noSnapshot] at editable
    · repeat' split
      all_goals simp [NoNilDereference, nilDereference]
  · repeat' split
    all_goals simp [NoNilDereference, nilDereference]

/-- Under invariant (a), `ApplyHunks` never dereferences nil, for every suggestion and every
selection of hunks. -/
theorem applyHunks_noNil {s : SuggestionWorld Tree} (editable : s.ViewOrSnapshot) (sugg : Suggestion)
    (hunkIDs : List String) (f : SuggestionFaults) :
    NoNilDereference (s.applyHunks engine parse sugg hunkIDs f).1 := by
  unfold applyHunks
  split
  · simp [NoNilDereference]
  split
  · simp [NoNilDereference, nilDereference]
  rename_i original got
  split
  · rename_i p diffed
    have clean := diffs_noNil engine parse s sugg original f
    rw [diffed] at clean
    simpa [NoNilDereference, Failure.wrap_eq_nilDereference] using clean
  rename_i d _
  dsimp only
  split
  · rename_i p _ applied
    have stored := (getWorkspace_ok got).2.1
    have clean := applyToTarget_noNil engine s ((selectHunks hunkIDs d).map (·.1)) f
      (editable original (List.mem_of_find?_eq_some stored))
    rw [applied] at clean
    exact clean
  split <;> simp [NoNilDereference, nilDereference]

/-- `RemovePatches` dereferences nil only on its snapshot path: the suggesting workspace is
stored with no view and with a latest snapshot, so invariant (a) does not exclude it. -/
theorem removePatches_nilDereference {s : SuggestionWorld Tree} {sugg : Suggestion}
    {patchIDs : List String} {f : SuggestionFaults}
    (panicked : (s.removePatches engine parse sugg patchIDs f).1 = .error nilDereference) :
    ∃ ws, s.getWorkspace f.getWorkspace sugg.workspaceID = .ok ws ∧ ws.viewID = none ∧
      ws.latestSnapshotID.isSome := by
  unfold removePatches at panicked
  split at panicked
  · cases panicked
  split at panicked
  · simp [nilDereference] at panicked
  rename_i ws got
  split at panicked
  · rename_i p diffed
    have clean := diffsOf_noNil engine parse s sugg f
    rw [diffed] at clean
    simp only [Except.error.injEq, Failure.wrap_eq_nilDereference] at panicked
    exact absurd panicked (by simpa [NoNilDereference] using clean)
  split at panicked
  · dsimp only at panicked
    repeat' split at panicked
    all_goals simp [nilDereference] at panicked
  · rename_i noView
    split at panicked
    · simp [nilDereference] at panicked
    · exact ⟨ws, got, noView, by simp [*]⟩

/-- A suggesting workspace with no view and a latest snapshot, and a target on a view, so
invariant (a) holds; the undo of the selected patch succeeds. `RemovePatches` then
dereferences the suggesting workspace's absent `ViewID` for `WithOnView`. -/
theorem removePatches_dereferences_absent_view :
    let sugg : Suggestion := { id := "sugg", workspaceID := "s", forWorkspaceID := "t", forSnapshotID := "base" }
    let s : SuggestionWorld String :=
      { workspaces := ⟨[{ id := "s", latestSnapshotID := some "snap" }, { id := "t", viewID := some "v" }]⟩,
        views := fun _ => "", snapshots := [⟨"snap", "s", ""⟩, ⟨"base", "t", ""⟩], suggestions := [sugg] }
    let engine : PatchEngine String := ⟨fun t _ => .ok t, fun _ _ t => .ok t, fun _ _ => .ok []⟩
    s.ViewOrSnapshot ∧
      (s.removePatches engine (fun _ => .error errNoRows) sugg ["p"] {}).1 = .error nilDereference :=
  ⟨by simp [ViewOrSnapshot], rfl⟩

end SuggestionWorld

end Sturdy
