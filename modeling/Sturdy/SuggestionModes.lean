import Sturdy.SuggestionSpec

namespace Sturdy

/-- The file with its outdated marks cleared. -/
def FileDiff.clearOutdated (fd : FileDiff) : FileDiff :=
  { fd with hunks := fd.hunks.map fun h => { h with isOutdated := false } }

theorem FileDiff.clearOutdated_of_noOutdated {fd : FileDiff} (clean : fd.NoOutdated) :
    fd.clearOutdated = fd := by
  obtain ⟨name, hunks⟩ := fd
  simp only [FileDiff.clearOutdated, FileDiff.mk.injEq, true_and]
  conv => rhs; rw [← List.map_id hunks]
  exact List.map_congr_left fun h member => by
    obtain ⟨_, _, _, _, outdated⟩ := h
    cases (clean _ member : outdated = false)
    rfl

theorem mapM_ok_map_eq {ε α β γ : Type} {f : α → Except ε β} {φ : β → γ} {ψ : α → γ}
    (each : ∀ a b, f a = .ok b → φ b = ψ a) :
    ∀ {l : List α} {l' : List β}, l.mapM f = .ok l' → l'.map φ = l.map ψ
  | [], l', mapped => by rw [List.mapM_nil] at mapped; cases mapped; rfl
  | a :: l, l', mapped => by
    rw [List.mapM_cons] at mapped
    obtain ⟨b, first, later⟩ := bind_eq_ok.mp mapped
    obtain ⟨rest, restOk, done⟩ := bind_eq_ok.mp later
    cases done
    simp only [List.map_cons, each a b first, mapM_ok_map_eq each restOk]

section

variable {Tree : Type} {engine : PatchEngine Tree} {parse : String → Except Err HunkPos}

theorem markOutdatedHunk_none (t : Tree) (h : Hunk) :
    markOutdatedHunk engine t none h = .ok (if h.isApplied || h.isDismissed then h
      else if engine.canApplyPatch t h.patch then h else { h with isOutdated := true }) := by
  unfold markOutdatedHunk
  split <;> rfl

/-- The outdated marks change nothing but the outdated flags. -/
theorem markOutdated_clear {t : Tree} {fault : Option Err} {d d' : List FileDiff}
    (marked : markOutdated engine t fault d = .ok d') :
    d'.map FileDiff.clearOutdated = d.map FileDiff.clearOutdated :=
  mapM_ok_map_eq (fun fd fd' ok => by
    obtain ⟨hunks, mapped, done⟩ := bind_eq_ok.mp ok
    cases done
    simp only [FileDiff.clearOutdated, FileDiff.mk.injEq, true_and]
    exact mapM_ok_map_eq (fun h h' ok => (markOutdatedHunk_ok ok).1) mapped) marked

/-- When `CanApplyPatch` does not fail, the outdated marks succeed. -/
theorem markOutdated_none_ok (t : Tree) (d : List FileDiff) :
    ∃ d', markOutdated engine t none d = .ok d' :=
  ⟨d.map fun fd => { fd with hunks := fd.hunks.map fun h => if h.isApplied || h.isDismissed then h
      else if engine.canApplyPatch t h.patch then h else { h with isOutdated := true } },
    mapM_ok_map fun fd _ => by
      show (fd.hunks.mapM (markOutdatedHunk engine t none) >>= fun hunks => pure { fd with hunks }) = _
      rw [mapM_ok_map fun h _ => markOutdatedHunk_none t h]
      rfl⟩

namespace SuggestionWorld

/-- `diffs` marks a hunk outdated exactly when the target is on a view, the hunk is neither
applied nor dismissed, and its patch does not apply to the view's tree. -/
theorem diffs_outdated_iff {s : SuggestionWorld Tree} {sugg : Suggestion} {original : Workspace}
    {f : SuggestionFaults} {d : List FileDiff}
    (diffed : s.diffs engine parse sugg original f = .ok d) :
    ∀ fd ∈ d, ∀ h ∈ fd.hunks, h.isOutdated = true ↔ ∃ v, original.viewID = some v ∧
      h.isApplied = false ∧ h.isDismissed = false ∧ engine.canApplyPatch (s.views v) h.patch = false := by
  obtain ⟨suggesting, -, rest⟩ := bind_eq_ok.mp diffed
  split at rest
  · cases rest; intro fd member; cases member
  obtain ⟨marked, markedOk, final⟩ := bind_eq_ok.mp rest
  have clean := markedDiffs_noOutdated markedOk
  split at final
  · rename_i noView
    cases final
    intro fd member h inFd
    simp [clean fd member h inFd, noView]
  · rename_i v view
    rw [wrapErr_ok] at final
    unfold outdatedOnView at final
    split at final
    · cases final
    intro fd' member h' inFd'
    obtain ⟨fd, inMarked, -, hunks⟩ := markOutdated_ok final fd' member
    obtain ⟨h, inFd, ok⟩ := hunks h' inFd'
    obtain ⟨same, outdated⟩ := markOutdatedHunk_ok ok
    obtain ⟨-, patch, applied, dismissed, -⟩ := Hunk.mk.inj same
    rw [outdated, clean fd inMarked h inFd, applied, dismissed, patch]
    simp [view]

/-- Snapshot-only mode returns what view mode returns with its outdated marks cleared. -/
theorem diffs_snapshot_mode {s : SuggestionWorld Tree} {sugg : Suggestion} {original : Workspace}
    {f : SuggestionFaults} (checks : f.canApply = none) (opens : f.viewExec = none) :
    s.diffs engine parse sugg { original with viewID := none } f =
      (s.diffs engine parse sugg original f).map (List.map FileDiff.clearOutdated) := by
  unfold diffs
  cases wrapErr "failed to get suggesting workspace" (s.getWorkspace f.getSuggesting sugg.workspaceID) with
  | error e => rfl
  | ok suggesting =>
    dsimp only [bind, Except.bind]
    cases suggesting.latestSnapshotID with
    | none => rfl
    | some latest =>
      dsimp only
      cases marked : s.markedDiffs engine parse sugg latest f with
      | error p => rfl
      | ok d =>
        have clean : d.map FileDiff.clearOutdated = d := by
          conv => rhs; rw [← List.map_id d]
          exact List.map_congr_left fun fd member =>
            FileDiff.clearOutdated_of_noOutdated (markedDiffs_noOutdated marked fd member)
        dsimp only
        cases original.viewID with
        | none => simp only [pure, Except.pure, Except.map, clean]
        | some v =>
          obtain ⟨d', outdated⟩ := @markOutdated_none_ok Tree engine (s.views v) d
          simp only [outdatedOnView, opens, checks, outdated, wrapErr, Except.mapError, Except.map,
            markOutdated_clear outdated, clean, pure, Except.pure]

end SuggestionWorld

/-- For every suggestion and every target, the target on a view and the target holding only
a latest snapshot agree: `diffs` differs only in the outdated marks, which it sets on a
view exactly for the hunks neither applied nor dismissed whose patch does not apply to the
view's tree, and never in snapshot-only mode; and a successful `ApplyHunks` leaves the
target's content, in either mode, its old content with the selected patches applied. -/
theorem target_modes_agree (s : SuggestionWorld Tree) (sugg : Suggestion) (original : Workspace)
    (hunkIDs : List String) (f : SuggestionFaults) :
    (∀ d, s.diffs engine parse sugg original f = .ok d → ∀ fd ∈ d, ∀ h ∈ fd.hunks,
      (h.isOutdated = true ↔ ∃ v, original.viewID = some v ∧ h.isApplied = false ∧
        h.isDismissed = false ∧ engine.canApplyPatch (s.views v) h.patch = false)) ∧
    (f.canApply = none → f.viewExec = none →
      s.diffs engine parse sugg { original with viewID := none } f =
        (s.diffs engine parse sugg original f).map (List.map FileDiff.clearOutdated)) ∧
    ((∀ snap ∈ s.snapshots, snap.id ≠ f.newSnapshotID) → hunkIDs ≠ [] →
      (s.applyHunks engine parse sugg hunkIDs f).1 = .ok () →
      ∃ target d C C', s.workspaces.lookup sugg.forWorkspaceID = some target ∧
        s.diffs engine parse sugg target f = .ok d ∧ s.content target = some C ∧
        engine.applyPatches ((selectHunks hunkIDs d).map (·.1)) C = .ok C' ∧
        (s.applyHunks engine parse sugg hunkIDs f).2.contentOf target.id = some C') :=
  ⟨fun _ diffed => SuggestionWorld.diffs_outdated_iff diffed,
    fun checks opens => SuggestionWorld.diffs_snapshot_mode checks opens,
    fun fresh selected ok => by
      obtain ⟨target, d, C, C', found, diffed, content, applied, after, -⟩ :=
        SuggestionWorld.applyHunks_ok fresh selected ok
      exact ⟨target, d, C, C', found, diffed, content, applied, after⟩⟩

end

theorem target_modes_agree_apply_on_view :
    let engine : PatchEngine Nat :=
      { applyPatch := fun t _ => if t = 0 then .error (Err.new "conflict") else .ok (t + 1)
        removeWithPatches := fun _ _ t => .ok t
        diffTrees := fun _ _ => .ok [⟨"a.txt", [("h", "+b")]⟩] }
    let parse : String → Except Err HunkPos := fun _ => .error (Err.new "unparsed")
    let sugg : Suggestion :=
      { id := "s", workspaceID := "suggesting", forWorkspaceID := "target", forSnapshotID := "base" }
    let s : SuggestionWorld Nat :=
      { workspaces := ⟨[{ id := "target", viewID := some "v", latestSnapshotID := some "base" },
                        { id := "suggesting", latestSnapshotID := some "head" }]⟩
        views := fun _ => 1
        snapshots := [⟨"base", "target", 1⟩, ⟨"head", "suggesting", 2⟩]
        suggestions := [sugg] }
    ∃ target d C C', s.workspaces.lookup sugg.forWorkspaceID = some target ∧
      s.diffs engine parse sugg target {} = .ok d ∧ s.content target = some C ∧
      engine.applyPatches ((selectHunks ["h"] d).map (·.1)) C = .ok C' ∧
      (s.applyHunks engine parse sugg ["h"] {}).2.contentOf target.id = some C' := by
  intro engine parse sugg s
  exact (@target_modes_agree Nat engine parse s sugg { id := "target" } ["h"] {}).2.2
    (by decide) (by decide) rfl

/-- A hunk whose patch does not apply to the target's content is marked outdated when the
target is on a view, and not when the same content is only its latest snapshot. -/
theorem snapshot_mode_misses_outdated_hunk :
    let engine : PatchEngine Nat :=
      { applyPatch := fun t _ => if t = 0 then .error (Err.new "conflict") else .ok (t + 1)
        removeWithPatches := fun _ _ t => .ok t
        diffTrees := fun _ _ => .ok [⟨"a.txt", [("h", "+b")]⟩] }
    let parse : String → Except Err HunkPos := fun _ => .error (Err.new "unparsed")
    let sugg : Suggestion :=
      { id := "s", workspaceID := "suggesting", forWorkspaceID := "target", forSnapshotID := "base" }
    let onView : Workspace := { id := "target", viewID := some "v", latestSnapshotID := some "base" }
    let s : SuggestionWorld Nat :=
      { workspaces := ⟨[onView, { id := "suggesting", latestSnapshotID := some "head" }]⟩
        views := fun _ => 0
        snapshots := [⟨"base", "target", 0⟩, ⟨"head", "suggesting", 1⟩]
        suggestions := [sugg] }
    s.content onView = some 0 ∧ s.content { onView with viewID := none } = some 0 ∧
      engine.canApplyPatch 0 "+b" = false ∧
      ((s.diffs engine parse sugg onView {}).map (·.map (·.hunks.map (·.isOutdated)))).toOption =
        some [[true]] ∧
      ((s.diffs engine parse sugg { onView with viewID := none } {}).map
        (·.map (·.hunks.map (·.isOutdated)))).toOption = some [[false]] := by
  decide

end Sturdy
