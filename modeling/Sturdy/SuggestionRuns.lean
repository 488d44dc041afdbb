import Sturdy.SuggestionInvariants

namespace Sturdy

/-- A call of the suggestion service, with the record its handler read before it: the
suggestion it acts on, or the target workspace `Create` forks. -/
inductive SuggestionCall where
  | create (userID : String) (forWorkspace : Workspace) (f : SuggestionFaults)
  | applyHunks (sugg : Suggestion) (hunkIDs : List String) (f : SuggestionFaults)
  | dismissHunks (sugg : Suggestion) (hunkIDs : List String) (f : SuggestionFaults)
  | removePatches (sugg : Suggestion) (patchIDs : List String) (f : SuggestionFaults)
  | dismiss (sugg : Suggestion) (f : SuggestionFaults)
  | recordActivity (workspaceID : String) (f : SuggestionFaults)

namespace SuggestionCall

variable {Tree : Type}

/-- The world after the call. -/
def apply (engine : PatchEngine Tree) (parse : String → Except Err HunkPos) (s : SuggestionWorld Tree) :
    SuggestionCall → SuggestionWorld Tree
  | create userID forWorkspace f => (s.create userID forWorkspace f).2
  | applyHunks sugg hunkIDs f => (s.applyHunks engine parse sugg hunkIDs f).2
  | dismissHunks sugg hunkIDs f => (s.dismissHunks engine parse sugg hunkIDs f).2
  | removePatches sugg patchIDs f => (s.removePatches engine parse sugg patchIDs f).2
  | dismiss sugg f => (s.dismiss sugg f).2
  | recordActivity workspaceID f => (s.recordActivity workspaceID f).2

/-- The handler read the call's record in the world `r`. -/
def ReadIn (r : SuggestionWorld Tree) : SuggestionCall → Prop
  | create _ forWorkspace _ => forWorkspace ∈ r.workspaces.workspaces
  | applyHunks sugg _ _ | dismissHunks sugg _ _ | removePatches sugg _ _ | dismiss sugg _ =>
    sugg ∈ r.suggestions
  | recordActivity _ _ => True

/-- A call whose record was read in a consistent world that the current one grew from keeps
the current world consistent. -/
theorem follows {engine : PatchEngine Tree} {parse : String → Except Err HunkPos} {s r : SuggestionWorld Tree}
    (c : SuggestionCall) (consistent : s.Consistent) (earlier : r.Consistent) (grows : r.Grows s)
    (copied : c.ReadIn r) : s.Follows (c.apply engine parse s) := by
  cases c with
  | create userID forWorkspace f =>
    exact .create consistent (grows.workspaceIDs.subset (List.mem_map_of_mem _ copied))
      ((earlier.workspaces _ copied).mono grows) userID f
  | applyHunks sugg hunkIDs f =>
    exact .applyHunks consistent ((earlier.suggestions _ copied).mono grows) hunkIDs f
  | dismissHunks sugg hunkIDs f =>
    exact .dismissHunks consistent ((earlier.suggestions _ copied).mono grows) hunkIDs f
  | removePatches sugg patchIDs f => exact .removePatches consistent patchIDs f
  | dismiss sugg f => exact .dismiss consistent ((earlier.suggestions _ copied).mono grows) f
  | recordActivity workspaceID f => exact .recordActivity consistent workspaceID f

end SuggestionCall

/-- The worlds a run of the suggestion service passes through, the latest first. Each call's
handler read its record in one of the worlds before the call, so calls overlap: the copy a
call writes back may be stale. -/
inductive SuggestionRun {Tree : Type} (engine : PatchEngine Tree) (parse : String → Except Err HunkPos)
    (s₀ : SuggestionWorld Tree) : List (SuggestionWorld Tree) → Prop
  | start : SuggestionRun engine parse s₀ [s₀]
  | call {s r : SuggestionWorld Tree} {past : List (SuggestionWorld Tree)} (c : SuggestionCall)
      (run : SuggestionRun engine parse s₀ (s :: past)) (read : r ∈ s :: past) (copied : c.ReadIn r) :
      SuggestionRun engine parse s₀ (c.apply engine parse s :: s :: past)

/-- The collaborators `Diffs` calls answer: no store read fails, and the outdated check on a
view runs. -/
structure SuggestionFaults.DiffsAnswer (f : SuggestionFaults) : Prop where
  original : f.getOriginal = none
  suggesting : f.getSuggesting = none
  suggestingSnapshot : f.getSuggestingSnapshot = none
  baseSnapshot : f.getBaseSnapshot = none
  viewExec : f.viewExec = none
  canApply : f.canApply = none

theorem Memory.lookup_of_mem {m : Memory} {id : String} (member : id ∈ m.workspaces.map (·.id)) :
    ∃ ws ∈ m.workspaces, m.lookup id = some ws := by
  obtain ⟨ws, stored, rfl⟩ := List.mem_map.mp member
  have some : (m.lookup ws.id).isSome := List.find?_isSome.mpr ⟨ws, stored, by simp⟩
  obtain ⟨found, hfound⟩ := Option.isSome_iff_exists.mp some
  exact ⟨found, List.mem_of_find?_eq_some hfound, hfound⟩

namespace SuggestionWorld

variable {Tree : Type} (engine : PatchEngine Tree)

theorem find?_snapshot_of_mem {s : SuggestionWorld Tree} {id : String} (member : id ∈ s.snapshots.map (·.id)) :
    ∃ snap, s.snapshots.find? (·.id == id) = some snap := by
  obtain ⟨snap, stored, rfl⟩ := List.mem_map.mp member
  have some : (s.snapshots.find? (·.id == snap.id)).isSome := List.find?_isSome.mpr ⟨snap, stored, by simp⟩
  exact Option.isSome_iff_exists.mp some

/-- In a consistent world, `Diffs` of a sound suggestion with collaborators that answer
returns its diffs, or the error of the VCS diff of its two snapshots. -/
theorem SoundSuggestion.diffsOf {s : SuggestionWorld Tree} {sugg : Suggestion} (consistent : s.Consistent)
    (sound : s.SoundSuggestion sugg) {f : SuggestionFaults} (answers : f.DiffsAnswer) :
    (∃ d, s.diffsOf engine parseAppliedHunkID sugg f = .ok d) ∨
      ∃ base suggesting e, engine.diffTrees base suggesting = .error e ∧
        s.diffsOf engine parseAppliedHunkID sugg f = .error (.error (e.wrap "failed to schedule repo on trunk")) := by
  obtain ⟨original, -, foundOriginal⟩ := Memory.lookup_of_mem sound.target
  obtain ⟨suggesting, stored, foundSuggesting⟩ := Memory.lookup_of_mem sound.suggesting
  have getSuggesting : s.getWorkspace f.getSuggesting sugg.workspaceID = .ok suggesting := by
    simp [getWorkspace, fetch, answers.suggesting, foundSuggesting]
  have viaDiffs : s.diffsOf engine parseAppliedHunkID sugg f = s.diffs engine parseAppliedHunkID sugg original f := by
    simp [SuggestionWorld.diffsOf, getWorkspace, fetch, answers.original, foundOriginal]
  rw [viaDiffs]
  cases latest : suggesting.latestSnapshotID with
  | none => exact .inl ⟨[], by simp [diffs, getSuggesting, latest, wrapErr, Except.mapError, bind, Except.bind]; rfl⟩
  | some latestID =>
    obtain ⟨suggestingSnapshot, foundLatest⟩ :=
      find?_snapshot_of_mem ((consistent.workspaces _ stored).latest latestID latest)
    obtain ⟨baseSnapshot, foundBase⟩ := find?_snapshot_of_mem sound.base
    have getLatest : s.getSnapshot f.getSuggestingSnapshot latestID = .ok suggestingSnapshot := by
      simp [getSnapshot, fetch, answers.suggestingSnapshot, foundLatest]
    have getBase : s.getSnapshot f.getBaseSnapshot sugg.forSnapshotID = .ok baseSnapshot := by
      simp [getSnapshot, fetch, answers.baseSnapshot, foundBase]
    cases computed : engine.diffTrees baseSnapshot.tree suggestingSnapshot.tree with
    | ok D =>
      obtain ⟨applied, parsedApplied, nonnegApplied⟩ := sound.applied.parse
      obtain ⟨dismissed, parsedDismissed, nonnegDismissed⟩ := sound.dismissed.parse
      obtain ⟨d, diffed, -⟩ := diffs_of_reads
        ⟨suggesting, latestID, suggestingSnapshot, baseSnapshot, getSuggesting, latest, getLatest, getBase, computed⟩
        (.inr ⟨answers.viewExec, answers.canApply⟩) parsedApplied parsedDismissed
        fun p member => (List.mem_append.mp member).elim (nonnegApplied p) (nonnegDismissed p)
      exact .inl ⟨d, diffed⟩
    | error e =>
      refine .inr ⟨_, _, e, computed, ?_⟩
      simp [diffs, markedDiffs, getSuggesting, latest, getLatest, getBase, computed, wrapErr, Except.mapError,
        bind, Except.bind]

end SuggestionWorld

namespace SuggestionRun

variable {Tree : Type} {engine : PatchEngine Tree} {parse : String → Except Err HunkPos}
  {s₀ : SuggestionWorld Tree}

theorem grows_latest {s r : SuggestionWorld Tree} {past : List (SuggestionWorld Tree)}
    (grows : (s :: past).Pairwise fun later earlier => earlier.Grows later) (read : r ∈ s :: past) : r.Grows s := by
  rcases List.mem_cons.mp read with rfl | older
  · exact .refl r
  · exact (List.pairwise_cons.mp grows).1 r older

/-- Every world of a run from a consistent world is consistent, and keeps what every earlier
world stored. -/
theorem follows {history : List (SuggestionWorld Tree)} (run : SuggestionRun engine parse s₀ history)
    (init : s₀.Consistent) :
    (∀ s ∈ history, s.Consistent) ∧ history.Pairwise fun later earlier => earlier.Grows later := by
  induction run with
  | start => exact ⟨fun s member => List.mem_singleton.mp member ▸ init, List.pairwise_singleton _ _⟩
  | @call s r past c _ read copied ih =>
    obtain ⟨consistent, grows⟩ := ih
    have step : s.Follows (c.apply engine parse s) :=
      c.follows (consistent s (List.mem_cons_self _ _)) (consistent r read) (grows_latest grows read) copied
    refine ⟨fun w member => ?_, List.pairwise_cons.mpr ⟨fun w member => (grows_latest grows member).trans step.grows, grows⟩⟩
    rcases List.mem_cons.mp member with rfl | older
    · exact step.consistent
    · exact consistent w older

/-- One `Create` forking a stored workspace on a view, from a consistent world. -/
theorem create_run_from_consistent :
    let target : Workspace := { id := "t", viewID := some "v", latestSnapshotID := some "base" }
    let s₀ : SuggestionWorld String :=
      { workspaces := ⟨[target]⟩, views := fun _ => "", snapshots := [⟨"base", "t", ""⟩], suggestions := [] }
    let engine : PatchEngine String := ⟨fun t _ => .ok t, fun _ _ t => .ok t, fun _ _ => .ok []⟩
    SuggestionRun engine parseAppliedHunkID s₀
        [(SuggestionCall.create "u" target {}).apply engine parseAppliedHunkID s₀, s₀] ∧ s₀.Consistent :=
  ⟨.call _ .start (List.mem_singleton_self _) (List.mem_singleton_self _), fun ws member => by
    cases List.mem_singleton.mp member; exact ⟨fun id named => by cases named; simp, nofun⟩, nofun⟩

/-- Every world of a run of the suggestion service from a world whose records are consistent
is consistent, whatever the overlap of the calls and however stale the copies they write
back: every workspace's latest snapshot is null or stored, every suggestion's workspaces and
base snapshot are stored and its ledgers parse, and every workspace without a view has a
latest snapshot. -/
theorem records_stay_consistent {history : List (SuggestionWorld Tree)}
    (run : SuggestionRun engine parse s₀ history) (init : s₀.Consistent) : ∀ s ∈ history, s.Consistent :=
  (run.follows init).1

/-- A `Create` forking a stored workspace on a view: both worlds of the run are consistent. -/
theorem create_keeps_records_consistent :
    let target : Workspace := { id := "t", viewID := some "v", latestSnapshotID := some "base" }
    let s₀ : SuggestionWorld String :=
      { workspaces := ⟨[target]⟩, views := fun _ => "", snapshots := [⟨"base", "t", ""⟩], suggestions := [] }
    let engine : PatchEngine String := ⟨fun t _ => .ok t, fun _ _ t => .ok t, fun _ _ => .ok []⟩
    let s₁ := (SuggestionCall.create "u" target {}).apply engine parseAppliedHunkID s₀
    SuggestionRun engine parseAppliedHunkID s₀ [s₁, s₀] ∧ s₀.Consistent ∧ ∀ s ∈ [s₁, s₀], s.Consistent := by
  intro target s₀ engine s₁
  obtain ⟨run, init⟩ := create_run_from_consistent
  exact ⟨run, init, records_stay_consistent run init⟩

/-- No call of a run from a consistent world deletes a record: each world keeps every
snapshot of every earlier world, unchanged and in order, and the ids of its workspace and
suggestion records. -/
theorem records_never_lost {history : List (SuggestionWorld Tree)} (run : SuggestionRun engine parse s₀ history)
    (init : s₀.Consistent) : history.Pairwise fun later earlier => earlier.Grows later :=
  (run.follows init).2

theorem create_keeps_earlier_records :
    let target : Workspace := { id := "t", viewID := some "v", latestSnapshotID := some "base" }
    let s₀ : SuggestionWorld String :=
      { workspaces := ⟨[target]⟩, views := fun _ => "", snapshots := [⟨"base", "t", ""⟩], suggestions := [] }
    let engine : PatchEngine String := ⟨fun t _ => .ok t, fun _ _ t => .ok t, fun _ _ => .ok []⟩
    let s₁ := (SuggestionCall.create "u" target {}).apply engine parseAppliedHunkID s₀
    SuggestionRun engine parseAppliedHunkID s₀ [s₁, s₀] ∧ s₀.Consistent ∧
      [s₁, s₀].Pairwise fun later earlier => earlier.Grows later := by
  intro target s₀ engine s₁
  obtain ⟨run, init⟩ := create_run_from_consistent
  exact ⟨run, init, records_never_lost run init⟩

/-- At every point of a run from a consistent world, `Diffs` of a suggestion its handler read
at that point or any earlier one, with collaborators that answer, returns the suggestion's
diffs or the error of the VCS diff of its two snapshots: never a missing record, an
unparsable ledger entry or a panic. -/
theorem diffs_fail_only_in_vcs {s r : SuggestionWorld Tree} {past : List (SuggestionWorld Tree)}
    (run : SuggestionRun engine parse s₀ (s :: past)) (init : s₀.Consistent) (read : r ∈ s :: past)
    {sugg : Suggestion} (stored : sugg ∈ r.suggestions) {f : SuggestionFaults} (answers : f.DiffsAnswer) :
    (∃ d, s.diffsOf engine parseAppliedHunkID sugg f = .ok d) ∨
      ∃ base suggesting e, engine.diffTrees base suggesting = .error e ∧
        s.diffsOf engine parseAppliedHunkID sugg f = .error (.error (e.wrap "failed to schedule repo on trunk")) := by
  obtain ⟨consistent, grows⟩ := run.follows init
  exact SuggestionWorld.SoundSuggestion.diffsOf engine (consistent s (List.mem_cons_self _ _))
    (((consistent r read).suggestions sugg stored).mono (grows_latest grows read)) answers

/-- `Diffs` of the suggestion a `Create` stored, in the world after it. -/
theorem created_suggestion_has_diffs :
    let target : Workspace := { id := "t", viewID := some "v", latestSnapshotID := some "base" }
    let s₀ : SuggestionWorld String :=
      { workspaces := ⟨[target]⟩, views := fun _ => "", snapshots := [⟨"base", "t", ""⟩], suggestions := [] }
    let engine : PatchEngine String := ⟨fun t _ => .ok t, fun _ _ t => .ok t, fun _ _ => .ok []⟩
    let s₁ := (SuggestionCall.create "u" target {}).apply engine parseAppliedHunkID s₀
    let sugg : Suggestion :=
      { id := "suggestion", workspaceID := "suggesting", forSnapshotID := "base", forWorkspaceID := "t", userID := "u" }
    SuggestionRun engine parseAppliedHunkID s₀ [s₁, s₀] ∧ s₀.Consistent ∧ sugg ∈ s₁.suggestions ∧
      ((∃ d, s₁.diffsOf engine parseAppliedHunkID sugg {} = .ok d) ∨
        ∃ base suggesting e, engine.diffTrees base suggesting = .error e ∧
          s₁.diffsOf engine parseAppliedHunkID sugg {} = .error (.error (e.wrap "failed to schedule repo on trunk"))) := by
  intro target s₀ engine s₁ sugg
  obtain ⟨run, init⟩ := create_run_from_consistent
  have stored : sugg ∈ s₁.suggestions := by decide
  exact ⟨run, init, stored,
    diffs_fail_only_in_vcs run init (List.mem_cons_self _ _) stored ⟨rfl, rfl, rfl, rfl, rfl, rfl⟩⟩

/-- At every point of a run from a consistent world, `ApplyHunks` never dereferences nil, for
every suggestion and every selection of hunks: no call breaks invariant (a). -/
theorem applyHunks_never_dereferences_nil {history : List (SuggestionWorld Tree)}
    (run : SuggestionRun engine parse s₀ history) (init : s₀.Consistent) {s : SuggestionWorld Tree}
    (world : s ∈ history) (sugg : Suggestion) (hunkIDs : List String) (f : SuggestionFaults) :
    NoNilDereference (s.applyHunks engine parse sugg hunkIDs f).1 :=
  SuggestionWorld.applyHunks_noNil engine parse ((run.follows init).1 s world).viewOrSnapshot sugg hunkIDs f

theorem applyHunks_after_create_dereferences_no_nil :
    let target : Workspace := { id := "t", viewID := some "v", latestSnapshotID := some "base" }
    let s₀ : SuggestionWorld String :=
      { workspaces := ⟨[target]⟩, views := fun _ => "", snapshots := [⟨"base", "t", ""⟩], suggestions := [] }
    let engine : PatchEngine String := ⟨fun t _ => .ok t, fun _ _ t => .ok t, fun _ _ => .ok []⟩
    let s₁ := (SuggestionCall.create "u" target {}).apply engine parseAppliedHunkID s₀
    SuggestionRun engine parseAppliedHunkID s₀ [s₁, s₀] ∧ s₀.Consistent ∧
      ∀ sugg hunkIDs f, NoNilDereference (s₁.applyHunks engine parseAppliedHunkID sugg hunkIDs f).1 := by
  intro target s₀ engine s₁
  obtain ⟨run, init⟩ := create_run_from_consistent
  exact ⟨run, init, applyHunks_never_dereferences_nil run init (List.mem_cons_self _ _)⟩

end SuggestionRun

end Sturdy
