import Sturdy.HunkLedger

namespace Sturdy

/-- A call of a ledger writer, with the faults its collaborators meet. -/
inductive LedgerCall where
  | applyHunks (hunkIDs : List String) (f : SuggestionFaults)
  | dismissHunks (hunkIDs : List String) (f : SuggestionFaults)

namespace LedgerCall

def faults : LedgerCall → SuggestionFaults
  | .applyHunks _ f => f
  | .dismissHunks _ f => f

/-- The ids the call passes to `ApplyHunks`. -/
def appliedIDs : LedgerCall → List String
  | .applyHunks hunkIDs _ => hunkIDs
  | .dismissHunks _ _ => []

/-- The ids the call passes to `DismissHunks`. -/
def dismissedIDs : LedgerCall → List String
  | .applyHunks _ _ => []
  | .dismissHunks hunkIDs _ => hunkIDs

/-- The call on the world `s`, with the suggestion `sugg` its handler read. -/
def run {Tree : Type} (engine : PatchEngine Tree) (parse : String → Except Err HunkPos)
    (s : SuggestionWorld Tree) (sugg : Suggestion) :
    LedgerCall → Except Failure Unit × SuggestionWorld Tree
  | .applyHunks hunkIDs f => s.applyHunks engine parse sugg hunkIDs f
  | .dismissHunks hunkIDs f => s.dismissHunks engine parse sugg hunkIDs f

end LedgerCall

/-- The ledger positions written by calls made while the diff has the files of `D`, for the
ids `ids` picks of each call. -/
def ledgerPositions (D : List RawFileDiff) (ids : LedgerCall → List String) (calls : List LedgerCall) :
    List HunkPos :=
  calls.flatMap fun call => selectedPositions (ids call) (D.map RawFileDiff.shape)

theorem mem_ledgerPositions {D : List RawFileDiff} {ids : LedgerCall → List String}
    {calls : List LedgerCall} {pos : HunkPos} :
    pos ∈ ledgerPositions D ids calls ↔
      pos ∈ selectedPositions (calls.flatMap ids) (D.map RawFileDiff.shape) := by
  simp only [ledgerPositions, List.mem_flatMap, mem_selectedPositions]
  constructor
  · rintro ⟨call, inCalls, name, ids', shaped, j, ⟨hid, at_j, passed⟩, rfl⟩
    exact ⟨name, ids', shaped, j, ⟨hid, at_j, call, inCalls, passed⟩, rfl⟩
  · rintro ⟨name, ids', shaped, j, ⟨hid, at_j, call, inCalls, passed⟩, rfl⟩
    exact ⟨call, inCalls, name, ids', shaped, j, ⟨hid, at_j, passed⟩, rfl⟩

/-- A write of a record over the rows with its id: a later read by that id finds the record. -/
theorem find?_replace {l : List Suggestion} {id : String} {sugg sugg' : Suggestion}
    (stored : l.find? (·.id == id) = some sugg) (sameID : sugg'.id = sugg.id) :
    (l.map fun x => if x.id = sugg.id then sugg' else x).find? (·.id == id) = some sugg' := by
  induction l with
  | nil => cases stored
  | cons x l ih =>
    by_cases here : x.id = id
    · have same : x = sugg := by simpa [List.find?_cons, here] using stored
      subst same
      simp [List.find?_cons, here, sameID]
    · have later : l.find? (·.id == id) = some sugg := by simpa [List.find?_cons, here] using stored
      have other : x.id ≠ sugg.id := by
        rw [show sugg.id = id by simpa using List.find?_some later]
        exact here
      simp [List.find?_cons, other, here, ih later]

namespace SuggestionWorld

variable {Tree : Type} {engine : PatchEngine Tree} {parse : String → Except Err HunkPos}

section Calls

variable {s : SuggestionWorld Tree} {sugg : Suggestion} {id : String} {hunkIDs : List String}
  {f : SuggestionFaults} {S : List (String × List String)}

/-- A successful `ApplyHunks` on the stored suggestion, whose diffs have the shapes `S`,
stores it with the entries of the selected positions after `AppliedHunks`. -/
theorem applyHunks_stored (stored : s.suggestions.find? (·.id == id) = some sugg)
    (onS : ∀ target d, s.getWorkspace f.getOriginal sugg.forWorkspaceID = .ok target →
      s.diffs engine parse sugg target f = .ok d → d.map FileDiff.shape = S)
    (ok : (s.applyHunks engine parse sugg hunkIDs f).1 = .ok ()) :
    (s.applyHunks engine parse sugg hunkIDs f).2.suggestions.find? (·.id == id) =
      some (sugg.appendApplied ((selectedPositions hunkIDs S).map HunkPos.toEntry)) := by
  rcases applyHunks_cases s sugg hunkIDs f with ⟨same, empty⟩ |
    ⟨target, d, got, diffed, ⟨_, -, failed⟩ | ⟨patched, applied, ⟨e, -, run⟩ | run⟩⟩
  · cases empty ok
    simpa [same] using stored
  · rw [failed] at ok; cases ok
  · rw [run] at ok; cases ok
  · rw [run, storeApplied, ← onS target d got diffed, ← selectHunks_entries,
      show patched.suggestions = s.suggestions by
        rw [← (applyToTarget_frame s target _ f).1, applied]]
    exact find?_replace stored rfl

/-- A successful `DismissHunks` on the stored suggestion, whose diffs have the shapes `S`,
stores it with the entries of the selected positions after `DismissedHunks`. -/
theorem dismissHunks_stored (stored : s.suggestions.find? (·.id == id) = some sugg)
    (onS : ∀ target d, s.getWorkspace f.getOriginal sugg.forWorkspaceID = .ok target →
      s.diffs engine parse sugg target f = .ok d → d.map FileDiff.shape = S)
    (ok : (s.dismissHunks engine parse sugg hunkIDs f).1 = .ok ()) :
    (s.dismissHunks engine parse sugg hunkIDs f).2.suggestions.find? (·.id == id) =
      some (sugg.appendDismissed ((selectedPositions hunkIDs S).map HunkPos.toEntry)) := by
  unfold dismissHunks at ok ⊢
  split
  · rename_i empty
    cases List.isEmpty_iff.mp empty
    simpa using stored
  rename_i notEmpty
  rw [if_neg notEmpty] at ok
  split at ok
  · cases ok
  rename_i target got
  split at ok
  · cases ok
  rename_i d diffed
  split at ok
  · cases ok
  rename_i updated written
  simp only [update] at written
  split at written
  · cases written
  cases written
  rw [Suggestion.appendDismissed_id, ← onS target d got diffed, ← selectHunks_entries]
  exact find?_replace stored rfl

end Calls

/-- The stored suggestion after each call of a ledger writer: the entries of the positions
the call selects are after its ledgers. -/
theorem LedgerCall.run_stored {s : SuggestionWorld Tree} {sugg : Suggestion} {id : String}
    {S : List (String × List String)} {call : LedgerCall}
    (stored : s.suggestions.find? (·.id == id) = some sugg)
    (onS : ∀ target d, s.getWorkspace call.faults.getOriginal sugg.forWorkspaceID = .ok target →
      s.diffs engine parse sugg target call.faults = .ok d → d.map FileDiff.shape = S)
    (ok : (call.run engine parse s sugg).1 = .ok ()) :
    (call.run engine parse s sugg).2.suggestions.find? (·.id == id) =
      some ((sugg.appendApplied ((selectedPositions call.appliedIDs S).map HunkPos.toEntry)).appendDismissed
        ((selectedPositions call.dismissedIDs S).map HunkPos.toEntry)) := by
  cases call <;>
    simp only [LedgerCall.run, LedgerCall.faults, LedgerCall.appliedIDs, LedgerCall.dismissedIDs,
      selectedPositions_nil_ids, List.map_nil, Suggestion.appendApplied_nil, Suggestion.appendDismissed_nil]
      at ok onS ⊢
  · exact applyHunks_stored stored onS ok
  · exact dismissHunks_stored stored onS ok

end SuggestionWorld

/-- Successful calls of the ledger writers on the stored suggestion with id `id`, each made
while the suggestion's diff has the files and hunk ids of `D`. -/
inductive LedgerRun {Tree : Type} (engine : PatchEngine Tree) (D : List RawFileDiff) (id : String) :
    SuggestionWorld Tree → List LedgerCall → SuggestionWorld Tree → Prop
  | nil (s : SuggestionWorld Tree) : LedgerRun engine D id s [] s
  | cons {s s' : SuggestionWorld Tree} {sugg : Suggestion} {call : LedgerCall} {calls : List LedgerCall}
      (stored : s.suggestions.find? (·.id == id) = some sugg)
      (onD : ∀ target d, s.getWorkspace call.faults.getOriginal sugg.forWorkspaceID = .ok target →
        s.diffs engine parseAppliedHunkID sugg target call.faults = .ok d →
          d.map FileDiff.shape = D.map RawFileDiff.shape)
      (succeeded : (call.run engine parseAppliedHunkID s sugg).1 = .ok ())
      (rest : LedgerRun engine D id (call.run engine parseAppliedHunkID s sugg).2 calls s') :
      LedgerRun engine D id s (call :: calls) s'

namespace LedgerRun

variable {Tree : Type} {engine : PatchEngine Tree} {D : List RawFileDiff} {id : String}

/-- After a run, the stored suggestion's ledgers are its ledgers before the run followed by
the entries of the positions each call selected, in call order. -/
theorem stored_ledgers {s s' : SuggestionWorld Tree} {calls : List LedgerCall}
    (run : LedgerRun engine D id s calls s') {sugg : Suggestion}
    (stored : s.suggestions.find? (·.id == id) = some sugg) :
    ∃ sugg', s'.suggestions.find? (·.id == id) = some sugg' ∧
      sugg'.appliedHunks =
        sugg.appliedHunks ++ (ledgerPositions D LedgerCall.appliedIDs calls).map HunkPos.toEntry ∧
      sugg'.dismissedHunks =
        sugg.dismissedHunks ++ (ledgerPositions D LedgerCall.dismissedIDs calls).map HunkPos.toEntry := by
  induction run generalizing sugg with
  | nil s => exact ⟨sugg, stored, by simp [ledgerPositions], by simp [ledgerPositions]⟩
  | cons first onD succeeded _ ih =>
    cases stored.symm.trans first
    obtain ⟨sugg', found, applied, dismissed⟩ :=
      ih (SuggestionWorld.LedgerCall.run_stored first onD succeeded)
    exact ⟨sugg', found, by simp [applied, ledgerPositions], by simp [dismissed, ledgerPositions]⟩

end LedgerRun

/-- From a newly created suggestion, after any run of ledger writers made while its diff has
the files and hunk ids of `D`, every later `diffs` call whose reads succeed (and whose
outdated check, on a view, meets no fault) returns, whatever diff `D'` it computes: the
ledgers parse back to positions with no negative index, so the marking loop never panics,
and hunk `j` of a file is marked when a position of the run names its file and `j`. When the
names of `D` are distinct and the diff is `D` again, a hunk is marked applied (dismissed)
exactly when its id was passed to one of the run's `ApplyHunks` (`DismissHunks`) calls. -/
theorem diffs_mark_passed_hunks {Tree : Type} {engine : PatchEngine Tree} {D : List RawFileDiff}
    {id : String} {calls : List LedgerCall} {s₀ s : SuggestionWorld Tree} {sugg₀ : Suggestion}
    (created : s₀.suggestions.find? (·.id == id) = some sugg₀)
    (fresh : sugg₀.appliedHunks = [] ∧ sugg₀.dismissedHunks = [])
    (run : LedgerRun engine D id s₀ calls s) :
    ∃ sugg, s.suggestions.find? (·.id == id) = some sugg ∧
      ∀ (original : Workspace) (f : SuggestionFaults) (D' : List RawFileDiff), s.DiffReads engine sugg f D' →
        (original.viewID = none ∨ f.viewExec = none ∧ f.canApply = none) →
        ∃ d, s.diffs engine parseAppliedHunkID sugg original f = .ok d ∧
          d.map FileDiff.clearOutdated = D'.map (RawFileDiff.marked (ledgerPositions D LedgerCall.appliedIDs calls)
            (ledgerPositions D LedgerCall.dismissedIDs calls)) ∧
          ((D.map (·.preferredName)).Nodup → D' = D →
            d.map FileDiff.clearOutdated = D.map (RawFileDiff.decorate (calls.flatMap LedgerCall.appliedIDs)
              (calls.flatMap LedgerCall.dismissedIDs))) := by
  obtain ⟨sugg, stored, appliedLedger, dismissedLedger⟩ := run.stored_ledgers created
  refine ⟨sugg, stored, fun original f D' reads checks => ?_⟩
  have nonneg : ∀ ids, ∀ p ∈ ledgerPositions D ids calls, 0 ≤ p.index := fun ids p member =>
    selectedPositions_nonneg p (mem_ledgerPositions.mp member)
  have parsed : ∀ ids, ((ledgerPositions D ids calls).map HunkPos.toEntry).mapM parseAppliedHunkID =
      .ok ((ledgerPositions D ids calls).map fun p => p) := fun ids =>
    mapM_map_ok fun p member => parseAppliedHunkID_toEntry (nonneg ids p member)
  simp only [fresh, List.nil_append, List.map_id'] at appliedLedger dismissedLedger parsed
  obtain ⟨d, diffed, cleared⟩ := SuggestionWorld.diffs_of_reads reads checks
    (appliedLedger ▸ parsed _) (dismissedLedger ▸ parsed _) fun p member =>
      (List.mem_append.mp member).elim (nonneg _ p) (nonneg _ p)
  refine ⟨d, diffed, cleared, fun distinct same => ?_⟩
  subst same
  rw [cleared]
  exact List.map_congr_left fun raw member =>
    RawFileDiff.marked_eq_decorate distinct member (fun _ => mem_ledgerPositions) fun _ => mem_ledgerPositions

/-- One `ApplyHunks` of the first of two hunks of one file, on a target on a view: the
later diff marks that hunk applied and the other not. -/
theorem apply_once_marks_passed_hunk :
    let D : List RawFileDiff := [⟨"a", [("h0", "p0"), ("h1", "p1")]⟩]
    let sugg : Suggestion := { id := "sugg", workspaceID := "s", forWorkspaceID := "t", forSnapshotID := "base" }
    let s : SuggestionWorld String :=
      { workspaces := ⟨[{ id := "s", latestSnapshotID := some "snap" }, { id := "t", viewID := some "v" }]⟩,
        views := fun _ => "", snapshots := [⟨"snap", "s", ""⟩, ⟨"base", "t", ""⟩], suggestions := [sugg] }
    let engine : PatchEngine String := ⟨fun t _ => .ok t, fun _ _ t => .ok t, fun _ _ => .ok D⟩
    let calls := [LedgerCall.applyHunks ["h0"] {}]
    let s' := (s.applyHunks engine parseAppliedHunkID sugg ["h0"] {}).2
    s.suggestions.find? (·.id == "sugg") = some sugg ∧ (sugg.appliedHunks = [] ∧ sugg.dismissedHunks = []) ∧
      LedgerRun engine D "sugg" s calls s' ∧
      ∃ sugg', s'.suggestions.find? (·.id == "sugg") = some sugg' ∧
        ∀ (original : Workspace) (f : SuggestionFaults) (D' : List RawFileDiff), s'.DiffReads engine sugg' f D' →
          (original.viewID = none ∨ f.viewExec = none ∧ f.canApply = none) →
          ∃ d, s'.diffs engine parseAppliedHunkID sugg' original f = .ok d ∧
            d.map FileDiff.clearOutdated = D'.map (RawFileDiff.marked (ledgerPositions D LedgerCall.appliedIDs calls)
              (ledgerPositions D LedgerCall.dismissedIDs calls)) ∧
            ((D.map (·.preferredName)).Nodup → D' = D →
              d.map FileDiff.clearOutdated = D.map (RawFileDiff.decorate (calls.flatMap LedgerCall.appliedIDs)
                (calls.flatMap LedgerCall.dismissedIDs))) := by
  intro D sugg s engine calls s'
  have run : LedgerRun engine D "sugg" s calls s' := .cons rfl (fun target d got diffed => by
    cases (show s.getWorkspace none "t" = .ok { id := "t", viewID := some "v" } from rfl).symm.trans got
    cases (show s.diffs engine parseAppliedHunkID sugg { id := "t", viewID := some "v" } {} =
      .ok (D.map FileDiff.ofRaw) from rfl).symm.trans diffed
    rfl) rfl (.nil _)
  exact ⟨rfl, ⟨rfl, rfl⟩, run, @diffs_mark_passed_hunks _ engine D "sugg" calls s s' sugg rfl ⟨rfl, rfl⟩ run⟩

/-- Two files of one preferred name: one `ApplyHunks` of
the first file's hunk `h0` writes `a#0`, and the later diff, computing the same files, marks
hunk 0 of both files applied, `h1` among them, which no call passed. -/
theorem shared_name_marks_unpassed_hunk :
    let D : List RawFileDiff := [⟨"a", [("h0", "p0")]⟩, ⟨"a", [("h1", "p1")]⟩]
    let sugg : Suggestion := { id := "sugg", workspaceID := "s", forWorkspaceID := "t", forSnapshotID := "base" }
    let s : SuggestionWorld String :=
      { workspaces := ⟨[{ id := "s", latestSnapshotID := some "snap" }, { id := "t", viewID := some "v" }]⟩,
        views := fun _ => "", snapshots := [⟨"snap", "s", ""⟩, ⟨"base", "t", ""⟩], suggestions := [sugg] }
    let engine : PatchEngine String := ⟨fun t _ => .ok t, fun _ _ t => .ok t, fun _ _ => .ok D⟩
    let s' := (s.applyHunks engine parseAppliedHunkID sugg ["h0"] {}).2
    s.suggestions.find? (·.id == "sugg") = some sugg ∧ (sugg.appliedHunks = [] ∧ sugg.dismissedHunks = []) ∧
      LedgerRun engine D "sugg" s [LedgerCall.applyHunks ["h0"] {}] s' ∧
      s'.suggestions.find? (·.id == "sugg") = some (sugg.appendApplied ["a#0"]) ∧
      s'.DiffReads engine (sugg.appendApplied ["a#0"]) {} D ∧
      s'.diffs engine parseAppliedHunkID (sugg.appendApplied ["a#0"]) { id := "t", viewID := some "v" } {} =
        .ok [⟨"a", [{ id := "h0", patch := "p0", isApplied := true }]⟩,
          ⟨"a", [{ id := "h1", patch := "p1", isApplied := true }]⟩] := by
  intro D sugg s engine s'
  refine ⟨rfl, ⟨rfl, rfl⟩, .cons rfl (fun target d got diffed => ?_) rfl (.nil _), rfl,
    ⟨_, "snap", ⟨"snap", "s", ""⟩, ⟨"base", "t", ""⟩, rfl, rfl, rfl, rfl, rfl⟩, rfl⟩
  cases (show s.getWorkspace none "t" = .ok { id := "t", viewID := some "v" } from rfl).symm.trans got
  cases (show s.diffs engine parseAppliedHunkID sugg { id := "t", viewID := some "v" } {} =
    .ok (D.map FileDiff.ofRaw) from rfl).symm.trans diffed
  rfl

end Sturdy
