import Sturdy.SuggestionModes

namespace Sturdy

/-- The value of a nonempty run of decimal digits, as `strconv.Atoi` reads it. -/
def decimalValue (ds : List Char) : Option Nat :=
  if !ds.isEmpty && ds.all Char.isDigit then some (ds.foldl (fun n c => n * 10 + (c.toNat - '0'.toNat)) 0)
  else none

/-- `strconv.Atoi`: an optional sign, then one or more decimal digits. Go's range check on
`int` is left out: the indexes written to the ledgers are hunk indexes. -/
def atoi : List Char → Option Int
  | '-' :: ds => (decimalValue ds).map fun n => -(n : Int)
  | '+' :: ds => (decimalValue ds).map Int.ofNat
  | ds => (decimalValue ds).map Int.ofNat

/-- Modelled from the spec: `suggestions.ParseAppliedHunkID`, not in the sources, reads back
the `(preferred_filename, hunk_index)` pair of a ledger entry `filename#index`. The entry is
split at its last `#`, the one split that reads back every name, `#` included. -/
def parseAppliedHunkID (entry : String) : Except Err HunkPos :=
  let revChars := entry.data.reverse
  match revChars.dropWhile (· != '#'), atoi (revChars.takeWhile (· != '#')).reverse with
  | '#' :: revName, some index => .ok ⟨String.mk revName.reverse, index⟩
  | _, _ => .error (Err.new "invalid hunk id")

theorem digitChar_decimal :
    ∀ k < 10, (Nat.digitChar k).isDigit = true ∧ (Nat.digitChar k).toNat - '0'.toNat = k := by
  decide

theorem toDigitsCore_digits : ∀ (fuel n : Nat) (ds : List Char), n < fuel →
    ∃ l, Nat.toDigitsCore 10 fuel n ds = l ++ ds ∧ l ≠ [] ∧ (∀ c ∈ l, c.isDigit = true) ∧
      l.foldl (fun n c => n * 10 + (c.toNat - '0'.toNat)) 0 = n
  | 0, n, _, bound => absurd bound (Nat.not_lt_zero n)
  | fuel + 1, n, ds, bound => by
    obtain ⟨isDigit, value⟩ := digitChar_decimal (n % 10) (Nat.mod_lt n (by decide))
    have step : Nat.toDigitsCore 10 (fuel + 1) n ds = if n / 10 = 0 then Nat.digitChar (n % 10) :: ds
        else Nat.toDigitsCore 10 fuel (n / 10) (Nat.digitChar (n % 10) :: ds) := rfl
    rw [step]
    split
    · refine ⟨[Nat.digitChar (n % 10)], rfl, List.cons_ne_nil _ _, by simpa using isDigit, ?_⟩
      simp only [List.foldl_cons, List.foldl_nil, value]
      omega
    · obtain ⟨l, eq, -, digits, total⟩ :=
        toDigitsCore_digits fuel (n / 10) (Nat.digitChar (n % 10) :: ds) (by omega)
      refine ⟨l ++ [Nat.digitChar (n % 10)], by simp [eq], by simp, ?_, ?_⟩
      · simpa [or_imp, forall_and, isDigit] using digits
      · simp only [List.foldl_append, List.foldl_cons, List.foldl_nil, total, value]
        omega

theorem toDigits_digits (n : Nat) :
    Nat.toDigits 10 n ≠ [] ∧ (∀ c ∈ Nat.toDigits 10 n, c.isDigit = true) ∧
      (Nat.toDigits 10 n).foldl (fun n c => n * 10 + (c.toNat - '0'.toNat)) 0 = n := by
  obtain ⟨l, eq, rest⟩ := toDigitsCore_digits (n + 1) n [] (Nat.lt_succ_self n)
  have written : Nat.toDigits 10 n = l ++ [] := eq
  rwa [written, List.append_nil]

theorem decimalValue_digits {ds : List Char} (nonempty : ds ≠ [])
    (digits : ∀ c ∈ ds, c.isDigit = true) :
    decimalValue ds = some (ds.foldl (fun n c => n * 10 + (c.toNat - '0'.toNat)) 0) := by
  simp [decimalValue, nonempty, List.all_eq_true.mpr digits]

/-- `strconv.Atoi` reads back the decimal text `toString` writes. -/
theorem atoi_toDigits (n : Nat) : atoi (Nat.toDigits 10 n) = some (n : Int) := by
  obtain ⟨nonempty, digits, total⟩ := toDigits_digits n
  have parsed := decimalValue_digits nonempty digits
  rw [total] at parsed
  unfold atoi
  split
  next ds signed => exact absurd (digits '-' (signed ▸ List.mem_cons_self _ _)) (by decide)
  next ds signed => exact absurd (digits '+' (signed ▸ List.mem_cons_self _ _)) (by decide)
  · simp [parsed]

theorem HunkPos.toEntry_data (name : String) (i : Nat) :
    (HunkPos.toEntry ⟨name, i⟩).data = name.data ++ '#' :: Nat.toDigits 10 i := by
  simp [HunkPos.toEntry]
  rfl

/-- `ParseAppliedHunkID` reads back every entry `Hunk.String` writes for a non-negative
index, whatever `#` the file name holds. -/
theorem parseAppliedHunkID_toEntry {pos : HunkPos} (nonneg : 0 ≤ pos.index) :
    parseAppliedHunkID pos.toEntry = .ok pos := by
  obtain ⟨name, index⟩ := pos
  obtain ⟨i, rfl⟩ := Int.eq_ofNat_of_zero_le nonneg
  have noHash : ∀ c ∈ (Nat.toDigits 10 i).reverse, (c != '#') = true := fun c member => by
    have digit := (toDigits_digits i).2.1 c (List.mem_reverse.mp member)
    rw [bne_iff_ne, ne_eq]
    rintro rfl
    exact absurd digit (by decide)
  unfold parseAppliedHunkID
  simp only [HunkPos.toEntry_data, List.reverse_append, List.reverse_cons, List.append_assoc,
    List.singleton_append]
  rw [List.dropWhile_append_of_pos noHash, List.takeWhile_append_of_pos noHash]
  simp [atoi_toDigits]

example : parseAppliedHunkID "a#b#12" = .ok ⟨"a#b", 12⟩ := rfl

/-- Whether a ledger position names hunk `j` of the file called `name`. -/
def HunkPos.names (pos : HunkPos) (name : String) (j : Nat) : Bool :=
  pos.fileName == name && pos.index == j

/-- `set` applied to each hunk of the file that one of the positions names. -/
def FileDiff.markAll (set : Hunk → Hunk) (positions : List HunkPos) (fd : FileDiff) : FileDiff :=
  { fd with hunks := fd.hunks.mapIdx fun j h =>
      if positions.any (·.names fd.preferredName j) then set h else h }

namespace FileDiff

variable {set : Hunk → Hunk}

theorem ext_hunks {fd fd' : FileDiff} (name : fd.preferredName = fd'.preferredName)
    (length : fd.hunks.length = fd'.hunks.length)
    (each : ∀ j (h : j < fd.hunks.length) (h' : j < fd'.hunks.length), fd.hunks[j] = fd'.hunks[j]) :
    fd = fd' := by
  obtain ⟨_, _⟩ := fd
  obtain ⟨_, _⟩ := fd'
  simp only at name
  exact name ▸ congrArg _ (List.ext_getElem length each)

@[simp] theorem markAll_preferredName (positions : List HunkPos) (fd : FileDiff) :
    (fd.markAll set positions).preferredName = fd.preferredName := rfl

theorem markAll_nil (fd : FileDiff) : fd.markAll set [] = fd :=
  ext_hunks rfl (by simp [markAll]) fun j _ _ => by simp [markAll]

/-- Marking twice marks every hunk either list names, for a mark that is idempotent. -/
theorem markAll_markAll (idem : ∀ h, set (set h) = set h) (qs ps : List HunkPos) (fd : FileDiff) :
    (fd.markAll set qs).markAll set ps = fd.markAll set (qs ++ ps) :=
  ext_hunks rfl (by simp [markAll]) fun j _ _ => by
    simp only [markAll, List.getElem_mapIdx, List.any_append]
    cases qs.any (·.names fd.preferredName j) <;> cases ps.any (·.names fd.preferredName j) <;> simp [idem]

/-- One mark at a non-negative index is the mark of the one position. -/
theorem markAt_nonneg {pos : HunkPos} (nonneg : 0 ≤ pos.index) (fd : FileDiff) :
    markAt set fd pos = .ok (fd.markAll set [pos]) := by
  unfold markAt
  split
  · rename_i within
    rw [if_neg (not_lt.mpr nonneg)]
    refine congrArg _ (ext_hunks rfl (by simp [markAll]) fun j _ _ => ?_)
    simp only [List.getElem_modify, markAll, List.getElem_mapIdx, List.any_cons, List.any_nil, Bool.or_false,
      HunkPos.names, within.1, beq_self_eq_true, Bool.true_and, beq_iff_eq]
    congr 1
    apply propext
    omega
  · rename_i outside
    refine congrArg _ (ext_hunks rfl (by simp [markAll]) fun j inside _ => ?_)
    simp only [markAll, List.getElem_mapIdx, List.any_cons, List.any_nil, Bool.or_false, HunkPos.names]
    rw [if_neg]
    simp only [Bool.and_eq_true, beq_iff_eq, not_and]
    intro named indexed
    exact outside ⟨named, by omega⟩

/-- The marking loop of one ledger: with no negative index it never panics, and marks the
hunks the positions name. -/
theorem foldlM_markAt (idem : ∀ h, set (set h) = set h) :
    ∀ {positions : List HunkPos} (fd : FileDiff), (∀ p ∈ positions, 0 ≤ p.index) →
      positions.foldlM (markAt set) fd = .ok (fd.markAll set positions)
  | [], fd, _ => by rw [markAll_nil]; rfl
  | p :: ps, fd, nonneg => by
    rw [List.foldlM_cons, markAt_nonneg (nonneg p (List.mem_cons_self _ _))]
    show ps.foldlM (markAt set) (fd.markAll set [p]) = _
    rw [foldlM_markAt idem _ fun q member => nonneg q (List.mem_cons_of_mem _ member), markAll_markAll idem]
    rfl

end FileDiff

/-- A file of a decorated diff as the marking loop of `diffs` leaves it: hunk `j` is
applied (dismissed) exactly when an applied (dismissed) position names it. -/
def RawFileDiff.marked (applied dismissed : List HunkPos) (raw : RawFileDiff) : FileDiff :=
  ⟨raw.preferredName, raw.hunks.mapIdx fun j (id, patch) =>
    { id, patch, isApplied := applied.any (·.names raw.preferredName j),
      isDismissed := dismissed.any (·.names raw.preferredName j) }⟩

/-- With no negative index in the ledgers, the marking of a file never panics: it returns
the file with the flags the positions name. -/
theorem markLedger_ofRaw {applied dismissed : List HunkPos}
    (nonneg : ∀ p ∈ applied ++ dismissed, 0 ≤ p.index) (raw : RawFileDiff) :
    markLedger applied dismissed (FileDiff.ofRaw raw) = .ok (raw.marked applied dismissed) := by
  have nonnegApplied := fun p member => nonneg p (List.mem_append_left dismissed member)
  have nonnegDismissed := fun p member => nonneg p (List.mem_append_right applied member)
  show (applied.foldlM _ _ >>= fun fd => dismissed.foldlM _ fd) = _
  rw [@FileDiff.foldlM_markAt (fun h => { h with isApplied := true }) (fun _ => rfl) _ _ nonnegApplied]
  refine (@FileDiff.foldlM_markAt (fun h => { h with isDismissed := true }) (fun _ => rfl) _ _
    nonnegDismissed).trans (congrArg _ ?_)
  refine FileDiff.ext_hunks rfl (by simp [FileDiff.markAll, FileDiff.ofRaw, RawFileDiff.marked])
    fun j _ _ => ?_
  simp only [FileDiff.markAll, FileDiff.ofRaw, RawFileDiff.marked, List.getElem_mapIdx, List.getElem_map]
  cases applied.any (·.names raw.preferredName j) <;> cases dismissed.any (·.names raw.preferredName j) <;>
    rfl

/-- A file's name and its hunks' ids: what `selectHunks` reads of a file besides the
patches. -/
def FileDiff.shape (fd : FileDiff) : String × List String := (fd.preferredName, fd.hunks.map (·.id))

def RawFileDiff.shape (raw : RawFileDiff) : String × List String := (raw.preferredName, raw.hunks.map (·.1))

@[simp] theorem FileDiff.ofRaw_shape (raw : RawFileDiff) : (FileDiff.ofRaw raw).shape = raw.shape := by
  simp [FileDiff.shape, FileDiff.ofRaw, RawFileDiff.shape, Function.comp_def]

/-- The ledger positions of the hunks with the selected ids, in a diff of these shapes. -/
def selectedPositions (hunkIDs : List String) (shapes : List (String × List String)) : List HunkPos :=
  shapes.flatMap fun (name, ids) =>
    (ids.enum.filter fun (_, id) => hunkIDs.contains id).map fun (i, _) => ⟨name, i⟩

@[simp] theorem selectedPositions_nil_ids (shapes : List (String × List String)) :
    selectedPositions [] shapes = [] := by
  simp [selectedPositions, List.flatMap_eq_nil_iff]

/-- The entries `ApplyHunks` and `DismissHunks` append are those of the selected positions. -/
theorem selectHunks_entries (hunkIDs : List String) (d : List FileDiff) :
    (selectHunks hunkIDs d).map (·.2) =
      (selectedPositions hunkIDs (d.map FileDiff.shape)).map HunkPos.toEntry := by
  simp [selectHunks, selectedPositions, List.map_flatMap, List.flatMap_map, FileDiff.shape, List.enum_map,
    List.filter_map, Function.comp_def]

theorem mem_selectedPositions {hunkIDs : List String} {shapes : List (String × List String)}
    {pos : HunkPos} :
    pos ∈ selectedPositions hunkIDs shapes ↔
      ∃ name ids, (name, ids) ∈ shapes ∧ ∃ j : Nat, (∃ id, ids[j]? = some id ∧ id ∈ hunkIDs) ∧
        ⟨name, j⟩ = pos := by
  simp [selectedPositions, List.mem_enum_iff_getElem?]

theorem selectedPositions_nonneg {hunkIDs : List String} {shapes : List (String × List String)} :
    ∀ pos ∈ selectedPositions hunkIDs shapes, 0 ≤ pos.index := fun pos member => by
  obtain ⟨-, -, -, j, -, rfl⟩ := mem_selectedPositions.mp member
  exact Int.ofNat_zero_le j

/-- When the diff's file names are distinct, the selected positions name hunk `j` of a file
exactly when that hunk's id is selected. -/
theorem selectedPositions_names {D : List RawFileDiff} (distinct : (D.map (·.preferredName)).Nodup)
    {raw : RawFileDiff} (member : raw ∈ D) (hunkIDs : List String) {j : Nat}
    (within : j < raw.hunks.length) :
    (selectedPositions hunkIDs (D.map RawFileDiff.shape)).any (·.names raw.preferredName j) =
      hunkIDs.contains raw.hunks[j].1 := by
  rw [Bool.eq_iff_iff, List.any_eq_true, List.contains, List.elem_iff]
  constructor
  · rintro ⟨pos, selected, named⟩
    obtain ⟨name, ids, inD, k, ⟨id, at_k, passed⟩, rfl⟩ := mem_selectedPositions.mp selected
    obtain ⟨raw', inD', same⟩ := List.mem_map.mp inD
    simp only [HunkPos.names, Bool.and_eq_true, beq_iff_eq, Int.ofNat_inj] at named
    obtain ⟨rfl, rfl⟩ := named
    simp only [RawFileDiff.shape, Prod.mk.injEq] at same
    cases List.inj_on_of_nodup_map distinct inD' member same.1
    rw [← same.2] at at_k
    simp only [List.getElem?_map, List.getElem?_eq_getElem within, Option.map_some', Option.some.injEq]
      at at_k
    exact at_k ▸ passed
  · intro passed
    refine ⟨⟨raw.preferredName, j⟩, mem_selectedPositions.mpr ⟨_, _, List.mem_map_of_mem _ member, j,
      ⟨_, by simp [RawFileDiff.shape, within], passed⟩, rfl⟩, by simp [HunkPos.names]⟩

/-- A file of the diff with each hunk marked by id: applied (dismissed) exactly when its id
is among the ids passed to `ApplyHunks` (`DismissHunks`). -/
def RawFileDiff.decorate (appliedIDs dismissedIDs : List String) (raw : RawFileDiff) : FileDiff :=
  ⟨raw.preferredName, raw.hunks.map fun (id, patch) =>
    { id, patch, isApplied := appliedIDs.contains id, isDismissed := dismissedIDs.contains id }⟩

/-- When the diff's file names are distinct and the ledgers hold the positions of the
selected ids, the marks of a file are those of the ids. -/
theorem RawFileDiff.marked_eq_decorate {D : List RawFileDiff} (distinct : (D.map (·.preferredName)).Nodup)
    {raw : RawFileDiff} (member : raw ∈ D) {applied dismissed : List HunkPos}
    {appliedIDs dismissedIDs : List String}
    (appliedAt : ∀ pos, pos ∈ applied ↔ pos ∈ selectedPositions appliedIDs (D.map RawFileDiff.shape))
    (dismissedAt :
      ∀ pos, pos ∈ dismissed ↔ pos ∈ selectedPositions dismissedIDs (D.map RawFileDiff.shape)) :
    raw.marked applied dismissed = raw.decorate appliedIDs dismissedIDs :=
  FileDiff.ext_hunks rfl (by simp [marked, decorate]) fun j inside _ => by
    have within : j < raw.hunks.length := by simpa [marked] using inside
    have names : ∀ (P : List HunkPos) (ids : List String),
        (∀ pos, pos ∈ P ↔ pos ∈ selectedPositions ids (D.map RawFileDiff.shape)) →
          P.any (·.names raw.preferredName j) = ids.contains raw.hunks[j].1 := fun P ids same => by
      rw [← selectedPositions_names distinct member ids within, Bool.eq_iff_iff]
      simp only [List.any_eq_true, same]
    simp only [marked, decorate, List.getElem_mapIdx, List.getElem_map, names applied appliedIDs appliedAt,
      names dismissed dismissedIDs dismissedAt]

theorem RawFileDiff.marked_noOutdated (applied dismissed : List HunkPos) (raw : RawFileDiff) :
    (raw.marked applied dismissed).NoOutdated := fun h member => by
  rw [marked, List.mapIdx_eq_enum_map] at member
  obtain ⟨⟨j, _⟩, -, rfl⟩ := List.mem_map.mp member
  rfl

namespace SuggestionWorld

variable {Tree : Type} {engine : PatchEngine Tree} {parse : String → Except Err HunkPos}

/-- The reads of a `diffs` call succeed, and the diff of the suggestion's snapshots is `D`. -/
def DiffReads (s : SuggestionWorld Tree) (engine : PatchEngine Tree) (sugg : Suggestion)
    (f : SuggestionFaults) (D : List RawFileDiff) : Prop :=
  ∃ suggesting latest suggestingSnapshot baseSnapshot,
    s.getWorkspace f.getSuggesting sugg.workspaceID = .ok suggesting ∧
    suggesting.latestSnapshotID = some latest ∧
    s.getSnapshot f.getSuggestingSnapshot latest = .ok suggestingSnapshot ∧
    s.getSnapshot f.getBaseSnapshot sugg.forSnapshotID = .ok baseSnapshot ∧
    engine.diffTrees baseSnapshot.tree suggestingSnapshot.tree = .ok D

/-- When the ledgers parse to positions with no negative index, `diffs` returns, whatever the
diff `D` of the snapshots, each file of `D` with the flags the positions name, and on a view
the outdated marks. -/
theorem diffs_of_reads {s : SuggestionWorld Tree} {sugg : Suggestion} {original : Workspace}
    {f : SuggestionFaults} {D : List RawFileDiff} {applied dismissed : List HunkPos}
    (reads : s.DiffReads engine sugg f D)
    (checks : original.viewID = none ∨ f.viewExec = none ∧ f.canApply = none)
    (parsedApplied : sugg.appliedHunks.mapM parse = .ok applied)
    (parsedDismissed : sugg.dismissedHunks.mapM parse = .ok dismissed)
    (nonneg : ∀ p ∈ applied ++ dismissed, 0 ≤ p.index) :
    ∃ d, s.diffs engine parse sugg original f = .ok d ∧
      d.map FileDiff.clearOutdated = D.map (RawFileDiff.marked applied dismissed) := by
  obtain ⟨suggesting, latest, suggestingSnapshot, baseSnapshot, got, isLatest, suggestingRead, baseRead,
    computes⟩ := reads
  have marked :
      s.markedDiffs engine parse sugg latest f = .ok (D.map (RawFileDiff.marked applied dismissed)) := by
    simp only [markedDiffs, suggestingRead, baseRead, computes, parsedApplied, parsedDismissed, wrapErr,
      Except.mapError, bind, Except.bind]
    exact mapM_map_ok fun raw _ => markLedger_ofRaw nonneg raw
  have clean : (D.map (RawFileDiff.marked applied dismissed)).map FileDiff.clearOutdated =
      D.map (RawFileDiff.marked applied dismissed) := by
    simp only [List.map_map]
    exact List.map_congr_left fun raw _ => FileDiff.clearOutdated_of_noOutdated (raw.marked_noOutdated _ _)
  unfold diffs
  simp only [got, isLatest, marked, wrapErr, Except.mapError, bind, Except.bind]
  rcases checks with noView | ⟨opens, canApply⟩
  · exact ⟨_, by simp only [noView]; rfl, clean⟩
  · cases original.viewID with
    | none => exact ⟨_, rfl, clean⟩
    | some v =>
      obtain ⟨d', outdated⟩ :=
        @markOutdated_none_ok Tree engine (s.views v) (D.map (RawFileDiff.marked applied dismissed))
      exact ⟨d', by simp only [outdatedOnView, opens, canApply, outdated],
        (markOutdated_clear outdated).trans clean⟩

end SuggestionWorld

end Sturdy
