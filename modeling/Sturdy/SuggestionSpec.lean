import Sturdy.SuggestionService

namespace Sturdy

section Except

variable {ε α β : Type}

theorem bind_eq_ok {x : Except ε α} {f : α → Except ε β} {b : β} :
    (x >>= f) = .ok b ↔ ∃ a, x = .ok a ∧ f a = .ok b := by
  cases x <;> simp [bind, Except.bind]

theorem mapM_ok_mem {f : α → Except ε β} :
    ∀ {l : List α} {l' : List β}, l.mapM f = .ok l' → ∀ b ∈ l', ∃ a ∈ l, f a = .ok b
  | [], l', mapped => by
    rw [List.mapM_nil] at mapped; cases mapped; simp
  | a :: l, l', mapped => by
    rw [List.mapM_cons] at mapped
    obtain ⟨b, first, rest, later, rfl⟩ : ∃ b, f a = .ok b ∧ ∃ rest, l.mapM f = .ok rest ∧ l' = b :: rest := by
      obtain ⟨b, first, later⟩ := bind_eq_ok.mp mapped
      obtain ⟨rest, restOk, done⟩ := bind_eq_ok.mp later
      exact ⟨b, first, rest, restOk, (Except.ok.inj done).symm⟩
    intro b' member
    rcases List.mem_cons.mp member with rfl | member
    · exact ⟨a, List.mem_cons_self _ _, first⟩
    · obtain ⟨a', inL, ok⟩ := mapM_ok_mem later b' member
      exact ⟨a', List.mem_cons_of_mem _ inL, ok⟩

theorem mapM_map_ok {γ : Type} {f : β → Except ε γ} {g : α → β} {h : α → γ} :
    ∀ {l : List α}, (∀ a ∈ l, f (g a) = .ok (h a)) → (l.map g).mapM f = .ok (l.map h)
  | [], _ => rfl
  | a :: l, each => by
    rw [List.map_cons, List.mapM_cons, each a (List.mem_cons_self _ _),
      mapM_map_ok fun a' member => each a' (List.mem_cons_of_mem _ member)]
    rfl

theorem mapM_ok_map {f : α → Except ε β} {g : α → β} {l : List α} (each : ∀ a ∈ l, f a = .ok (g a)) :
    l.mapM f = .ok (l.map g) := by
  simpa using @mapM_map_ok ε α α β f id g l each

theorem foldlM_ok_inv {P : β → Prop} {f : β → α → Except ε β}
    (step : ∀ b a b', P b → f b a = .ok b' → P b') :
    ∀ {l : List α} {b b' : β}, P b → l.foldlM f b = .ok b' → P b'
  | [], _, _, holds, folded => by cases folded; exact holds
  | a :: l, b, b', holds, folded => by
    rw [List.foldlM_cons] at folded
    obtain ⟨next, first, rest⟩ := bind_eq_ok.mp folded
    exact foldlM_ok_inv step (step b a next holds first) rest

@[simp] theorem wrapErr_ok {ctx : String} {x : Except Err α} {a : α} :
    wrapErr ctx x = .ok a ↔ x = .ok a := mapError_eq_ok

theorem fetch_ok {fault : Option Err} {found : Option α} {a : α}
    (fetched : fetch fault found = .ok a) : fault = none ∧ found = some a := by
  unfold fetch at fetched
  split at fetched
  · cases fetched
  · split at fetched
    · cases fetched; exact ⟨rfl, rfl⟩
    · cases fetched

end Except

theorem mem_modify {α : Type} {f : α → α} {n : Nat} {l : List α} {x : α}
    (member : x ∈ l.modify f n) : x ∈ l ∨ ∃ y ∈ l, x = f y := by
  obtain ⟨i, bound, rfl⟩ := List.mem_iff_getElem.mp member
  have inL : i < l.length := by simpa using bound
  rw [List.getElem_modify]
  split
  · exact .inr ⟨l[i], List.getElem_mem inL, rfl⟩
  · exact .inl (List.getElem_mem inL)

/-- No hunk of the file is marked outdated. -/
def FileDiff.NoOutdated (fd : FileDiff) : Prop := ∀ h ∈ fd.hunks, h.isOutdated = false

theorem FileDiff.ofRaw_noOutdated (raw : RawFileDiff) : (FileDiff.ofRaw raw).NoOutdated := by
  intro h member
  obtain ⟨_, _, rfl⟩ := List.mem_map.mp member
  rfl

/-- A mark sets a flag on one hunk and leaves every other hunk as it was. -/
theorem markAt_hunks {set : Hunk → Hunk} {fd fd' : FileDiff} {pos : HunkPos}
    (marked : markAt set fd pos = .ok fd') :
    ∀ h ∈ fd'.hunks, h ∈ fd.hunks ∨ ∃ h₀ ∈ fd.hunks, h = set h₀ := by
  unfold markAt at marked
  split at marked
  · split at marked
    · cases marked
    · cases marked; exact fun h member => mem_modify member
  · cases marked; exact fun h member => .inl member

theorem markLedger_noOutdated {applied dismissed : List HunkPos} {fd fd' : FileDiff}
    (clean : fd.NoOutdated) (marked : markLedger applied dismissed fd = .ok fd') :
    fd'.NoOutdated := by
  have step : ∀ (set : Hunk → Hunk), (∀ h, (set h).isOutdated = h.isOutdated) →
      ∀ fd pos fd', FileDiff.NoOutdated fd → markAt set fd pos = .ok fd' → fd'.NoOutdated :=
    fun set keeps fd pos fd' clean marked h member => by
      rcases markAt_hunks marked h member with old | ⟨h₀, old, rfl⟩
      · exact clean h old
      · rw [keeps]; exact clean h₀ old
  obtain ⟨mid, first, second⟩ := bind_eq_ok.mp marked
  refine foldlM_ok_inv ?_ (foldlM_ok_inv ?_ clean first) second <;> exact step _ fun _ => rfl

/-- The outdated check keeps a hunk but its outdated flag, and sets that flag exactly when
the hunk is neither applied nor dismissed and its patch does not apply to the tree. -/
theorem markOutdatedHunk_ok {Tree : Type} {engine : PatchEngine Tree} {t : Tree}
    {fault : Option Err} {h h' : Hunk} (marked : markOutdatedHunk engine t fault h = .ok h') :
    { h' with isOutdated := false } = { h with isOutdated := false } ∧
      (h'.isOutdated = true ↔ h.isOutdated = true ∨
        (h.isApplied = false ∧ h.isDismissed = false ∧ engine.canApplyPatch t h.patch = false)) := by
  unfold markOutdatedHunk at marked
  split at marked
  · rename_i flagged
    cases marked
    simp only [Bool.or_eq_true] at flagged
    refine ⟨rfl, ?_⟩
    rcases flagged with flag | flag <;> simp [flag]
  · rename_i unflagged
    simp only [Bool.or_eq_true, not_or, Bool.not_eq_true] at unflagged
    split at marked
    · cases marked
    · cases marked
      split <;> simp_all

theorem markOutdated_ok {Tree : Type} {engine : PatchEngine Tree} {t : Tree} {fault : Option Err}
    {d d' : List FileDiff} (marked : markOutdated engine t fault d = .ok d') :
    ∀ fd' ∈ d', ∃ fd ∈ d, fd'.preferredName = fd.preferredName ∧
      ∀ h' ∈ fd'.hunks, ∃ h ∈ fd.hunks, markOutdatedHunk engine t fault h = .ok h' := by
  intro fd' member
  obtain ⟨fd, inD, ok⟩ := mapM_ok_mem marked fd' member
  obtain ⟨hunks, mapped, done⟩ := bind_eq_ok.mp ok
  cases done
  exact ⟨fd, inD, rfl, mapM_ok_mem mapped⟩

namespace SuggestionWorld

variable {Tree : Type} {engine : PatchEngine Tree} {parse : String → Except Err HunkPos}

theorem getWorkspace_ok {s : SuggestionWorld Tree} {fault : Option Err} {id : String}
    {ws : Workspace} (got : s.getWorkspace fault id = .ok ws) :
    fault = none ∧ s.workspaces.lookup ws.id = some ws ∧ ws.id = id := by
  obtain ⟨none_, found⟩ := fetch_ok got
  have same : ws.id = id := by simpa using List.find?_some found
  exact ⟨none_, same ▸ found, same⟩

theorem getSnapshot_ok {s : SuggestionWorld Tree} {fault : Option Err} {id : String}
    {snap : Snapshot Tree} (got : s.getSnapshot fault id = .ok snap) :
    s.snapshots.find? (·.id == id) = some snap := (fetch_ok got).2

/-- Every hunk that `markedDiffs` returns has no outdated mark. -/
theorem markedDiffs_noOutdated {s : SuggestionWorld Tree} {sugg : Suggestion} {latest : String}
    {f : SuggestionFaults} {d : List FileDiff} (marked : s.markedDiffs engine parse sugg latest f = .ok d) :
    ∀ fd ∈ d, fd.NoOutdated := by
  simp only [markedDiffs, bind_eq_ok] at marked
  obtain ⟨_, -, _, -, raw, -, applied, -, dismissed, -, last⟩ := marked
  intro fd member
  obtain ⟨fd₀, inRaw, ok⟩ := mapM_ok_mem last fd member
  obtain ⟨r, -, rfl⟩ := List.mem_map.mp inRaw
  exact markLedger_noOutdated (FileDiff.ofRaw_noOutdated r) ok

theorem update_frame {s s' : SuggestionWorld Tree} {fault : Option Err} {sugg : Suggestion}
    (updated : s.update fault sugg = .ok s') :
    s'.workspaces = s.workspaces ∧ s'.views = s.views ∧ s'.snapshots = s.snapshots := by
  unfold update at updated
  split at updated
  · cases updated
  · cases updated; exact ⟨rfl, rfl, rfl⟩

/-- A successful snapshotter appended the new snapshot and pointed the workspace's record
at it. -/
theorem snapshot_ok {s s' : SuggestionWorld Tree} {fault markFault : Option Err}
    {snapshotID workspaceID : String} {t : Tree}
    (taken : s.snapshot fault markFault snapshotID workspaceID t = (.ok (), s')) :
    ∃ ws, s.workspaces.lookup workspaceID = some ws ∧
      s'.workspaces.lookup = Function.update s.workspaces.lookup workspaceID
        (some { ws with latestSnapshotID := some snapshotID }) ∧
      s'.workspaces.workspaces.map (·.id) = s.workspaces.workspaces.map (·.id) ∧
      s'.snapshots = s.snapshots ++ [⟨snapshotID, workspaceID, t⟩] ∧ s'.views = s.views ∧
      s'.suggestions = s.suggestions ∧ s'.notifications = s.notifications := by
  unfold snapshot at taken
  split at taken
  · cases taken
  dsimp only at taken
  split at taken
  · cases taken
  split at taken
  · cases taken
  rename_i m updated
  cases taken
  rcases Memory.updateFields_spec s.workspaces workspaceID [.setLatestSnapshotID (some snapshotID)]
    with ⟨-, failed⟩ | ⟨ws, m', found, ok, table, ids⟩
  · rw [failed] at updated; cases updated
  · rw [ok] at updated
    cases updated
    exact ⟨ws, found, by simpa [UpdateOption.apply] using table, ids, rfl, rfl, rfl, rfl⟩

/-- A failed snapshotter failed before its record and changed nothing, or failed at step 5,
updating the workspace's latest snapshot, and kept the record. -/
theorem snapshot_error {s s' : SuggestionWorld Tree} {fault markFault : Option Err}
    {snapshotID workspaceID : String} {t : Tree} {e : Err}
    (failed : s.snapshot fault markFault snapshotID workspaceID t = (.error e, s')) :
    fault.isSome ∧ s' = s ∨ fault = none ∧ s' = s.recordSnapshot snapshotID workspaceID t ∧
      (markFault.isSome ∨ s.workspaces.lookup workspaceID = none) := by
  unfold snapshot at failed
  split at failed
  · cases failed; exact .inl ⟨rfl, rfl⟩
  dsimp only at failed
  split at failed
  · cases failed; exact .inr ⟨rfl, rfl, .inl rfl⟩
  split at failed
  · rename_i updated
    cases failed
    refine .inr ⟨rfl, rfl, .inr ?_⟩
    rcases Memory.updateFields_spec s.workspaces workspaceID [.setLatestSnapshotID (some snapshotID)]
      with ⟨absent, -⟩ | ⟨_, m', -, ok, -⟩
    · exact absent
    · rw [ok] at updated; cases updated
  · cases failed

/-- Whatever its outcome, the snapshotter leaves the views, the suggestions and the
notifications alone, only appends snapshots, and changes no workspace record but its
workspace's. -/
theorem snapshot_frame (s : SuggestionWorld Tree) (fault markFault : Option Err)
    (snapshotID workspaceID : String) (t : Tree) :
    (s.snapshot fault markFault snapshotID workspaceID t).2.views = s.views ∧
      (s.snapshot fault markFault snapshotID workspaceID t).2.suggestions = s.suggestions ∧
      (s.snapshot fault markFault snapshotID workspaceID t).2.notifications = s.notifications ∧
      (∃ extra, (s.snapshot fault markFault snapshotID workspaceID t).2.snapshots = s.snapshots ++ extra) ∧
      ∀ id, id ≠ workspaceID →
        (s.snapshot fault markFault snapshotID workspaceID t).2.workspaces.lookup id = s.workspaces.lookup id := by
  rcases taken : s.snapshot fault markFault snapshotID workspaceID t with ⟨_ | _, s'⟩
  · rcases snapshot_error taken with ⟨-, rfl⟩ | ⟨-, rfl, -⟩
    · exact ⟨rfl, rfl, rfl, ⟨[], (List.append_nil _).symm⟩, fun _ _ => rfl⟩
    · exact ⟨rfl, rfl, rfl, ⟨_, rfl⟩, fun _ _ => rfl⟩
  · obtain ⟨_, -, table, -, snaps, views, suggs, notes⟩ := snapshot_ok taken
    exact ⟨views, suggs, notes, ⟨_, snaps⟩, fun id other => by rw [table, Function.update_noteq other]⟩

/-- The snapshotter with no failure of its own fails only when the workspace is not stored. -/
theorem snapshot_error_absent {s s' : SuggestionWorld Tree} {snapshotID workspaceID : String}
    {t : Tree} {e : Err} (failed : s.snapshot none none snapshotID workspaceID t = (.error e, s')) :
    s.workspaces.lookup workspaceID = none := by
  rcases snapshot_error failed with ⟨fault, -⟩ | ⟨-, -, mark | absent⟩
  · cases fault
  · cases mark
  · exact absent

/-- The patch step succeeds on the target's view, or, for a target with no view, on a
temporary view of its latest snapshot followed by the snapshotter. -/
theorem applyToTarget_cases {s s' : SuggestionWorld Tree} {original : Workspace}
    {patches : List String} {f : SuggestionFaults}
    (patched : s.applyToTarget engine original patches f = (.ok (), s')) :
    (∃ v t, original.viewID = some v ∧ engine.applyPatches patches (s.views v) = .ok t ∧
      s' = { s with views := Function.update s.views v t }) ∨
    ∃ id snap t, original.viewID = none ∧ original.latestSnapshotID = some id ∧
      s.snapshots.find? (·.id == id) = some snap ∧ engine.applyPatches patches snap.tree = .ok t ∧
      s.snapshot f.snapshot f.markLatest f.newSnapshotID original.id t = (.ok (), s') := by
  unfold applyToTarget at patched
  split at patched
  · rename_i noView
    split at patched
    · cases patched
    rename_i id latest
    split at patched
    · cases patched
    rename_i snap got
    split at patched
    · cases patched
    split at patched
    · cases patched
    rename_i t applied
    split at patched
    · cases patched
    · rename_i taken
      cases patched
      exact .inr ⟨id, snap, t, noView, latest, getSnapshot_ok got, applied, taken⟩
  · rename_i v view
    split at patched
    · cases patched
    split at patched
    · cases patched
    rename_i t applied
    cases patched
    exact .inl ⟨v, t, view, applied, rfl⟩

/-- A failed patch step changed nothing, or, for a target with no view, failed at the
snapshotter's step 5 and kept the record of the patched tree. -/
theorem applyToTarget_error {s s' : SuggestionWorld Tree} {original : Workspace}
    {patches : List String} {f : SuggestionFaults} {p : Failure}
    (failed : s.applyToTarget engine original patches f = (.error p, s')) :
    s' = s ∨ ∃ t, f.snapshot = none ∧ s' = s.recordSnapshot f.newSnapshotID original.id t ∧
      (f.markLatest.isSome ∨ s.workspaces.lookup original.id = none) := by
  unfold applyToTarget at failed
  repeat' split at failed
  all_goals cases failed
  all_goals try exact .inl rfl
  rcases snapshot_error ‹_ = (.error _, _)› with ⟨-, rfl⟩ | ⟨noFault, rfl, step5⟩
  · exact .inl rfl
  · exact .inr ⟨_, noFault, rfl, step5⟩

/-- Every outcome of the patch step leaves the stored suggestions and the notifications
alone. -/
theorem applyToTarget_frame (s : SuggestionWorld Tree) (original : Workspace)
    (patches : List String) (f : SuggestionFaults) :
    (s.applyToTarget engine original patches f).2.suggestions = s.suggestions ∧
      (s.applyToTarget engine original patches f).2.notifications = s.notifications := by
  rcases result : s.applyToTarget engine original patches f with ⟨_ | _, s'⟩
  · rcases applyToTarget_error result with rfl | ⟨t, -, rfl, -⟩ <;> exact ⟨rfl, rfl⟩
  · rcases applyToTarget_cases result with ⟨v, t, -, -, rfl⟩ | ⟨id, snap, t, -, -, -, -, taken⟩
    · exact ⟨rfl, rfl⟩
    · have frame := snapshot_frame s f.snapshot f.markLatest f.newSnapshotID original.id t
      rw [taken] at frame
      exact ⟨frame.2.1, frame.2.2.1⟩

/-- A successful patch step leaves the target's content, on its view or as its new latest
snapshot, its old content with the patches applied. -/
theorem applyToTarget_ok {s s' : SuggestionWorld Tree} {original : Workspace}
    {patches : List String} {f : SuggestionFaults}
    (stored : s.workspaces.lookup original.id = some original)
    (fresh : ∀ snap ∈ s.snapshots, snap.id ≠ f.newSnapshotID)
    (patched : s.applyToTarget engine original patches f = (.ok (), s')) :
    ∃ C C', s.content original = some C ∧ engine.applyPatches patches C = .ok C' ∧
      s'.contentOf original.id = some C' := by
  rcases applyToTarget_cases patched with ⟨v, t, view, applied, rfl⟩ |
    ⟨id, snap, t, noView, latest, found, applied, taken⟩
  · exact ⟨s.views v, t, by simp [content, view], applied,
      by simp [contentOf, stored, content, view]⟩
  · obtain ⟨ws, atWs, table, -, snaps, -⟩ := snapshot_ok taken
    rw [stored] at atWs
    cases atWs
    have absent : s.snapshots.find? (·.id == f.newSnapshotID) = none :=
      List.find?_eq_none.mpr fun snap member => by simpa using fresh snap member
    refine ⟨snap.tree, t, by simp [content, noView, latest, found], applied, ?_⟩
    simp [contentOf, table, content, noView, snaps, List.find?_append, absent]

/-- The entries a successful `ApplyHunks` appends: the caller's copy, with the selected
hunks' entries after `AppliedHunks`, replaces the stored record. -/
def storeApplied (s : SuggestionWorld Tree) (sugg : Suggestion) (entries : List String) :
    SuggestionWorld Tree :=
  { s with suggestions := s.suggestions.map fun x =>
      if x.id = sugg.id then sugg.appendApplied entries else x }

/-- Every run of `ApplyHunks` returns before any write with the world unchanged, or finds
the target and its diffs and runs the patch step; that step fails, or `suggestionRepo.Update`
fails after it, or the copy with the new entries is stored. -/
theorem applyHunks_cases (s : SuggestionWorld Tree) (sugg : Suggestion) (hunkIDs : List String)
    (f : SuggestionFaults) :
    ((s.applyHunks engine parse sugg hunkIDs f).2 = s ∧
      ((s.applyHunks engine parse sugg hunkIDs f).1 = .ok () → hunkIDs = [])) ∨
    ∃ target d, s.getWorkspace f.getOriginal sugg.forWorkspaceID = .ok target ∧
      s.diffs engine parse sugg target f = .ok d ∧
      ((∃ p, s.applyToTarget engine target ((selectHunks hunkIDs d).map (·.1)) f =
          (.error p, (s.applyHunks engine parse sugg hunkIDs f).2) ∧
          (s.applyHunks engine parse sugg hunkIDs f).1 = .error p) ∨
        ∃ patched, s.applyToTarget engine target ((selectHunks hunkIDs d).map (·.1)) f = (.ok (), patched) ∧
          ((∃ e, f.update = some e ∧ s.applyHunks engine parse sugg hunkIDs f =
              (.error (.error (e.wrap "failed to update")), patched)) ∨
            s.applyHunks engine parse sugg hunkIDs f =
              (.ok (), patched.storeApplied sugg ((selectHunks hunkIDs d).map (·.2))))) := by
  unfold applyHunks
  by_cases empty : hunkIDs.isEmpty
  · exact .inl ⟨by simp [empty], fun _ => List.isEmpty_iff.mp empty⟩
  rw [if_neg empty]
  split
  · exact .inl ⟨rfl, fun ok => by cases ok⟩
  rename_i target got
  split
  · exact .inl ⟨rfl, fun ok => by cases ok⟩
  rename_i d diffed
  dsimp only
  refine .inr ⟨target, d, got, diffed, ?_⟩
  split
  · rename_i p after applied
    exact .inl ⟨p, applied, rfl⟩
  rename_i patched applied
  refine .inr ⟨patched, applied, ?_⟩
  cases fault : f.update with
  | some e => exact .inl ⟨e, rfl, by simp [update, fault]⟩
  | none => exact .inr (by simp [update, fault, storeApplied])

/-- A successful `ApplyHunks` found the target and its diffs, applied the selected patches
to the target's content, and stored the caller's copy of the suggestion with the selected
hunks' entries after `AppliedHunks`. -/
theorem applyHunks_ok {s : SuggestionWorld Tree} {sugg : Suggestion} {hunkIDs : List String}
    {f : SuggestionFaults} (fresh : ∀ snap ∈ s.snapshots, snap.id ≠ f.newSnapshotID)
    (selected : hunkIDs ≠ []) (ok : (s.applyHunks engine parse sugg hunkIDs f).1 = .ok ()) :
    ∃ target d C C', s.workspaces.lookup sugg.forWorkspaceID = some target ∧
      s.diffs engine parse sugg target f = .ok d ∧ s.content target = some C ∧
      engine.applyPatches ((selectHunks hunkIDs d).map (·.1)) C = .ok C' ∧
      (s.applyHunks engine parse sugg hunkIDs f).2.contentOf target.id = some C' ∧
      (s.applyHunks engine parse sugg hunkIDs f).2.suggestions =
        s.suggestions.map fun x =>
          if x.id = sugg.id then sugg.appendApplied ((selectHunks hunkIDs d).map (·.2)) else x := by
  rcases applyHunks_cases s sugg hunkIDs f with ⟨-, empty⟩ |
    ⟨target, d, got, diffed, ⟨p, -, failed⟩ | ⟨patched, applied, ⟨e, -, run⟩ | run⟩⟩
  · exact absurd (empty ok) selected
  · rw [failed] at ok; cases ok
  · rw [run] at ok; cases ok
  obtain ⟨-, stored, sameId⟩ := getWorkspace_ok got
  obtain ⟨C, C', content, patchesOk, after⟩ := applyToTarget_ok stored fresh applied
  have kept : patched.suggestions = s.suggestions := by
    rw [← (applyToTarget_frame s target ((selectHunks hunkIDs d).map (·.1)) f).1, applied]
  rw [run]
  exact ⟨target, d, C, C', sameId ▸ stored, diffed, content, patchesOk, after,
    by rw [storeApplied, kept]⟩

end SuggestionWorld

end Sturdy
