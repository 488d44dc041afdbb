import Sturdy.SuggestionSpec

namespace Sturdy

namespace SuggestionWorld

variable {Tree : Type} {engine : PatchEngine Tree} {parse : String → Except Err HunkPos}

/-- Every run of `RemovePatches` leaves the world as it was, or removes the patches on the
suggesting workspace's view and then runs the snapshotter, whose outcome it returns. -/
theorem removePatches_cases (s : SuggestionWorld Tree) (sugg : Suggestion) (patchIDs : List String)
    (f : SuggestionFaults) :
    (s.removePatches engine parse sugg patchIDs f).2 = s ∨
    ∃ ws v t, s.getWorkspace f.getWorkspace sugg.workspaceID = .ok ws ∧ ws.viewID = some v ∧
      ((∃ e, ({ s with views := Function.update s.views v t } : SuggestionWorld Tree).snapshot
          f.snapshot f.markLatest f.newSnapshotID ws.id t = (.error e, (s.removePatches engine parse sugg patchIDs f).2)) ∨
       ({ s with views := Function.update s.views v t } : SuggestionWorld Tree).snapshot
          f.snapshot f.markLatest f.newSnapshotID ws.id t = (.ok (), (s.removePatches engine parse sugg patchIDs f).2) ∧
        (s.removePatches engine parse sugg patchIDs f).1 = .ok ()) := by
  unfold removePatches
  by_cases empty : patchIDs.isEmpty
  · exact .inl (by simp [empty])
  rw [if_neg empty]
  split
  · exact .inl rfl
  rename_i ws got
  split
  · exact .inl rfl
  split
  · rename_i v view
    split
    · exact .inl rfl
    split
    · exact .inl rfl
    rename_i t removed
    dsimp only
    split
    · exact .inr ⟨ws, v, t, got, view, .inl ⟨_, ‹_›⟩⟩
    · exact .inr ⟨ws, v, t, got, view, .inr ⟨‹_›, rfl⟩⟩
  · repeat' split
    all_goals exact .inl rfl

theorem lookup_create_ne {m : Memory} {w : Workspace} {id : String} (other : w.id ≠ id) :
    (m.create w).lookup id = m.lookup id := by
  simp [Memory.create, Memory.lookup, List.find?_append, other]

theorem createFromWorkspace_ok {s s' : SuggestionWorld Tree} {source : Workspace}
    {userID name : String} {f : SuggestionFaults} {ws : Workspace}
    (created : s.createFromWorkspace source userID name f = .ok (ws, s')) :
    ws.id = f.newWorkspaceID ∧ s' = { s with workspaces := s.workspaces.create ws } := by
  unfold createFromWorkspace at created
  split at created
  · cases created
  · cases created; exact ⟨rfl, rfl⟩

/-- The workspace `CreateFromWorkspace` inserts has no view and the source's latest snapshot. -/
theorem createFromWorkspace_record {s s' : SuggestionWorld Tree} {source : Workspace}
    {userID name : String} {f : SuggestionFaults} {ws : Workspace}
    (created : s.createFromWorkspace source userID name f = .ok (ws, s')) :
    ws.viewID = none ∧ ws.latestSnapshotID = source.latestSnapshotID := by
  unfold createFromWorkspace at created
  split at created
  · cases created
  · cases created; exact ⟨rfl, rfl⟩

/-- `CopyPatches` fails before any write, or is the snapshotter on the new workspace. -/
theorem copyPatches_cases (s : SuggestionWorld Tree) (dst src : Workspace) (f : SuggestionFaults) :
    (s.copyPatches dst src f).2 = s ∨ ∃ t, s.copyPatches dst src f = s.snapshot none none f.newSnapshotID dst.id t := by
  unfold copyPatches
  split
  · exact .inl rfl
  split
  · exact .inl rfl
  · exact .inr ⟨_, rfl⟩

theorem copyPatches_ok {s s' : SuggestionWorld Tree} {dst src : Workspace} {f : SuggestionFaults}
    (copied : s.copyPatches dst src f = (.ok (), s')) :
    ∃ t, s.snapshot none none f.newSnapshotID dst.id t = (.ok (), s') := by
  unfold copyPatches at copied
  split at copied
  · cases copied
  split at copied
  · cases copied
  · exact ⟨_, copied⟩

/-- Whatever its outcome, `CopyPatches` leaves the views, the suggestions and the
notifications alone, only appends snapshots, and changes no workspace record but `dst`'s. -/
theorem copyPatches_frame (s : SuggestionWorld Tree) (dst src : Workspace) (f : SuggestionFaults) :
    (s.copyPatches dst src f).2.views = s.views ∧ (s.copyPatches dst src f).2.suggestions = s.suggestions ∧
      (s.copyPatches dst src f).2.notifications = s.notifications ∧
      (∃ extra, (s.copyPatches dst src f).2.snapshots = s.snapshots ++ extra) ∧
      ∀ id, id ≠ dst.id → (s.copyPatches dst src f).2.workspaces.lookup id = s.workspaces.lookup id := by
  rcases copyPatches_cases s dst src f with same | ⟨t, taken⟩
  · rw [same]; exact ⟨rfl, rfl, rfl, ⟨[], (List.append_nil _).symm⟩, fun _ _ => rfl⟩
  · rw [taken]; exact snapshot_frame s none none f.newSnapshotID dst.id t

/-- Every run of `Create` stops before any write, or inserts a workspace with no view and
the target's latest snapshot, then runs `CopyPatches` on it, then may store a new suggestion
of it for the target's latest snapshot, with empty ledgers and `NotifiedAt` unset, and
return it. -/
theorem create_cases (s : SuggestionWorld Tree) (userID : String) (forWorkspace : Workspace) (f : SuggestionFaults) :
    (s.create userID forWorkspace f).2 = s ∨
    ∃ forSnapshotID ws, forWorkspace.latestSnapshotID = some forSnapshotID ∧ ws.id = f.newWorkspaceID ∧
      ws.viewID = none ∧ ws.latestSnapshotID = some forSnapshotID ∧
      ((s.create userID forWorkspace f).2 = { s with workspaces := s.workspaces.create ws } ∨
        ∃ copied, (({ s with workspaces := s.workspaces.create ws } : SuggestionWorld Tree).copyPatches ws
            forWorkspace f).2 = copied ∧
          ((s.create userID forWorkspace f).2 = copied ∨
            ∃ sugg : Suggestion, sugg.id = f.newSuggestionID ∧ sugg.workspaceID = ws.id ∧
              sugg.forWorkspaceID = forWorkspace.id ∧ sugg.forSnapshotID = forSnapshotID ∧
              sugg.appliedHunks = [] ∧ sugg.dismissedHunks = [] ∧ sugg.notifiedAt = none ∧
              s.create userID forWorkspace f = (.ok sugg, { copied with suggestions := copied.suggestions ++ [sugg] }))) := by
  unfold SuggestionWorld.create
  split
  · exact .inl rfl
  next forSnapshotID latest =>
  dsimp only
  split
  · exact .inl rfl
  next ws created made =>
  obtain ⟨noView, sameLatest⟩ := createFromWorkspace_record made
  obtain ⟨newID, rfl⟩ := createFromWorkspace_ok made
  refine .inr ⟨forSnapshotID, ws, latest, newID, noView, sameLatest.trans latest, ?_⟩
  split
  · next after copied => exact .inr ⟨after, by rw [copied], .inl rfl⟩
  next copied copiedOk =>
  refine .inr ⟨copied, by rw [copiedOk], ?_⟩
  split
  · exact .inl rfl
  · exact .inr ⟨_, rfl, rfl, rfl, rfl, rfl, rfl, rfl, rfl⟩

end SuggestionWorld

end Sturdy
