import Sturdy.RemoteSpec

namespace Sturdy

namespace RemoteWorld

/-- The remote rows have distinct ids, and no codebase has two. -/
structure RemotesDistinct (w : RemoteWorld) : Prop where
  ids : (w.remotes.map (·.id)).Nodup
  codebases : (w.remotes.map (·.codebaseID)).Nodup

theorem remoteOf_eq_some {w : RemoteWorld} {codebaseID : String} {r : Remote}
    (found : w.remoteOf codebaseID = some r) :
    r.codebaseID = codebaseID ∧ ∃ before after, w.remotes = before ++ r :: after ∧
      ∀ x ∈ before, x.codebaseID ≠ codebaseID := by
  obtain ⟨matching, before, after, rows, earlier⟩ := List.find?_eq_some.mp found
  exact ⟨by simpa using matching, before, after, rows, fun x member => by simpa using earlier x member⟩

theorem remoteOf_eq_none {w : RemoteWorld} {codebaseID : String} :
    w.remoteOf codebaseID = none ↔ codebaseID ∉ w.remotes.map (·.codebaseID) := by
  simp [remoteOf]

/-- With distinct ids, `Update` overwrites exactly the row it was read from. -/
theorem updateRemote_remotes {w : RemoteWorld} {before after : List Remote} {old rep : Remote}
    (ids : (w.remotes.map (·.id)).Nodup) (rows : w.remotes = before ++ old :: after)
    (sameID : rep.id = old.id) : (w.updateRemote rep).remotes = before ++ rep :: after := by
  rw [rows] at ids
  simp only [List.map_append, List.map_cons, List.nodup_append, List.nodup_cons,
    List.disjoint_cons_right] at ids
  have untouched : ∀ l : List Remote, old.id ∉ l.map (·.id) →
      l.map (fun r => if r.id = rep.id then rep else r) = l := fun l absent =>
    (List.map_congr_left fun r member => if_neg fun same =>
      absent (List.mem_map.mpr ⟨r, member, same.trans sameID⟩)).trans (List.map_id' l)
  simp only [updateRemote, rows, List.map_append, List.map_cons, if_pos sameID.symm,
    untouched after ids.2.1.1, untouched before ids.2.2.1]

/-- The remote of a codebase in rows split around `x`, where no earlier row shares `x`'s
codebase. -/
theorem find?_codebase_middle {before after : List Remote} {x : Remote} (c : String)
    (earlier : ∀ y ∈ before, y.codebaseID ≠ x.codebaseID) :
    (before ++ x :: after).find? (·.codebaseID == c) =
      if x.codebaseID = c then some x else (before ++ after).find? (·.codebaseID == c) := by
  by_cases same : x.codebaseID = c
  · subst same
    rw [if_pos rfl, List.find?_append, List.find?_eq_none.mpr fun y member => by simpa using earlier y member]
    simp
  · simp [List.find?_append, List.find?_cons, same]

/-- `SetRemote` refines a map from codebase to remote: a call that returns a remote has
stored it as the codebase's remote, built from the input, and no other codebase's remote
changed. -/
theorem setRemote_remoteOf {w : RemoteWorld} {codebaseID : String} {input : SetRemoteInput}
    {f : RemoteFaults} {r : Remote} (ids : (w.remotes.map (·.id)).Nodup)
    (ok : (w.setRemote codebaseID input f).1 = .ok r) :
    (w.setRemote codebaseID input f).2.remoteOf = Function.update w.remoteOf codebaseID (some r) ∧
      r = ({ id := r.id, codebaseID } : Remote).setInput input := by
  rcases setRemote_cases w codebaseID input f with ⟨e, set⟩ | ⟨old, found, set⟩ | ⟨absent, set⟩ <;>
    rw [set] at ok ⊢ <;> cases ok
  · obtain ⟨oldCodebase, before, after, rows, earlier⟩ := remoteOf_eq_some found
    have stored : (w.updateRemote (old.setInput input)).remotes = before ++ old.setInput input :: after :=
      updateRemote_remotes ids rows rfl
    refine ⟨funext fun c => ?_, by cases old; subst oldCodebase; rfl⟩
    have earlier : ∀ y ∈ before, y.codebaseID ≠ old.codebaseID := oldCodebase ▸ earlier
    have unchanged : w.remoteOf c =
        if old.codebaseID = c then some old else (before ++ after).find? (·.codebaseID == c) := by
      rw [remoteOf, rows]; exact find?_codebase_middle c earlier
    change (w.updateRemote (old.setInput input)).remotes.find? (·.codebaseID == c) = _
    rw [stored, @find?_codebase_middle before after (old.setInput input) c earlier,
      Function.update_apply, unchanged]
    by_cases same : c = codebaseID
    · simp [same, oldCodebase, Remote.setInput]
    · simp [same, Ne.symm same, oldCodebase, Remote.setInput]
  · have none : w.remotes.find? (·.codebaseID == codebaseID) = none := absent
    refine ⟨funext fun c => ?_, rfl⟩
    by_cases same : c = codebaseID
    · subst same; simp [remoteOf, List.find?_append, none, Remote.setInput]
    · simp [remoteOf, List.find?_append, Function.update_noteq same, Remote.setInput, Ne.symm same]

/-- `SetRemote` keeps the rows distinct when the id it draws for a new remote is fresh. -/
theorem setRemote_distinct {w : RemoteWorld} {codebaseID : String} {input : SetRemoteInput}
    {f : RemoteFaults} (distinct : w.RemotesDistinct) (fresh : ∀ x ∈ w.remotes, x.id ≠ f.newRemoteID) :
    (w.setRemote codebaseID input f).2.RemotesDistinct := by
  rcases setRemote_cases w codebaseID input f with ⟨e, set⟩ | ⟨old, found, set⟩ | ⟨absent, set⟩ <;>
    rw [set]
  · exact distinct
  · obtain ⟨oldCodebase, before, after, rows, -⟩ := remoteOf_eq_some found
    have stored : (w.updateRemote (old.setInput input)).remotes = before ++ old.setInput input :: after :=
      updateRemote_remotes distinct.ids rows rfl
    constructor
    · rw [stored]; simpa [rows, Remote.setInput] using distinct.ids
    · rw [stored]; simpa [rows, Remote.setInput] using distinct.codebases
  · constructor
    · simp only [List.map_append, List.map_singleton]
      exact distinct.ids.append (List.nodup_singleton _) (List.disjoint_singleton.mpr fun member =>
        let ⟨x, inRemotes, same⟩ := List.mem_map.mp member; fresh x inRemotes same)
    · simp only [List.map_append, List.map_singleton]
      exact distinct.codebases.append (List.nodup_singleton _)
        (List.disjoint_singleton.mpr (remoteOf_eq_none.mp absent))

end RemoteWorld

/-- After `SetRemote` stores a codebase's remote, a `Push` of one of its workspaces that
returns nil publishes the workspace's branch at the URL that was set. -/
theorem push_after_setRemote {w : RemoteWorld} {ws : Workspace} {input : SetRemoteInput}
    {f₁ f₂ : RemoteFaults} {r : Remote} (ids : (w.remotes.map (·.id)).Nodup)
    (set : (w.setRemote ws.codebaseID input f₁).1 = .ok r)
    (pushed : ((w.setRemote ws.codebaseID input f₁).2.push ws f₂).1 = .ok ()) :
    ((w.setRemote ws.codebaseID input f₁).2.push ws f₂).2.published input.url ("sturdy-" ++ ws.id) =
      some f₂.newCommitSHA := by
  obtain ⟨stored, shape⟩ := RemoteWorld.setRemote_remoteOf ids set
  obtain ⟨rem, -, found, -, published, -⟩ := RemoteWorld.push_publishes pushed
  rw [stored, Function.update_same] at found
  cases found
  rw [shape] at published
  exact published

theorem setRemote_then_push_publishes :
    let w : RemoteWorld := { snapshotCommits := [("s1", "c1")] }
    let ws : Workspace := { id := "w", codebaseID := "c", latestSnapshotID := some "s1" }
    (w.setRemote "c" { url := "u" } {}).1 = .ok (({ id := "remote", codebaseID := "c" } : Remote).setInput { url := "u" }) ∧
      ((w.setRemote "c" { url := "u" } {}).2.push ws {}).1 = .ok () ∧
      ((w.setRemote "c" { url := "u" } {}).2.push ws {}).2.published "u" "sturdy-w" = some "commit" := by
  intro w ws
  have set : (w.setRemote ws.codebaseID { url := "u" } {}).1 =
      .ok (({ id := "remote", codebaseID := "c" } : Remote).setInput { url := "u" }) := rfl
  have pushed : ((w.setRemote ws.codebaseID { url := "u" } {}).2.push ws {}).1 = .ok () := rfl
  have ids : (w.remotes.map (·.id)).Nodup := List.nodup_nil
  exact ⟨set, pushed, push_after_setRemote ids set pushed⟩

namespace RemoteWorld

theorem RemotesDistinct.of_remotes {w w' : RemoteWorld} (same : w'.remotes = w.remotes)
    (distinct : w.RemotesDistinct) : w'.RemotesDistinct :=
  ⟨same ▸ distinct.ids, same ▸ distinct.codebases⟩

@[simp] theorem commitBranch_remotes (w : RemoteWorld) (codebaseID name sha : String)
    (base : CommitBase) : (w.commitBranch codebaseID name sha base).remotes = w.remotes := by
  unfold commitBranch; split <;> rfl

@[simp] theorem publish_remotes (w : RemoteWorld) (url branch sha : String) :
    (w.publish url branch sha).remotes = w.remotes := rfl

theorem push_remotes (w : RemoteWorld) (ws : Workspace) (f : RemoteFaults) :
    (w.push ws f).2.remotes = w.remotes := by
  rcases push_cases w ws f with ⟨e, failed⟩ | ⟨rem, base, -, -, ⟨e, failed⟩ | pushed⟩
  · rw [failed]
  · rw [failed, commitBranch_remotes]
  · rw [pushed, publish_remotes, commitBranch_remotes]

theorem pushTrunk_remotes (w : RemoteWorld) (codebaseID : String) (f : RemoteFaults) :
    (w.pushTrunk codebaseID f).2.remotes = w.remotes := by
  rcases pushTrunk_cases w codebaseID f with ⟨e, failed⟩ | ⟨rem, -, pushed⟩
  · rw [failed]
  · rw [pushed, publish_remotes]

end RemoteWorld

/-- The id a `SetRemote` call draws for a new remote names no stored row. -/
def RemoteOp.Fresh (w : RemoteWorld) : RemoteOp → Prop
  | .setRemote _ _ f => ∀ x ∈ w.remotes, x.id ≠ f.newRemoteID
  | _ => True

/-- Every `SetRemote` of a sequence of calls draws a fresh id, each in the world its
predecessors left. -/
def RemoteOp.FreshRun : RemoteWorld → List RemoteOp → Prop
  | _, [] => True
  | w, op :: ops => op.Fresh w ∧ RemoteOp.FreshRun (op.apply w) ops

theorem RemoteOp.apply_distinct {w : RemoteWorld} (distinct : w.RemotesDistinct) :
    ∀ {op : RemoteOp}, op.Fresh w → (op.apply w).RemotesDistinct
  | .setRemote _ _ _, fresh => RemoteWorld.setRemote_distinct distinct fresh
  | .push ws f, _ => distinct.of_remotes (RemoteWorld.push_remotes w ws f)
  | .pushTrunk codebaseID f, _ => distinct.of_remotes (RemoteWorld.pushTrunk_remotes w codebaseID f)

/-- Over every sequence of `SetRemote`, `Push` and `PushTrunk` calls, whatever each returns,
in which `SetRemote` draws ids no row has, the remote rows keep distinct ids and no codebase
gets a second remote: `GetByCodebaseID` keeps naming the one row of the codebase. -/
theorem RemoteOp.run_distinct (w : RemoteWorld) (ops : List RemoteOp) (distinct : w.RemotesDistinct)
    (fresh : RemoteOp.FreshRun w ops) : (RemoteOp.run w ops).RemotesDistinct := by
  induction ops generalizing w with
  | nil => exact distinct
  | cons op ops ih => exact ih (op.apply w) (RemoteOp.apply_distinct distinct fresh.1) fresh.2

/-- Two codebases given remotes, a push, and the first remote set again. -/
theorem setRemote_push_setRemote_keep_rows_distinct :
    let ws : Workspace := { id := "w", codebaseID := "c", latestSnapshotID := some "s1" }
    let w : RemoteWorld := { snapshotCommits := [("s1", "c1")] }
    let ops := [RemoteOp.setRemote "c" { url := "u" } {}, .push ws {},
      .setRemote "d" { url := "x" } { newRemoteID := "r2" }, .setRemote "c" { url := "v" } { newRemoteID := "r3" }]
    w.RemotesDistinct ∧ RemoteOp.FreshRun w ops ∧ (RemoteOp.run w ops).RemotesDistinct := by
  intro ws w ops
  have distinct : w.RemotesDistinct := ⟨List.nodup_nil, List.nodup_nil⟩
  have fresh : RemoteOp.FreshRun w ops := by
    simp only [ops, RemoteOp.FreshRun, RemoteOp.Fresh]
    decide
  exact ⟨distinct, fresh, RemoteOp.run_distinct w ops distinct fresh⟩

end Sturdy
