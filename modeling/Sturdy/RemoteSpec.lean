import Sturdy.Remote
import Sturdy.SuggestionSpec

namespace Sturdy

/-- No branch named `sturdy-...`, as `Push` and `CreateOrUpdatePullRequest` name theirs,
is the trunk. -/
theorem sturdy_dash_ne_trunk (s : String) : "sturdy-" ++ s ≠ "sturdytrunk" := fun same => by
  have := congrArg (fun t : String => t.data.get? 6) same
  simp at this

namespace RemoteWorld

/-- What a call keeps of the trunk world: every trunk tip, the workspace records, the
changes, activities and comments; the trunk object stores only grow. -/
structure TrunkKept (w w' : RemoteWorld) : Prop where
  trunkTip : w'.trunkTip = w.trunkTip
  workspaces : w'.workspaces = w.workspaces
  changes : w'.changes = w.changes
  activities : w'.activities = w.activities
  comments : w'.comments = w.comments
  objects : ∀ c, w.objects c <+: w'.objects c

theorem TrunkKept.refl (w : RemoteWorld) : TrunkKept w w :=
  ⟨rfl, rfl, rfl, rfl, rfl, fun _ => List.prefix_refl _⟩

theorem TrunkKept.trans {w₁ w₂ w₃ : RemoteWorld} (first : TrunkKept w₁ w₂)
    (second : TrunkKept w₂ w₃) : TrunkKept w₁ w₃ :=
  ⟨second.trunkTip.trans first.trunkTip, second.workspaces.trans first.workspaces,
    second.changes.trans first.changes, second.activities.trans first.activities,
    second.comments.trans first.comments, fun c => (first.objects c).trans (second.objects c)⟩

theorem TrunkKept.of_eq {w w' : RemoteWorld} (same : w'.toTrunkWorld = w.toTrunkWorld) :
    TrunkKept w w' :=
  ⟨congrArg (·.trunkTip) same, congrArg (·.workspaces) same, congrArg (·.changes) same,
    congrArg (·.activities) same, congrArg (·.comments) same,
    fun c => by simp only [show w'.objects = w.objects from congrArg (·.objects) same, List.prefix_refl]⟩

theorem publish_kept (w : RemoteWorld) (url branch sha : String) :
    TrunkKept w (w.publish url branch sha) := TrunkKept.of_eq rfl

@[simp] theorem publish_published (w : RemoteWorld) (url branch sha : String) :
    (w.publish url branch sha).published url branch = some sha := by
  simp [publish]

@[simp] theorem publish_commits (w : RemoteWorld) (url branch sha : String) :
    (w.publish url branch sha).commits = w.commits := rfl

theorem commitBranch_kept (w : RemoteWorld) {codebaseID name : String} (sha : String)
    (base : CommitBase) (notTrunk : name ≠ "sturdytrunk") :
    TrunkKept w (w.commitBranch codebaseID name sha base) := by
  unfold commitBranch
  rw [if_neg notTrunk]
  refine ⟨rfl, rfl, rfl, rfl, rfl, fun c => ?_⟩
  by_cases same : c = codebaseID
  · subst same; simp
  · simp [Function.update_noteq same]

theorem branchTip_commitBranch (w : RemoteWorld) {codebaseID name : String} (sha : String)
    (base : CommitBase) (notTrunk : name ≠ "sturdytrunk") :
    (w.commitBranch codebaseID name sha base).branchTip codebaseID name = some sha := by
  simp [commitBranch, branchTip, notTrunk]

@[simp] theorem commitBranch_commits (w : RemoteWorld) (codebaseID name sha : String)
    (base : CommitBase) : (w.commitBranch codebaseID name sha base).commits = w.commits ++ [(sha, base)] := by
  unfold commitBranch; split <;> rfl

/-- What the commit `PrepareBranchForPush` makes is built from: the latest snapshot's
commit when the workspace has no view, the tree of its view's patches otherwise. -/
def DraftBase (w : RemoteWorld) (ws : Workspace) (f : RemoteFaults) : CommitBase → Prop
  | .snapshot commitID => ws.viewID = none ∧
      ∃ snapshotID, ws.latestSnapshotID = some snapshotID ∧ w.snapshotCommits.lookup snapshotID = some commitID
  | .view viewID treeID => ws.viewID = some viewID ∧ f.changesTree = .ok (some treeID)

theorem viewStep_ok {f : RemoteFaults} {treeID : String} (ok : f.viewStep = .ok treeID) :
    f.changesTree = .ok (some treeID) := by
  unfold RemoteFaults.viewStep at ok
  split at ok
  · cases ok
  · cases ok
  · cases ok
  · split at ok <;> cases ok; assumption

/-- `PrepareBranchForPush` either fails and leaves the world as it was, or commits the
workspace's draft on the branch. -/
theorem prepareBranchForPush_cases (w : RemoteWorld) (name : String) (ws : Workspace)
    (f : RemoteFaults) :
    (∃ e, w.prepareBranchForPush name ws f = (.error e, w)) ∨
    ∃ base, w.DraftBase ws f base ∧ w.prepareBranchForPush name ws f =
      (.ok f.newCommitSHA, w.commitBranch ws.codebaseID name f.newCommitSHA base) := by
  unfold prepareBranchForPush
  split
  · rename_i snapshotID noView latest
    unfold prepareBranchForPullRequestFromSnapshot
    split
    · exact .inl ⟨_, rfl⟩
    · rename_i commitID found
      split
      · exact .inl ⟨_, rfl⟩
      · exact .inr ⟨.snapshot commitID, ⟨noView, snapshotID, latest, (fetch_ok found).2⟩, rfl⟩
  · rename_i viewID onView
    unfold prepareBranchForPullRequestWithView
    split
    · exact .inl ⟨_, rfl⟩
    · rename_i treeID stepped
      exact .inr ⟨.view viewID treeID, ⟨onView, viewStep_ok stepped⟩, rfl⟩
  · exact .inl ⟨_, rfl⟩

theorem pushWith_cases (w : RemoteWorld) (f : RemoteFaults) (codebaseID url src dst context : String) :
    (∃ e, w.pushWith f codebaseID url src dst context = (.error e, w)) ∨
    ∃ sha, w.branchTip codebaseID src = some sha ∧
      w.pushWith f codebaseID url src dst context = (.ok (), w.publish url dst sha) := by
  unfold pushWith pushBranch
  cases f.execPush with
  | some e => exact .inl ⟨_, rfl⟩
  | none =>
    cases f.pushRemote with
    | some e => exact .inl ⟨_, rfl⟩
    | none =>
      cases tip : w.branchTip codebaseID src with
      | none => exact .inl ⟨_, rfl⟩
      | some sha => exact .inr ⟨sha, rfl, rfl⟩

theorem getByCodebaseID_ok {w : RemoteWorld} {fault : Option String} {codebaseID : String}
    {rem : Remote} (ok : w.getByCodebaseID fault codebaseID = .ok rem) :
    w.remoteOf codebaseID = some rem :=
  (fetch_ok ok).2

/-- `Push` fails before the trunk is touched, or fails after committing the draft on
`sturdy-<id>`, or commits it and publishes it at the remote's URL under the same name. -/
theorem push_cases (w : RemoteWorld) (ws : Workspace) (f : RemoteFaults) :
    (∃ e, w.push ws f = (.error e, w)) ∨
    ∃ rem base, w.remoteOf ws.codebaseID = some rem ∧ w.DraftBase ws f base ∧
      ((∃ e, w.push ws f =
          (.error e, w.commitBranch ws.codebaseID ("sturdy-" ++ ws.id) f.newCommitSHA base)) ∨
        w.push ws f = (.ok (), (w.commitBranch ws.codebaseID ("sturdy-" ++ ws.id) f.newCommitSHA
          base).publish rem.url ("sturdy-" ++ ws.id) f.newCommitSHA)) := by
  unfold push
  split
  · exact .inl ⟨_, rfl⟩
  · rename_i rem found
    dsimp only
    rcases prepareBranchForPush_cases w ("sturdy-" ++ ws.id) ws f with ⟨e, failed⟩ | ⟨base, draft, prepared⟩
    · exact .inl ⟨e, by rw [failed]⟩
    · refine .inr ⟨rem, base, getByCodebaseID_ok found, draft, ?_⟩
      rw [prepared]
      rcases pushWith_cases (w.commitBranch ws.codebaseID ("sturdy-" ++ ws.id) f.newCommitSHA base) f
        ws.codebaseID rem.url ("sturdy-" ++ ws.id) ("sturdy-" ++ ws.id)
        "failed to push workspace to remote" with ⟨e, failed⟩ | ⟨sha, tip, pushed⟩
      · exact .inl ⟨e, failed⟩
      · rw [branchTip_commitBranch _ _ _ (sturdy_dash_ne_trunk ws.id)] at tip
        cases tip
        exact .inr pushed

theorem pushTrunk_cases (w : RemoteWorld) (codebaseID : String) (f : RemoteFaults) :
    (∃ e, w.pushTrunk codebaseID f = (.error e, w)) ∨
    ∃ rem, w.remoteOf codebaseID = some rem ∧
      w.pushTrunk codebaseID f = (.ok (), w.publish rem.url rem.trackedBranch (w.trunkTip codebaseID)) := by
  unfold pushTrunk
  split
  · exact .inl ⟨_, rfl⟩
  · rename_i rem found
    rcases pushWith_cases w f codebaseID rem.url "sturdytrunk" rem.trackedBranch
      "failed to push trunk to remote" with ⟨e, failed⟩ | ⟨sha, tip, pushed⟩
    · exact .inl ⟨e, failed⟩
    · simp only [branchTip, if_true, Option.some.injEq] at tip
      exact .inr ⟨rem, getByCodebaseID_ok found, tip ▸ pushed⟩

theorem push_kept (w : RemoteWorld) (ws : Workspace) (f : RemoteFaults) :
    TrunkKept w (w.push ws f).2 := by
  rcases push_cases w ws f with ⟨e, failed⟩ | ⟨rem, base, -, -, ⟨e, failed⟩ | pushed⟩
  · rw [failed]; exact TrunkKept.refl w
  · rw [failed]; exact commitBranch_kept w _ base (sturdy_dash_ne_trunk ws.id)
  · rw [pushed]; exact (commitBranch_kept w _ base (sturdy_dash_ne_trunk ws.id)).trans (publish_kept _ _ _ _)

theorem pushTrunk_kept (w : RemoteWorld) (codebaseID : String) (f : RemoteFaults) :
    TrunkKept w (w.pushTrunk codebaseID f).2 := by
  rcases pushTrunk_cases w codebaseID f with ⟨e, failed⟩ | ⟨rem, -, pushed⟩
  · rw [failed]; exact TrunkKept.refl w
  · rw [pushed]; exact publish_kept _ _ _ _

/-- A `Push` that returns nil has published, at the URL of the codebase's remote under
`sturdy-<id>`, a new commit built from the workspace's draft: its latest snapshot's commit
when it has no view, its view's patches otherwise. -/
theorem push_publishes {w : RemoteWorld} {ws : Workspace} {f : RemoteFaults}
    (ok : (w.push ws f).1 = .ok ()) :
    ∃ rem base, w.remoteOf ws.codebaseID = some rem ∧ w.DraftBase ws f base ∧
      (w.push ws f).2.published rem.url ("sturdy-" ++ ws.id) = some f.newCommitSHA ∧
      (f.newCommitSHA, base) ∈ (w.push ws f).2.commits := by
  rcases push_cases w ws f with ⟨e, failed⟩ | ⟨rem, base, found, draft, ⟨e, failed⟩ | pushed⟩
  · rw [failed] at ok; cases ok
  · rw [failed] at ok; cases ok
  · rw [pushed]
    exact ⟨rem, base, found, draft, by simp⟩

/-- A `PushTrunk` that returns nil has published the trunk tip as the remote's tracked
branch, and changed nothing else. -/
theorem pushTrunk_publishes {w : RemoteWorld} {codebaseID : String} {f : RemoteFaults}
    (ok : (w.pushTrunk codebaseID f).1 = .ok ()) :
    ∃ rem, w.remoteOf codebaseID = some rem ∧
      (w.pushTrunk codebaseID f).2 = w.publish rem.url rem.trackedBranch (w.trunkTip codebaseID) := by
  rcases pushTrunk_cases w codebaseID f with ⟨e, failed⟩ | ⟨rem, found, pushed⟩
  · rw [failed] at ok; cases ok
  · rw [pushed]; exact ⟨rem, found, rfl⟩

/-- Every path of `SetRemote`: an error with the world unchanged, an update of the stored
remote, or a new remote when the codebase has none. -/
theorem setRemote_cases (w : RemoteWorld) (codebaseID : String) (input : SetRemoteInput)
    (f : RemoteFaults) :
    (∃ e, w.setRemote codebaseID input f = (.error e, w)) ∨
    (∃ old, w.remoteOf codebaseID = some old ∧
      w.setRemote codebaseID input f = (.ok (old.setInput input), w.updateRemote (old.setInput input))) ∨
    (w.remoteOf codebaseID = none ∧
      w.setRemote codebaseID input f =
        (.ok (({ id := f.newRemoteID, codebaseID } : Remote).setInput input),
          { w with remotes := w.remotes ++ [({ id := f.newRemoteID, codebaseID } : Remote).setInput input] })) := by
  unfold setRemote getByCodebaseID fetch
  cases f.getRemote with
  | some message => exact .inl ⟨_, rfl⟩
  | none =>
    cases found : w.remoteOf codebaseID with
    | some old =>
      dsimp only [Option.map]
      split <;> first | exact .inl ⟨_, rfl⟩ | exact .inr (.inl ⟨old, rfl, rfl⟩)
    | none =>
      dsimp only [Option.map, errNoRows]
      rw [if_pos rfl]
      split <;> first | exact .inl ⟨_, rfl⟩ | exact .inr (.inr ⟨rfl, rfl⟩)

theorem setRemote_kept (w : RemoteWorld) (codebaseID : String) (input : SetRemoteInput)
    (f : RemoteFaults) : TrunkKept w (w.setRemote codebaseID input f).2 := by
  rcases setRemote_cases w codebaseID input f with ⟨e, set⟩ | ⟨old, -, set⟩ | ⟨-, set⟩ <;>
    rw [set] <;> exact TrunkKept.of_eq rfl

end RemoteWorld

theorem RemoteOp.apply_kept (w : RemoteWorld) : ∀ op, RemoteWorld.TrunkKept w (RemoteOp.apply w op)
  | .setRemote codebaseID input f => RemoteWorld.setRemote_kept w codebaseID input f
  | .push ws f => RemoteWorld.push_kept w ws f
  | .pushTrunk codebaseID f => RemoteWorld.pushTrunk_kept w codebaseID f

/-- No sequence of `SetRemote`, `Push` and `PushTrunk` calls, whatever each returns, moves
a trunk tip or changes a workspace record: unlike `Pull` and `mergePullRequest`, they have
no `UpToDateWithTrunk` to unset. -/
theorem RemoteOp.run_kept (w : RemoteWorld) (ops : List RemoteOp) :
    RemoteWorld.TrunkKept w (RemoteOp.run w ops) := by
  induction ops generalizing w with
  | nil => exact RemoteWorld.TrunkKept.refl w
  | cons op ops ih => exact (RemoteOp.apply_kept w op).trans (ih _)

end Sturdy
