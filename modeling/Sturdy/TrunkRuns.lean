import Sturdy.Merge
import Sturdy.RemoteSpec

namespace Sturdy

namespace TrunkWorld

theorem fetchIntoTrunk_trunkTip_other (w : TrunkWorld) {codebaseID c : String} (fetched : Fetched)
    (other : c ≠ codebaseID) : (w.fetchIntoTrunk codebaseID fetched).trunkTip c = w.trunkTip c :=
  Function.update_noteq other _ _

theorem pullFromGitHubIfCommitNotExists_trunkTip_other (w : TrunkWorld) {codebaseID c : String}
    (commitShas : List String) (f : MergeFaults) (other : c ≠ codebaseID) :
    (w.pullFromGitHubIfCommitNotExists codebaseID commitShas f).2.trunkTip c = w.trunkTip c := by
  unfold pullFromGitHubIfCommitNotExists
  split
  · rfl
  split
  · rfl
  split
  · rfl
  · exact fetchIntoTrunk_trunkTip_other w _ other

theorem createWithCommitAsParent_trunkTip (w : TrunkWorld) (ws : Workspace) (commitSHA : String)
    (f : MergeFaults) : (w.createWithCommitAsParent ws commitSHA f).2.trunkTip = w.trunkTip := by
  unfold createWithCommitAsParent
  split
  · rfl
  split <;> rfl

theorem archiveWithChange_trunkTip {w w' : TrunkWorld} {ws : Workspace} {ch : Change} {f : MergeFaults}
    (archived : w.archiveWithChange ws ch f = .ok w') : w'.trunkTip = w.trunkTip := by
  unfold archiveWithChange at archived
  split at archived
  · cases archived
  split at archived <;> cases archived
  rfl

theorem landChange_trunkTip (w : TrunkWorld) (ws : Workspace) (ch : Change) (f : MergeFaults) :
    (w.landChange ws ch f).2.trunkTip = w.trunkTip := by
  unfold landChange
  dsimp only
  repeat' split
  all_goals try rfl
  rename_i archived
  have kept := archiveWithChange_trunkTip archived
  exact kept

end TrunkWorld

/-- A run of `mergePullRequest` moves no trunk but its pull request's codebase's. -/
theorem mergePullRequest_trunkTip_other (w : TrunkWorld) (pr : MergeRequest) (f : MergeFaults)
    {c : String} (other : c ≠ pr.codebaseID) :
    (mergePullRequest w pr f).2.trunkTip c = w.trunkTip c := by
  unfold mergePullRequest
  split
  · rfl
  split
  · rfl
  rename_i ws _
  split
  · rfl
  have pulled := TrunkWorld.pullFromGitHubIfCommitNotExists_trunkTip_other w
    [pr.mergeCommitSHA, pr.baseSHA] f other
  split
  · rename_i fetched
    rwa [fetched] at pulled
  rename_i w₁ fetched
  rw [fetched] at pulled
  have created := TrunkWorld.createWithCommitAsParent_trunkTip w₁ ws pr.mergeCommitSHA f
  split
  · rename_i creation
    rw [creation] at created
    split <;> exact (congrFun created c).trans pulled
  · rename_i creation
    rw [creation] at created
    rw [TrunkWorld.landChange_trunkTip]
    exact (congrFun created c).trans pulled

theorem pull_trunkTip_other (w : TrunkWorld) {codebaseID c : String} (fetched : Fetched)
    (faults : PullFaults) (other : c ≠ codebaseID) :
    (pull w codebaseID fetched faults).2.trunkTip c = w.trunkTip c := by
  unfold pull
  repeat' split
  all_goals first | rfl | exact TrunkWorld.fetchIntoTrunk_trunkTip_other w fetched other

/-- A call of the modelled code that reads or writes the trunk world: `Pull`,
`mergePullRequest`, or a call of the remote integration. -/
inductive TrunkOp where
  | pull (codebaseID : String) (fetched : Fetched) (faults : PullFaults)
  | merge (pr : MergeRequest) (f : MergeFaults)
  | remote (op : RemoteOp)

def TrunkOp.apply (w : RemoteWorld) : TrunkOp → RemoteWorld
  | .pull codebaseID fetched faults => { w with toTrunkWorld := (Sturdy.pull w.toTrunkWorld codebaseID fetched faults).2 }
  | .merge pr f => { w with toTrunkWorld := (mergePullRequest w.toTrunkWorld pr f).2 }
  | .remote op => RemoteOp.apply w op

/-- The codebase whose trunk a call may fetch into. -/
def TrunkOp.fetchesInto : TrunkOp → Option String
  | .pull codebaseID _ _ => some codebaseID
  | .merge pr _ => some pr.codebaseID
  | .remote _ => none

def TrunkOp.run (w : RemoteWorld) (ops : List TrunkOp) : RemoteWorld := ops.foldl TrunkOp.apply w

theorem TrunkOp.apply_trunkTip_other (w : RemoteWorld) (op : TrunkOp) {c : String}
    (other : op.fetchesInto ≠ some c) : (op.apply w).trunkTip c = w.trunkTip c := by
  cases op with
  | pull codebaseID fetched faults =>
    exact pull_trunkTip_other _ fetched faults fun same => other (congrArg some same.symm)
  | merge pr f => exact mergePullRequest_trunkTip_other _ pr f fun same => other (congrArg some same.symm)
  | remote op => exact congrFun (RemoteOp.apply_kept w op).trunkTip c

/-- Over any run of the modelled calls, whatever each returns, a codebase's trunk tip moves
only if the run holds a `Pull` of that codebase or a `mergePullRequest` of one of its pull
requests: the remote integration never moves it. -/
theorem TrunkOp.run_trunkTip_moved (w : RemoteWorld) (ops : List TrunkOp) {c : String}
    (moved : (TrunkOp.run w ops).trunkTip c ≠ w.trunkTip c) : ∃ op ∈ ops, op.fetchesInto = some c := by
  induction ops generalizing w with
  | nil => exact absurd rfl moved
  | cons op ops ih =>
    by_cases fetches : op.fetchesInto = some c
    · exact ⟨op, List.mem_cons_self _ _, fetches⟩
    · obtain ⟨op', member, into⟩ := ih (op.apply w) fun same =>
        moved (same.trans (TrunkOp.apply_trunkTip_other w op fetches))
      exact ⟨op', List.mem_cons_of_mem _ member, into⟩

/-- A `PushTrunk` without a remote, then a `Pull` of codebase `c`, which moves `c`'s trunk. -/
theorem pull_moves_trunk_of_its_codebase :
    let w : RemoteWorld := {}
    let ops := [TrunkOp.remote (.pushTrunk "c" {}), .pull "c" ⟨"tip", ["tip"]⟩ {}]
    (TrunkOp.run w ops).trunkTip "c" ≠ w.trunkTip "c" ∧ ∃ op ∈ ops, op.fetchesInto = some "c" := by
  intro w ops
  have moved : (TrunkOp.run w ops).trunkTip "c" ≠ w.trunkTip "c" := by decide
  exact ⟨moved, TrunkOp.run_trunkTip_moved w ops moved⟩

end Sturdy
