import Sturdy.MergeLanded

namespace Sturdy

/-- Every sequence of `mergePullRequest` runs, each failing wherever its collaborators make
it fail, keeps every workspace with a `ChangeID` landed. -/
theorem TrunkWorld.mergeRuns_inv {w : TrunkWorld} (inv : w.Inv)
    (runs : List (MergeRequest × MergeFaults)) : (mergeRuns w runs).Inv := by
  induction runs generalizing w with
  | nil => exact inv
  | cons run rest ih => exact ih (TrunkWorld.mergePullRequest_inv inv run.1 run.2)

/-- After any sequence of earlier runs, a run that returns nil lands the workspace, unless
it stopped at the `Merging` check, or at `ErrAlreadyExists` for a change of the merge commit
that an earlier run recorded while the workspace had no `ChangeID`. -/
theorem mergeRuns_landed (w : TrunkWorld) (inv : w.Inv)
    (earlier : List (MergeRequest × MergeFaults)) (pr : MergeRequest) (f : MergeFaults)
    (ok : (mergePullRequest (mergeRuns w earlier) pr f).1 = .ok ())
    (notMerging : pr.state ≠ .merging)
    (notRecorded : (∀ ch ∈ (mergeRuns w earlier).changes, ch.commitSHA ≠ pr.mergeCommitSHA) ∨
      ∃ x, (mergeRuns w earlier).workspaces.lookup pr.workspaceID = some x ∧ x.changeID.isSome) :
    (mergePullRequest (mergeRuns w earlier) pr f).2.LandedWorkspace pr.workspaceID :=
  TrunkWorld.mergePullRequest_landed (TrunkWorld.mergeRuns_inv inv earlier) ok notMerging notRecorded

theorem mergeRuns_landed_first_run :
    (mergePullRequest { workspaces := ⟨[{ id := "w", codebaseID := "c" }]⟩ }
      ⟨.merged, "w", "c", "m", "b"⟩ {}).2.LandedWorkspace "w" :=
  mergeRuns_landed { workspaces := ⟨[{ id := "w", codebaseID := "c" }]⟩ }
    (fun x member ch set => by simp only [List.mem_singleton] at member; subst member; cases set)
    [] ⟨.merged, "w", "c", "m", "b"⟩ {} rfl (by decide) (.inl (by simp [mergeRuns]))

/-- A first run records the change and then fails at
`UnsetUpToDateWithTrunkForAllInCodebase`; the retry stops at `ErrAlreadyExists` and returns
nil, and the workspace has no `ChangeID`. -/
theorem retry_after_failed_landing_returns_unlanded :
    let w : TrunkWorld := { workspaces := ⟨[{ id := "w", codebaseID := "c" }]⟩ }
    let pr : MergeRequest := ⟨.merged, "w", "c", "m", "b"⟩
    let first := mergePullRequest w pr { unset := some (Err.new "db") }
    let retry := mergePullRequest first.2 pr {}
    first.1.toBool = false ∧ retry.1.toBool = true ∧
      (retry.2.workspaces.lookup "w").map (·.changeID) = some none := by
  decide

end Sturdy
