import Sturdy.PullRequest

namespace Sturdy

namespace PullRequestM

section Run

variable {α β : Type} (l : List Effect)

@[simp] theorem run_pure_bind (a : α) (f : α → PullRequestM β) :
    ((pure a : PullRequestM α) >>= f).run l = (f a).run l := rfl

@[simp] theorem run_throw_bind (e : Err) (f : α → PullRequestM β) :
    ((throw e : PullRequestM α) >>= f).run l = (.error e, l) := rfl

@[simp] theorem run_emit_bind (e : Effect) (f : Unit → PullRequestM β) :
    (emit e >>= f).run l = (f ()).run (l ++ [e]) := rfl

@[simp] theorem run_orThrow_bind (ctx : Option String) (x : Except Err α) (f : α → PullRequestM β) :
    (orThrow ctx x >>= f).run l = match x with
      | .ok a => (f a).run l
      | .error e => (.error (match ctx with | some c => e.wrap c | none => e), l) := by
  cases x <;> rfl

end Run

end PullRequestM

/-- The branch logic only ever updates an open pull request that is not from a fork: the
primary one of the workspace. -/
theorem remoteBranchPlan_update {prBranch : String} {existing : Except Err PullRequest}
    {plan : String × Option PullRequest} {pr : PullRequest}
    (planned : remoteBranchPlan prBranch existing = .ok plan) (update : plan.2 = some pr) :
    existing = .ok pr ∧ pr.state = .open ∧ pr.fork = false := by
  unfold remoteBranchPlan at planned
  split at planned
  · split at planned <;> cases planned
    cases update
  · rename_i found
    split at planned
    · rename_i opened
      cases planned
      cases fork : found.fork <;> simp [fork] at update
      exact ⟨congrArg Except.ok update, update ▸ opened, update ▸ fork⟩
    · cases planned
      cases update

/-- What a run of `CreateOrUpdatePullRequest` logs from the force push of its branch on. -/
inductive BranchLog (prBranch : String) : List Effect → Prop
  | pushed (remote : String) (failed : Bool) :
      BranchLog prBranch [.forcePush prBranch remote, .recordPush failed]
  | created (remote : String) :
      BranchLog prBranch [.forcePush prBranch remote, .recordPush false, .createPullRequest prBranch]
  | edited (remote : String) (number : Int) :
      BranchLog prBranch [.forcePush prBranch remote, .recordPush false, .editPullRequest number]

/-- The effect logs of the push protocol of `CreateOrUpdatePullRequest`: the trunk is pushed
only before the branch, and a failed trunk push is recorded and ends the run; the force push
of the branch is followed by the record of its outcome; GitHub is asked to create or edit a
pull request only after the force push was recorded as successful, and at most once. -/
inductive PushLog (prBranch : String) : List Effect → Prop
  | none : PushLog prBranch []
  | trunkFailed (branch : String) : PushLog prBranch [.pushTrunk branch, .recordPush true]
  | afterTrunk (branch : String) {log : List Effect} :
      BranchLog prBranch log → PushLog prBranch (.pushTrunk branch :: log)
  | branch {log : List Effect} : BranchLog prBranch log → PushLog prBranch log

section Protocol

open PullRequestM

/-- Every run of `CreateOrUpdatePullRequest`, wherever it fails, follows the push protocol on
the branch `sturdy-pr-<id>`. -/
theorem createOrUpdatePullRequest_follows_push_protocol (env : PullRequestEnv) (ws : Workspace) :
    PushLog ("sturdy-pr-" ++ ws.id) ((createOrUpdatePullRequest env ws).run []).2 := by
  cases env
  simp only [createOrUpdatePullRequest]
  -- run the do-block: `simp` takes the steps whose answer is known, `split` cases on the next one
  repeat' (first | simp only [run_orThrow_bind, run_emit_bind, run_throw_bind, run_pure_bind,
    Bool.false_eq_true, if_false] | split)
  all_goals repeat' constructor

/-- A run of `CreateOrUpdatePullRequest` that returns a pull request ends its log with the
GitHub call that made it: the creation of a pull request from the branch, or the edit of
the workspace's primary pull request. What it returns is open, not from a fork, no longer
importing, and at the commit the branch was prepared at. -/
theorem createOrUpdatePullRequest_ok {env : PullRequestEnv} {ws : Workspace} {pr : PullRequest}
    {effects : List Effect} (ok : (createOrUpdatePullRequest env ws).run [] = (.ok pr, effects)) :
    pr.state = .open ∧ pr.fork = false ∧ pr.importing = false ∧
      (∃ sha, env.prepareBranch = .ok sha ∧ pr.headSHA = some sha) ∧
      (effects.getLast? = some (.createPullRequest ("sturdy-pr-" ++ ws.id)) ∧ pr.head = "sturdy-pr-" ++ ws.id ∨
        effects.getLast? = some (.editPullRequest pr.gitHubPRNumber) ∧
          ∃ prs primary, env.pullRequests = .ok prs ∧ primaryPullRequest prs = .ok primary ∧
            primary.id = pr.id) := by
  rcases env with ⟨_, _, _, _, pullRequests⟩
  simp only [createOrUpdatePullRequest] at ok
  repeat' (first | simp only [run_orThrow_bind, run_emit_bind, run_throw_bind, run_pure_bind,
    Bool.false_eq_true, if_false] at ok | split at ok)
  all_goals cases ok
  all_goals first
    | exact ⟨rfl, rfl, rfl, ⟨_, rfl, rfl⟩, .inl ⟨rfl, rfl⟩⟩
    | obtain ⟨found, opened, notFork⟩ := remoteBranchPlan_update ‹_› ‹_›
      cases pullRequests with
      | error e => cases found
      | ok prs => exact ⟨opened, notFork, rfl, ⟨_, rfl, rfl⟩, .inr ⟨rfl, prs, _, rfl, found, rfl⟩⟩

/-- The workspace's open pull request, from a branch of its own, force-pushed to and edited. -/
theorem createOrUpdatePullRequest_edits_open_pull_request :
    let existing : PullRequest := { id := "old", state := .open, gitHubPRNumber := 7, head := "feature" }
    let env : PullRequestEnv := { pullRequests := .ok [existing] }
    let updated : PullRequest := { existing with updatedAt := some 0, headSHA := some "sha" }
    let effects := [Effect.forcePush "sturdy-pr-w" "feature", .recordPush false, .editPullRequest 7]
    (createOrUpdatePullRequest env { id := "w" }).run [] = (.ok updated, effects) ∧
      updated.state = .open ∧ updated.fork = false ∧ updated.importing = false ∧
      (∃ sha, env.prepareBranch = .ok sha ∧ updated.headSHA = some sha) ∧
      (effects.getLast? = some (.createPullRequest "sturdy-pr-w") ∧ updated.head = "sturdy-pr-w" ∨
        effects.getLast? = some (.editPullRequest updated.gitHubPRNumber) ∧
          ∃ prs primary, env.pullRequests = .ok prs ∧ primaryPullRequest prs = .ok primary ∧
            primary.id = updated.id) := by
  intro existing env updated effects
  have ok : (createOrUpdatePullRequest env { id := "w" }).run [] = (.ok updated, effects) := rfl
  exact ⟨ok, createOrUpdatePullRequest_ok ok⟩

end Protocol

end Sturdy
