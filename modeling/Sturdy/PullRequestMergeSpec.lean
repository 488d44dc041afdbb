import Sturdy.PullRequestMerge

namespace Sturdy

namespace PullRequestWorld

theorem updatePR_ok {w w' : PullRequestWorld} {fault : Option Err} {pr : PullRequest}
    (written : w.updatePR fault pr = .ok w') :
    fault = none ∧ w' = { w with pullRequests := w.pullRequests.map fun row => if row.id = pr.id then pr else row } := by
  unfold updatePR at written
  split at written
  · cases written
  · cases written; exact ⟨rfl, rfl⟩

/-- After a write of a stored record, the stored state of its id is the record's. -/
theorem updatePR_storedState {w w' : PullRequestWorld} {fault : Option Err} {pr : PullRequest}
    (stored : (w.pullRequests.find? (·.id == pr.id)).isSome) (written : w.updatePR fault pr = .ok w') :
    w'.storedState pr.id = some pr.state := by
  obtain ⟨-, rfl⟩ := updatePR_ok written
  obtain ⟨row, found⟩ := Option.isSome_iff_exists.mp stored
  have sameId : row.id = pr.id := by simpa using List.find?_some found
  have keyed : ((fun x : PullRequest => x.id == pr.id) ∘ fun row => if row.id = pr.id then pr else row) =
      (·.id == pr.id) := by
    funext x
    by_cases same : x.id = pr.id <;> simp [same]
  simp [storedState, List.find?_map, keyed, found, sameId]

/-- `setPRState` marks the caller's record merged and either fails with the world unchanged
or writes it. -/
theorem setPRState_cases (w : PullRequestWorld) (fault : Option Err) (pr : PullRequest)
    (state : PullRequestState) :
    (∃ e, fault = some e ∧
      w.setPRState fault pr state = (.error (e.wrap "failed to update pull request"), { pr with state := .merged }, w)) ∨
    ∃ w', w.updatePR fault { pr with state := .merged } = .ok w' ∧
      w.setPRState fault pr state = (.ok (), { pr with state := .merged }, w') := by
  unfold setPRState
  cases fault with
  | some e => exact .inl ⟨e, rfl, rfl⟩
  | none => exact .inr ⟨_, rfl, rfl⟩

/-- Whatever state `setPRState` is asked for, a successful call stores `Merged` for a stored
pull request. -/
theorem setPRState_storedState {w w' : PullRequestWorld} {fault : Option Err} {pr pr' : PullRequest}
    {state : PullRequestState} (stored : (w.pullRequests.find? (·.id == pr.id)).isSome)
    (set : w.setPRState fault pr state = (.ok (), pr', w')) : w'.storedState pr.id = some .merged := by
  rcases setPRState_cases w fault pr state with ⟨e, -, failed⟩ | ⟨w₁, written, ok⟩
  · rw [failed] at set; cases set
  · rw [ok] at set
    cases set
    exact @updatePR_storedState _ _ _ { pr with state := .merged } stored written

theorem find?_isSome_of_storedState {w : PullRequestWorld} {id : String} {state : PullRequestState}
    (stored : w.storedState id = some state) : (w.pullRequests.find? (·.id == id)).isSome := by
  unfold storedState at stored
  cases found : w.pullRequests.find? (·.id == id) <;> simp_all

/-- A refused or failed merge writes `Merged` back as the "previous" state, and fails. -/
theorem mergeAnswered_refused {w : PullRequestWorld} {pr : PullRequest} {previousState : PullRequestState}
    {env : MergePullRequestEnv} {fromGitHub : GitHubPR → Except Failure Unit × PullRequestWorld}
    (marked : w.storedState pr.id = some .merged)
    (refused : env.merge = .result false ∨ ∃ e status errorResponse, env.merge = .failed e status errorResponse) :
    (∃ failure, (w.mergeAnswered pr previousState env fromGitHub).1 = .error failure) ∧
      (w.mergeAnswered pr previousState env fromGitHub).2.storedState pr.id = some .merged := by
  have rolledBack := setPRState_cases w env.rollback pr previousState
  unfold mergeAnswered
  rcases refused with merge | ⟨e, status, errorResponse, merge⟩ <;> rw [merge] <;>
    rcases rolledBack with ⟨e', -, failed⟩ | ⟨w', -, ok⟩
  · simp [failed, marked]
  · simp only [ok, Bool.not_false, if_true]
    exact ⟨⟨_, rfl⟩, setPRState_storedState (find?_isSome_of_storedState marked) ok⟩
  · simp [failed, marked]
  · simp only [ok]
    split <;> exact ⟨⟨_, rfl⟩, setPRState_storedState (find?_isSome_of_storedState marked) ok⟩

/-- Once `MergePullRequest` has marked the pull request, a merge that fails or that GitHub
reports as not merged ends in a failure with `Merged` stored for the pull request, unless
the marking write itself failed and nothing was written. The state the pull request had
before is never written back. -/
theorem mergeAndRollback_refused {w : PullRequestWorld} {pr : PullRequest} {env : MergePullRequestEnv}
    (stored : (w.pullRequests.find? (·.id == pr.id)).isSome)
    (notMergedBefore : ∀ apiPR, env.getBefore = .ok apiPR → apiPR.merged = false)
    (refused : env.merge = .result false ∨ ∃ e status errorResponse, env.merge = .failed e status errorResponse) :
    (∃ failure, (w.mergeAndRollback pr env).1 = .error failure) ∧
      ((env.setMerging.isSome ∧ (w.mergeAndRollback pr env).2 = w) ∨
        (w.mergeAndRollback pr env).2.storedState pr.id = some .merged) := by
  unfold mergeAndRollback
  rcases setPRState_cases w env.setMerging pr .merging with ⟨e, fault, failed⟩ | ⟨w₁, written, ok⟩
  · rw [failed]
    simp [fault]
  have marked : w₁.storedState pr.id = some .merged :=
    @updatePR_storedState _ _ _ { pr with state := .merged } stored written
  simp only [ok]
  cases before : env.getBefore with
  | error _ => exact (@mergeAnswered_refused w₁ { pr with state := .merged } pr.state env _ marked refused).imp id .inr
  | ok apiPR =>
    simp only [notMergedBefore apiPR before, Bool.false_eq_true, if_false]
    exact (@mergeAnswered_refused w₁ { pr with state := .merged } pr.state env _ marked refused).imp id .inr

/-- The calls `MergePullRequest` makes before the first `setPRState` succeed, so it goes on
with the workspace's one open pull request. -/
theorem mergePullRequest_reaches_merge {w : PullRequestWorld} {ws : Workspace} {env : MergePullRequestEnv}
    {pr : PullRequest} {userID token : String} {ghRepo : GitHubRepository}
    (signedIn : env.userID = .ok userID) (linked : env.accessToken = .ok (some token))
    (opened : env.opened ws.id = .ok [pr]) (repository : env.repository = .ok ghRepo)
    (installed : env.installation = .ok ()) :
    w.mergePullRequest ws env = w.mergeAndRollback pr env := by
  simp only [mergePullRequest, signedIn, linked, opened, repository, installed]

/-- `MergePullRequest` on a stored pull request that GitHub does not already report merged:
when the merge fails or is refused, it fails and leaves the pull request stored as
`Merged`, or, when marking it failed, changes nothing. -/
theorem mergePullRequest_refused_stores_merged {w : PullRequestWorld} {ws : Workspace}
    {env : MergePullRequestEnv} {pr : PullRequest} {userID token : String} {ghRepo : GitHubRepository}
    (signedIn : env.userID = .ok userID) (linked : env.accessToken = .ok (some token))
    (opened : env.opened ws.id = .ok [pr]) (repository : env.repository = .ok ghRepo)
    (installed : env.installation = .ok ()) (stored : (w.pullRequests.find? (·.id == pr.id)).isSome)
    (notMergedBefore : ∀ apiPR, env.getBefore = .ok apiPR → apiPR.merged = false)
    (refused : env.merge = .result false ∨ ∃ e status errorResponse, env.merge = .failed e status errorResponse) :
    (∃ failure, (w.mergePullRequest ws env).1 = .error failure) ∧
      ((env.setMerging.isSome ∧ (w.mergePullRequest ws env).2 = w) ∨
        (w.mergePullRequest ws env).2.storedState pr.id = some .merged) := by
  rw [mergePullRequest_reaches_merge signedIn linked opened repository installed]
  exact mergeAndRollback_refused stored notMergedBefore refused

/-- A stored pull request with `PullRequestStateOpen`; the merge fails with a `500` response.
Asking `setPRState` for `Merging` stores `Merged`, and after the failed merge and its
rollback the pull request stays `Merged`. -/
theorem merge_failure_leaves_pull_request_merged :
    let pr : PullRequest := { id := "pr", workspaceID := "w", state := .open }
    let w : PullRequestWorld := { pullRequests := [pr] }
    let run := w.mergePullRequest { id := "w" }
      { opened := fun _ => .ok [pr], merge := .failed (Err.new "boom") (some 500) none }
    (w.setPRState none pr .merging).2.2.storedState "pr" = some .merged ∧
      run.1 = .error (.error ((Err.new "boom").wrap "failed to merge pr")) ∧
      run.2.storedState "pr" = some .merged :=
  ⟨rfl, rfl, rfl⟩

/-- No stored pull request is in the `Merging` state. -/
def NoMergingStored (w : PullRequestWorld) : Prop := ∀ row ∈ w.pullRequests, row.state ≠ .merging

theorem getPRState_ne_merging (gitHubPR : GitHubPR) : getPRState gitHubPR ≠ .merging := by
  unfold getPRState
  split
  · decide
  · split <;> decide
  · decide

theorem NoMergingStored.updatePR {w w' : PullRequestWorld} {fault : Option Err} {pr : PullRequest}
    (inv : w.NoMergingStored) (notMerging : pr.state ≠ .merging) (written : w.updatePR fault pr = .ok w') :
    w'.NoMergingStored := by
  obtain ⟨-, rfl⟩ := updatePR_ok written
  intro row member
  obtain ⟨old, stored, rfl⟩ := List.mem_map.mp member
  split
  · exact notMerging
  · exact inv old stored

theorem NoMergingStored.setPRState {w : PullRequestWorld} (inv : w.NoMergingStored) (fault : Option Err)
    (pr : PullRequest) (state : PullRequestState) : (w.setPRState fault pr state).2.2.NoMergingStored := by
  rcases setPRState_cases w fault pr state with ⟨e, -, failed⟩ | ⟨w', written, ok⟩
  · rw [failed]; exact inv
  · rw [ok]; exact inv.updatePR (by simp) written

theorem NoMergingStored.updatePRFromGitHub {w : PullRequestWorld} (inv : w.NoMergingStored)
    (fault : Option Err) (now : Nat) (pr : PullRequest) (gitHubPR : GitHubPR) :
    (w.updatePRFromGitHub fault now pr gitHubPR).NoMergingStored := by
  unfold PullRequestWorld.updatePRFromGitHub
  split
  · exact inv
  · exact inv.updatePR (getPRState_ne_merging gitHubPR) ‹_›

theorem writeWorkspace_pullRequests {w w' : PullRequestWorld} {fault : Option Err} {id : String}
    {fields : List UpdateOption} (written : w.writeWorkspace fault id fields = .ok w') :
    w'.pullRequests = w.pullRequests := by
  unfold writeWorkspace at written
  split at written
  · cases written
  · cases updated : w.workspaces.updateFields id fields <;> rw [updated] at written <;> cases written
    rfl

theorem NoMergingStored.writeWorkspace {w w' : PullRequestWorld} (inv : w.NoMergingStored)
    {fault : Option Err} {id : String} {fields : List UpdateOption}
    (written : w.writeWorkspace fault id fields = .ok w') : w'.NoMergingStored :=
  fun row member => inv row (writeWorkspace_pullRequests written ▸ member)

theorem NoMergingStored.applyGitHubState {w : PullRequestWorld} (inv : w.NoMergingStored) (ws : Workspace)
    (pr : PullRequest) (gitHubPR : GitHubPR) (f : FromGitHubFaults) :
    (w.applyGitHubState ws pr gitHubPR f).2.NoMergingStored := by
  have updated := inv.updatePRFromGitHub f.updatePR f.now pr gitHubPR
  unfold PullRequestWorld.applyGitHubState
  dsimp only
  split
  · split
    · exact updated
    · exact updated.writeWorkspace ‹_›
  split
  · split
    · exact inv
    · exact updated
  split
  · exact inv
  · apply NoMergingStored.updatePRFromGitHub
    exact inv

theorem NoMergingStored.updatePullRequestFromGitHub {w : PullRequestWorld} (inv : w.NoMergingStored)
    (pr : PullRequest) (gitHubPR : GitHubPR) (f : FromGitHubFaults) :
    (w.updatePullRequestFromGitHub pr gitHubPR f).2.NoMergingStored := by
  unfold PullRequestWorld.updatePullRequestFromGitHub
  split
  · split <;> exact inv
  dsimp only
  split
  · exact inv
  rename_i w₁ described
  have inv₁ : w₁.NoMergingStored := by
    split at described
    · split at described
      · cases described
      · exact inv.writeWorkspace (mapError_eq_ok.mp described)
    · cases described; exact inv
  split
  · exact inv₁
  rename_i w₂ unarchived
  have inv₂ : w₂.NoMergingStored := by
    split at unarchived
    · exact inv₁.writeWorkspace (mapError_eq_ok.mp unarchived)
    · cases unarchived; exact inv₁
  exact inv₂.applyGitHubState _ _ _ _

theorem NoMergingStored.mergeAnswered {w : PullRequestWorld} (inv : w.NoMergingStored) (pr : PullRequest)
    (previousState : PullRequestState) (env : MergePullRequestEnv)
    {fromGitHub : GitHubPR → Except Failure Unit × PullRequestWorld}
    (keeps : ∀ apiPR, (fromGitHub apiPR).2.NoMergingStored) :
    (w.mergeAnswered pr previousState env fromGitHub).2.NoMergingStored := by
  have rolled := inv.setPRState env.rollback pr previousState
  unfold PullRequestWorld.mergeAnswered
  repeat' split
  all_goals first
    | exact inv
    | exact keeps _
    | rw [‹w.setPRState env.rollback pr previousState = _›] at rolled; exact rolled

theorem NoMergingStored.mergeAndRollback {w : PullRequestWorld} (inv : w.NoMergingStored) (pr : PullRequest)
    (env : MergePullRequestEnv) : (w.mergeAndRollback pr env).2.NoMergingStored := by
  have marked := inv.setPRState env.setMerging pr .merging
  unfold PullRequestWorld.mergeAndRollback
  split
  · next _ _ _ failed => rw [failed] at marked; exact marked
  next pr' w' ok =>
    rw [ok] at marked
    have keeps : ∀ apiPR, ((w'.updatePullRequestFromGitHub pr' apiPR env.fromGitHub).1.mapError Failure.error,
        (w'.updatePullRequestFromGitHub pr' apiPR env.fromGitHub).2).2.NoMergingStored :=
      fun apiPR => marked.updatePullRequestFromGitHub pr' apiPR env.fromGitHub
    dsimp only
    split
    · split
      · exact keeps _
      · exact marked.mergeAnswered _ _ _ keeps
    · exact marked.mergeAnswered _ _ _ keeps

/-- No run of `MergePullRequest`, however its collaborators answer, stores a pull request in
the `Merging` state: `setPRState` writes `Merged` and `updatePRFromGitHub` writes what
`getPRState` reads from GitHub, never `Merging`. So the `Merging` check of
`mergePullRequest`, meant for another goroutine merging the same pull request, never holds
for a pull request read back from the store. -/
theorem NoMergingStored.mergePullRequest {w : PullRequestWorld} (inv : w.NoMergingStored) (ws : Workspace)
    (env : MergePullRequestEnv) : (w.mergePullRequest ws env).2.NoMergingStored := by
  unfold PullRequestWorld.mergePullRequest
  dsimp only
  repeat' split
  all_goals first | exact inv | exact inv.mergeAndRollback _ env

end PullRequestWorld

/-- A call of the operations that write the stored pull requests, with the pull request it
is handed and what its collaborators answer. -/
inductive PullRequestCall where
  | mergePullRequest (ws : Workspace) (env : MergePullRequestEnv)
  | updatePullRequestFromGitHub (pr : PullRequest) (gitHubPR : GitHubPR) (f : FromGitHubFaults)

/-- The world after the call. -/
def PullRequestCall.apply (w : PullRequestWorld) : PullRequestCall → PullRequestWorld
  | .mergePullRequest ws env => (w.mergePullRequest ws env).2
  | .updatePullRequestFromGitHub pr gitHubPR f => (w.updatePullRequestFromGitHub pr gitHubPR f).2

namespace PullRequestWorld

/-- The calls one after another. -/
def runCalls (w : PullRequestWorld) (calls : List PullRequestCall) : PullRequestWorld :=
  calls.foldl PullRequestCall.apply w

/-- No sequence of `MergePullRequest` and `UpdatePullRequestFromGitHub` calls, whatever pull
requests they are handed and however their collaborators answer, stores a pull request in
the `Merging` state: the state that `mergePullRequest` takes for another merge in progress
is never read back from the store. -/
theorem runCalls_never_store_merging {w : PullRequestWorld} (inv : w.NoMergingStored)
    (calls : List PullRequestCall) : (w.runCalls calls).NoMergingStored := by
  induction calls generalizing w with
  | nil => exact inv
  | cons c calls ih =>
    have first : (c.apply w).NoMergingStored := by
      cases c with
      | mergePullRequest ws env => exact inv.mergePullRequest ws env
      | updatePullRequestFromGitHub pr gitHubPR f => exact inv.updatePullRequestFromGitHub pr gitHubPR f
    exact ih first

/-- A merge of an open pull request that fails with a `500` response, then GitHub reporting
the pull request closed. -/
theorem failed_merge_then_update_store_no_merging :
    let pr : PullRequest := { id := "pr", workspaceID := "w", state := .open }
    let w : PullRequestWorld := { pullRequests := [pr] }
    let calls := [PullRequestCall.mergePullRequest { id := "w" }
        { opened := fun _ => .ok [pr], merge := .failed (Err.new "boom") (some 500) none },
      .updatePullRequestFromGitHub pr { state := "closed" } {}]
    w.NoMergingStored ∧ (w.runCalls calls).NoMergingStored := by
  intro pr w calls
  have inv : w.NoMergingStored := by simp [NoMergingStored, w, pr]
  exact ⟨inv, runCalls_never_store_merging inv calls⟩

end PullRequestWorld

end Sturdy
