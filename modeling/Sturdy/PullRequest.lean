import Sturdy.Workspace

namespace Sturdy

inductive PullRequestState where
  | open
  | closed
  | merged
  | merging
  | unknown
  deriving DecidableEq, Repr

/-- A stored GitHub pull request (`github.PullRequest`), with the fields the modelled code
reads or writes. -/
structure PullRequest where
  id : String := ""
  workspaceID : String := ""
  codebaseID : String := ""
  gitHubPRNumber : Int := 0
  head : String := ""
  headSHA : Option String := none
  base : String := ""
  state : PullRequestState := .unknown
  fork : Bool := false
  importing : Bool := false
  createdAt : Nat := 0
  updatedAt : Option Nat := none
  deriving DecidableEq, Repr

/-- The less-function of `primaryPullRequest`: open before not open, then non-fork before
fork, then later `CreatedAt` first. -/
def primaryLess (a b : PullRequest) : Bool :=
  if a.state = .open ∧ b.state ≠ .open then true
  else if a.state ≠ .open ∧ b.state = .open then false
  else if !a.fork ∧ b.fork then true
  else if a.fork ∧ !b.fork then false
  else b.createdAt < a.createdAt

/-- One step of Go's insertion sort on the reversed sorted prefix: the new element is
swapped leftwards while it is less than its left neighbour. -/
def insertLeftward {α : Type} (less : α → α → Bool) (x : α) : List α → List α
  | [] => [x]
  | y :: ys => if less x y then y :: insertLeftward less x ys else x :: y :: ys

/-- `sort.SliceStable`, as the stable insertion sort Go runs on each block; for a strict
weak order every stable sort has this result. -/
def sliceStable {α : Type} (less : α → α → Bool) (xs : List α) : List α :=
  (xs.foldl (fun rev x => insertLeftward less x rev) []).reverse

def errNotFound : Err := ⟨[], .notFound⟩

def primaryPullRequest (prs : List PullRequest) : Except Err PullRequest :=
  match sliceStable primaryLess prs with
  | pr :: _ => .ok pr
  | [] => .error errNotFound

/-- What the branch logic of `CreateOrUpdatePullRequest` decides from the workspace's
primary pull request: the remote branch to force-push to, and the pull request to
update (none: a new one is created). -/
def remoteBranchPlan (prBranch : String) (existing : Except Err PullRequest) :
    Except Err (String × Option PullRequest) :=
  match existing with
  | .error e =>
    if e.cause = .notFound then .ok (prBranch, none)
    else .error (e.wrap "unable to get existing pr for workspace")
  | .ok pr =>
    if pr.state = .open then
      (.ok (if pr.head ≠ "" then pr.head else prBranch, if !pr.fork then some pr else none))
    else .ok (prBranch, none)

/-- A GitHub repository integration (`github.Repository`). -/
structure GitHubRepository where
  integrationEnabled : Bool := true
  gitHubSourceOfTruth : Bool := true
  trackedBranch : String := "main"
  codebaseID : String := ""
  deriving DecidableEq, Repr

/-- What `CreateOrUpdatePullRequest` does outside the database's pull request rows. -/
inductive Effect where
  | pushTrunk (trackedBranch : String)
  | forcePush (localBranch remoteBranch : String)
  | recordPush (failed : Bool)
  | createPullRequest (head : String)
  | editPullRequest (number : Int)
  deriving DecidableEq, Repr

/-- The answers of the collaborators `CreateOrUpdatePullRequest` calls, in call order. -/
structure PullRequestEnv where
  repository : Except Err GitHubRepository := .ok {}
  installation : Except Err Unit := .ok ()
  accessToken : Except Err (Option String) := .ok (some "token")
  codebase : Except Err Unit := .ok ()
  pullRequests : Except Err (List PullRequest) := .ok []
  prepareBranch : Except Err String := .ok "sha"
  installationToken : Except Err Unit := .ok ()
  reloaded : Except Err GitHubRepository := .ok {}
  haveTrackedBranch : Except Err Unit := .ok ()
  pushTrunk : Except Err Unit := .ok ()
  pushWithForce : Except Err Unit := .ok ()
  personalClient : Except Err Unit := .ok ()
  tokenClient : Except Err Unit := .ok ()
  created : Except Err Int := .ok 1
  store : Except Err Unit := .ok ()
  fetched : Except Err Unit := .ok ()
  edited : Except Err Unit := .ok ()
  newID : String := "pr"
  now : Nat := 0

def errIntegrationNotEnabled : Err := Err.new "github integration is not enabled"

abbrev PullRequestM := ExceptT Err (StateM (List Effect))

def emit (e : Effect) : PullRequestM Unit := modify (· ++ [e])

def orThrow {α : Type} (ctx : Option String) : Except Err α → PullRequestM α
  | .ok a => pure a
  | .error e => throw (match ctx with | some c => e.wrap c | none => e)

/-- `CreateOrUpdatePullRequest`; the result is the stored pull request, and the state
collects the pushes and GitHub calls made, also on the error paths. -/
def createOrUpdatePullRequest (env : PullRequestEnv) (ws : Workspace) : PullRequestM PullRequest := do
  let ghRepo ← match env.repository with
    | .error e => throw (if e.cause = .noRows then errIntegrationNotEnabled else e)
    | .ok r => pure r
  if !ghRepo.integrationEnabled || !ghRepo.gitHubSourceOfTruth then throw errIntegrationNotEnabled
  orThrow none env.installation
  let token ← orThrow none env.accessToken
  if token.isNone then throw (Err.new "gitub user has no access token")
  orThrow none env.codebase
  let prBranch := "sturdy-pr-" ++ ws.id
  let existing := match env.pullRequests with
    | .ok prs => primaryPullRequest prs
    | .error e => .error e
  let (remoteBranchName, toUpdate) ← orThrow none (remoteBranchPlan prBranch existing)
  let prSHA ← orThrow (some "failed to prepare branch") env.prepareBranch
  orThrow none env.installationToken
  let ghRepo ← orThrow (some "failed to re-load ghRepo") env.reloaded
  match env.haveTrackedBranch with
  | .ok () => pure ()
  | .error _ =>
    emit (.pushTrunk ghRepo.trackedBranch)
    match env.pushTrunk with
    | .ok () => pure ()
    | .error e => do emit (.recordPush true); throw (e.wrap "pushFailure")
  emit (.forcePush prBranch remoteBranchName)
  match env.pushWithForce with
  | .ok () => emit (.recordPush false)
  | .error e => do emit (.recordPush true); throw (e.wrap "pushFailure")
  orThrow none env.personalClient
  orThrow none env.tokenClient
  match toUpdate with
  | none =>
    emit (.createPullRequest prBranch)
    let number ← orThrow (some "createPullRequestFailure") env.created
    orThrow none env.store
    pure { id := env.newID, workspaceID := ws.id, gitHubPRNumber := number, head := prBranch,
           headSHA := some prSHA, codebaseID := ghRepo.codebaseID, base := ghRepo.trackedBranch,
           state := .open, createdAt := env.now }
  | some existingPR =>
    orThrow (some "getPullRequestFailure") env.fetched
    emit (.editPullRequest existingPR.gitHubPRNumber)
    orThrow (some "updatePullRequestFailure") env.edited
    orThrow none env.store
    pure { existingPR with updatedAt := some env.now, headSHA := some prSHA, importing := false }

/-- An open fork pull request with a head branch: its head branch is force-pushed, and a
new pull request is opened from `sturdy-pr-w`. -/
theorem createOrUpdatePullRequest_pushes_to_fork_head :
    ((createOrUpdatePullRequest
        { pullRequests := .ok [{ state := .open, fork := true, head := "feature" }] }
        { id := "w" }).run []).2 =
      [.forcePush "sturdy-pr-w" "feature", .recordPush false, .createPullRequest "sturdy-pr-w"] := by
  decide

end Sturdy
