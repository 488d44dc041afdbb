import Sturdy.Errors
import Mathlib.Data.List.Nodup

namespace Sturdy

/-- A codebase-user relation (`codebase.CodebaseUser`): a user's access to a codebase. -/
structure CodebaseUser where
  userID : String
  codebaseID : String
  deriving DecidableEq, Repr

/-- A GitHub user known to the database (`github.GitHubUser`). -/
structure GitHubUser where
  userID : String
  deriving DecidableEq, Repr

/-- `codebaseUserRepo.GetByUserAndCodebase`: the stored relation, `ErrNoRows` when there
is none, or the transient database failure `fault`. -/
def getByUserAndCodebase (relations : List CodebaseUser) (fault : Option String)
    (userID codebaseID : String) : Except Err CodebaseUser :=
  match fault with
  | some text => .error (Err.new text)
  | none =>
    match relations.find? (fun r => r.userID == userID && r.codebaseID == codebaseID) with
    | some r => .ok r
    | none => .error errNoRows

/-- What the database does in one iteration of the collaborator loop: whether
`GetByUserAndCodebase` and `Create` fail. -/
structure IterationFaults where
  get : Option String := none
  create : Option String := none

/-- The collaborator loop of `GrantCollaboratorsAccess`: a collaborator without a known
GitHub user is skipped, and a relation is created only when `GetByUserAndCodebase`
reports `ErrNoRows`; a failed `Create` is logged and skipped. -/
def grantLoop (gitHubUsers : String → Except Err GitHubUser) (codebaseID : String) :
    List CodebaseUser → List (String × IterationFaults) → List CodebaseUser
  | relations, [] => relations
  | relations, (login, faults) :: rest =>
    let next := match gitHubUsers login with
      | .error _ => relations
      | .ok gitHubUser =>
        match getByUserAndCodebase relations faults.get gitHubUser.userID codebaseID with
        | .ok _ => relations
        | .error e =>
          if e.cause = .noRows then
            match faults.create with
            | some _ => relations
            | none => relations ++ [⟨gitHubUser.userID, codebaseID⟩]
          else relations
    grantLoop gitHubUsers codebaseID next rest

/-- The responses of successive `ListCollaborators` calls: users and `NextPage`. The loop
of `listAllCollaborators` stops at the first response with `NextPage = 0`. -/
def listAllCollaborators : List (Except Err (List String × Nat)) → Except Err (List String)
  | [] => .ok []
  | .error e :: _ => .error e
  | .ok (users, nextPage) :: rest =>
    if nextPage = 0 then .ok users else (listAllCollaborators rest).map (users ++ ·)

/-- The collaborators `GrantCollaboratorsAccess` reads: the GitHub repository, its
installation, the installation's client, the collaborator pages and the database's
behaviour in each iteration. -/
structure GrantEnv where
  repository : Except Err Unit := .ok ()
  installation : Except Err Unit := .ok ()
  client : Except Err Unit := .ok ()
  pages : List (Except Err (List String × Nat))
  gitHubUsers : String → Except Err GitHubUser
  faults : Nat → IterationFaults := fun _ => {}

def grantCollaboratorsAccess (relations : List CodebaseUser) (codebaseID : String)
    (env : GrantEnv) : Except Err Unit × List CodebaseUser :=
  match env.repository, env.installation, env.client, listAllCollaborators env.pages with
  | .error e, _, _, _ => (.error (e.wrap "failed to get github repo by codebase"), relations)
  | .ok _, .error e, _, _ => (.error (e.wrap "failed to get installation"), relations)
  | .ok _, .ok _, .error e, _ => (.error (e.wrap "failed to create github client"), relations)
  | .ok _, .ok _, .ok _, .error e => (.error (e.wrap "failed to list collaborators"), relations)
  | .ok _, .ok _, .ok _, .ok collaborators =>
    (.ok (), grantLoop env.gitHubUsers codebaseID relations
      (collaborators.zipWith (fun login i => (login, env.faults i))
        (List.range collaborators.length)))

/-- `AddUser`: the relation is created without looking for an existing one. -/
def addUser (relations : List CodebaseUser) (codebaseID : String) (gitHubUser : GitHubUser)
    (createFault : Option String) : Except Err Unit × List CodebaseUser :=
  match createFault with
  | some text => (.error ((Err.new text).wrap "failed to add sender to codebaseUserRepo"), relations)
  | none => (.ok (), relations ++ [⟨gitHubUser.userID, codebaseID⟩])

/-- No user has two relations to one codebase. -/
def NoDuplicateMembers (relations : List CodebaseUser) : Prop := relations.Nodup

instance : DecidablePred NoDuplicateMembers := fun relations =>
  inferInstanceAs (Decidable relations.Nodup)

theorem getByUserAndCodebase_noRows {relations : List CodebaseUser} {fault : Option String}
    {userID codebaseID : String} {e : Err}
    (failed : getByUserAndCodebase relations fault userID codebaseID = .error e)
    (noRows : e.cause = .noRows) : ⟨userID, codebaseID⟩ ∉ relations := by
  unfold getByUserAndCodebase at failed
  split at failed
  · cases failed; cases noRows
  · split at failed
    · cases failed
    · rename_i absent
      intro member
      have := List.find?_eq_none.mp absent _ member
      simp at this

theorem grantLoop_nodup (gitHubUsers : String → Except Err GitHubUser) (codebaseID : String)
    (iterations : List (String × IterationFaults)) {relations : List CodebaseUser}
    (distinct : NoDuplicateMembers relations) :
    NoDuplicateMembers (grantLoop gitHubUsers codebaseID relations iterations) := by
  induction iterations generalizing relations with
  | nil => exact distinct
  | cons iteration rest ih =>
    obtain ⟨login, faults⟩ := iteration
    apply ih
    split
    · exact distinct
    · split
      · exact distinct
      · rename_i e failed
        split
        · split
          · exact distinct
          · rename_i noRows _ _
            exact distinct.append (List.nodup_singleton _)
              (List.disjoint_singleton.mpr (getByUserAndCodebase_noRows failed noRows))
        · exact distinct

/-- Every run of `GrantCollaboratorsAccess`, whatever the collaborator pages (a login may
be listed twice) and wherever the database fails, keeps every user to at most one
relation per codebase. -/
theorem grantCollaboratorsAccess_nodup (relations : List CodebaseUser) (codebaseID : String)
    (env : GrantEnv) (distinct : NoDuplicateMembers relations) :
    NoDuplicateMembers (grantCollaboratorsAccess relations codebaseID env).2 := by
  unfold grantCollaboratorsAccess
  split
  all_goals first | exact distinct | exact grantLoop_nodup _ _ _ distinct

/-- A login listed on two pages of collaborators, for a codebase with one member. -/
theorem grantCollaboratorsAccess_login_listed_twice :
    let env : GrantEnv :=
      { pages := [.ok (["alice"], 1), .ok (["alice"], 0)], gitHubUsers := fun _ => .ok ⟨"u2"⟩ }
    NoDuplicateMembers [⟨"u1", "c1"⟩] ∧
      (grantCollaboratorsAccess [⟨"u1", "c1"⟩] "c1" env).2 = [⟨"u1", "c1"⟩, ⟨"u2", "c1"⟩] ∧
      NoDuplicateMembers (grantCollaboratorsAccess [⟨"u1", "c1"⟩] "c1" env).2 := by
  intro env
  have distinct : NoDuplicateMembers [⟨"u1", "c1"⟩] := by decide
  exact ⟨distinct, rfl, grantCollaboratorsAccess_nodup _ "c1" env distinct⟩

/-- `AddUser` for a user who already has access to the codebase succeeds and stores a
second relation. -/
theorem addUser_duplicates_member :
    NoDuplicateMembers [⟨"u1", "c1"⟩] ∧
      (addUser [⟨"u1", "c1"⟩] "c1" ⟨"u1"⟩ none).1.toBool = true ∧
      (addUser [⟨"u1", "c1"⟩] "c1" ⟨"u1"⟩ none).2 = [⟨"u1", "c1"⟩, ⟨"u1", "c1"⟩] ∧
      ¬ NoDuplicateMembers (addUser [⟨"u1", "c1"⟩] "c1" ⟨"u1"⟩ none).2 := by
  decide

end Sturdy
