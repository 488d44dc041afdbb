import Sturdy.Allower
import Sturdy.Collaborators

namespace Sturdy

/-- An author (`author.Author`), by the user fields it carries. -/
structure Author where
  id : String
  name : String := ""
  email : String := ""
  deriving DecidableEq, Repr

/-- The answer of a route: a bare status, a status with an error message, or `200` with the
codebase and its members. -/
inductive CodebaseResponse where
  | status (code : Nat)
  | failure (code : Nat) (message : String)
  | ok (cb : Codebase) (members : List Author)
  deriving DecidableEq, Repr

/-- What the codebase `Get` route reads: the signed-in user (`auth.UserID`), the codebase
rows and a failure of their lookup, the codebase-user relations with a failure of the
access check's lookup and of `GetByCodebase`, and `author.GetAuthor`. -/
structure CodebaseRouteEnv where
  userID : Option String
  codebases : List Codebase := []
  getFault : Option String := none
  relations : List CodebaseUser := []
  accessFault : Option String := none
  membersFault : Option Err := none
  getAuthor : String → Except Err Author := fun id => .ok { id }

namespace CodebaseRouteEnv

/-- The rows an id names: by short id when it is 7 bytes long, by id otherwise. -/
def idMatches (id : String) (cb : Codebase) : Bool :=
  if id.utf8ByteSize = 7 then cb.shortID == id else cb.id == id

/-- `repo.GetByShortID` and `repo.Get`. Modelled from the spec: the first matching row. -/
def lookup (env : CodebaseRouteEnv) (id : String) : Except Err Codebase :=
  match env.getFault with
  | some text => .error (Err.new text)
  | none =>
    match env.codebases.find? (idMatches id) with
    | some cb => .ok cb
    | none => .error errNoRows

/-- `access.UserHasAccessToCodebase`. Modelled from the spec: the user has a
codebase-user relation. -/
def userHasAccessToCodebase (env : CodebaseRouteEnv) (userID codebaseID : String) : Bool :=
  match getByUserAndCodebase env.relations env.accessFault userID codebaseID with
  | .ok _ => true
  | .error _ => false

/-- Modelled from the spec: the four-argument `membersAsAuthors` that the `Get` route calls
is not in the sources, and stands here as the three-argument one of `list.go`: the
codebase's members (`codebaseUserRepo.GetByCodebase`, as its relations in order), each as an
author; the first failure ends it. -/
def membersAsAuthors (env : CodebaseRouteEnv) (codebaseID : String) : Except Err (List Author) :=
  match env.membersFault with
  | some e => .error e
  | none => (env.relations.filter (·.codebaseID == codebaseID)).mapM fun m => env.getAuthor m.userID

/-- The codebase `Get` route: the codebase the id or short id names, to a user with access
to it. -/
def get (env : CodebaseRouteEnv) (id : String) : CodebaseResponse :=
  match env.userID with
  | none => .status 401
  | some userID =>
    match env.lookup id with
    | .error e => if e.cause = .noRows then .status 404 else .failure 400 "unable to get codebase"
    | .ok cb =>
      if !env.userHasAccessToCodebase userID cb.id then .status 401
      else
        match env.membersAsAuthors cb.id with
        | .error _ => .status 500
        | .ok members => .ok cb members

theorem userHasAccessToCodebase_true {env : CodebaseRouteEnv} {userID codebaseID : String}
    (access : env.userHasAccessToCodebase userID codebaseID = true) :
    ⟨userID, codebaseID⟩ ∈ env.relations := by
  unfold userHasAccessToCodebase at access
  split at access
  · rename_i r found
    unfold getByUserAndCodebase at found
    split at found
    · cases found
    split at found <;> cases found
    rename_i relation
    obtain ⟨user, codebase⟩ := r
    have same := List.find?_some relation
    simp only [Bool.and_eq_true, beq_iff_eq] at same
    obtain ⟨rfl, rfl⟩ := same
    exact List.mem_of_find?_eq_some relation
  · cases access

/-- To a signed-in user with no relation to any stored codebase, the route answers `401`
for an id that names a codebase and `404` for one that names none, whenever the rows
can be read: its answers tell which ids name codebases. -/
theorem get_outsider {env : CodebaseRouteEnv} {userID : String} (id : String)
    (signedIn : env.userID = some userID) (reads : env.getFault = none)
    (outsider : ∀ cb ∈ env.codebases, ⟨userID, cb.id⟩ ∉ env.relations) :
    env.get id = if (env.codebases.find? (idMatches id)).isSome then .status 401 else .status 404 := by
  have denied : ∀ cb ∈ env.codebases, env.userHasAccessToCodebase userID cb.id = false :=
    fun cb member => Bool.eq_false_iff.mpr fun access => outsider cb member (userHasAccessToCodebase_true access)
  unfold get lookup
  rw [signedIn, reads]
  dsimp only
  cases found : env.codebases.find? (idMatches id) with
  | none => rfl
  | some cb => simp [denied cb (List.mem_of_find?_eq_some found)]

/-- A signed-in user who is a member of another codebase only, asking for a stored one. -/
theorem get_outsider_learns_codebase_exists :
    let env : CodebaseRouteEnv :=
      { userID := some "u", codebases := [{ id := "c" }], relations := [⟨"v", "c"⟩, ⟨"u", "d"⟩] }
    env.userID = some "u" ∧ env.getFault = none ∧ (∀ cb ∈ env.codebases, ⟨"u", cb.id⟩ ∉ env.relations) ∧
      env.get "c" = if (env.codebases.find? (idMatches "c")).isSome then .status 401 else .status 404 := by
  intro env
  have outsider : ∀ cb ∈ env.codebases, ⟨"u", cb.id⟩ ∉ env.relations := by decide
  exact ⟨rfl, rfl, outsider, get_outsider "c" rfl rfl outsider⟩

end CodebaseRouteEnv

/-- A trunk log entry (`vcs.LogEntry`), by the fields `ListChanges` reads. -/
structure LogEntry where
  id : String
  rawCommitMessage : String
  deriving DecidableEq, Repr

/-- `vcs.ListChanges`: the head's log read with the limit, 100 when none is set, without
the root commit. `logHead` is `repo.LogHead`. -/
def listChanges (logHead : Int → Except Err (List LogEntry)) (limit : Int) :
    Except Err (List LogEntry) :=
  let limit := if limit < 1 then 100 else limit
  match logHead limit with
  | .error e => .error (e.wrap "failed to get changes")
  | .ok changeLog => .ok (changeLog.filter (·.rawCommitMessage != "Root Commit"))

/-- `ListChanges` reads the log with a positive limit and returns it in order without
exactly the entries whose message is the root commit's. -/
theorem listChanges_ok {logHead : Int → Except Err (List LogEntry)} {limit : Int}
    {entries : List LogEntry} (listed : listChanges logHead limit = .ok entries) :
    ∃ read changeLog, 1 ≤ read ∧ logHead read = .ok changeLog ∧ entries.Sublist changeLog ∧
      ∀ e ∈ changeLog, e ∈ entries ↔ e.rawCommitMessage ≠ "Root Commit" := by
  unfold listChanges at listed
  dsimp only at listed
  cases read : logHead (if limit < 1 then 100 else limit) with
  | error e => rw [read] at listed; cases listed
  | ok changeLog =>
    rw [read] at listed
    cases listed
    exact ⟨_, changeLog, by split <;> omega, read, List.filter_sublist _, fun e member => by simp [member]⟩

end Sturdy
