import Sturdy.Errors

namespace Sturdy

inductive SubjectType where
  | user
  | ci
  | anonymous
  | mutagen
  deriving DecidableEq, Repr

/-- `auth.Subject`: who a request comes from. -/
structure Subject where
  type : SubjectType
  id : String
  deriving DecidableEq, Repr

/-- A codebase (`codebase.Codebase`), by the fields the access checks read. -/
structure Codebase where
  id : String
  shortID : String := ""
  isPublic : Bool := false
  deriving DecidableEq, Repr

/-- The objects `GetAllower` tells apart, by the fields it reads; a value and a pointer to
it are one case, and any other object is `other`. -/
inductive AuthObject where
  | codebase (cb : Codebase)
  | change (id codebaseID : String)
  | workspace (codebaseID : String)
  | suggestion (codebaseID : String)
  | other
  deriving DecidableEq, Repr

/-- A user (`users.User`), by the fields the allower reads. -/
structure User where
  id : String
  email : String
  deriving DecidableEq, Repr

/-- An `unidiff.Allower`: the file patterns it allows. -/
structure Allower where
  patterns : List String
  deriving DecidableEq, Repr

def allAllowed : Allower := ⟨["*"]⟩

def noneAllowed : Allower := ⟨[]⟩

/-- What `GetAllower` reads from the request and asks its collaborators: the subject
(`auth.FromContext`), `codebaseService.GetByID`, `aclProvider.GetByCodebaseID` with the
policy's `List(identity, ActionWrite, Files)` for a user identity, `userService.GetByID`,
and the pattern lists `unidiff.NewAllower` rejects. -/
structure AllowerEnv where
  subject : Option Subject
  getCodebase : String → Except Err Codebase
  getPolicy : String → Except Err (String → List String)
  getUser : String → Except Err User
  rejects : List String → Option Err := fun _ => none

namespace AllowerEnv

/-- `unidiff.NewAllower`. -/
def newAllower (env : AllowerEnv) (patterns : List String) : Except Err Allower :=
  match env.rejects patterns with
  | some e => .error e
  | none => .ok ⟨patterns⟩

/-- A lookup of `getUserCodebaseAllower`, where `sql.ErrNoRows` allows nothing instead of
failing. -/
def orNoneAllowed {α : Type} (context : String) (found : Except Err α)
    (next : α → Except Err Allower) : Except Err Allower :=
  match found with
  | .error e => if e.cause = .noRows then .ok noneAllowed else .error (e.wrap context)
  | .ok a => next a

/-- `getUserCodebaseAllower`: the files the codebase's policy lets the user write
(`ActionWrite` on `Files`), listed for the user's e-mail and for the user's id. -/
def getUserCodebaseAllower (env : AllowerEnv) (userID : String) (cb : Codebase) :
    Except Err Allower :=
  orNoneAllowed "failed to get acl policy" (env.getPolicy cb.id) fun policy =>
    orNoneAllowed "failed to get user" (env.getUser userID) fun user =>
      env.newAllower (policy user.email ++ policy user.id)

/-- The body the change, workspace and suggestion allowers share: the object's codebase,
then the allower for it. -/
def viaCodebase (env : AllowerEnv) (codebaseID : String)
    (next : Codebase → Except Err Allower) : Except Err Allower :=
  match env.getCodebase codebaseID with
  | .error e => .error (e.wrap "failed to get codebase")
  | .ok cb => next cb

def getUserChangeAllower (env : AllowerEnv) (userID codebaseID : String) : Except Err Allower :=
  env.viaCodebase codebaseID (env.getUserCodebaseAllower userID)

def getUserWorkspaceAllower (env : AllowerEnv) (userID codebaseID : String) : Except Err Allower :=
  env.viaCodebase codebaseID (env.getUserCodebaseAllower userID)

def getUserSuggestionAllower (env : AllowerEnv) (userID codebaseID : String) :
    Except Err Allower :=
  env.viaCodebase codebaseID (env.getUserCodebaseAllower userID)

/-- `getCIAllower`: a CI subject is allowed everything on the change its id names. -/
def getCIAllower (changeID objectID : String) : Allower :=
  if changeID ≠ objectID then noneAllowed else allAllowed

def getAnonymousCodebaseAllower (cb : Codebase) : Allower :=
  if cb.isPublic then allAllowed else noneAllowed

def getAnonymousWorkspaceAllower (env : AllowerEnv) (codebaseID : String) : Except Err Allower :=
  env.viaCodebase codebaseID fun cb => .ok (getAnonymousCodebaseAllower cb)

def getAnonymousChangeAllower (env : AllowerEnv) (codebaseID : String) : Except Err Allower :=
  env.viaCodebase codebaseID fun cb => .ok (getAnonymousCodebaseAllower cb)

/-- `Service.GetAllower`; `none` is a nil object. -/
def getAllower (env : AllowerEnv) (obj : Option AuthObject) : Except Err Allower :=
  match obj, env.subject with
  | none, _ => .ok noneAllowed
  | some _, none => .ok noneAllowed
  | some obj, some subject =>
    match subject.type, obj with
    | .mutagen, _ => .ok allAllowed
    | .user, .codebase cb => env.getUserCodebaseAllower subject.id cb
    | .user, .change _ codebaseID => env.getUserChangeAllower subject.id codebaseID
    | .user, .workspace codebaseID => env.getUserWorkspaceAllower subject.id codebaseID
    | .user, .suggestion codebaseID => env.getUserSuggestionAllower subject.id codebaseID
    | .ci, .change id _ => .ok (getCIAllower subject.id id)
    | .anonymous, .change _ codebaseID => env.getAnonymousChangeAllower codebaseID
    | .anonymous, .workspace codebaseID => env.getAnonymousWorkspaceAllower codebaseID
    | _, _ => .ok noneAllowed

/-- The codebase an object resolves to: itself, or the one its codebase id names. -/
def CodebaseOf (env : AllowerEnv) (cb : Codebase) : AuthObject → Prop
  | .codebase cb' => cb' = cb
  | .change _ codebaseID => env.getCodebase codebaseID = .ok cb
  | .workspace codebaseID => env.getCodebase codebaseID = .ok cb
  | .suggestion codebaseID => env.getCodebase codebaseID = .ok cb
  | .other => False

/-- The ways a subject comes to be allowed a file pattern on an object. -/
inductive Grants (env : AllowerEnv) (subject : Subject) : AuthObject → String → Prop
  | mutagen {obj : AuthObject} : subject.type = .mutagen → Grants env subject obj "*"
  | ciOwnChange {codebaseID : String} :
      subject.type = .ci → Grants env subject (.change subject.id codebaseID) "*"
  | anonymousPublicChange {id codebaseID : String} {cb : Codebase} :
      subject.type = .anonymous → env.getCodebase codebaseID = .ok cb → cb.isPublic = true →
      Grants env subject (.change id codebaseID) "*"
  | anonymousPublicWorkspace {codebaseID : String} {cb : Codebase} :
      subject.type = .anonymous → env.getCodebase codebaseID = .ok cb → cb.isPublic = true →
      Grants env subject (.workspace codebaseID) "*"
  | userPolicy {obj : AuthObject} {cb : Codebase} {policy : String → List String} {user : User}
      {pattern : String} :
      subject.type = .user → env.CodebaseOf cb obj → env.getPolicy cb.id = .ok policy →
      env.getUser subject.id = .ok user → pattern ∈ policy user.email ++ policy user.id →
      Grants env subject obj pattern

end AllowerEnv

end Sturdy
