import Sturdy.WorkspaceMemory

namespace Sturdy

/-- A view (`views.View`), by the columns of the views table. -/
structure View where
  id : String
  userID : String
  codebaseID : String
  workspaceID : Option String := none
  name : Option String := none
  lastUsedAt : Option Nat := none
  createdAt : Option Nat := none
  mountPath : Option String := none
  mountHostname : Option String := none
  deriving DecidableEq, Repr

/-- The columns `repo.Update` sets from the entity; the others keep the row's values. -/
def View.setColumns (row e : View) : View :=
  { row with
    workspaceID := e.workspaceID, name := e.name, lastUsedAt := e.lastUsedAt,
    mountPath := e.mountPath, mountHostname := e.mountHostname }

/-- The views table read and written by `db.repo`, its rows in insertion order. -/
structure ViewTable where
  rows : List View := []
  deriving DecidableEq, Repr

namespace ViewTable

/-- `repo.Create`: the `INSERT` of one row. -/
def create (t : ViewTable) (fault : Option Err) (entity : View) : Except Err ViewTable :=
  match fault with
  | some e => .error (e.wrap "failed to perform insert")
  | none => .ok ⟨t.rows ++ [entity]⟩

/-- `repo.Get`: the row with the id, `sql.ErrNoRows` wrapped when there is none. -/
def get (t : ViewTable) (fault : Option Err) (id : String) : Except Err View :=
  match fault with
  | some e => .error (e.wrap "failed to query table")
  | none =>
    match t.rows.find? (·.id == id) with
    | some v => .ok v
    | none => .error (errNoRows.wrap "failed to query table")

/-- The `SELECT ... WHERE` of the list queries. -/
def select (t : ViewTable) (fault : Option Err) (matching : View → Bool) : Except Err (List View) :=
  match fault with
  | some e => .error (e.wrap "failed to query table")
  | none => .ok (t.rows.filter matching)

def listByCodebase (t : ViewTable) (fault : Option Err) (codebaseID : String) :
    Except Err (List View) :=
  t.select fault (·.codebaseID == codebaseID)

def listByUser (t : ViewTable) (fault : Option Err) (userID : String) : Except Err (List View) :=
  t.select fault (·.userID == userID)

def listByCodebaseAndUser (t : ViewTable) (fault : Option Err) (codebaseID userID : String) :
    Except Err (List View) :=
  t.select fault fun v => v.codebaseID == codebaseID && v.userID == userID

def listByCodebaseAndWorkspace (t : ViewTable) (fault : Option Err) (codebaseID workspaceID : String) :
    Except Err (List View) :=
  t.select fault fun v => v.codebaseID == codebaseID && v.workspaceID == some workspaceID

/-- `repo.Update`: the `UPDATE ... WHERE id = :id`, whether or not a row has the id. -/
def update (t : ViewTable) (fault : Option Err) (e : View) : Except Err ViewTable :=
  match fault with
  | some err => .error (err.wrap "update view failed")
  | none => .ok ⟨t.rows.map fun row => if row.id = e.id then row.setColumns e else row⟩

/-- A view's owner, codebase and creation time. -/
def identity (v : View) : String × String × Option Nat := (v.userID, v.codebaseID, v.createdAt)

/-- `Update` never changes a view's id, owner, codebase or creation time, and an update of
an id no row has succeeds without changing the table. -/
theorem update_keeps_identity {t t' : ViewTable} {fault : Option Err} {e : View}
    (updated : t.update fault e = .ok t') :
    t'.rows.map (fun v => (v.id, identity v)) = t.rows.map (fun v => (v.id, identity v)) ∧
      ((∀ row ∈ t.rows, row.id ≠ e.id) → t' = t) := by
  unfold update at updated
  split at updated
  · cases updated
  cases updated
  refine ⟨?_, fun absent => ?_⟩
  · simp only [List.map_map]
    exact List.map_congr_left fun row _ => by
      simp only [Function.comp_apply]; split <;> rfl
  · obtain ⟨rows⟩ := t
    exact congrArg ViewTable.mk
      ((List.map_congr_left fun row member => if_neg (absent row member)).trans (List.map_id' rows))

end ViewTable

/-- What `viewService.OpenWorkspace`, not in the sources, answers. -/
inductive OpenOutcome where
  | opened
  | rebasing
  | failed (e : Err)
  deriving DecidableEq, Repr

/-- A GraphQL error (`gqlerrors.Error`): an error with its key-value extensions, or
`ErrBadRequest` with them. -/
inductive GqlError where
  | of (e : Err) (pairs : List (String × String))
  | badRequest (pairs : List (String × String))
  deriving DecidableEq, Repr

/-- What `OpenWorkspaceOnView` reads: the workspace records, the views table, the failures
of their reads, `authService.CanRead` on the workspace, `authService.CanWrite` on the view,
and what `OpenWorkspace` answers. -/
structure OpenViewEnv where
  workspaces : Memory
  getWorkspaceFault : Option Err := none
  views : ViewTable
  getViewFault : Option Err := none
  canRead : Workspace → Option Err := fun _ => none
  canWrite : View → Option Err := fun _ => none
  openWorkspace : OpenOutcome := .opened

/-- `workspaceReader.Get`. -/
def OpenViewEnv.getWorkspace (env : OpenViewEnv) (id : String) : Except Err Workspace :=
  match env.getWorkspaceFault with
  | some e => .error e
  | none => env.workspaces.get id

/-- `ViewRootResolver.OpenWorkspaceOnView`: the view resolved on success, and the view and
workspace `OpenWorkspace` was called with, if it was. -/
def OpenViewEnv.openWorkspaceOnView (env : OpenViewEnv) (workspaceID viewID : String) :
    Except GqlError String × Option (View × Workspace) :=
  match env.getWorkspace workspaceID with
  | .error e => (.error (.of e [("workspace", "NotFound")]), none)
  | .ok ws =>
    match env.canRead ws with
    | some e => (.error (.of e []), none)
    | none =>
      match env.views.get env.getViewFault viewID with
      | .error e => (.error (.of e [("view", "NotFound")]), none)
      | .ok view =>
        match env.canWrite view with
        | some e => (.error (.of e []), none)
        | none =>
          if ws.viewID = some view.id then (.ok viewID, none)
          else if view.userID ≠ ws.userID then
            (.error (.badRequest [("message",
              "You can only open your own workspaces. Start a suggestion to open someone elses workspace.")]),
              none)
          else
            match env.openWorkspace with
            | .rebasing =>
              (.error (.badRequest [("message",
                "View is currently in rebasing state. Please resolve all the conflicts and try again.")]),
                some (view, ws))
            | .failed e => (.error (.of e []), some (view, ws))
            | .opened => (.ok viewID, some (view, ws))

end Sturdy
