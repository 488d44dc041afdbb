import Sturdy.Errors

namespace Sturdy

/-- A workspace record (`workspaces.Workspace`), with the fields the modelled code reads
or writes. Pointer fields are options and timestamps are natural numbers; the defaults
are Go's zero values. -/
structure Workspace where
  id : String := ""
  codebaseID : String := ""
  userID : String := ""
  name : Option String := none
  draftDescription : String := ""
  viewID : Option String := none
  latestSnapshotID : Option String := none
  headChangeID : Option String := none
  headChangeComputed : Bool := false
  upToDateWithTrunk : Option Bool := none
  diffsCount : Option Int := none
  lastLandedAt : Option Nat := none
  changeID : Option String := none
  archivedAt : Option Nat := none
  unarchivedAt : Option Nat := none
  updatedAt : Option Nat := none
  deriving DecidableEq, Repr

/-- The setters passed to `UpdateFields`, one for each field it can overwrite. -/
inductive UpdateOption where
  | setUpdatedAt (t : Option Nat)
  | setUpToDateWithTrunk (b : Option Bool)
  | setHeadChangeID (c : Option String)
  | setHeadChangeComputed (b : Bool)
  | setLatestSnapshotID (s : Option String)
  | setDiffsCount (n : Option Int)
  | setViewID (v : Option String)
  | setLastLandedAt (t : Option Nat)
  | setChangeID (c : Option String)
  | setDraftDescription (d : String)
  | setArchivedAt (t : Option Nat)
  | setUnarchivedAt (t : Option Nat)
  | setName (n : Option String)
  | setUserID (u : String)
  deriving DecidableEq, Repr

/-- What one setter means: it overwrites its own field and nothing else. -/
def UpdateOption.apply : UpdateOption → Workspace → Workspace
  | .setUpdatedAt t, ws => { ws with updatedAt := t }
  | .setUpToDateWithTrunk b, ws => { ws with upToDateWithTrunk := b }
  | .setHeadChangeID c, ws => { ws with headChangeID := c }
  | .setHeadChangeComputed b, ws => { ws with headChangeComputed := b }
  | .setLatestSnapshotID s, ws => { ws with latestSnapshotID := s }
  | .setDiffsCount n, ws => { ws with diffsCount := n }
  | .setViewID v, ws => { ws with viewID := v }
  | .setLastLandedAt t, ws => { ws with lastLandedAt := t }
  | .setChangeID c, ws => { ws with changeID := c }
  | .setDraftDescription d, ws => { ws with draftDescription := d }
  | .setArchivedAt t, ws => { ws with archivedAt := t }
  | .setUnarchivedAt t, ws => { ws with unarchivedAt := t }
  | .setName n, ws => { ws with name := n }
  | .setUserID u, ws => { ws with userID := u }

/-- Modelled from the spec: the parsed `options` of `Options(fields).Parse()`, which is
not in the sources. Each field is `none` while unset (`xxxSet = false`). -/
structure Options where
  updatedAt : Option (Option Nat) := none
  upToDateWithTrunk : Option (Option Bool) := none
  headChangeID : Option (Option String) := none
  headChangeComputed : Option Bool := none
  latestSnapshotID : Option (Option String) := none
  diffsCount : Option (Option Int) := none
  viewID : Option (Option String) := none
  lastLandedAt : Option (Option Nat) := none
  changeID : Option (Option String) := none
  draftDescription : Option String := none
  archivedAt : Option (Option Nat) := none
  unarchivedAt : Option (Option Nat) := none
  name : Option (Option String) := none
  userID : Option String := none

/-- Modelled from the spec: a functional option records its value and marks its field
set; a later option for the same field wins. -/
def UpdateOption.record : UpdateOption → Options → Options
  | .setUpdatedAt t, o => { o with updatedAt := some t }
  | .setUpToDateWithTrunk b, o => { o with upToDateWithTrunk := some b }
  | .setHeadChangeID c, o => { o with headChangeID := some c }
  | .setHeadChangeComputed b, o => { o with headChangeComputed := some b }
  | .setLatestSnapshotID s, o => { o with latestSnapshotID := some s }
  | .setDiffsCount n, o => { o with diffsCount := some n }
  | .setViewID v, o => { o with viewID := some v }
  | .setLastLandedAt t, o => { o with lastLandedAt := some t }
  | .setChangeID c, o => { o with changeID := some c }
  | .setDraftDescription d, o => { o with draftDescription := some d }
  | .setArchivedAt t, o => { o with archivedAt := some t }
  | .setUnarchivedAt t, o => { o with unarchivedAt := some t }
  | .setName n, o => { o with name := some n }
  | .setUserID u, o => { o with userID := some u }

def Options.parse (fields : List UpdateOption) : Options :=
  fields.foldl (fun o opt => opt.record o) {}

/-- The body of the update loop of `memory.UpdateFields`: each field whose option is
set is overwritten, in the order of the source's `if opts.xxxSet` tests. -/
def Options.assign (opts : Options) (ws : Workspace) : Workspace :=
  { ws with
    updatedAt := opts.updatedAt.getD ws.updatedAt
    upToDateWithTrunk := opts.upToDateWithTrunk.getD ws.upToDateWithTrunk
    headChangeID := opts.headChangeID.getD ws.headChangeID
    headChangeComputed := opts.headChangeComputed.getD ws.headChangeComputed
    latestSnapshotID := opts.latestSnapshotID.getD ws.latestSnapshotID
    diffsCount := opts.diffsCount.getD ws.diffsCount
    viewID := opts.viewID.getD ws.viewID
    lastLandedAt := opts.lastLandedAt.getD ws.lastLandedAt
    changeID := opts.changeID.getD ws.changeID
    draftDescription := opts.draftDescription.getD ws.draftDescription
    archivedAt := opts.archivedAt.getD ws.archivedAt
    unarchivedAt := opts.unarchivedAt.getD ws.unarchivedAt
    name := opts.name.getD ws.name
    userID := opts.userID.getD ws.userID }

@[simp] theorem Options.assign_empty (ws : Workspace) : ({} : Options).assign ws = ws := rfl

theorem Options.assign_record (o : Options) (opt : UpdateOption) (ws : Workspace) :
    (opt.record o).assign ws = opt.apply (o.assign ws) := by
  cases opt <;> rfl

theorem Options.assign_foldl (fields : List UpdateOption) (o : Options) (ws : Workspace) :
    (fields.foldl (fun o opt => opt.record o) o).assign ws =
      fields.foldl (fun w opt => opt.apply w) (o.assign ws) := by
  induction fields generalizing o with
  | nil => rfl
  | cons opt rest ih => simp only [List.foldl_cons, ih, assign_record]

/-- Parsing the options and assigning the set fields is applying the setters in
order: exactly the fields with a setter change, each to its last setter's value. -/
theorem Options.parse_assign (fields : List UpdateOption) (ws : Workspace) :
    (Options.parse fields).assign ws = fields.foldl (fun w opt => opt.apply w) ws :=
  assign_foldl fields {} ws

@[simp] theorem UpdateOption.apply_id (opt : UpdateOption) (ws : Workspace) :
    (opt.apply ws).id = ws.id := by
  cases opt <;> rfl

@[simp] theorem UpdateOption.apply_codebaseID (opt : UpdateOption) (ws : Workspace) :
    (opt.apply ws).codebaseID = ws.codebaseID := by
  cases opt <;> rfl

theorem UpdateOption.foldl_apply_id (fields : List UpdateOption) (ws : Workspace) :
    (fields.foldl (fun w opt => opt.apply w) ws).id = ws.id := by
  induction fields generalizing ws with
  | nil => rfl
  | cons opt rest ih => simp only [List.foldl_cons, ih, apply_id]

end Sturdy
