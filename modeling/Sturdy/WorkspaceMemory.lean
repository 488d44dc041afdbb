import Sturdy.Workspace
import Mathlib.Data.List.Nodup
import Mathlib.Logic.Function.Basic

namespace Sturdy

/-- The in-memory workspace repository (`db.memory`): the stored records in insertion
order. -/
structure Memory where
  workspaces : List Workspace := []
  deriving DecidableEq, Repr

namespace Memory

def create (m : Memory) (entity : Workspace) : Memory := ⟨m.workspaces ++ [entity]⟩

def get (m : Memory) (id : String) : Except Err Workspace :=
  match m.workspaces.find? (·.id == id) with
  | some ws => .ok ws
  | none => .error errNoRows

/-- The loop of `UpdateFields`: the first record with the id gets the set fields. -/
def updateFieldsIn (opts : Options) (workspaceID : String) : List Workspace → Option (List Workspace)
  | [] => none
  | ws :: rest =>
    if ws.id = workspaceID then some (opts.assign ws :: rest)
    else (updateFieldsIn opts workspaceID rest).map (ws :: ·)

def updateFields (m : Memory) (workspaceID : String) (fields : List UpdateOption) :
    Except Err Memory :=
  match updateFieldsIn (Options.parse fields) workspaceID m.workspaces with
  | some workspaces => .ok ⟨workspaces⟩
  | none => .error errNoRows

def unsetUpToDate (codebaseID : String) (ws : Workspace) : Workspace :=
  if ws.codebaseID = codebaseID then { ws with upToDateWithTrunk := none } else ws

def unsetUpToDateWithTrunkForAllInCodebase (m : Memory) (codebaseID : String) : Memory :=
  ⟨m.workspaces.map (unsetUpToDate codebaseID)⟩

def viewMatches (viewId : String) (includeArchived : Bool) (ws : Workspace) : Bool :=
  ws.viewID == some viewId && (includeArchived || ws.archivedAt.isNone)

def getByViewID (m : Memory) (viewId : String) (includeArchived : Bool) : Except Err Workspace :=
  match m.workspaces.find? (viewMatches viewId includeArchived) with
  | some ws => .ok ws
  | none => .error errNoRows

def listByUserID (m : Memory) (userID : String) : List Workspace :=
  m.workspaces.filter (·.userID == userID)

/-- The nested loop of `ListByIDs`: every stored record, once for each entry of `ids`
equal to its id. -/
def listByIDs (m : Memory) (ids : List String) : List Workspace :=
  m.workspaces.flatMap fun workspace => (ids.filter (workspace.id == ·)).map fun _ => workspace

/-- What the repository stands for: a finite map from workspace id to workspace. -/
def lookup (m : Memory) (id : String) : Option Workspace := m.workspaces.find? (·.id == id)

/-- Stored ids are pairwise distinct. -/
def Distinct (m : Memory) : Prop := (m.workspaces.map (·.id)).Nodup

theorem get_eq_lookup (m : Memory) (id : String) :
    m.get id = match m.lookup id with
      | some ws => .ok ws
      | none => .error errNoRows := rfl

theorem lookup_eq_none {m : Memory} {id : String} : m.lookup id = none ↔ id ∉ m.workspaces.map (·.id) := by
  simp [lookup]

theorem lookup_create (m : Memory) (entity : Workspace) (fresh : m.lookup entity.id = none) :
    (m.create entity).lookup = Function.update m.lookup entity.id (some entity) := by
  funext k
  by_cases same : k = entity.id
  · subst k; simp only [lookup] at fresh; simp [lookup, create, fresh]
  · simp [lookup, create, Function.update_noteq same, Ne.symm same]

theorem create_distinct {m : Memory} {entity : Workspace} (distinct : m.Distinct)
    (fresh : m.lookup entity.id = none) : (m.create entity).Distinct := by
  simp only [Distinct, create, List.map_append, List.map_cons, List.map_nil]
  exact distinct.append (List.nodup_singleton _)
    (List.disjoint_singleton.mpr (lookup_eq_none.mp fresh))

theorem updateFieldsIn_none {opts : Options} {id : String} {l : List Workspace} :
    updateFieldsIn opts id l = none ↔ l.find? (·.id == id) = none := by
  induction l with
  | nil => simp [updateFieldsIn]
  | cons ws rest ih => by_cases same : ws.id = id <;> simp [updateFieldsIn, same, ih]

theorem updateFieldsIn_find {opts : Options} {id k : String} {l l' : List Workspace}
    (updated : updateFieldsIn opts id l = some l') :
    l'.find? (·.id == k) =
      if k = id then (l.find? (·.id == id)).map opts.assign else l.find? (·.id == k) := by
  induction l generalizing l' with
  | nil => simp [updateFieldsIn] at updated
  | cons ws rest ih =>
    by_cases same : ws.id = id
    · simp only [updateFieldsIn, same, if_true, Option.some.injEq] at updated
      subst l'
      have assignId : (opts.assign ws).id = ws.id := rfl
      by_cases hk : k = id
      · simp [assignId, same, hk]
      · simp [assignId, same, hk, Ne.symm hk]
    · simp only [updateFieldsIn, same, if_false, Option.map_eq_some'] at updated
      obtain ⟨rest', restUpdated, rfl⟩ := updated
      have step := ih restUpdated
      by_cases hk : k = id
      · subst hk; simp [same, step]
      · by_cases at_ws : ws.id = k <;> simp [at_ws, hk, step]

theorem updateFieldsIn_mem {opts : Options} {id : String} {l l' : List Workspace}
    (updated : updateFieldsIn opts id l = some l') {x : Workspace} (member : x ∈ l') :
    x ∈ l ∨ ∃ r, l.find? (·.id == id) = some r ∧ x = opts.assign r := by
  induction l generalizing l' with
  | nil => simp [updateFieldsIn] at updated
  | cons ws rest ih =>
    by_cases same : ws.id = id
    · simp only [updateFieldsIn, same, if_true, Option.some.injEq] at updated
      subst l'
      rcases List.mem_cons.mp member with rfl | later
      · exact .inr ⟨ws, by simp [same], rfl⟩
      · exact .inl (List.mem_cons_of_mem _ later)
    · simp only [updateFieldsIn, same, if_false, Option.map_eq_some'] at updated
      obtain ⟨rest', restUpdated, rfl⟩ := updated
      rcases List.mem_cons.mp member with rfl | later
      · exact .inl (List.mem_cons_self _ _)
      · rcases ih restUpdated later with old | ⟨r, found, rfl⟩
        · exact .inl (List.mem_cons_of_mem _ old)
        · exact .inr ⟨r, by simp [same, found], rfl⟩

theorem updateFieldsIn_ids {opts : Options} {id : String} {l l' : List Workspace}
    (updated : updateFieldsIn opts id l = some l') : l'.map (·.id) = l.map (·.id) := by
  induction l generalizing l' with
  | nil => simp [updateFieldsIn] at updated
  | cons ws rest ih =>
    by_cases same : ws.id = id
    · simp only [updateFieldsIn, same, if_true, Option.some.injEq] at updated
      subst l'; rfl
    · simp only [updateFieldsIn, same, if_false, Option.map_eq_some'] at updated
      obtain ⟨rest', restUpdated, rfl⟩ := updated
      simp [ih restUpdated]

/-- `UpdateFields` fails with `ErrNoRows` exactly when the id is absent; otherwise the
entry is the setters applied in order and every other entry is unchanged. -/
theorem updateFields_spec (m : Memory) (id : String) (fields : List UpdateOption) :
    (m.lookup id = none ∧ m.updateFields id fields = .error errNoRows) ∨
      ∃ ws m', m.lookup id = some ws ∧ m.updateFields id fields = .ok m' ∧
        m'.lookup = Function.update m.lookup id
          (some (fields.foldl (fun w opt => opt.apply w) ws)) ∧
        m'.workspaces.map (·.id) = m.workspaces.map (·.id) := by
  cases updated : updateFieldsIn (Options.parse fields) id m.workspaces with
  | none =>
    exact .inl ⟨updateFieldsIn_none.mp updated, by simp [updateFields, updated]⟩
  | some l' =>
    have found : m.lookup id ≠ none := fun absent => by
      simp [updateFieldsIn_none.mpr absent] at updated
    obtain ⟨ws, hws⟩ := Option.ne_none_iff_exists'.mp found
    refine .inr ⟨ws, ⟨l'⟩, hws, by simp [updateFields, updated], ?_, updateFieldsIn_ids updated⟩
    funext k
    have entry := updateFieldsIn_find (k := k) updated
    simp only [lookup] at hws
    by_cases hk : k = id
    · subst hk; simp [lookup, entry, hws, Options.parse_assign]
    · simp [lookup, entry, hk, Function.update_noteq hk]

theorem lookup_unset (m : Memory) (codebaseID : String) :
    (m.unsetUpToDateWithTrunkForAllInCodebase codebaseID).lookup =
      fun k => (m.lookup k).map (unsetUpToDate codebaseID) := by
  funext k
  have sameId : ∀ ws, (unsetUpToDate codebaseID ws).id = ws.id := fun ws => by
    unfold unsetUpToDate; split <;> rfl
  simp only [lookup, unsetUpToDateWithTrunkForAllInCodebase, List.find?_map]
  congr 2
  funext ws
  simp [sameId]

theorem unset_ids (m : Memory) (codebaseID : String) :
    (m.unsetUpToDateWithTrunkForAllInCodebase codebaseID).workspaces.map (·.id) =
      m.workspaces.map (·.id) := by
  simp only [unsetUpToDateWithTrunkForAllInCodebase, List.map_map]
  congr 1
  funext ws
  simp only [Function.comp_apply, unsetUpToDate]
  split <;> rfl

theorem getByViewID_spec (m : Memory) (viewId : String) (includeArchived : Bool) :
    (∃ ws, m.getByViewID viewId includeArchived = .ok ws ∧ ws ∈ m.workspaces ∧
        viewMatches viewId includeArchived ws) ∨
      (m.getByViewID viewId includeArchived = .error errNoRows ∧
        ∀ ws ∈ m.workspaces, viewMatches viewId includeArchived ws = false) := by
  cases found : m.workspaces.find? (viewMatches viewId includeArchived) with
  | none => exact .inr ⟨by simp [getByViewID, found], by simpa using List.find?_eq_none.mp found⟩
  | some ws =>
    exact .inl ⟨ws, by simp [getByViewID, found], List.mem_of_find?_eq_some found,
      List.find?_some found⟩

theorem listByUserID_nodup {m : Memory} (distinct : m.Distinct) (userID : String) :
    (m.listByUserID userID).Nodup :=
  (List.Nodup.of_map _ distinct).filter _

theorem listByIDs_eq_replicate (m : Memory) (ids : List String) :
    m.listByIDs ids = m.workspaces.flatMap fun ws => List.replicate (ids.count ws.id) ws := by
  unfold listByIDs
  congr 1
  funext ws
  rw [List.map_const', List.count, List.countP_eq_length_filter]
  congr 3
  funext id
  exact Bool.beq_comm

/-- With no id repeated, `ListByIDs` returns each stored record whose id is asked for,
once, in store order. -/
theorem listByIDs_of_nodup (m : Memory) {ids : List String} (distinctIds : ids.Nodup) :
    m.listByIDs ids = m.workspaces.filter (·.id ∈ ids) := by
  rw [listByIDs_eq_replicate]
  induction m.workspaces with
  | nil => rfl
  | cons ws rest ih =>
    rw [List.flatMap_cons, ih, List.count_eq_of_nodup distinctIds]
    by_cases asked : ws.id ∈ ids <;> simp [asked, List.filter_cons]

/-- A repeated id makes `ListByIDs` return its record twice. -/
theorem listByIDs_repeats_record :
    (Memory.mk [{ id := "a" }]).listByIDs ["a", "a"] = [{ id := "a" }, { id := "a" }] := by
  decide

/-- The repository calls that change the store. -/
inductive Op where
  | create (entity : Workspace)
  | updateFields (workspaceID : String) (fields : List UpdateOption)
  | unsetUpToDateWithTrunkForAllInCodebase (codebaseID : String)

/-- One call on the store; a failed `UpdateFields` leaves it as it was. -/
def step (m : Memory) : Op → Memory
  | .create entity => m.create entity
  | .updateFields id fields =>
    match m.updateFields id fields with
    | .ok m' => m'
    | .error _ => m
  | .unsetUpToDateWithTrunkForAllInCodebase codebaseID =>
    m.unsetUpToDateWithTrunkForAllInCodebase codebaseID

def run (m : Memory) (ops : List Op) : Memory := ops.foldl step m

/-- The effect each call has on the finite map the repository stands for. -/
def Op.onTable (t : String → Option Workspace) : Op → String → Option Workspace
  | .create entity => Function.update t entity.id (some entity)
  | .updateFields id fields =>
    match t id with
    | some ws => Function.update t id (some (fields.foldl (fun w opt => opt.apply w) ws))
    | none => t
  | .unsetUpToDateWithTrunkForAllInCodebase codebaseID =>
    fun k => (t k).map (unsetUpToDate codebaseID)

/-- `Create` is only called with an id not already stored. -/
def Op.Fresh (t : String → Option Workspace) : Op → Prop
  | .create entity => t entity.id = none
  | _ => True

def FreshRun (t : String → Option Workspace) : List Op → Prop
  | [] => True
  | op :: ops => op.Fresh t ∧ FreshRun (op.onTable t) ops

theorem step_refines (m : Memory) (op : Op) (fresh : op.Fresh m.lookup) :
    (m.step op).lookup = op.onTable m.lookup ∧ (m.Distinct → (m.step op).Distinct) := by
  cases op with
  | create entity => exact ⟨lookup_create m entity fresh, fun distinct => create_distinct distinct fresh⟩
  | updateFields id fields =>
    rcases updateFields_spec m id fields with ⟨absent, failed⟩ | ⟨ws, m', found, ok, table, ids⟩
    · simp [step, Op.onTable, failed, absent]
    · simp only [step, Op.onTable, ok, found, table, Distinct, true_and]
      exact fun distinct => ids ▸ distinct
  | unsetUpToDateWithTrunkForAllInCodebase codebaseID =>
    simp only [step, Op.onTable, lookup_unset, Distinct, unset_ids, true_and]
    exact id

/-- Over every sequence of calls with fresh ids on `Create`, the store's lookup is the
finite map the calls describe, and ids stay distinct. -/
theorem run_refines (m : Memory) (ops : List Op) (fresh : FreshRun m.lookup ops) :
    (m.run ops).lookup = ops.foldl Op.onTable m.lookup ∧
      (m.Distinct → (m.run ops).Distinct) := by
  induction ops generalizing m with
  | nil => exact ⟨rfl, id⟩
  | cons op rest ih =>
    obtain ⟨table, distinct⟩ := step_refines m op fresh.1
    obtain ⟨restTable, restDistinct⟩ := ih (m.step op) (table ▸ fresh.2)
    refine ⟨?_, restDistinct ∘ distinct⟩
    simp only [run, List.foldl_cons]
    rw [← table]
    exact restTable

/-- A `Create`, an `UpdateFields` of the new record and an unset of its codebase. -/
theorem create_update_unset_refine :
    let ops := [Op.create { id := "w", codebaseID := "c" },
      .updateFields "w" [.setUpToDateWithTrunk (some true)], .unsetUpToDateWithTrunkForAllInCodebase "c"]
    FreshRun ({} : Memory).lookup ops ∧
      (({} : Memory).run ops).lookup = ops.foldl Op.onTable ({} : Memory).lookup ∧
      (({} : Memory).Distinct → (({} : Memory).run ops).Distinct) := by
  intro ops
  have fresh : FreshRun ({} : Memory).lookup ops := ⟨rfl, trivial, trivial, trivial⟩
  exact ⟨fresh, run_refines {} ops fresh⟩

end Memory

end Sturdy
