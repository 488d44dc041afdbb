import Mathlib.Data.List.Range
import Mathlib.Data.List.Nodup

namespace Sturdy

/-- A lock handed out by the executor's locker. Each object is told apart by `serial`,
its place in creation order, standing for its pointer identity. -/
inductive Lock where
  | mutexLock (serial : Nat)
  | fileLock (serial : Nat) (path : String)
  deriving DecidableEq, Repr

def Lock.serial : Lock → Nat
  | .mutexLock n => n
  | .fileLock n _ => n

/-- The locker's map from key to lock (`locks map[string]lock`). -/
structure Locker where
  locks : List (String × Lock) := []
  deriving DecidableEq, Repr

def lockFileName : String := ".git/sturdy.lock"

def key (codebaseID : String) : Option String → String
  | none => codebaseID ++ "/trunk"
  | some viewID => codebaseID ++ "/" ++ viewID

section
variable (viewPath : String → String → String) (join : String → String → String)

/-- `locker.Get`, with the repository provider's `ViewPath` and `filepath.Join` as
parameters: a stored lock is returned as it is; otherwise the trunk gets a new mutex
and a view a new file lock on its lock file. -/
def Locker.get (l : Locker) (codebaseID : String) (viewID : Option String) : Lock × Locker :=
  match l.locks.lookup (key codebaseID viewID) with
  | some m => (m, l)
  | none =>
    let lock := match viewID with
      | none => .mutexLock l.locks.length
      | some v => .fileLock l.locks.length (join (viewPath codebaseID v) lockFileName)
    (lock, ⟨l.locks ++ [(key codebaseID viewID, lock)]⟩)

/-- A sequence of `Get` calls, with the lock each call returned. -/
def Locker.getAll (l : Locker) : List (String × Option String) → List Lock × Locker
  | [] => ([], l)
  | (c, v) :: rest =>
    let first := l.get viewPath join c v
    let after := first.2.getAll rest
    (first.1 :: after.1, after.2)

/-- The lock a repository is to have: a mutex for the trunk, the file lock on
the view's lock file for a view. -/
def Lock.Guards (codebaseID : String) : Option String → Lock → Prop
  | none, .mutexLock _ => True
  | some v, .fileLock _ path => path = join (viewPath codebaseID v) lockFileName
  | _, _ => False

/-- Stored keys are distinct, stored locks are distinct objects created before now, and
each stored key is the key of a repository in `Repo` with a lock of that repository's
kind. -/
structure Locker.Inv (Repo : String → Option String → Prop) (l : Locker) : Prop where
  keys : (l.locks.map Prod.fst).Nodup
  serials : (l.locks.map (·.2.serial)).Nodup
  created : ∀ e ∈ l.locks, e.2.serial < l.locks.length
  kinds : ∀ e ∈ l.locks, ∃ c v, Repo c v ∧ e.1 = key c v ∧ Lock.Guards viewPath join c v e.2

end

theorem key_eq (codebaseID : String) (viewID : Option String) :
    key codebaseID viewID = codebaseID ++ "/" ++ viewID.getD "trunk" := by
  cases viewID with
  | none => exact String.ext (by simp [key])
  | some v => rfl

theorem sep_append_inj {x : Char} :
    ∀ {l₁ l₂ r₁ r₂ : List Char}, x ∉ l₁ → x ∉ l₂ → l₁ ++ x :: r₁ = l₂ ++ x :: r₂ →
      l₁ = l₂ ∧ r₁ = r₂
  | [], [], _, _, _, _, same => by simpa using same
  | [], y :: _, _, _, _, notIn, same => absurd (List.cons.inj same).1 (by simp_all)
  | y :: _, [], _, _, notIn, _, same => absurd (List.cons.inj same).1 (by simp_all)
  | y :: l₁, z :: l₂, _, _, notIn₁, notIn₂, same => by
    obtain ⟨head, tail⟩ := List.cons.inj same
    obtain ⟨rest, right⟩ := sep_append_inj (List.not_mem_of_not_mem_cons notIn₁)
      (List.not_mem_of_not_mem_cons notIn₂) tail
    exact ⟨by rw [head, rest], right⟩

/-- The repositories the service names: a codebase id without `/`, and no view named
`trunk` (as with the UUIDs it generates). -/
def RepoName (codebaseID : String) (viewID : Option String) : Prop :=
  '/' ∉ codebaseID.data ∧ viewID ≠ some "trunk"

instance (codebaseID : String) (viewID : Option String) : Decidable (RepoName codebaseID viewID) :=
  inferInstanceAs (Decidable (_ ∧ _))

theorem key_injective {c c' : String} {v v' : Option String} (named : RepoName c v)
    (named' : RepoName c' v') (same : key c v = key c' v') : c = c' ∧ v = v' := by
  rw [key_eq, key_eq, String.ext_iff] at same
  simp only [String.data_append, List.append_assoc] at same
  obtain ⟨codebase, rest⟩ := sep_append_inj named.1 named'.1 same
  refine ⟨String.ext codebase, ?_⟩
  have tails : v.getD "trunk" = v'.getD "trunk" := String.ext (by simpa using rest)
  cases v <;> cases v' <;> simp_all [RepoName]

/-- The trunk of `c` and a view of `c` named `trunk` share a key. -/
theorem key_trunk_view_collision (c : String) : key c none = key c (some "trunk") := by
  rw [key_eq, key_eq]; rfl

theorem mem_of_lookup_eq_some {l : List (String × Lock)} {k : String} {lk : Lock}
    (found : l.lookup k = some lk) : (k, lk) ∈ l := by
  obtain ⟨l₁, l₂, rfl, _⟩ := List.lookup_eq_some_iff.mp found
  simp

section
variable {viewPath join : String → String → String}

theorem Locker.get_spec (l : Locker) (c : String) (v : Option String) :
    (l.get viewPath join c v).2.locks.lookup (key c v) = some (l.get viewPath join c v).1 ∧
      ∀ k lk, l.locks.lookup k = some lk → (l.get viewPath join c v).2.locks.lookup k = some lk := by
  unfold Locker.get
  split
  · rename_i stored found; exact ⟨found, fun _ _ => id⟩
  · rename_i absent
    refine ⟨by simp [List.lookup_append, absent], fun k lk found => ?_⟩
    simp [List.lookup_append, found]

theorem Locker.get_inv {Repo : String → Option String → Prop} {l : Locker}
    (inv : l.Inv viewPath join Repo) {c : String} {v : Option String} (named : Repo c v) :
    (l.get viewPath join c v).2.Inv viewPath join Repo := by
  unfold Locker.get
  split
  · exact inv
  · rename_i absent
    have newKey : key c v ∉ l.locks.map Prod.fst := fun member => by
      obtain ⟨e, stored, same⟩ := List.mem_map.mp member
      simpa [same] using List.lookup_eq_none_iff.mp absent e stored
    have newSerial : ∀ e ∈ l.locks, e.2.serial ≠ l.locks.length := fun e member =>
      (inv.created e member).ne
    have lockSerial : (match v with
        | none => Lock.mutexLock l.locks.length
        | some v' => .fileLock l.locks.length (join (viewPath c v') lockFileName)).serial =
          l.locks.length := by cases v <;> rfl
    refine ⟨?_, ?_, ?_, ?_⟩
    · simp only [List.map_append, List.map_cons, List.map_nil]
      exact inv.keys.append (List.nodup_singleton _) (List.disjoint_singleton.mpr newKey)
    · simp only [List.map_append, List.map_cons, List.map_nil, lockSerial]
      exact inv.serials.append (List.nodup_singleton _) (by simpa using newSerial)
    · intro e member
      simp only [List.mem_append, List.mem_singleton, List.length_append] at member ⊢
      rcases member with old | rfl
      · exact Nat.lt_succ_of_lt (inv.created e old)
      · simp [lockSerial]
    · intro e member
      rcases List.mem_append.mp member with old | new
      · exact inv.kinds e old
      · obtain rfl := List.mem_singleton.mp new
        exact ⟨c, v, named, rfl, by cases v <;> simp [Lock.Guards]⟩

theorem Locker.getAll_spec (l : Locker) (calls : List (String × Option String)) :
    (l.getAll viewPath join calls).1.length = calls.length ∧
      (∀ p ∈ calls.zip (l.getAll viewPath join calls).1,
        (l.getAll viewPath join calls).2.locks.lookup (key p.1.1 p.1.2) = some p.2) ∧
      ∀ k lk, l.locks.lookup k = some lk →
        (l.getAll viewPath join calls).2.locks.lookup k = some lk := by
  induction calls generalizing l with
  | nil => simp [Locker.getAll]
  | cons call rest ih =>
    obtain ⟨c, v⟩ := call
    obtain ⟨returned, keeps⟩ := @Locker.get_spec viewPath join l c v
    obtain ⟨length, later, restKeeps⟩ := ih (l.get viewPath join c v).2
    refine ⟨by simp [Locker.getAll, length], ?_, fun k lk found => restKeeps k lk (keeps k lk found)⟩
    intro p member
    simp only [Locker.getAll, List.zip_cons_cons, List.mem_cons] at member
    rcases member with rfl | member
    · exact restKeeps _ _ returned
    · exact later p member

theorem Locker.getAll_inv {Repo : String → Option String → Prop} {l : Locker}
    (inv : l.Inv viewPath join Repo) {calls : List (String × Option String)}
    (named : ∀ call ∈ calls, Repo call.1 call.2) :
    (l.getAll viewPath join calls).2.Inv viewPath join Repo := by
  induction calls generalizing l with
  | nil => exact inv
  | cons call rest ih =>
    exact ih (Locker.get_inv inv (named call (List.mem_cons_self _ _)))
      (fun other member => named other (List.mem_cons_of_mem _ member))

theorem Locker.empty_inv (Repo : String → Option String → Prop) :
    ({} : Locker).Inv viewPath join Repo :=
  ⟨List.nodup_nil, List.nodup_nil, by simp, by simp⟩

/-- Two stored entries holding the same lock object are the same entry. -/
theorem Locker.Inv.same_lock {Repo : String → Option String → Prop} {l : Locker}
    (inv : l.Inv viewPath join Repo) {k k' : String} {lk : Lock}
    (found : l.locks.lookup k = some lk) (found' : l.locks.lookup k' = some lk) : k = k' := by
  have entry := List.inj_on_of_nodup_map inv.serials (mem_of_lookup_eq_some found)
    (mem_of_lookup_eq_some found') rfl
  exact (Prod.mk.inj entry).1

/-- Over every sequence of `Get` calls from an empty locker, two calls return the same
lock object exactly when they compute the same key. -/
theorem getAll_same_lock_iff_same_key (calls : List (String × Option String)) :
    ∀ p ∈ calls.zip (({} : Locker).getAll viewPath join calls).1,
    ∀ q ∈ calls.zip (({} : Locker).getAll viewPath join calls).1,
      p.2 = q.2 ↔ key p.1.1 p.1.2 = key q.1.1 q.1.2 := by
  obtain ⟨-, returned, -⟩ := @Locker.getAll_spec viewPath join {} calls
  have inv := @Locker.getAll_inv viewPath join (fun _ _ => True) {} (Locker.empty_inv _) calls
    (fun _ _ => trivial)
  intro p hp q hq
  constructor
  · intro same
    exact inv.same_lock (returned p hp) (same ▸ returned q hq)
  · intro same
    have lookups := (returned p hp).symm.trans (same ▸ returned q hq)
    exact Option.some.inj lookups

/-- Over every sequence of `Get` calls from an empty locker, whatever the names, each call
returns one lock, and two calls return the same lock object exactly when they compute the
same key. For repositories named as the service names them, that is exactly when they name
the same repository, and the trunk's lock is a mutex and a view's lock is the file lock on
its lock file. -/
theorem getAll_lock_per_repository (calls : List (String × Option String)) :
    (({} : Locker).getAll viewPath join calls).1.length = calls.length ∧
      (∀ p ∈ calls.zip (({} : Locker).getAll viewPath join calls).1,
        ∀ q ∈ calls.zip (({} : Locker).getAll viewPath join calls).1,
          p.2 = q.2 ↔ key p.1.1 p.1.2 = key q.1.1 q.1.2) ∧
      ((∀ call ∈ calls, RepoName call.1 call.2) →
        (∀ p ∈ calls.zip (({} : Locker).getAll viewPath join calls).1,
          ∀ q ∈ calls.zip (({} : Locker).getAll viewPath join calls).1, p.2 = q.2 ↔ p.1 = q.1) ∧
        ∀ p ∈ calls.zip (({} : Locker).getAll viewPath join calls).1,
          Lock.Guards viewPath join p.1.1 p.1.2 p.2) := by
  obtain ⟨length, returned, -⟩ := @Locker.getAll_spec viewPath join {} calls
  refine ⟨length, getAll_same_lock_iff_same_key calls, fun named => ?_⟩
  have inv := @Locker.getAll_inv viewPath join RepoName {} (Locker.empty_inv _) calls named
  have callNamed : ∀ p ∈ calls.zip (({} : Locker).getAll viewPath join calls).1,
      RepoName p.1.1 p.1.2 := fun p member => named p.1 (List.of_mem_zip member).1
  refine ⟨fun p hp q hq => ?_, fun p hp => ?_⟩
  · rw [getAll_same_lock_iff_same_key calls p hp q hq]
    constructor
    · intro same
      obtain ⟨codebase, view⟩ := key_injective (callNamed p hp) (callNamed q hq) same
      exact Prod.ext codebase view
    · intro same; rw [same]
  · obtain ⟨c, v, named', entryKey, guards⟩ := inv.kinds _ (mem_of_lookup_eq_some (returned p hp))
    obtain ⟨rfl, rfl⟩ := key_injective (callNamed p hp) named' entryKey
    exact guards

end

/-- The trunk of codebase `c` and its view named `trunk` get one lock object, and the
view's lock is the trunk's mutex. -/
theorem trunk_and_view_named_trunk_share_lock :
    ("c", (none : Option String)) ≠ ("c", some "trunk") ∧
      (({} : Locker).getAll (fun c v => "/repos/" ++ c ++ "/" ++ v) (fun a b => a ++ "/" ++ b)
        [("c", none), ("c", some "trunk")]).1 = [.mutexLock 0, .mutexLock 0] := by
  decide

/-- Two views of one codebase get two file locks, each on its own view's lock file. -/
theorem getAll_lock_per_repository_two_views :
    let viewPath := fun (c v : String) => "/repos/" ++ c ++ "/" ++ v
    let join := fun (a b : String) => a ++ "/" ++ b
    let calls := [("c", some "v1"), ("c", some "v2")]
    (∀ call ∈ calls, RepoName call.1 call.2) ∧
      (({} : Locker).getAll viewPath join calls).1 =
        [.fileLock 0 "/repos/c/v1/.git/sturdy.lock", .fileLock 1 "/repos/c/v2/.git/sturdy.lock"] ∧
      (∀ p ∈ calls.zip (({} : Locker).getAll viewPath join calls).1,
        ∀ q ∈ calls.zip (({} : Locker).getAll viewPath join calls).1, p.2 = q.2 ↔ p.1 = q.1) ∧
      ∀ p ∈ calls.zip (({} : Locker).getAll viewPath join calls).1,
        Lock.Guards viewPath join p.1.1 p.1.2 p.2 := by
  intro viewPath join calls
  have named : ∀ call ∈ calls, RepoName call.1 call.2 := by decide
  exact ⟨named, by decide, (getAll_lock_per_repository calls).2.2 named⟩

end Sturdy
