import Sturdy.Suggestion
import Mathlib.Logic.Function.Basic

namespace Sturdy

/-- What one request does to its copy of the suggestion before writing the whole record
back with `suggestionRepo.Update`. -/
inductive Request where
  | applyHunks (entries : List String)
  | dismissHunks (entries : List String)
  | dismiss (now : Nat)
  | recordActivity (now : Nat)
  deriving DecidableEq, Repr

/-- The record a request writes back, computed from its copy; none when it writes nothing. -/
def Request.update : Request → Suggestion → Option Suggestion
  | .applyHunks entries, s => some (s.appendApplied entries)
  | .dismissHunks entries, s => some (s.appendDismissed entries)
  | .dismiss now, s => some (s.dismissAt now)
  | .recordActivity now, s => Suggestion.recordActivityUpdate now s

/-- The stored record after the request ran alone on it. -/
def Request.apply (q : Request) (s : Suggestion) : Suggestion := (q.update s).getD s

/-- A request reads the stored suggestion into its copy (`GetByID`, `GetByWorkspaceID`), or
writes back the record it computed from that copy. A request that fails before
`suggestionRepo.Update` succeeds has no write. -/
inductive Event where
  | read (request : Nat)
  | write (request : Nat)
  deriving DecidableEq, Repr

/-- The stored suggestion and each request's copy of it. -/
structure Race where
  stored : Suggestion
  copies : Nat → Option Suggestion := fun _ => none

def Race.step (requests : Nat → Request) (r : Race) : Event → Race
  | .read i => { r with copies := Function.update r.copies i (some r.stored) }
  | .write i =>
    match r.copies i with
    | none => r
    | some copy =>
      match (requests i).update copy with
      | some s => { r with stored := s }
      | none => r

def Race.run (requests : Nat → Request) (r : Race) (events : List Event) : Race :=
  events.foldl (Race.step requests) r

/-- The schedule in which the requests run one after another, in `order`. -/
def serial (order : List Nat) : List Event := order.flatMap fun i => [.read i, .write i]

/-- `s'` keeps what a request may not lose: both ledgers as prefixes, and `NotifiedAt` once set. -/
structure Keeps (s s' : Suggestion) : Prop where
  applied : s.appliedHunks <+: s'.appliedHunks
  dismissed : s.dismissedHunks <+: s'.dismissedHunks
  notified : s.notifiedAt.isSome → s'.notifiedAt.isSome

theorem Keeps.refl (s : Suggestion) : Keeps s s :=
  ⟨List.prefix_refl _, List.prefix_refl _, id⟩

theorem Keeps.trans {s₁ s₂ s₃ : Suggestion} (k₁ : Keeps s₁ s₂) (k₂ : Keeps s₂ s₃) : Keeps s₁ s₃ :=
  ⟨k₁.applied.trans k₂.applied, k₁.dismissed.trans k₂.dismissed, k₂.notified ∘ k₁.notified⟩

theorem Request.apply_keeps (q : Request) (s : Suggestion) : Keeps s (q.apply s) := by
  cases q with
  | applyHunks entries => exact ⟨List.prefix_append _ _, List.prefix_refl _, id⟩
  | dismissHunks entries => exact ⟨List.prefix_refl _, List.prefix_append _ _, id⟩
  | dismiss now => exact ⟨List.prefix_refl _, List.prefix_refl _, id⟩
  | recordActivity now =>
    show Keeps s ((Suggestion.recordActivityUpdate now s).getD s)
    cases written : Suggestion.recordActivityUpdate now s with
    | none => exact Keeps.refl s
    | some s' =>
      obtain ⟨applied, dismissed, notified⟩ := Suggestion.recordActivityUpdate_spec written
      exact ⟨applied ▸ List.prefix_refl _, dismissed ▸ List.prefix_refl _, fun _ => notified⟩

theorem foldl_apply_keeps (requests : Nat → Request) (order : List Nat) (s : Suggestion) :
    Keeps s (order.foldl (fun s i => (requests i).apply s) s) := by
  induction order generalizing s with
  | nil => exact Keeps.refl s
  | cons i rest ih => exact ((requests i).apply_keeps s).trans (ih _)

theorem run_serial (requests : Nat → Request) (r : Race) (order : List Nat) :
    (r.run requests (serial order)).stored =
      order.foldl (fun s i => (requests i).apply s) r.stored := by
  induction order generalizing r with
  | nil => rfl
  | cons i rest ih =>
    simp only [serial, List.flatMap_cons, Race.run, List.foldl_append] at ih ⊢
    rw [ih]
    simp only [List.foldl_cons, List.foldl_nil, Race.step, Function.update_same, Request.apply]
    cases (requests i).update r.stored <;> rfl

/-- Requests that run one after another lose no ledger entry and never unset
`NotifiedAt`: the lost updates need overlapping requests. -/
theorem serial_keeps_ledgers (requests : Nat → Request) (r : Race) (order : List Nat) :
    Keeps r.stored (r.run requests (serial order)).stored ∧
      ∀ i ∈ order, ∀ entries, (requests i = .applyHunks entries ∨ requests i = .dismissHunks entries) →
        ∀ e ∈ entries, e ∈ (r.run requests (serial order)).stored.appliedHunks ∨
          e ∈ (r.run requests (serial order)).stored.dismissedHunks := by
  rw [run_serial]
  refine ⟨foldl_apply_keeps requests order r.stored, ?_⟩
  generalize r.stored = s
  induction order generalizing s with
  | nil => intro i member; cases member
  | cons j rest ih =>
    intro i member entries request e entry
    rcases List.mem_cons.mp member with rfl | later
    · rw [List.foldl_cons]
      rcases request with request | request
      · have step : (requests i).apply s = s.appendApplied entries := by rw [Request.apply, request]; rfl
        rw [step]
        exact .inl ((foldl_apply_keeps requests rest _).applied.subset (List.mem_append_right _ entry))
      · have step : (requests i).apply s = s.appendDismissed entries := by
          rw [Request.apply, request]; rfl
        rw [step]
        exact .inr ((foldl_apply_keeps requests rest _).dismissed.subset (List.mem_append_right _ entry))
    · exact ih _ i later entries request e entry

/-- `RecordActivity` (request 0), `ApplyHunks` of `a.txt#0` (request 1) and `DismissHunks`
of `a.txt#1` (request 2) each read the suggestion before any writes back. Request 0 stores
`NotifiedAt`, request 1 stores it null again, and request 2 drops the applied entry. -/
theorem overlapping_requests_lose_updates :
    let requests : Nat → Request := fun i =>
      match i with
      | 0 => .recordActivity 5
      | 1 => .applyHunks ["a.txt#0"]
      | _ => .dismissHunks ["a.txt#1"]
    (Race.run requests { stored := {} } [.read 1, .read 2, .read 0, .write 0]).stored.notifiedAt = some 5 ∧
      (Race.run requests { stored := {} }
        [.read 1, .read 2, .read 0, .write 0, .write 1]).stored.notifiedAt = none ∧
      (Race.run requests { stored := {} }
        [.read 1, .read 2, .read 0, .write 0, .write 1, .write 2]).stored =
        { dismissedHunks := ["a.txt#1"] } := by
  decide

end Sturdy
