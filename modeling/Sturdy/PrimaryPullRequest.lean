import Sturdy.PullRequest
import Mathlib.Data.Prod.Lex

namespace Sturdy

/-- `GetPullRequestForWorkspace`, with the answer of `ListByWorkspace`. -/
def getPullRequestForWorkspace (listed : Except Err (List PullRequest)) : Except Err PullRequest :=
  match listed with
  | .error e => .error e
  | .ok prs => primaryPullRequest prs

section SliceStable

variable {α : Type} (less : α → α → Bool)

theorem insertLeftward_perm (x : α) : ∀ l : List α, (insertLeftward less x l).Perm (x :: l)
  | [] => .refl _
  | y :: ys => by
    unfold insertLeftward
    split
    · exact ((insertLeftward_perm x ys).cons y).trans (.swap x y ys)
    · exact .refl _

theorem foldl_insertLeftward_perm : ∀ (xs acc : List α),
    (xs.foldl (fun rev x => insertLeftward less x rev) acc).Perm (xs ++ acc)
  | [], _ => .refl _
  | x :: xs, acc =>
    ((foldl_insertLeftward_perm xs _).trans ((insertLeftward_perm less x acc).append_left xs)).trans
      List.perm_middle

theorem sliceStable_perm (xs : List α) : (sliceStable less xs).Perm xs :=
  (List.reverse_perm _).trans (by simpa using foldl_insertLeftward_perm less xs [])

variable {less}

/-- The sorted prefix, kept reversed, stays sorted when an element is swapped leftwards
into it, for a less-function that is asymmetric and whose negation is transitive. -/
theorem insertLeftward_pairwise (asymm : ∀ a b, less a b = true → less b a = false)
    (negTrans : ∀ a b c, less a b = false → less b c = false → less a c = false) (x : α) :
    ∀ {l : List α}, l.Pairwise (fun a b => less a b = false) →
      (insertLeftward less x l).Pairwise (fun a b => less a b = false)
  | [], _ => List.pairwise_singleton _ _
  | y :: ys, sorted => by
    rw [List.pairwise_cons] at sorted
    unfold insertLeftward
    split
    · rename_i before
      refine .cons (fun z member => ?_) (insertLeftward_pairwise asymm negTrans x sorted.2)
      rcases List.mem_cons.mp ((insertLeftward_perm less x ys).mem_iff.mp member) with rfl | later
      · exact asymm z y before
      · exact sorted.1 z later
    · rename_i notBefore
      refine .cons (fun z member => ?_) (.cons sorted.1 sorted.2)
      rcases List.mem_cons.mp member with rfl | later
      · simpa using notBefore
      · exact negTrans x y z (by simpa using notBefore) (sorted.1 z later)

/-- For a strict weak order, no element of the stable sort's result is less than one
before it. -/
theorem sliceStable_sorted (asymm : ∀ a b, less a b = true → less b a = false)
    (negTrans : ∀ a b c, less a b = false → less b c = false → less a c = false) (xs : List α) :
    (sliceStable less xs).Pairwise (fun a b => less b a = false) := by
  unfold sliceStable
  rw [List.pairwise_reverse]
  suffices ∀ (ys acc : List α), acc.Pairwise (fun a b => less a b = false) →
      (ys.foldl (fun rev x => insertLeftward less x rev) acc).Pairwise (fun a b => less a b = false) from
    this xs [] .nil
  intro ys
  induction ys with
  | nil => exact fun _ sorted => sorted
  | cons x ys ih => exact fun acc sorted => ih _ (insertLeftward_pairwise asymm negTrans x sorted)

end SliceStable

/-- The preference `primaryLess` encodes, as a key: open first, then non-fork, then the
later `CreatedAt`, compared lexicographically. -/
def primaryKey (pr : PullRequest) : ℕ ×ₗ ℕ ×ₗ ℕᵒᵈ :=
  toLex (if pr.state = .open then 0 else 1, toLex (if pr.fork then 1 else 0, OrderDual.toDual pr.createdAt))

theorem primaryLess_iff_key (a b : PullRequest) : primaryLess a b = true ↔ primaryKey a < primaryKey b := by
  unfold primaryLess primaryKey
  simp only [Prod.Lex.lt_iff, OrderDual.toDual_lt_toDual]
  by_cases ao : a.state = .open <;> by_cases bo : b.state = .open <;>
    cases af : a.fork <;> cases bf : b.fork <;> simp [ao, bo, af, bf]

theorem primaryLess_eq_false_iff (a b : PullRequest) :
    primaryLess a b = false ↔ primaryKey b ≤ primaryKey a := by
  rw [← not_lt, ← primaryLess_iff_key, Bool.not_eq_true]

/-- The preference among a workspace's pull requests that the spec states: an open one
before one that is not open, then one from the repository before one from a fork, then a
later `CreatedAt` before an earlier one. -/
def Preferred (a b : PullRequest) : Prop :=
  (a.state = .open ∧ b.state ≠ .open) ∨
    ((a.state = .open ↔ b.state = .open) ∧
      ((a.fork = false ∧ b.fork = true) ∨ (a.fork = b.fork ∧ b.createdAt < a.createdAt)))

instance : DecidableRel Preferred := fun _ _ => inferInstanceAs (Decidable (_ ∨ _))

theorem primaryLess_iff_preferred (a b : PullRequest) : primaryLess a b = true ↔ Preferred a b := by
  unfold primaryLess Preferred
  by_cases ao : a.state = .open <;> by_cases bo : b.state = .open <;>
    cases af : a.fork <;> cases bf : b.fork <;> simp [ao, bo, af, bf]

/-- The less-function of `primaryPullRequest` compares keys in a linear order, so it is a
strict weak order. -/
theorem primaryLess_isStrictWeakOrder : IsStrictWeakOrder PullRequest (fun a b => primaryLess a b = true) where
  irrefl a := by simp [primaryLess_iff_key]
  trans a b c := by simpa only [primaryLess_iff_key] using lt_trans
  incomp_trans a b c := by
    simp only [primaryLess_iff_key, not_lt]
    exact fun ⟨ba, ab⟩ ⟨cb, bc⟩ => ⟨cb.trans ba, ab.trans bc⟩

/-- The pull request `primaryPullRequest` picks is in the list, and no pull request of the
list is less than it. -/
theorem primaryPullRequest_ok {prs : List PullRequest} {p : PullRequest}
    (picked : primaryPullRequest prs = .ok p) : p ∈ prs ∧ ∀ q ∈ prs, primaryLess q p = false := by
  have asymm : ∀ a b, primaryLess a b = true → primaryLess b a = false := fun a b less => by
    rw [primaryLess_iff_key] at less
    exact (primaryLess_eq_false_iff b a).mpr less.le
  have negTrans : ∀ a b c, primaryLess a b = false → primaryLess b c = false → primaryLess a c = false :=
    fun a b c ab bc => by
      rw [primaryLess_eq_false_iff] at ab bc ⊢
      exact bc.trans ab
  have sorted := sliceStable_sorted asymm negTrans prs
  have perm := sliceStable_perm primaryLess prs
  unfold primaryPullRequest at picked
  split at picked
  · rename_i rest sortedList
    cases picked
    rw [sortedList] at sorted perm
    refine ⟨perm.mem_iff.mp (List.mem_cons_self _ _), fun q member => ?_⟩
    rcases List.mem_cons.mp (perm.mem_iff.mpr member) with rfl | later
    · exact (primaryLess_eq_false_iff q q).mpr le_rfl
    · exact (List.pairwise_cons.mp sorted).1 q later
  · cases picked

/-- `primaryPullRequest` returns `ErrNotFound` exactly for the empty list; otherwise it
returns a pull request of the list that no pull request of the list is preferred to, by a
less-function that is a strict weak order and is the order the spec describes. -/
theorem primaryPullRequest_picks_preferred (prs : List PullRequest) :
    IsStrictWeakOrder PullRequest (fun a b => primaryLess a b = true) ∧
      (∀ a b, primaryLess a b = true ↔ Preferred a b) ∧
      ((prs = [] ∧ primaryPullRequest prs = .error errNotFound) ∨
        ∃ p, primaryPullRequest prs = .ok p ∧ p ∈ prs ∧ ∀ q ∈ prs, ¬ Preferred q p) := by
  refine ⟨primaryLess_isStrictWeakOrder, primaryLess_iff_preferred, ?_⟩
  cases sorted : sliceStable primaryLess prs with
  | nil =>
    have empty : prs = [] := List.Perm.eq_nil ((sliceStable_perm primaryLess prs).symm.trans (sorted ▸ .refl _))
    exact .inl ⟨empty, by simp [primaryPullRequest, sorted]⟩
  | cons p rest =>
    have picked : primaryPullRequest prs = .ok p := by simp [primaryPullRequest, sorted]
    obtain ⟨member, least⟩ := primaryPullRequest_ok picked
    exact .inr ⟨p, picked, member, fun q inPrs preferred =>
      absurd ((primaryLess_iff_preferred q p).mpr preferred) (by simp [least q inPrs])⟩

end Sturdy
