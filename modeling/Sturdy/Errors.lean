import Mathlib.Data.List.Basic

namespace Sturdy

/-- The causes the code tells apart with `errors.Is`: the database's `sql.ErrNoRows`,
`service_change.ErrAlreadyExists`, the enterprise `ErrNotFound`, and any other error
by its text. -/
inductive Cause where
  | noRows
  | alreadyExists
  | notFound
  | message (text : String)
  deriving DecidableEq, Repr

/-- An error value: the contexts added by each `fmt.Errorf("...: %w", err)`, outermost
first, around the cause that `errors.Is` looks through them for. -/
structure Err where
  context : List String
  cause : Cause
  deriving DecidableEq, Repr

/-- `fmt.Errorf(ctx + ": %w", err)`. -/
def Err.wrap (ctx : String) (e : Err) : Err := { e with context := ctx :: e.context }

/-- `errors.New(text)`, or `fmt.Errorf` without `%w`. -/
def Err.new (text : String) : Err := ⟨[], .message text⟩

def errNoRows : Err := ⟨[], .noRows⟩

@[simp] theorem Err.wrap_cause (ctx : String) (e : Err) : (e.wrap ctx).cause = e.cause := rfl

@[simp] theorem Err.wrap_context (ctx : String) (e : Err) :
    (e.wrap ctx).context = ctx :: e.context := rfl

/-- Wrapping an error changes nothing of a success. -/
theorem mapError_eq_ok {ε ε' α : Type} {x : Except ε α} {g : ε → ε'} {a : α} :
    x.mapError g = .ok a ↔ x = .ok a := by
  cases x <;> simp [Except.mapError]

end Sturdy
