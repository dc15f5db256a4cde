import Mathlib.Data.List.Basic

/-!
# Deduction of a parameter pack

A call of a function template `template <typename... T> R f(P₁, …, Pₙ, T... args)` compiles
when its arguments and the types that it gives itself determine `T`.  Types are of any kind; all
that is asked of one is which parameters the functions have that its values point to.

- `deduce`: the pack of a call;
- `deduce_callback_eq_some_iff`: a pointer to a function has to be one with the pack as its
  parameters;
- `parametersOf_of_deduce`: so has each of them, wherever it stands.
-/

namespace TemplateDeduction

/-- A parameter in front of the pack: its type does not mention the pack, or it is
    `void (*)(T...)`. -/
inductive Parameter where
  | plain
  | callback
  deriving DecidableEq, Repr

variable {Ty : Type*} [DecidableEq Ty] (parametersOf : Ty → Option (List Ty))

/-- The pack of a call with arguments of these types.  The `given` types are those that the call
    names: the pack starts with them, and is not complete before the deduction. -/
def deduce (given : List Ty) : List Parameter → List Ty → Option (List Ty)
  -- the remaining arguments are those of the pack
  | [], rest =>
    if given.length ≤ rest.length then some (given ++ rest.drop given.length) else none
  | .plain :: parameters, _ :: types => deduce given parameters types
  -- what different arguments say about the pack has to agree
  | .callback :: parameters, type :: types =>
    (deduce given parameters types).filter fun pack => parametersOf type = some pack
  | _ :: _, [] => none

variable {parametersOf} {given pack : List Ty} {parameters : List Parameter} {types : List Ty}

@[simp] theorem deduce_plain (type : Ty) :
    deduce parametersOf given (.plain :: parameters) (type :: types) =
      deduce parametersOf given parameters types := rfl

theorem deduce_callback_eq_some_iff {type : Ty} :
    deduce parametersOf given (.callback :: parameters) (type :: types) = some pack ↔
      deduce parametersOf given parameters types = some pack ∧ parametersOf type = some pack := by
  simp [deduce, Option.filter_eq_some_iff]

/-- The types of all arguments of the pack may be given. -/
@[simp] theorem deduce_nil_self (types : List Ty) :
    deduce parametersOf types [] types = some types := by
  simp [deduce]

/-- In a call that compiles every pointer to a function is to one with the pack as its
    parameters. -/
theorem parametersOf_of_deduce (h : deduce parametersOf given parameters types = some pack) {i : Nat}
    {type : Ty} (hparameter : parameters[i]? = some .callback) (htype : types[i]? = some type) :
    parametersOf type = some pack := by
  induction parameters generalizing types i with
  | nil => cases hparameter
  | cons parameter parameters ih =>
    cases types with
    | nil => cases htype
    | cons first types =>
      cases parameter with
      | plain =>
        cases i with
        | zero => cases hparameter
        | succ i => exact ih h hparameter htype
      | callback =>
        obtain ⟨hrest, hfirst⟩ := deduce_callback_eq_some_iff.mp h
        cases i with
        | zero =>
          cases htype
          exact hfirst
        | succ i => exact ih hrest hparameter htype

end TemplateDeduction
