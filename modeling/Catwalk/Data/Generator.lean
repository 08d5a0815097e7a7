import Mathlib.Data.List.Infix
import Mathlib.Data.List.Perm.Basic

/-! Generators that end, by returning or by raising. -/

universe u v w

/-- What a consumer gets from a generator, one `next` after another. -/
inductive Generator (Value : Type u) (Error : Type v)
  | returns
  | raises (error : Error)
  | yields (value : Value) (rest : Generator Value Error)

namespace Generator

variable {Value : Type u} {Error : Type v} {Image : Type w}

/-- All that is yielded before the end. -/
def values : Generator Value Error → List Value
  | .returns | .raises _ => []
  | .yields value rest => value :: rest.values

def failure : Generator Value Error → Option Error
  | .returns => none
  | .raises error => some error
  | .yields _ rest => rest.failure

/-- `for value in generator:` with at most one `yield` in its body -/
def filterMap (body : Value → Option Image) :
    Generator Value Error → Generator Image Error
  | .returns => .returns
  | .raises error => .raises error
  | .yields value rest =>
      match body value with
      | some image => .yields image (filterMap body rest)
      | none => filterMap body rest

@[simp] theorem values_returns :
    (returns : Generator Value Error).values = [] := rfl

@[simp] theorem values_raises (error : Error) :
    (raises error : Generator Value Error).values = [] := rfl

@[simp] theorem values_yields (value : Value) (rest : Generator Value Error) :
    (yields value rest).values = value :: rest.values := rfl

@[simp] theorem failure_returns :
    (returns : Generator Value Error).failure = none := rfl

@[simp] theorem failure_raises (error : Error) :
    (raises error : Generator Value Error).failure = some error := rfl

@[simp] theorem failure_yields (value : Value) (rest : Generator Value Error) :
    (yields value rest).failure = rest.failure := rfl

theorem values_filterMap (body : Value → Option Image)
    (generator : Generator Value Error) :
    (generator.filterMap body).values = generator.values.filterMap body := by
  induction generator with
  | returns => rfl
  | raises error => rfl
  | yields value rest ih =>
      unfold filterMap
      rw [values_yields, List.filterMap_cons]
      split
      next image produced =>
        rw [produced, values_yields, ih]
      next skipped =>
        rw [skipped, ih]

theorem failure_filterMap (body : Value → Option Image)
    (generator : Generator Value Error) :
    (generator.filterMap body).failure = generator.failure := by
  induction generator with
  | returns => rfl
  | raises error => rfl
  | yields value rest ih =>
      unfold filterMap
      split
      · exact ih
      · exact ih

/-- A generator raises at its first `next` when it fails and yields nothing. -/
theorem eq_raises_iff {generator : Generator Value Error} {error : Error} :
    generator = .raises error ↔
      generator.values = [] ∧ generator.failure = some error := by
  cases generator <;> simp

end Generator
