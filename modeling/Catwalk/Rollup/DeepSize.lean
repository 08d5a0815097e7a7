import Catwalk.Theory.DepthFirst

/-! `_deep_size`: how much memory a rollup's result is booked for in the cache. -/

universe u

namespace Catwalk

/-- A Python object: its own size, and the objects a container holds. -/
inductive PyObject (Identity : Type u)
  | atom (getsizeof : Nat)
  | dict (getsizeof : Nat) (items : List (Identity × Identity))
  | sequence (getsizeof : Nat) (elements : List Identity)

namespace PyObject

variable {Identity : Type u}

def getsizeof : PyObject Identity → Nat
  | .atom size | .dict size _ | .sequence size _ => size

/-- What `_deep_size` goes on to, in its order. -/
def references : PyObject Identity → List Identity
  | .atom _ => []
  | .dict _ items => items.flatMap fun item => [item.1, item.2]
  | .sequence _ elements => elements

end PyObject

namespace RollupService

section DeepSize

variable {Identity : Type u}

/-- `sum(_deep_size(k, seen) + _deep_size(v, seen) for k, v in value.items())`. -/
def pairSizes (sizeOf : Identity → List Identity → Option (Nat × List Identity)) :
    List (Identity × Identity) → List Identity → Option (Nat × List Identity)
  | [], seen => some (0, seen)
  | (key, value) :: rest, seen =>
      (sizeOf key seen).bind fun first =>
        (sizeOf value first.2).bind fun second =>
          (pairSizes sizeOf rest second.2).map fun others =>
            (first.1 + second.1 + others.1, others.2)

theorem pairSizes_eq
    (sizeOf : Identity → List Identity → Option (Nat × List Identity))
    (items : List (Identity × Identity)) (seen : List Identity) :
    pairSizes sizeOf items seen =
      DepthFirst.weighAll sizeOf (items.flatMap fun item => [item.1, item.2])
        seen := by
  induction items generalizing seen with
  | nil => rfl
  | cons item rest ih =>
      obtain ⟨key, value⟩ := item
      simp only [pairSizes, List.flatMap_cons, List.cons_append, List.nil_append,
        DepthFirst.weighAll, ih]
      cases sizeOf key seen with
      | none => rfl
      | some first =>
          rw [Option.bind_some, Option.bind_some]
          cases sizeOf value first.2 with
          | none => rfl
          | some second => simp [Function.comp_def, Nat.add_assoc]

variable [DecidableEq Identity] (heap : Identity → PyObject Identity)

/-- The fuel is the depth of the recursion. -/
def deepSize : Nat → Identity → List Identity → Option (Nat × List Identity)
  | 0, _, _ => none
  | fuel + 1, value, seen =>
      if value ∈ seen then some (0, seen)
      else
        let seen := value :: seen
        match heap value with
        | .atom size => some (size, seen)
        | .dict size items =>
            (pairSizes (deepSize fuel) items seen).map fun below =>
              (size + below.1, below.2)
        | .sequence size elements =>
            (DepthFirst.weighAll (deepSize fuel) elements seen).map fun below =>
              (size + below.1, below.2)

def Retains : Identity → Identity → Prop :=
  DepthFirst.Reaches fun value => (heap value).references

theorem deepSize_eq_weigh (fuel : Nat) :
    deepSize heap fuel =
      DepthFirst.weigh (fun value => (heap value).references)
        (fun value => (heap value).getsizeof) fuel := by
  induction fuel with
  | zero => rfl
  | succ fuel ih =>
      funext value seen
      rw [deepSize, DepthFirst.weigh, ih]
      split
      case isTrue => rfl
      case isFalse =>
        cases heap value with
        | atom size => rfl
        | dict size items => simp [PyObject.references, PyObject.getsizeof, pairSizes_eq]
        | sequence size elements => rfl

/-- Every object that the value retains counts once, also where several containers
hold it and where it holds itself. -/
theorem deepSize_counts_once (value : Identity) (fuel : Nat)
    (finite : {object | Retains heap value object}.Finite)
    (enough : finite.toFinset.card < fuel) :
    (deepSize heap fuel value []).map Prod.fst =
      some (∑ object ∈ finite.toFinset, (heap object).getsizeof) := by
  rw [deepSize_eq_weigh]
  exact DepthFirst.weigh_eq_sum finite enough

end DeepSize

/-- Two entries of a list share a row that points back at the list. -/
def sharedRow : Fin 3 → PyObject (Fin 3)
  | 0 => .sequence 72 [1, 1]
  | 1 => .dict 232 [(2, 0)]
  | 2 => .atom 53

example : (deepSize sharedRow 4 0 []).map Prod.fst = some 357 := by decide

theorem deepSize_counts_shared_row :
    (deepSize sharedRow 4 0 []).map Prod.fst =
      some (∑ object ∈ (Set.toFinite {object | Retains sharedRow 0 object}).toFinset,
        (sharedRow object).getsizeof) :=
  deepSize_counts_once sharedRow 0 4 (Set.toFinite _)
    (Nat.lt_succ_of_le ((Finset.card_le_univ _).trans (by simp)))

end RollupService

end Catwalk
