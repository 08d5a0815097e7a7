import Mathlib.Data.List.Sort
import Mathlib.Order.WithBot

/-! Lexicographic orders over several keys whose missing values come last. -/

universe u

/-- One key of a sort: the value of an item, `⊤` when it is missing. -/
structure SortKey (Item : Type u) where
  Value : Type
  order : LinearOrder Value
  value : Item → WithTop Value

namespace SortKey

variable {Item : Type u}

instance (key : SortKey Item) : LinearOrder (WithTop key.Value) :=
  let _ := key.order
  inferInstance

/-- Smaller values first. -/
def ascending {Value : Type} [order : LinearOrder Value]
    (column : Item → Option Value) : SortKey Item :=
  ⟨Value, order, column⟩

/-- Larger values first; missing ones still last. -/
def descending {Value : Type} [LinearOrder Value]
    (column : Item → Option Value) : SortKey Item :=
  ⟨Valueᵒᵈ, inferInstance, fun item => (column item).map OrderDual.toDual⟩

/-- One item sorts before another: the first key that differs decides. -/
def Precedes : List (SortKey Item) → Item → Item → Prop
  | [], _, _ => False
  | key :: rest, first, second =>
      key.value first < key.value second ∨
        (key.value first = key.value second ∧ Precedes rest first second)

instance decidablePrecedes : (keys : List (SortKey Item)) →
    (first second : Item) → Decidable (Precedes keys first second)
  | [], _, _ => inferInstanceAs (Decidable False)
  | key :: rest, first, second =>
      let _ := decidablePrecedes rest first second
      inferInstanceAs (Decidable (key.value first < key.value second ∨
        (key.value first = key.value second ∧ Precedes rest first second)))

theorem Precedes.asymm {keys : List (SortKey Item)} {first second : Item}
    (precedes : Precedes keys first second) :
    ¬ Precedes keys second first := by
  induction keys with
  | nil => exact precedes.elim
  | cons key rest ih =>
      rintro (less | ⟨same, later⟩)
      · rcases precedes with less' | ⟨same, _⟩
        · exact lt_asymm less less'
        · exact less.ne' same
      · rcases precedes with less | ⟨_, later'⟩
        · exact less.ne' same
        · exact ih later' later

/-- What precedes a third item precedes, or is preceded by, any other. -/
theorem Precedes.cotrans {keys : List (SortKey Item)} {first third : Item}
    (precedes : Precedes keys first third) (second : Item) :
    Precedes keys first second ∨ Precedes keys second third := by
  induction keys with
  | nil => exact precedes.elim
  | cons key rest ih =>
      rcases lt_trichotomy (key.value first) (key.value second) with
        less | same | greater
      · exact .inl (.inl less)
      · rcases precedes with less | ⟨same', later⟩
        · exact .inr (.inl (same ▸ less))
        · rcases ih later with before | after
          · exact .inl (.inr ⟨same, before⟩)
          · exact .inr (.inr ⟨same ▸ same', after⟩)
      · rcases precedes with less | ⟨same, _⟩
        · exact .inr (.inl (greater.trans less))
        · exact .inr (.inl (same ▸ greater))

/-- Sorted by the keys: no item is preceded by a later one. -/
def Sorted (keys : List (SortKey Item)) (items : List Item) : Prop :=
  items.Pairwise fun first second => ¬ Precedes keys second first

/-- The keys tell the items apart. -/
def Separates (keys : List (SortKey Item)) (items : List Item) : Prop :=
  ∀ first ∈ items, ∀ second ∈ items,
    (∀ key ∈ keys, key.value first = key.value second) → first = second

theorem tied_of_not_precedes {keys : List (SortKey Item)} {first second : Item}
    (notBefore : ¬ Precedes keys first second)
    (notAfter : ¬ Precedes keys second first) :
    ∀ key ∈ keys, key.value first = key.value second := by
  induction keys with
  | nil => simp
  | cons key rest ih =>
      have same : key.value first = key.value second :=
        le_antisymm (not_lt.mp fun less => notAfter (.inl less))
          (not_lt.mp fun less => notBefore (.inl less))
      have later := ih (fun before => notBefore (.inr ⟨same, before⟩))
        (fun after => notAfter (.inr ⟨same.symm, after⟩))
      intro candidate member
      rcases List.mem_cons.mp member with rfl | member
      · exact same
      · exact later candidate member

theorem Sorted.unique {keys : List (SortKey Item)} {first second : List Item}
    (separates : Separates keys first) (perm : first.Perm second)
    (sorted : Sorted keys first) (sorted' : Sorted keys second) :
    first = second := by
  refine List.Perm.eq_of_pairwise ?_ sorted sorted' perm
  intro item other member otherMember notAfter notBefore
  exact separates item member other (perm.mem_iff.mpr otherMember)
    (tied_of_not_precedes notBefore notAfter)

theorem Separates.perm {keys : List (SortKey Item)} {first second : List Item}
    (separates : Separates keys first) (perm : first.Perm second) :
    Separates keys second :=
  fun item member other otherMember =>
    separates item (perm.mem_iff.mpr member) other (perm.mem_iff.mpr otherMember)

/-- A stable sort by the keys. -/
def sort (keys : List (SortKey Item)) (items : List Item) : List Item :=
  items.mergeSort fun first second => ¬ Precedes keys second first

theorem sorted_sort (keys : List (SortKey Item)) (items : List Item) :
    Sorted keys (sort keys items) := by
  have pairwise := @List.pairwise_mergeSort _
    (fun first second => decide (¬ Precedes keys second first)) ?_ ?_ items
  · exact pairwise.imp of_decide_eq_true
  · intro first second third notAfter notAfter'
    refine decide_eq_true fun precedes => ?_
    rcases precedes.cotrans second with before | after
    · exact of_decide_eq_true notAfter' before
    · exact of_decide_eq_true notAfter after
  · intro first second
    by_cases precedes : Precedes keys second first
    · simp [precedes.asymm]
    · simp [precedes]

end SortKey
