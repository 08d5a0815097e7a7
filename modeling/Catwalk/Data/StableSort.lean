import Mathlib.Data.List.Sort

/-! Stable sorting by a rank: what decides the order of a sorted list. -/

universe u v

namespace StableSort

variable {Item : Type u} {Rank : Type v} [LinearOrder Rank]

/-- Smallest rank first; items of one rank keep their order. -/
def sort (rank : Item → Rank) (items : List Item) : List Item :=
  items.mergeSort fun first second => rank first ≤ rank second

/-- The items of one rank, in their order. -/
def tier (rank : Item → Rank) (value : Rank) (items : List Item) : List Item :=
  items.filter fun item => rank item = value

def Sorted (rank : Item → Rank) (items : List Item) : Prop :=
  items.Pairwise fun first second => rank first ≤ rank second

variable {rank : Item → Rank}

theorem sorted_sort (items : List Item) : Sorted rank (sort rank items) := by
  have pairwise := @List.pairwise_mergeSort _
    (fun first second => decide (rank first ≤ rank second)) ?_ ?_ items
  · exact pairwise.imp of_decide_eq_true
  · intro first second third before after
    exact decide_eq_true
      ((of_decide_eq_true before).trans (of_decide_eq_true after))
  · intro first second
    simpa using le_total (rank first) (rank second)

theorem tier_sort (items : List Item) (value : Rank) :
    tier rank value (sort rank items) = tier rank value items := by
  have flat : (tier rank value items).Pairwise
      fun first second => decide (rank first ≤ rank second) = true := by
    apply List.pairwise_of_forall_mem_list
    intro first member second member'
    have same := of_decide_eq_true (List.mem_filter.mp member).2
    have same' := of_decide_eq_true (List.mem_filter.mp member').2
    exact decide_eq_true (same.trans same'.symm).le
  have inside : (tier rank value items).Sublist (sort rank items) := by
    apply List.sublist_mergeSort _ _ flat List.filter_sublist
    · intro first second third before after
      exact decide_eq_true
        ((of_decide_eq_true before).trans (of_decide_eq_true after))
    · intro first second
      simpa using le_total (rank first) (rank second)
  have kept := inside.filter fun item => decide (rank item = value)
  have whole : (tier rank value items).filter
      (fun item => decide (rank item = value)) = tier rank value items := by
    rw [tier, List.filter_filter]
    simp
  rw [whole] at kept
  have perm := (List.mergeSort_perm items
    fun first second => decide (rank first ≤ rank second)).filter
      fun item => decide (rank item = value)
  exact (kept.eq_of_length perm.length_eq.symm).symm

theorem tier_cons (item : Item) (rest : List Item) (value : Rank) :
    tier rank value (item :: rest) =
      if rank item = value then item :: tier rank value rest
      else tier rank value rest := by
  simp [tier, List.filter_cons]

theorem Sorted.le_of_tier {first : Item} {rest : List Item}
    (sorted : Sorted rank (first :: rest)) {item : Item} {tail : List Item}
    (tiers : tier rank (rank item) (first :: rest) = item :: tail) :
    rank first ≤ rank item := by
  have member : item ∈ first :: rest :=
    (List.mem_filter.mp (tiers ▸ List.mem_cons_self)).1
  rcases List.mem_cons.mp member with rfl | later
  · exact le_rfl
  · exact (List.pairwise_cons.mp sorted).1 item later

/-- A sorted list is made of its tiers. -/
theorem Sorted.eq_of_tiers {first second : List Item}
    (sorted : Sorted rank first) (sorted' : Sorted rank second)
    (tiers : ∀ value, tier rank value first = tier rank value second) :
    first = second := by
  induction first generalizing second with
  | nil =>
      cases second with
      | nil => rfl
      | cons item rest =>
          have empty := tiers (rank item)
          rw [tier_cons, if_pos rfl] at empty
          cases empty
  | cons item rest ih =>
      cases second with
      | nil =>
          have empty := tiers (rank item)
          rw [tier_cons, if_pos rfl] at empty
          cases empty
      | cons item' rest' =>
          have own := tiers (rank item)
          have own' := tiers (rank item')
          rw [tier_cons item, if_pos rfl] at own
          rw [tier_cons item', if_pos rfl] at own'
          have same : rank item = rank item' :=
            le_antisymm (sorted.le_of_tier own') (sorted'.le_of_tier own.symm)
          rw [tier_cons, if_pos same.symm] at own
          obtain ⟨rfl, _⟩ := List.cons.inj own
          refine congrArg (item :: ·) (ih (List.pairwise_cons.mp sorted).2
            (List.pairwise_cons.mp sorted').2 ?_)
          intro value
          have tiers := tiers value
          rw [tier_cons, tier_cons] at tiers
          split at tiers
          · exact (List.cons.inj tiers).2
          · exact tiers

/-- Two lists sort to the same one exactly when their tiers agree. -/
theorem sort_eq_iff {first second : List Item} :
    sort rank first = sort rank second ↔
      ∀ value, tier rank value first = tier rank value second := by
  constructor
  · intro same value
    rw [← tier_sort first, same, tier_sort]
  · intro tiers
    apply (sorted_sort first).eq_of_tiers (sorted_sort second)
    intro value
    rw [tier_sort, tier_sort, tiers]

end StableSort
