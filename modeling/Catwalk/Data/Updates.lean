import Mathlib.Algebra.BigOperators.Group.List.Basic
import Mathlib.Algebra.GroupWithZero.Nat
import Mathlib.Data.List.Induction

/-! Sums and counts over a list in which one item changed. -/

universe u

namespace Updates

variable {Item : Type u} {list : List Item} {index : Nat} {old new : Item}

theorem sum_map_set (weight : Item → Nat) (found : list[index]? = some old)
    (new : Item) :
    ((list.set index new).map weight).sum + weight old =
      (list.map weight).sum + weight new := by
  induction list generalizing index with
  | nil => cases found
  | cons item rest ih =>
      cases index with
      | zero =>
          cases found
          simp only [List.set_cons_zero, List.map_cons, List.sum_cons]
          omega
      | succ index =>
          have later := ih (List.getElem?_cons_succ ▸ found)
          simp only [List.set_cons_succ, List.map_cons, List.sum_cons]
          omega

theorem countP_set_add (kind : Item → Bool) (found : list[index]? = some old)
    (new : Item) :
    (list.set index new).countP kind + (if kind old then 1 else 0) =
      list.countP kind + if kind new then 1 else 0 := by
  induction list generalizing index with
  | nil => cases found
  | cons item rest ih =>
      cases index with
      | zero =>
          cases found
          simp only [List.set_cons_zero, List.countP_cons]
          omega
      | succ index =>
          have later := ih (List.getElem?_cons_succ ▸ found)
          simp only [List.set_cons_succ, List.countP_cons]
          omega

theorem countP_set (kind : Item → Bool) (found : list[index]? = some old)
    (same : kind new = kind old) :
    (list.set index new).countP kind = list.countP kind := by
  have counted := countP_set_add kind found new
  rw [same] at counted
  exact Nat.add_right_cancel counted

/-- Whatever is counted has its index in a cover of all that is counted. -/
theorem countP_le_cover (kind : Item → Bool) (cover : List Nat)
    (covered : ∀ (index : Nat) (item : Item), list[index]? = some item →
      kind item = true → index ∈ cover) :
    list.countP kind ≤ cover.length := by
  induction list using List.reverseRecOn generalizing cover with
  | nil => exact Nat.zero_le _
  | append_singleton rest last ih =>
      have counted : (rest ++ [last]).countP kind =
          rest.countP kind + if kind last then 1 else 0 := by
        rw [List.countP_append, List.countP_singleton]
      have inside : ∀ (index : Nat) (item : Item), rest[index]? = some item →
          kind item = true → index ∈ cover ∧ index ≠ rest.length := by
        intro index item found counts
        have shorter := (List.getElem?_eq_some_iff.mp found).1
        refine ⟨covered index item ?_ counts, Nat.ne_of_lt shorter⟩
        rw [List.getElem?_append_left shorter, found]
      rw [counted]
      split
      next counts =>
          have member := covered rest.length last (by simp) counts
          have fewer := ih (cover.erase rest.length) fun index item found isKind =>
            (List.mem_erase_of_ne (inside index item found isKind).2).mpr
              (inside index item found isKind).1
          have some := List.length_pos_of_mem member
          rw [List.length_erase_of_mem member] at fewer
          omega
      next => exact ih cover fun index item found isKind =>
        (inside index item found isKind).1

end Updates
