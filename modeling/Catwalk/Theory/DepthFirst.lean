import Mathlib.Algebra.BigOperators.Group.Finset.Basic
import Mathlib.Algebra.GroupWithZero.Nat
import Mathlib.Data.Set.Finite.Basic
import Mathlib.Logic.Relation

/-! Depth-first search that adds up a weight over the nodes it reaches.  What was
seen is handed from one node to the next, and fuel bounds how deep the search goes. -/

universe u

namespace DepthFirst

section Search

variable {Node : Type u}

/-- One node after the other, each with what the ones before it have seen. -/
def weighAll (weighOne : Node → List Node → Option (Nat × List Node)) :
    List Node → List Node → Option (Nat × List Node)
  | [], seen => some (0, seen)
  | node :: rest, seen =>
      (weighOne node seen).bind fun first =>
        (weighAll weighOne rest first.2).map fun others =>
          (first.1 + others.1, others.2)

def weigh [DecidableEq Node] (children : Node → List Node) (weight : Node → Nat) :
    Nat → Node → List Node → Option (Nat × List Node)
  | 0, _, _ => none
  | fuel + 1, node, seen =>
      if node ∈ seen then some (0, seen)
      else
        (weighAll (weigh children weight fuel) (children node) (node :: seen)).map
          fun below => (weight node + below.1, below.2)

def Reaches (children : Node → List Node) : Node → Node → Prop :=
  Relation.ReflTransGen fun node child => child ∈ children node

/-- What a search from some starts adds to the nodes already seen. -/
structure Found (children : Node → List Node) (starts seen found : List Node) :
    Prop where
  nodup : found.Nodup
  fresh : ∀ node ∈ found, node ∉ seen
  reached : ∀ node ∈ found, ∃ start ∈ starts, Reaches children start node
  starts_seen : ∀ start ∈ starts, start ∈ found ++ seen
  closed : ∀ node ∈ found, ∀ child ∈ children node, child ∈ found ++ seen

variable {children : Node → List Node} {weight : Node → Nat}

theorem Found.nothing {seen : List Node} : Found children [] seen [] where
  nodup := List.nodup_nil
  fresh := by simp
  reached := by simp
  starts_seen := by simp
  closed := by simp

theorem Found.already {node : Node} {seen : List Node} (isSeen : node ∈ seen) :
    Found children [node] seen [] where
  nodup := List.nodup_nil
  fresh := by simp
  reached := by simp
  starts_seen := by simpa using isSeen
  closed := by simp

theorem Found.append {starts others seen found further : List Node}
    (first : Found children starts seen found)
    (second : Found children others (found ++ seen) further) :
    Found children (starts ++ others) seen (further ++ found) where
  nodup := by
    rw [List.nodup_append]
    refine ⟨second.nodup, first.nodup, ?_⟩
    intro node isFurther other isFound same
    subst same
    exact second.fresh node isFurther (List.mem_append_left seen isFound)
  fresh := by
    intro node member
    rcases List.mem_append.mp member with isFurther | isFound
    · exact fun isSeen =>
        second.fresh node isFurther (List.mem_append_right found isSeen)
    · exact first.fresh node isFound
  reached := by
    intro node member
    rcases List.mem_append.mp member with isFurther | isFound
    · obtain ⟨start, isStart, reaches⟩ := second.reached node isFurther
      exact ⟨start, List.mem_append_right starts isStart, reaches⟩
    · obtain ⟨start, isStart, reaches⟩ := first.reached node isFound
      exact ⟨start, List.mem_append_left others isStart, reaches⟩
  starts_seen := by
    intro start isStart
    rw [List.append_assoc]
    rcases List.mem_append.mp isStart with isFirst | isSecond
    · exact List.mem_append_right further (first.starts_seen start isFirst)
    · exact second.starts_seen start isSecond
  closed := by
    intro node member child isChild
    rw [List.append_assoc]
    rcases List.mem_append.mp member with isFurther | isFound
    · exact second.closed node isFurther child isChild
    · exact List.mem_append_right further (first.closed node isFound child isChild)

theorem Found.node {node : Node} {seen below : List Node}
    (search : Found children (children node) (node :: seen) below)
    (isFresh : node ∉ seen) : Found children [node] seen (below ++ [node]) where
  nodup := by
    rw [List.nodup_append]
    refine ⟨search.nodup, List.nodup_singleton node, ?_⟩
    intro other isBelow last isLast same
    have differs := search.fresh other isBelow
    simp_all
  fresh := by
    intro other member
    rcases List.mem_append.mp member with isBelow | isNode
    · exact fun isSeen => search.fresh other isBelow (List.mem_cons_of_mem node isSeen)
    · rwa [List.mem_singleton.mp isNode]
  reached := by
    intro other member
    refine ⟨node, List.mem_singleton_self node, ?_⟩
    rcases List.mem_append.mp member with isBelow | isNode
    · obtain ⟨child, isChild, reaches⟩ := search.reached other isBelow
      exact Relation.ReflTransGen.head isChild reaches
    · rw [List.mem_singleton.mp isNode]
      exact Relation.ReflTransGen.refl
  starts_seen := by simp
  closed := by
    intro other member child isChild
    rw [List.append_assoc, List.singleton_append]
    rcases List.mem_append.mp member with isBelow | isNode
    · exact search.closed other isBelow child isChild
    · rw [List.mem_singleton.mp isNode] at isChild
      exact search.starts_seen child isChild

/-- A closed search from one start with nothing seen finds what it reaches. -/
theorem Found.mem_iff {start : Node} {found : List Node}
    (search : Found children [start] [] found) (node : Node) :
    node ∈ found ↔ Reaches children start node := by
  constructor
  · intro isFound
    obtain ⟨other, isStart, reaches⟩ := search.reached node isFound
    rwa [List.mem_singleton.mp isStart] at reaches
  · intro reaches
    induction reaches with
    | refl => simpa using search.starts_seen start (List.mem_singleton_self start)
    | tail _ isChild ih => simpa using search.closed _ ih _ isChild

theorem weighAll_found {weighOne : Node → List Node → Option (Nat × List Node)}
    (one : ∀ node seen total after, weighOne node seen = some (total, after) →
      ∃ found, after = found ++ seen ∧ total = (found.map weight).sum ∧
        Found children [node] seen found)
    {nodes seen after : List Node} {total : Nat}
    (result : weighAll weighOne nodes seen = some (total, after)) :
    ∃ found, after = found ++ seen ∧ total = (found.map weight).sum ∧
      Found children nodes seen found := by
  induction nodes generalizing seen total after with
  | nil =>
      obtain ⟨rfl, rfl⟩ := by simpa [weighAll] using result
      exact ⟨[], rfl, rfl, .nothing⟩
  | cons node rest ih =>
      simp only [weighAll, Option.bind_eq_some_iff, Option.map_eq_some_iff] at result
      obtain ⟨⟨first, between⟩, isFirst, ⟨others, ended⟩, areOthers, same⟩ := result
      obtain ⟨rfl, rfl⟩ := Prod.mk.inj same
      obtain ⟨found, rfl, rfl, search⟩ := one node seen first between isFirst
      obtain ⟨further, rfl, rfl, onward⟩ := ih areOthers
      refine ⟨further ++ found, (List.append_assoc ..).symm, ?_, search.append onward⟩
      simp [Nat.add_comm]

variable [DecidableEq Node]

theorem weigh_found {fuel : Nat} {node : Node} {seen after : List Node} {total : Nat}
    (result : weigh children weight fuel node seen = some (total, after)) :
    ∃ found, after = found ++ seen ∧ total = (found.map weight).sum ∧
      Found children [node] seen found := by
  induction fuel generalizing node seen total after with
  | zero => simp [weigh] at result
  | succ fuel ih =>
      rw [weigh] at result
      split at result
      case isTrue isSeen =>
        obtain ⟨rfl, rfl⟩ := by simpa using result
        exact ⟨[], rfl, rfl, .already isSeen⟩
      case isFalse isFresh =>
        obtain ⟨⟨below, ended⟩, areBelow, same⟩ := Option.map_eq_some_iff.mp result
        obtain ⟨rfl, rfl⟩ := Prod.mk.inj same
        obtain ⟨found, rfl, rfl, search⟩ :=
          weighAll_found (fun _ _ _ _ => ih) areBelow
        refine ⟨found ++ [node], by simp, ?_, search.node isFresh⟩
        simp [Nat.add_comm]

section Fuel

variable {within : Finset Node}

/-- How many nodes a search has still to see. -/
def unseen (within : Finset Node) (seen : List Node) : Nat :=
  (within \ seen.toFinset).card

theorem unseen_append_le (found seen : List Node) :
    unseen within (found ++ seen) ≤ unseen within seen := by
  apply Finset.card_le_card
  intro node
  simp +contextual

theorem unseen_cons_lt {node : Node} {seen : List Node} (inside : node ∈ within)
    (isFresh : node ∉ seen) : unseen within (node :: seen) < unseen within seen := by
  apply Finset.card_lt_card
  rw [Finset.ssubset_iff_of_subset]
  · exact ⟨node, by simp [inside, isFresh], by simp⟩
  · intro other
    simp +contextual

theorem weighAll_isSome {weighOne : Node → List Node → Option (Nat × List Node)}
    {fuel : Nat} {nodes seen : List Node}
    (one : ∀ node seen total after, weighOne node seen = some (total, after) →
      ∃ found, after = found ++ seen)
    (answers : ∀ node ∈ nodes, ∀ seen, unseen within seen < fuel →
      (weighOne node seen).isSome)
    (enough : unseen within seen < fuel) : (weighAll weighOne nodes seen).isSome := by
  induction nodes generalizing seen with
  | nil => rfl
  | cons node rest ih =>
      obtain ⟨⟨first, between⟩, isFirst⟩ := Option.isSome_iff_exists.mp
        (answers node List.mem_cons_self seen enough)
      obtain ⟨found, rfl⟩ := one node seen first between isFirst
      have onward := ih (fun other isOther => answers other (List.mem_cons_of_mem _ isOther))
        (lt_of_le_of_lt (unseen_append_le found seen) enough)
      simp [weighAll, isFirst, onward]

/-- Fuel for each node still to be seen is enough, whatever cycles there are. -/
theorem weigh_isSome {fuel : Nat} {node : Node} {seen : List Node}
    (closed : ∀ other ∈ within, ∀ child ∈ children other, child ∈ within)
    (inside : node ∈ within) (enough : unseen within seen < fuel) :
    (weigh children weight fuel node seen).isSome := by
  induction fuel generalizing node seen with
  | zero => exact absurd enough (Nat.not_lt_zero _)
  | succ fuel ih =>
      rw [weigh]
      split
      case isTrue => rfl
      case isFalse isFresh =>
        rw [Option.isSome_map]
        have fewer := unseen_cons_lt inside isFresh
        refine weighAll_isSome ?_ ?_ (Nat.lt_of_lt_of_le fewer (Nat.lt_succ_iff.mp enough))
        · intro other seen total after result
          obtain ⟨found, grown, -⟩ := weigh_found result
          exact ⟨found, grown⟩
        · intro child isChild seen enough
          exact ih (closed node inside child isChild) enough

end Fuel

/-- Each node reached is weighed once, whatever is shared and whatever leads back. -/
theorem weigh_eq_sum {start : Node} {fuel : Nat}
    (finite : {node | Reaches children start node}.Finite)
    (enough : finite.toFinset.card < fuel) :
    (weigh children weight fuel start []).map Prod.fst =
      some (∑ node ∈ finite.toFinset, weight node) := by
  have closed : ∀ other ∈ finite.toFinset, ∀ child ∈ children other,
      child ∈ finite.toFinset := by
    intro other reached child isChild
    rw [Set.Finite.mem_toFinset] at reached ⊢
    exact Relation.ReflTransGen.tail reached isChild
  have inside : start ∈ finite.toFinset := by
    rw [Set.Finite.mem_toFinset]
    exact Relation.ReflTransGen.refl
  have unseenAll : unseen finite.toFinset [] < fuel := by simpa [unseen] using enough
  obtain ⟨⟨total, after⟩, result⟩ := Option.isSome_iff_exists.mp
    (weigh_isSome closed inside unseenAll : (weigh children weight fuel start []).isSome)
  obtain ⟨found, -, rfl, search⟩ := weigh_found result
  have same : found.toFinset = finite.toFinset := by
    ext node
    rw [List.mem_toFinset, Set.Finite.mem_toFinset]
    exact search.mem_iff node
  rw [result, Option.map_some, ← List.sum_toFinset weight search.nodup, same]

end Search

end DepthFirst
