import Mathlib.Data.Set.Card
import Mathlib.Data.Finset.Insert

/-! Breadth-first search from several roots: distances, layers, and the order in
which a search that may be cut off visits its nodes. -/

universe u

namespace BreadthFirst

section Distances

variable {Node : Type u} (isRoot : Node → Prop) (step : Node → Node → Prop)

/-- A root leads to the node in so many steps. -/
inductive Walk : Nat → Node → Prop
  | root {node : Node} (root : isRoot node) : Walk 0 node
  | next {length : Nat} {before node : Node} (walk : Walk length before)
      (stepped : step before node) : Walk (length + 1) node

/-- The least number of steps from a root. -/
def Distance (length : Nat) (node : Node) : Prop :=
  Walk isRoot step length node ∧
    ∀ shorter, shorter < length → ¬ Walk isRoot step shorter node

def Within (length : Nat) (node : Node) : Prop :=
  ∃ shorter, shorter ≤ length ∧ Walk isRoot step shorter node

variable {isRoot step}

theorem Distance.unique {first second : Nat} {node : Node}
    (isFirst : Distance isRoot step first node)
    (isSecond : Distance isRoot step second node) : first = second := by
  rcases lt_trichotomy first second with less | same | less
  · exact absurd isFirst.1 (isSecond.2 first less)
  · exact same
  · exact absurd isSecond.1 (isFirst.2 second less)

theorem distance_zero {node : Node} :
    Distance isRoot step 0 node ↔ isRoot node := by
  constructor
  · intro distance
    cases distance.1 with
    | root root => exact root
  · intro root
    exact ⟨.root root, fun shorter less => absurd less (Nat.not_lt_zero shorter)⟩

theorem within_zero {node : Node} : Within isRoot step 0 node ↔ isRoot node := by
  constructor
  · intro within
    obtain ⟨shorter, atMost, walk⟩ := within
    cases Nat.le_zero.mp atMost
    cases walk with
    | root root => exact root
  · intro root
    exact ⟨0, le_rfl, .root root⟩

/-- The nodes of the next distance are those one step further that are not
within the last one. -/
theorem distance_succ {length : Nat} {node : Node} :
    Distance isRoot step (length + 1) node ↔
      (∃ before, Distance isRoot step length before ∧ step before node) ∧
        ¬ Within isRoot step length node := by
  constructor
  · intro distance
    obtain ⟨walk, shortest⟩ := distance
    refine ⟨?_, ?_⟩
    · cases walk with
      | next walk stepped =>
          rename_i before
          refine ⟨before, ⟨walk, fun shorter less other => ?_⟩, stepped⟩
          exact shortest (shorter + 1) (Nat.succ_lt_succ less)
            (.next other stepped)
    · intro within
      obtain ⟨shorter, atMost, other⟩ := within
      exact shortest shorter (Nat.lt_succ_of_le atMost) other
  · intro further
    obtain ⟨⟨before, distance, stepped⟩, beyond⟩ := further
    refine ⟨.next distance.1 stepped, fun shorter less other => ?_⟩
    exact beyond ⟨shorter, Nat.le_of_lt_succ less, other⟩

theorem within_succ {length : Nat} {node : Node} :
    Within isRoot step (length + 1) node ↔
      Within isRoot step length node ∨
        Distance isRoot step (length + 1) node := by
  constructor
  · intro within
    by_cases nearer : Within isRoot step length node
    · exact .inl nearer
    · right
      obtain ⟨shorter, atMost, walk⟩ := within
      have exactly : shorter = length + 1 := by
        by_contra differs
        exact nearer ⟨shorter, by omega, walk⟩
      subst exactly
      refine ⟨walk, fun shorter less other => ?_⟩
      exact nearer ⟨shorter, Nat.le_of_lt_succ less, other⟩
  · intro either
    rcases either with nearer | distance
    · obtain ⟨shorter, atMost, walk⟩ := nearer
      exact ⟨shorter, Nat.le_succ_of_le atMost, walk⟩
    · exact ⟨length + 1, le_rfl, distance.1⟩

end Distances

section Layers

variable {Node : Type u} [DecidableEq Node] {isRoot : Node → Prop}
  {step : Node → Node → Prop}

/-- `if node not in seen: seen.add(node); frontier.append(node)` for each node -/
def discover (seen : Finset Node) (frontier : List Node) :
    List Node → Finset Node × List Node
  | [] => (seen, frontier)
  | node :: rest =>
      if node ∈ seen then discover seen frontier rest
      else discover (insert node seen) (frontier ++ [node]) rest

theorem mem_discover_seen {seen : Finset Node} {frontier nodes : List Node}
    {node : Node} :
    node ∈ (discover seen frontier nodes).1 ↔ node ∈ seen ∨ node ∈ nodes := by
  induction nodes generalizing seen frontier with
  | nil => simp [discover]
  | cons head rest ih =>
      unfold discover
      split
      next known =>
        rw [ih, List.mem_cons]
        constructor
        · exact Or.imp_right .inr
        · intro either
          rcases either with seen | same | later
          · exact .inl seen
          · exact .inl (same ▸ known)
          · exact .inr later
      next =>
        rw [ih, Finset.mem_insert, List.mem_cons, or_assoc, or_left_comm]

theorem mem_discover_frontier {seen : Finset Node} {frontier nodes : List Node}
    {node : Node} :
    node ∈ (discover seen frontier nodes).2 ↔
      node ∈ frontier ∨ node ∈ nodes ∧ node ∉ seen := by
  induction nodes generalizing seen frontier with
  | nil => simp [discover]
  | cons head rest ih =>
      unfold discover
      split
      next known =>
        rw [ih, List.mem_cons]
        constructor
        · exact Or.imp_right (And.imp_left .inr)
        · intro either
          rcases either with listed | ⟨same | later, fresh⟩
          · exact .inl listed
          · exact absurd (same ▸ known) fresh
          · exact .inr ⟨later, fresh⟩
      next unknown =>
        rw [ih, List.mem_append, List.mem_singleton, List.mem_cons,
          Finset.mem_insert, not_or]
        constructor
        · intro either
          rcases either with (listed | same) | ⟨later, _, fresh⟩
          · exact .inl listed
          · exact .inr ⟨.inl same, same ▸ unknown⟩
          · exact .inr ⟨.inr later, fresh⟩
        · intro either
          rcases either with listed | ⟨same | later, fresh⟩
          · exact .inl (.inl listed)
          · exact .inl (.inr same)
          · by_cases same : node = head
            · exact .inl (.inr same)
            · exact .inr ⟨later, same, fresh⟩

theorem nodup_discover {seen : Finset Node} {frontier : List Node}
    (nodes : List Node) (distinct : frontier.Nodup)
    (known : ∀ node ∈ frontier, node ∈ seen) :
    (discover seen frontier nodes).2.Nodup := by
  induction nodes generalizing seen frontier with
  | nil => exact distinct
  | cons head rest ih =>
      unfold discover
      split
      next => exact ih distinct known
      next unknown =>
        apply ih
        · apply distinct.append (List.nodup_singleton head)
          intro node listed same
          rw [List.mem_singleton] at same
          exact unknown (known head (same ▸ listed))
        · intro node listed
          rw [List.mem_append, List.mem_singleton] at listed
          rw [Finset.mem_insert]
          exact listed.elim (fun before => .inr (known node before)) .inl

variable (isRoot step) in
/-- The state of a search before it visits the nodes at a distance. -/
structure Layer (length : Nat) (seen : Finset Node) (frontier : List Node) :
    Prop where
  reached : ∀ node, node ∈ seen ↔ Within isRoot step length node
  listed : ∀ node, node ∈ frontier ↔ Distance isRoot step length node
  distinct : frontier.Nodup

theorem Layer.start (roots : List Node) :
    Layer (· ∈ roots) step 0 (discover ∅ [] roots).2.toFinset
      (discover ∅ [] roots).2 where
  reached node := by
    rw [List.mem_toFinset, mem_discover_frontier, within_zero]
    simp
  listed node := by
    rw [mem_discover_frontier, distance_zero]
    simp
  distinct := nodup_discover roots List.nodup_nil (by simp)

theorem Layer.next {length : Nat} {seen : Finset Node}
    {frontier nodes : List Node}
    (layer : Layer isRoot step length seen frontier)
    (expanded : ∀ node, node ∈ nodes ↔ ∃ before ∈ frontier, step before node) :
    Layer isRoot step (length + 1) (discover seen [] nodes).1
      (discover seen [] nodes).2 := by
  have further : ∀ node, node ∈ nodes ∧ node ∉ seen ↔
      Distance isRoot step (length + 1) node := by
    intro node
    rw [expanded, layer.reached, distance_succ]
    constructor
    · intro found
      obtain ⟨⟨before, listed, stepped⟩, beyond⟩ := found
      exact ⟨⟨before, (layer.listed before).mp listed, stepped⟩, beyond⟩
    · intro found
      obtain ⟨⟨before, distance, stepped⟩, beyond⟩ := found
      exact ⟨⟨before, (layer.listed before).mpr distance, stepped⟩, beyond⟩
  constructor
  · intro node
    rw [mem_discover_seen, within_succ, ← further, layer.reached]
    tauto
  · intro node
    rw [mem_discover_frontier, further]
    simp
  · exact nodup_discover nodes List.nodup_nil (by simp)

end Layers

section Visits

variable {Node : Type u} (isRoot : Node → Prop) (step : Node → Node → Prop)

/-- Batches of visits from a distance on: whole layers, and at last perhaps a
part of one. -/
inductive Visits : Nat → List (List Node) → Prop
  | done {length : Nat} : Visits length []
  | part {length : Nat} {batch : List Node} (distinct : batch.Nodup)
      (inside : ∀ node ∈ batch, Distance isRoot step length node) :
      Visits length [batch]
  | whole {length : Nat} {batch : List Node} {rest : List (List Node)}
      (distinct : batch.Nodup)
      (exactly : ∀ node, node ∈ batch ↔ Distance isRoot step length node)
      (later : Visits (length + 1) rest) : Visits length (batch :: rest)

variable {isRoot step} {length : Nat} {batches : List (List Node)}

theorem Visits.distance (visits : Visits isRoot step length batches) {node : Node}
    (visited : node ∈ batches.flatten) :
    ∃ further, length ≤ further ∧ further < length + batches.length ∧
      Distance isRoot step further node := by
  induction visits with
  | done => cases visited
  | @part length batch _ inside =>
      rw [List.flatten_singleton] at visited
      exact ⟨length, le_rfl, by simp, inside node visited⟩
  | @whole length batch rest _ exactly _ ih =>
      rw [List.flatten_cons, List.mem_append] at visited
      rcases visited with first | later
      · exact ⟨length, le_rfl, by simp, (exactly node).mp first⟩
      · obtain ⟨further, atLeast, below, distance⟩ := ih later
        refine ⟨further, Nat.le_of_succ_le atLeast, ?_, distance⟩
        rw [List.length_cons]
        omega

theorem Visits.nodup (visits : Visits isRoot step length batches) :
    batches.flatten.Nodup := by
  induction visits with
  | done => exact List.nodup_nil
  | part distinct _ =>
      rw [List.flatten_singleton]
      exact distinct
  | @whole length batch rest distinct exactly later ih =>
      rw [List.flatten_cons]
      apply distinct.append ih
      intro node first again
      obtain ⟨further, atLeast, _, distance⟩ := later.distance again
      have same := distance.unique ((exactly node).mp first)
      omega

theorem Visits.sorted (visits : Visits isRoot step length batches) :
    batches.flatten.Pairwise fun first second => ∀ near far,
      Distance isRoot step near first → Distance isRoot step far second →
        near ≤ far := by
  induction visits with
  | done => exact List.Pairwise.nil
  | @part length batch _ inside =>
      rw [List.flatten_singleton]
      apply List.pairwise_of_forall_mem_list
      intro first isFirst second isSecond near far nearest farthest
      rw [nearest.unique (inside first isFirst),
        farthest.unique (inside second isSecond)]
  | @whole length batch rest _ exactly later ih =>
      rw [List.flatten_cons, List.pairwise_append]
      refine ⟨?_, ih, ?_⟩
      · apply List.pairwise_of_forall_mem_list
        intro first isFirst second isSecond near far nearest farthest
        rw [nearest.unique ((exactly first).mp isFirst),
          farthest.unique ((exactly second).mp isSecond)]
      · intro first isFirst second isSecond near far nearest farthest
        obtain ⟨further, atLeast, _, distance⟩ := later.distance isSecond
        rw [nearest.unique ((exactly first).mp isFirst),
          farthest.unique distance]
        omega

/-- Nothing nearer than a visited node is left out. -/
theorem Visits.nearer (visits : Visits isRoot step length batches)
    {node other : Node} {near far : Nat} (visited : node ∈ batches.flatten)
    (farther : Distance isRoot step far node) (less : near < far)
    (from_ : length ≤ near) (nearest : Distance isRoot step near other) :
    other ∈ batches.flatten := by
  induction visits with
  | done => cases visited
  | @part length batch _ inside =>
      rw [List.flatten_singleton] at visited
      have same := farther.unique (inside node visited)
      omega
  | @whole length batch rest _ exactly _ ih =>
      rw [List.flatten_cons, List.mem_append] at visited ⊢
      rcases Nat.eq_or_lt_of_le from_ with same | beyond
      · subst same
        exact .inl ((exactly other).mpr nearest)
      · rcases visited with first | later
        · have same := farther.unique ((exactly node).mp first)
          omega
        · exact .inr (ih later beyond)

end Visits

end BreadthFirst
