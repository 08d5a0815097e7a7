import Catwalk.Frontend.Tree

/-! The nodes of the tree over whole runs: what each step makes of them, and
when they are consistent. -/

namespace Catwalk.TreeView

/-! One record. -/

namespace TreeNode

/-- `childrenUl` is the list appended last. -/
def Linked (node : TreeNode) : Prop :=
  node.childrenUl =
    if node.lists = [] then none else some (node.lists.length - 1)

theorem length_setHidden (node : TreeNode) (hidden : Bool) :
    (node.setHidden hidden).length = node.lists.length := by
  rw [setHidden]
  cases node.childrenUl with
  | none => rfl
  | some index => exact List.length_modify ..

theorem setHidden_eq_nil {node : TreeNode} {hidden : Bool} :
    node.setHidden hidden = [] ↔ node.lists = [] := by
  rw [← List.length_eq_zero_iff, length_setHidden, List.length_eq_zero_iff]

theorem Linked.fresh : Linked fresh := rfl

theorem Linked.of_lists {node other : TreeNode} (linked : node.Linked)
    (childrenUl : other.childrenUl = node.childrenUl)
    (length : other.lists.length = node.lists.length) : other.Linked := by
  have empty : other.lists = [] ↔ node.lists = [] := by
    rw [← List.length_eq_zero_iff, length, List.length_eq_zero_iff]
  rw [Linked, childrenUl, linked, length]
  by_cases none : node.lists = []
  · rw [if_pos none, if_pos (empty.mpr none)]
  · rw [if_neg none, if_neg (mt empty.mp none)]

theorem Linked.attach {node : TreeNode} (nodes : List Nat) (empty : Bool) :
    (node.attach nodes empty).Linked := by
  have length : (node.attach nodes empty).lists.length =
      node.lists.length + 1 := List.length_append
  rw [Linked, if_neg (List.ne_nil_of_length_pos (by omega)), length]
  rfl

theorem Consistent.fresh : Consistent fresh where
  single := Nat.zero_le 1
  current index ul found := by cases found
  visible ul member := absurd member List.not_mem_nil

theorem Consistent.cases {node : TreeNode} (consistent : node.Consistent) :
    node.lists = [] ∨ ∃ ul, node.lists = [ul] ∧
      node.childrenUl = some 0 := by
  have single := consistent.single
  have current := consistent.current
  cases lists : node.lists with
  | nil => exact .inl rfl
  | cons ul later =>
      cases later with
      | nil => exact .inr ⟨ul, rfl, current 0 ul (by rw [lists]; rfl)⟩
      | cons next later =>
          rw [lists] at single
          simp at single

theorem Consistent.of_nil {node : TreeNode} (none : node.lists = []) :
    node.Consistent where
  single := by rw [none]; exact Nat.zero_le 1
  current index ul found := by rw [none] at found; cases found
  visible ul member := by rw [none] at member; cases member

theorem Consistent.of_single {node : TreeNode} {ul : Ul}
    (lists : node.lists = [ul]) (childrenUl : node.childrenUl = some 0)
    (visible : ul.hidden = false ↔ node.expanded = true) :
    node.Consistent where
  single := by rw [lists]; exact le_rfl
  current index other found := by
    rw [lists] at found
    cases index with
    | zero => exact childrenUl
    | succ index => cases found
  visible other member := by
    rw [lists] at member
    rw [List.mem_singleton.mp member]
    exact visible

/-- Collapsing and reopening set the list of the record as the record. -/
theorem Consistent.setHidden {node : TreeNode} (consistent : node.Consistent)
    (expanded : Bool) (twist : Twist) :
    Consistent ⟨expanded, twist, node.childrenUl, node.setHidden !expanded⟩ := by
  rcases consistent.cases with none | ⟨ul, lists, childrenUl⟩
  · exact .of_nil (setHidden_eq_nil.mpr none)
  · have single : node.setHidden (!expanded) =
        [{ ul with hidden := !expanded }] := by
      rw [TreeNode.setHidden, childrenUl, lists]
      rfl
    refine @Consistent.of_single ⟨expanded, twist, node.childrenUl,
      node.setHidden !expanded⟩ _ single childrenUl ?_
    cases expanded with
    | false => exact iff_of_false Bool.noConfusion Bool.false_ne_true
    | true => exact iff_of_true rfl rfl

theorem consistent_fail {node : TreeNode} (linked : node.Linked) :
    node.fail.Consistent ↔
      node.lists.length ≤ 1 ∧ ∀ ul ∈ node.lists, ul.hidden = true := by
  constructor
  · intro consistent
    refine ⟨consistent.single, fun ul member => ?_⟩
    have visible := consistent.visible ul member
    cases hidden : ul.hidden with
    | true => rfl
    | false => exact absurd (visible.mp hidden) Bool.false_ne_true
  · intro before
    obtain ⟨single, hidden⟩ := before
    cases lists : node.lists with
    | nil => exact .of_nil lists
    | cons ul later =>
        cases later with
        | cons next later => rw [lists] at single; simp at single
        | nil =>
            have childrenUl : node.childrenUl = some 0 := by
              rw [linked, lists]
              rfl
            have isHidden := hidden ul (by rw [lists]; exact List.mem_cons_self)
            refine @Consistent.of_single node.fail ul lists childrenUl ?_
            apply iff_of_false
            · rw [isHidden]
              exact Bool.noConfusion
            · exact Bool.false_ne_true

theorem consistent_attach {node : TreeNode} (nodes : List Nat)
    (empty : Bool) :
    (node.attach nodes empty).Consistent ↔
      node.lists = [] ∧ node.expanded = true := by
  constructor
  · intro consistent
    have single := consistent.single
    rw [attach, List.length_append] at single
    have none : node.lists = [] :=
      List.length_eq_zero_iff.mp (Nat.le_zero.mp (Nat.le_of_succ_le_succ single))
    have visible := consistent.visible ⟨false, nodes⟩
      (List.mem_append_right _ (List.mem_singleton_self _))
    exact ⟨none, visible.mp rfl⟩
  · intro before
    obtain ⟨none, expanded⟩ := before
    have lists : (node.attach nodes empty).lists = [⟨false, nodes⟩] := by
      rw [attach, none]
      rfl
    have childrenUl : (node.attach nodes empty).childrenUl = some 0 := by
      rw [attach, none]
      rfl
    exact .of_single lists childrenUl (iff_of_true rfl expanded)

end TreeNode

/-! Every record. -/

theorem mem_set_iff {α : Type} {list : List α} {id : Nat} {old new other : α}
    (found : list[id]? = some old) :
    other ∈ list.set id new ↔ other = new ∨ other ∈ list.eraseIdx id := by
  obtain ⟨bound, _⟩ := List.getElem?_eq_some_iff.mp found
  rw [List.set_eq_take_append_cons_drop, if_pos bound,
    List.eraseIdx_eq_take_drop_succ, List.mem_append, List.mem_append,
    List.mem_cons]
  tauto

theorem mem_iff_eraseIdx {α : Type} {list : List α} {id : Nat}
    {old other : α} (found : list[id]? = some old) :
    other ∈ list ↔ other = old ∨ other ∈ list.eraseIdx id := by
  obtain ⟨bound, same⟩ := List.getElem?_eq_some_iff.mp found
  have whole : list.set id old = list := by
    rw [← same]
    exact List.set_getElem_self bound
  rw [← mem_set_iff found, whole]

theorem getElem?_modify_some {list : List TreeNode} {id place : Nat}
    {change : TreeNode → TreeNode} {node : TreeNode}
    (found : (list.modify id change)[place]? = some node) :
    ∃ old, list[place]? = some old ∧
      node = if id = place then change old else old := by
  rw [List.getElem?_modify] at found
  obtain ⟨old, before, same⟩ := Option.map_eq_some_iff.mp found
  exact ⟨old, before, same.symm⟩

namespace State

/-- Every `childrenUl` is the list appended last. -/
def Linked (state : State) : Prop :=
  ∀ (id : Nat) (node : TreeNode), state.recs[id]? = some node → node.Linked

theorem Linked.modifyNode {state : State} (linked : state.Linked) (id : Nat)
    {change : TreeNode → TreeNode}
    (kept : ∀ node : TreeNode, node.Linked → (change node).Linked) :
    (state.modifyNode id change).Linked := by
  intro place node found
  obtain ⟨old, before, rfl⟩ := getElem?_modify_some found
  have oldLinked := linked place old before
  split
  · exact kept old oldLinked
  · exact oldLinked

theorem getElem?_append_fresh {recs : List TreeNode} {count id : Nat}
    {node : TreeNode}
    (found : (recs ++ List.replicate count TreeNode.fresh)[id]? = some node) :
    recs[id]? = some node ∨ node = .fresh := by
  by_cases old : id < recs.length
  · rw [List.getElem?_append_left old] at found
    exact .inl found
  · rw [List.getElem?_append_right (Nat.le_of_not_lt old)] at found
    have member := List.mem_of_getElem? found
    exact .inr (List.eq_of_mem_replicate member)

theorem makeTreeNodes_spec (path : Text) (state : State)
    (names : List Text) :
    (makeTreeNodes path state names).1.recs =
        state.recs ++ List.replicate names.length TreeNode.fresh ∧
      (makeTreeNodes path state names).1.requests = state.requests := by
  induction names generalizing state with
  | nil => exact ⟨(List.append_nil _).symm, rfl⟩
  | cons name names ih =>
      obtain ⟨recs, requests⟩ :=
        ih (state.makeTreeNode (path ++ name ++ ['/'])).1
      constructor
      · rw [makeTreeNodes]
        dsimp only
        rw [recs, makeTreeNode, List.append_assoc]
        rfl
      · exact requests

theorem Linked.append_fresh {state after : State} (linked : state.Linked)
    {count : Nat}
    (recs : after.recs = state.recs ++ List.replicate count TreeNode.fresh) :
    after.Linked := by
  intro id node found
  rw [recs] at found
  rcases getElem?_append_fresh found with old | rfl
  · exact linked id node old
  · exact .fresh

theorem Consistent.append_fresh {state after : State}
    (consistent : state.Consistent) {count : Nat}
    (recs : after.recs = state.recs ++ List.replicate count TreeNode.fresh)
    (requests : after.requests = state.requests) : after.Consistent := by
  intro id node found idle
  rw [recs] at found
  rcases getElem?_append_fresh found with old | rfl
  · refine consistent id node old ?_
    intro pending
    apply idle
    rw [Pending, requests]
    exact pending
  · exact .fresh

theorem toggleNode_cases (state : State) (path : Text) :
    (state.toggleNode path).1 = state ∨
      (∃ id, (state.toggleNode path).1 = state.modifyNode id .collapse) ∨
      (∃ id, (state.toggleNode path).1 = state.modifyNode id .reopen) ∨
      ∃ id, id < state.recs.length ∧ (state.toggleNode path).1 =
        { state.modifyNode id .load with
          requests := state.requests ++ [⟨id, path, true⟩] } := by
  rw [toggleNode]
  cases state.treeNodes path with
  | none => exact .inl rfl
  | some id =>
      dsimp only
      cases found : state.recs[id]? with
      | none => exact .inl rfl
      | some node =>
          have bound := (List.getElem?_eq_some_iff.mp found).1
          dsimp only
          cases node.expanded with
          | true => exact .inr (.inl ⟨id, rfl⟩)
          | false =>
              cases node.childrenUl.isSome with
              | true => exact .inr (.inr (.inl ⟨id, rfl⟩))
              | false => exact .inr (.inr (.inr ⟨id, bound, rfl⟩))

theorem Linked.toggleNode {state : State} (linked : state.Linked)
    (path : Text) : (state.toggleNode path).1.Linked := by
  rcases state.toggleNode_cases path with same | ⟨id, same⟩ | ⟨id, same⟩ |
    ⟨id, _, same⟩
  · rw [same]
    exact linked
  · rw [same]
    exact linked.modifyNode id fun node before =>
      before.of_lists rfl (node.length_setHidden true)
  · rw [same]
    exact linked.modifyNode id fun node before =>
      before.of_lists rfl (node.length_setHidden false)
  · rw [same]
    exact linked.modifyNode id fun node before => before.of_lists rfl rfl

/-- A click keeps what rests consistent; the node of a new request waits. -/
theorem Consistent.toggleNode {state : State} (consistent : state.Consistent)
    (path : Text) : (state.toggleNode path).1.Consistent := by
  have changed : ∀ (id : Nat) (change : TreeNode → TreeNode),
      (∀ node : TreeNode, node.Consistent → (change node).Consistent) →
        (state.modifyNode id change).Consistent := by
    intro id change kept place node found idle
    obtain ⟨old, before, rfl⟩ := getElem?_modify_some found
    have rested := consistent place old before idle
    split
    · exact kept old rested
    · exact rested
  rcases state.toggleNode_cases path with same | ⟨id, same⟩ | ⟨id, same⟩ |
    ⟨id, _, same⟩
  · rw [same]
    exact consistent
  · rw [same]
    exact changed id _ fun node rested => rested.setHidden false .closed
  · rw [same]
    exact changed id _ fun node rested => rested.setHidden true .opened
  · rw [same]
    intro place node found idle
    obtain ⟨old, before, rfl⟩ := getElem?_modify_some found
    by_cases target : id = place
    · refine absurd ⟨⟨id, path, true⟩, ?_, target, rfl⟩ idle
      exact List.mem_append_right _ (List.mem_singleton_self _)
    · rw [if_neg target]
      refine consistent place old before ?_
      intro pending
      obtain ⟨request, member, itsTarget, isPending⟩ := pending
      exact idle ⟨request, List.mem_append_left _ member, itsTarget,
        isPending⟩

/-- Requests are for records that exist. -/
def Aimed (state : State) : Prop :=
  ∀ request ∈ state.requests, request.target < state.recs.length

theorem Aimed.toggleNode {state : State} (aimed : state.Aimed)
    (path : Text) : (state.toggleNode path).1.Aimed := by
  have changed : ∀ (id : Nat) (change : TreeNode → TreeNode),
      (state.modifyNode id change).Aimed := by
    intro id change request member
    rw [modifyNode, List.length_modify]
    exact aimed request member
  rcases state.toggleNode_cases path with same | ⟨id, same⟩ | ⟨id, same⟩ |
    ⟨id, bound, same⟩
  · rw [same]
    exact aimed
  · rw [same]
    exact changed id _
  · rw [same]
    exact changed id _
  · rw [same]
    intro request member
    rw [modifyNode, List.length_modify]
    rcases List.mem_append.mp member with before | new
    · exact aimed request before
    · rw [List.mem_singleton.mp new]
      exact bound

/-- What holds of every state, whatever the order of the steps. -/
structure Sound (state : State) : Prop where
  linked : state.Linked
  aimed : state.Aimed

theorem Sound.toggleNode {state : State} (sound : state.Sound)
    (path : Text) : (state.toggleNode path).1.Sound :=
  ⟨sound.linked.toggleNode path, sound.aimed.toggleNode path⟩

/-- An answer changes the record of its request, next to fresh ones. -/
theorem settle_spec (state : State) (request : Request)
    (data : Option Listing) :
    ∃ (count : Nat) (change : TreeNode → TreeNode),
      (state.settle request data).recs =
          (state.recs ++ List.replicate count TreeNode.fresh).modify
            request.target change ∧
        (state.settle request data).requests = state.requests ∧
        (∀ node : TreeNode, node.Linked → (change node).Linked) ∧
        ∀ node : TreeNode, node.Linked →
          ((change node).Consistent ↔ node.Ready data) := by
  cases data with
  | none =>
      refine ⟨0, .fail, ?_, rfl, ?_,
        fun node linked => TreeNode.consistent_fail linked⟩
      · rw [List.replicate_zero, List.append_nil]
        rfl
      · exact fun node linked => linked.of_lists rfl rfl
  | some data =>
      obtain ⟨recs, requests⟩ :=
        makeTreeNodes_spec request.path state data.entries
      refine ⟨data.entries.length, .attach
        (makeTreeNodes request.path state data.entries).2
        (data.entries = [] ∧ data.totalDirs = 0), ?_, requests, ?_, ?_⟩
      · rw [← recs]
        rfl
      · exact fun node _ => .attach _ _
      · exact fun node _ => TreeNode.consistent_attach _ _

/-- A node rests after its answer if nothing else is on the way for it. -/
theorem pending_answered {state after : State} {id : Nat} {request : Request}
    (found : state.requests[id]? = some request)
    (requests : after.requests =
      state.requests.set id { request with pending := false }) :
    (¬ after.Pending request.target ↔
      ∀ other ∈ state.requests.eraseIdx id,
        other.target = request.target → other.pending = false) ∧
    ∀ place, place ≠ request.target → state.Pending place →
      after.Pending place := by
  constructor
  · constructor
    · intro idle other member target
      cases isPending : other.pending with
      | false => rfl
      | true =>
          refine absurd ⟨other, ?_, target, isPending⟩ idle
          rw [requests]
          exact (mem_set_iff found).mpr (.inr member)
    · intro rest pending
      obtain ⟨other, member, target, isPending⟩ := pending
      rw [requests] at member
      rcases (mem_set_iff found).mp member with same | inside
      · rw [same] at isPending
        cases isPending
      · rw [rest other inside target] at isPending
        cases isPending
  · intro place differs pending
    obtain ⟨other, member, target, isPending⟩ := pending
    rcases (mem_iff_eraseIdx found).mp member with same | inside
    · rw [same] at target
      exact absurd target.symm differs
    · refine ⟨other, ?_, target, isPending⟩
      rw [requests]
      exact (mem_set_iff found).mpr (.inr inside)

theorem answer_some {state after : State} {id : Nat} {data : Option Listing}
    (stepped : state.answer id data = some after) :
    ∃ request, state.requests[id]? = some request ∧
      after = { state with
        requests := state.requests.set id { request with pending := false }
        }.settle request data := by
  rw [answer] at stepped
  cases found : state.requests[id]? with
  | none => rw [found] at stepped; cases stepped
  | some request =>
      rw [found] at stepped
      dsimp only at stepped
      split at stepped
      · exact ⟨request, rfl, (Option.some.inj stepped).symm⟩
      · cases stepped

theorem Sound.answer {state after : State} (sound : state.Sound) {id : Nat}
    {data : Option Listing} (stepped : state.answer id data = some after) :
    after.Sound := by
  obtain ⟨request, found, rfl⟩ := answer_some stepped
  obtain ⟨count, change, recs, requests, linked, _⟩ := settle_spec { state with
    requests := state.requests.set id { request with pending := false }
    } request data
  constructor
  · intro place node member
    rw [recs] at member
    obtain ⟨old, before, rfl⟩ := getElem?_modify_some member
    have oldLinked : old.Linked := by
      rcases getElem?_append_fresh before with old | rfl
      · exact sound.linked place _ old
      · exact .fresh
    split
    · exact linked old oldLinked
    · exact oldLinked
  · intro other member
    rw [requests] at member
    have bound : other.target < state.recs.length := by
      rcases (mem_set_iff found).mp member with same | inside
      · rw [same]
        exact sound.aimed request (List.mem_of_getElem? found)
      · exact sound.aimed other
          ((mem_iff_eraseIdx found).mpr (.inr inside))
    rw [recs, List.length_modify, List.length_append]
    exact Nat.lt_add_right _ bound

/-- Where everything at rest is consistent, it stays so across an answer just
when the answer is in time. -/
theorem Consistent.answer_iff {state after : State} (sound : state.Sound)
    (consistent : state.Consistent) {id : Nat} {data : Option Listing}
    (stepped : state.answer id data = some after) :
    after.Consistent ↔ Timely state (.answer id data) := by
  obtain ⟨request, found, rfl⟩ := answer_some stepped
  obtain ⟨count, change, recs, requests, _, changed⟩ := settle_spec { state with
    requests := state.requests.set id { request with pending := false }
    } request data
  obtain ⟨idle_iff, others⟩ := pending_answered found requests
  have bound := sound.aimed request (List.mem_of_getElem? found)
  constructor
  · intro rested request' node found' here rest
    -- Nothing else is on the way for the node, so it rests after the answer.
    obtain rfl : request = request' := Option.some.inj (found.symm.trans found')
    refine (changed node (sound.linked _ node here)).mp ?_
    refine rested request.target (change node) ?_ (idle_iff.mpr rest)
    rw [recs, List.getElem?_modify_eq, List.getElem?_append_left bound, here]
    rfl
  · intro timely place node member idle
    rw [recs] at member
    obtain ⟨old, before, rfl⟩ := getElem?_modify_some member
    rcases eq_or_ne request.target place with rfl | differs
    · rw [List.getElem?_append_left bound] at before
      rw [if_pos rfl]
      exact (changed old (sound.linked _ old before)).mpr
        (timely request old found before (idle_iff.mp idle))
    · rw [if_neg differs]
      -- What another node waits for is still on the way.
      rcases getElem?_append_fresh before with old | rfl
      · exact consistent place _ old fun pending =>
          idle (others place (Ne.symm differs) pending)
      · exact .fresh

/-! Every step. -/

theorem Sound.of_eq {state after : State} (sound : state.Sound)
    (recs : after.recs = state.recs)
    (requests : after.requests = state.requests) : after.Sound := by
  constructor
  · intro id node found
    rw [recs] at found
    exact sound.linked id node found
  · intro request member
    rw [requests] at member
    rw [recs]
    exact sound.aimed request member

theorem Consistent.of_eq {state after : State} (consistent : state.Consistent)
    (recs : after.recs = state.recs)
    (requests : after.requests = state.requests) : after.Consistent := by
  intro id node found idle
  rw [recs] at found
  refine consistent id node found ?_
  intro pending
  apply idle
  rw [Pending, requests]
  exact pending

theorem advance_cases {state after : State} {id : Nat}
    (stepped : state.advance id = some after) :
    (after.recs = state.recs ∧ after.requests = state.requests) ∨
      ∃ path, after.recs = (state.toggleNode path).1.recs ∧
        after.requests = (state.toggleNode path).1.requests := by
  rw [advance] at stepped
  cases found : state.walks[id]? with
  | none => rw [found] at stepped; cases stepped
  | some walk =>
      rw [found] at stepped
      dsimp only at stepped
      cases place : walk.place with
      | loop =>
          rw [place] at stepped
          dsimp only at stepped
          split at stepped
          · cases stepped
          · split at stepped
            · obtain rfl := Option.some.inj stepped
              exact .inr ⟨walk.acc, rfl, rfl⟩
            · obtain rfl := Option.some.inj stepped
              exact .inl ⟨rfl, rfl⟩
      | awaiting request =>
          rw [place] at stepped
          dsimp only at stepped
          split at stepped
          · obtain rfl := Option.some.inj stepped
            exact .inl ⟨rfl, rfl⟩
          · cases stepped

theorem expandTo_nodes (state : State) (path : Text) :
    (state.expandTo path).recs = state.recs ∧
      (state.expandTo path).requests = state.requests := by
  rw [expandTo]
  split
  · exact ⟨rfl, rfl⟩
  · exact ⟨rfl, rfl⟩

/-- The root of a rebuilt tree, before it is toggled. -/
def rooted (state : State) (rootPath : Text) : State :=
  ({ state with treeRoot := rootPath, treeNodes := fun _ => none }.makeTreeNode
    rootPath).1

theorem recs_rooted (state : State) (rootPath : Text) :
    (state.rooted rootPath).recs =
      state.recs ++ List.replicate 1 TreeNode.fresh := rfl

theorem Sound.rooted {state : State} (sound : state.Sound)
    (rootPath : Text) : (state.rooted rootPath).Sound := by
  constructor
  · exact sound.linked.append_fresh (state.recs_rooted rootPath)
  · intro request member
    rw [recs_rooted, List.length_append]
    exact Nat.lt_add_right _ (sound.aimed request member)

theorem Sound.step {state after : State} {label : Label}
    (sound : state.Sound) (stepped : state.step label = some after) :
    after.Sound := by
  cases label with
  | toggleNode path =>
      obtain rfl := Option.some.inj stepped
      exact sound.toggleNode path
  | rebuildTree rootPath =>
      obtain rfl := Option.some.inj stepped
      exact (sound.rooted rootPath).toggleNode rootPath
  | expandTo path =>
      obtain rfl := Option.some.inj stepped
      obtain ⟨recs, requests⟩ := state.expandTo_nodes path
      exact sound.of_eq recs requests
  | advance walk =>
      rcases advance_cases stepped with ⟨recs, requests⟩ | toggled
      · exact sound.of_eq recs requests
      · obtain ⟨path, recs, requests⟩ := toggled
        exact (sound.toggleNode path).of_eq recs requests
  | answer request data => exact sound.answer stepped

theorem Consistent.step_iff {state after : State} {label : Label}
    (sound : state.Sound) (consistent : state.Consistent)
    (stepped : state.step label = some after) :
    after.Consistent ↔ Timely state label := by
  cases label with
  | toggleNode path =>
      obtain rfl := Option.some.inj stepped
      exact iff_of_true (consistent.toggleNode path) trivial
  | rebuildTree rootPath =>
      obtain rfl := Option.some.inj stepped
      have root : (state.rooted rootPath).Consistent :=
        consistent.append_fresh (state.recs_rooted rootPath) rfl
      exact iff_of_true (root.toggleNode rootPath) trivial
  | expandTo path =>
      obtain rfl := Option.some.inj stepped
      obtain ⟨recs, requests⟩ := state.expandTo_nodes path
      exact iff_of_true (consistent.of_eq recs requests) trivial
  | advance walk =>
      refine iff_of_true ?_ trivial
      rcases advance_cases stepped with ⟨recs, requests⟩ | toggled
      · exact consistent.of_eq recs requests
      · obtain ⟨path, recs, requests⟩ := toggled
        exact (consistent.toggleNode path).of_eq recs requests
  | answer request data => exact consistent.answer_iff sound stepped

end State

/-- Over any order of clicks, walks, rebuilds and answers: every node is
consistent whenever nothing is on the way for it, just when each node's last
answer finds it ready. -/
theorem consistent_throughout_iff {schedule : List Label} {final : State}
    (ran : system.run .initial schedule = some final) :
    system.Throughout State.Consistent .initial schedule ↔
      system.Meets Timely .initial schedule := by
  have sound : State.initial.Sound := by
    constructor
    · intro id node found
      cases found
    · intro request member
      cases member
  have consistent : State.initial.Consistent := by
    intro id node found
    cases found
  exact StepSystem.throughout_iff_meets
    (fun _ _ _ sound stepped => State.Sound.step sound stepped)
    (fun _ _ _ sound consistent stepped =>
      State.Consistent.step_iff sound consistent stepped)
    sound consistent ran

/-- The root is listed while nobody clicks on it. -/
theorem consistent_throughout_iff_listed :
    system.Throughout State.Consistent .initial
      [.rebuildTree ['/'], .answer 0 (some ⟨["a".toList], 1⟩),
        .toggleNode ['/']] := by
  apply (consistent_throughout_iff (show system.run .initial
    [.rebuildTree ['/'], .answer 0 (some ⟨["a".toList], 1⟩),
      .toggleNode ['/']] = some _ from rfl)).mpr
  refine ⟨trivial, fun next stepped => ?_⟩
  obtain rfl := Option.some.inj stepped
  refine ⟨?_, fun next _ => ⟨trivial, fun _ _ => trivial⟩⟩
  intro request node found here _
  obtain rfl := Option.some.inj found
  obtain rfl := Option.some.inj here
  exact ⟨rfl, rfl⟩

/-- A click during the first listing leaves a visible list under a collapsed
node; two clicks leave two lists. -/
theorem listing_overtaken :
    (∃ final, system.run .initial
        [.rebuildTree ['/'], .toggleNode ['/'],
          .answer 0 (some ⟨["a".toList], 1⟩)] = some final ∧
      ¬ final.Consistent) ∧
    ∃ final, system.run .initial
        [.rebuildTree ['/'], .toggleNode ['/'], .toggleNode ['/'],
          .answer 0 (some ⟨["a".toList], 1⟩),
          .answer 1 (some ⟨["a".toList], 1⟩)] = some final ∧
      ¬ final.Consistent := by
  constructor
  · refine ⟨_, rfl, fun consistent => ?_⟩
    have rested := consistent 0 _ rfl (by decide)
    exact Bool.false_ne_true
      ((rested.visible _ (List.mem_singleton_self _)).mp rfl)
  · refine ⟨_, rfl, fun consistent => ?_⟩
    have rested := consistent 0 _ rfl (by decide)
    exact absurd rested.single (by decide)

end Catwalk.TreeView
