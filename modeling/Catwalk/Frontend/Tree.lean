import Catwalk.Catalog.Path
import Catwalk.Theory.StepSystem

/-! The directory tree of `static/app.js`: nodes expanded and collapsed while
the listings of their children are on the way. -/

namespace Catwalk.TreeView

/-- `▸`, `▾`, `◌`, `·` -/
inductive Twist
  | closed
  | opened
  | loading
  | leaf
  deriving DecidableEq

/-- A `ul` of children; `nodes` are the places of their records. -/
structure Ul where
  hidden : Bool
  nodes : List Nat
  deriving DecidableEq

/-- A record of `treeNodes`. `lists` holds what was appended to its `li`, in
order; `childrenUl` is the place of one of them. -/
structure TreeNode where
  expanded : Bool
  twist : Twist
  childrenUl : Option Nat
  lists : List Ul
  deriving DecidableEq

namespace TreeNode

def fresh : TreeNode := ⟨false, .closed, none, []⟩

/-- `rec.childrenUl.classList` with or without `hidden`. -/
def setHidden (node : TreeNode) (hidden : Bool) : List Ul :=
  match node.childrenUl with
  | none => node.lists
  | some index => node.lists.modify index fun ul => { ul with hidden := hidden }

def collapse (node : TreeNode) : TreeNode :=
  { node with
    expanded := false
    twist := .closed
    lists := node.setHidden true }

def reopen (node : TreeNode) : TreeNode :=
  { node with
    expanded := true
    twist := .opened
    lists := node.setHidden false }

def load (node : TreeNode) : TreeNode :=
  { node with
    expanded := true
    twist := .loading }

/-- The `catch` of `toggleNode`. -/
def fail (node : TreeNode) : TreeNode :=
  { node with
    expanded := false
    twist := .closed }

/-- What `toggleNode` does with the list it has built. -/
def attach (nodes : List Nat) (empty : Bool) (node : TreeNode) : TreeNode :=
  { node with
    twist := if empty then .leaf else .opened
    childrenUl := some node.lists.length
    lists := node.lists ++ [⟨false, nodes⟩] }

end TreeNode

/-- A GET of `/api/ls` that `toggleNode` awaits for a record. -/
structure Request where
  target : Nat
  path : Text
  pending : Bool
  deriving DecidableEq

/-- Where `expandTo` stands: at the head of its loop, or awaiting
`toggleNode`, which has sent a request or returned without one. -/
inductive Place
  | loop
  | awaiting (request : Option Nat)
  deriving DecidableEq

structure Walk where
  rel : List Text
  acc : Text
  place : Place

structure State where
  treeRoot : Text
  treeNodes : Text → Option Nat
  recs : List TreeNode
  requests : List Request
  walks : List Walk

/-- `data.body`: the names of the entries, and `total_dirs`. -/
structure Listing where
  entries : List Text
  totalDirs : Nat

/-- A click on a twist or a call of `toggleNode`, the calls of `rebuildTree`
and `expandTo`, a round of a walk, and the answer to a request. -/
inductive Label
  | toggleNode (path : Text)
  | rebuildTree (rootPath : Text)
  | expandTo (path : Text)
  | advance (walk : Nat)
  | answer (request : Nat) (data : Option Listing)

namespace State

def initial : State := ⟨['/'], fun _ => none, [], [], []⟩

def modifyNode (state : State) (id : Nat) (change : TreeNode → TreeNode) :
    State :=
  { state with recs := state.recs.modify id change }

/-- `makeTreeNode`, with the place of the new record. -/
def makeTreeNode (state : State) (path : Text) : State × Nat :=
  ({ state with
      treeNodes := fun other =>
        if other = path then some state.recs.length else state.treeNodes other
      recs := state.recs ++ [.fresh] },
    state.recs.length)

/-- The loop over the entries of a listing. -/
def makeTreeNodes (path : Text) : State → List Text → State × List Nat
  | state, [] => (state, [])
  | state, name :: names =>
      let (state, id) := state.makeTreeNode (path ++ name ++ ['/'])
      let (state, ids) := makeTreeNodes path state names
      (state, id :: ids)

/-- `toggleNode` up to its `await`, with the request it has sent. -/
def toggleNode (state : State) (path : Text) : State × Option Nat :=
  match state.treeNodes path with
  | none => (state, none)
  | some id =>
      match state.recs[id]? with
      | none => (state, none)
      | some node =>
          if node.expanded then (state.modifyNode id .collapse, none)
          else if node.childrenUl.isSome then
            (state.modifyNode id .reopen, none)
          else
            ({ state.modifyNode id .load with
                requests := state.requests ++ [⟨id, path, true⟩] },
              some state.requests.length)

/-- `toggleNode` behind its `await`. -/
def settle (state : State) (request : Request) : Option Listing → State
  | none => state.modifyNode request.target .fail
  | some data =>
      let (state, nodes) := makeTreeNodes request.path state data.entries
      state.modifyNode request.target
        (.attach nodes (data.entries = [] ∧ data.totalDirs = 0))

def rebuildTree (state : State) (rootPath : Text) : State :=
  let state := { state with treeRoot := rootPath, treeNodes := fun _ => none }
  ((state.makeTreeNode rootPath).1.toggleNode rootPath).1

def setWalk (state : State) (id : Nat) (walk : Walk) : State :=
  { state with walks := state.walks.set id walk }

/-- The end of a round: `if (!treeNodes.has(acc)) break;` -/
def nextRound (state : State) (walk : Walk) : Walk :=
  match walk.rel with
  | [] => { walk with place := .loop }
  | part :: rel =>
      let acc := walk.acc ++ part ++ ['/']
      ⟨if (state.treeNodes acc).isSome then rel else [], acc, .loop⟩

/-- `!rec.expanded` of the record of a path. -/
def isClosed (state : State) (path : Text) : Bool :=
  ((state.treeNodes path).bind (state.recs[·]?)).any (!·.expanded)

def isSettled (state : State) (request : Option Nat) : Bool :=
  request.all fun id => (state.requests[id]?).all (!·.pending)

/-- A part of a round of `expandTo`; none is left when `rel` is empty. -/
def advance (state : State) (id : Nat) : Option State :=
  match state.walks[id]? with
  | none => none
  | some walk =>
      match walk.place with
      | .loop =>
          if walk.rel = [] then none
          else if state.isClosed walk.acc then
            let (toggled, request) := state.toggleNode walk.acc
            some (toggled.setWalk id { walk with place := .awaiting request })
          else some (state.setWalk id (state.nextRound walk))
      | .awaiting request =>
          if state.isSettled request then
            some (state.setWalk id (state.nextRound walk))
          else none

def expandTo (state : State) (path : Text) : State :=
  if state.treeRoot <+: path then
    let rel := ((path.drop state.treeRoot.length).splitOn '/').filter (· ≠ [])
    { state with walks := state.walks ++ [⟨rel, state.treeRoot, .loop⟩] }
  else state

def answer (state : State) (id : Nat) (data : Option Listing) :
    Option State :=
  match state.requests[id]? with
  | none => none
  | some request =>
      if request.pending then
        some ({ state with
          requests := state.requests.set id { request with pending := false }
          }.settle request data)
      else none

def step (state : State) : Label → Option State
  | .toggleNode path => some (state.toggleNode path).1
  | .rebuildTree rootPath => some (state.rebuildTree rootPath)
  | .expandTo path => some (state.expandTo path)
  | .advance walk => state.advance walk
  | .answer request data => state.answer request data

end State

def system : StepSystem State Label where
  init state := state = .initial
  step := State.step

/-! What is to hold of a node that waits for nothing. -/

/-- At most one list, the one of the record, and visible just when the node
is expanded. -/
structure TreeNode.Consistent (node : TreeNode) : Prop where
  single : node.lists.length ≤ 1
  current : ∀ (index : Nat) (ul : Ul), node.lists[index]? = some ul →
    node.childrenUl = some index
  visible : ∀ ul ∈ node.lists, ul.hidden = false ↔ node.expanded = true

/-- A request of the node is on the way. -/
def State.Pending (state : State) (id : Nat) : Prop :=
  ∃ request ∈ state.requests, request.target = id ∧ request.pending = true

instance State.Pending.decidable (state : State) (id : Nat) :
    Decidable (state.Pending id) :=
  inferInstanceAs (Decidable (∃ request ∈ state.requests, _ ∧ _))

def State.Consistent (state : State) : Prop :=
  ∀ (id : Nat) (node : TreeNode), state.recs[id]? = some node →
    ¬ state.Pending id → node.Consistent

/-- What an answer has to find at its node: a listing finds it expanded and
without a list, as it was when the request was sent; a failure finds no list
that is visible, and no two. -/
def TreeNode.Ready (node : TreeNode) : Option Listing → Prop
  | some _ => node.lists = [] ∧ node.expanded = true
  | none => node.lists.length ≤ 1 ∧ ∀ ul ∈ node.lists, ul.hidden = true

/-- The last answer that a node waits for finds the node ready for it. -/
def Timely (state : State) : Label → Prop
  | .answer id data =>
      ∀ (request : Request) (node : TreeNode),
        state.requests[id]? = some request →
        state.recs[request.target]? = some node →
        (∀ other ∈ state.requests.eraseIdx id,
          other.target = request.target → other.pending = false) →
        node.Ready data
  | _ => True

end Catwalk.TreeView
