import Catwalk.Frontend.Paths
import Catwalk.Frontend.Screen
import Catwalk.Frontend.TreeNodes

/-! The sizes next to the names of the directory tree: one rollup owns the badges
of a level. -/

namespace Catwalk.Badges

open Script (normDir)

/-- What `annotateTree` needs of a rollup: the names of its children and their
`total_bytes`. -/
structure Result where
  path : Text
  children : List (Text × Int)

/-- `byName[name]`: the last child of a name. -/
def byName (children : List (Text × Int)) (name : Text) : Option Int :=
  children.reverse.lookup name

/-- The badge of a record and the path it was made with; `none` is the empty
text. -/
structure Badge where
  path : Text
  shown : Option Int
  deriving DecidableEq

/-- `badges` stands beside the records of the tree. -/
structure Page where
  tree : TreeView.State
  rollups : OrderedDict Text (List (Text × Int))
  badges : List Badge

/-- `p.slice(rollupPath.length, -1)` of a direct child. -/
def childName (rollupPath p : Text) : Option Text :=
  if p = rollupPath ∨ ¬ rollupPath <+: p then none
  else
    let name := (p.drop rollupPath.length).dropLast
    if '/' ∈ name then none else some name

inductive Label
  | tree (label : TreeView.Label)
  | renderRollup (result : Result)

namespace Page

def initial : Page := ⟨.initial, .empty, []⟩

/-- A round of the loop of `annotateTree`. -/
def annotate (page : Page) (rollupPath : Text) (children : List (Text × Int))
    (id : Nat) (badge : Badge) : Badge :=
  if page.tree.treeNodes badge.path = some id then
    match childName rollupPath badge.path with
    | some name => { badge with shown := byName children name }
    | none => badge
  else badge

def annotateTree (page : Page) (rollupPath : Text) : Page :=
  match page.rollups.get? rollupPath with
  | none => page
  | some children =>
      { page with badges := page.badges.mapIdx (page.annotate rollupPath children) }

def renderRollup (page : Page) (result : Result) : Page :=
  let rollups := (page.rollups.erase result.path).set result.path result.children
  { page with
    rollups := rollups.dropOldest Browser.rollupsMax rollups.size }.annotateTree
      result.path

/-- The end of `toggleNode`: new records, and the badges of their level. -/
def settle (page : Page) (path : Text) (tree : TreeView.State) :
    Option TreeView.Listing → Page
  | none => { page with tree := tree }
  | some data =>
      { page with
        tree := tree
        badges := page.badges ++ data.entries.map fun name : Text =>
          (⟨path ++ name ++ ['/'], none⟩ : Badge) }.annotateTree path

def step (page : Page) : Label → Option Page
  | .renderRollup result => some (page.renderRollup result)
  | .tree (.answer id data) =>
      (page.tree.requests[id]?).bind fun request =>
        (page.tree.answer id data).map fun tree =>
          page.settle request.path tree data
  | .tree (.rebuildTree rootPath) => some { page with
      tree := page.tree.rebuildTree rootPath
      badges := page.badges ++ [⟨rootPath, none⟩] }
  | .tree label =>
      (page.tree.step label).map fun tree => { page with tree := tree }

end Page

/-- A `renderTable` always comes to its end: the catalog holds no row without an
`element_type`, at which it would throw. -/
def system : StepSystem Page Label where
  init page := page = .initial
  step := Page.step

def Dir (path : Text) : Prop := ∃ before, path = before ++ ['/']

theorem Dir.child (path name : Text) : Dir (path ++ name ++ ['/']) := ⟨_, rfl⟩

/-- A path falls into a directory and a name in one way. -/
theorem Dir.unique {dir dir' name name' : Text} (isDir : Dir dir)
    (isDir' : Dir dir') (free : '/' ∉ name) (free' : '/' ∉ name')
    (same : dir ++ name = dir' ++ name') : dir = dir' ∧ name = name' := by
  have shorter : ∀ {dir dir' name name' : Text}, Dir dir → '/' ∉ name' →
      ∀ middle, dir = dir' ++ middle → name' = middle ++ name → middle = [] := by
    intro dir dir' name name' isDir free middle split split'
    rcases List.eq_nil_or_concat middle with none | ⟨front, last, rfl⟩
    · exact none
    · obtain ⟨before, ends⟩ := isDir
      rw [ends, List.concat_eq_append, ← List.append_assoc] at split
      have ending := List.append_inj_right' split rfl
      refine absurd ?_ free
      rw [split', ← (List.cons.inj ending).1]
      simp
  rcases List.append_eq_append_iff.mp same with ⟨middle, split, split'⟩ |
    ⟨middle, split, split'⟩
  · have none := shorter isDir' free middle split split'
    rw [none, List.append_nil] at split
    rw [none] at split'
    exact ⟨split.symm, split'⟩
  · have none := shorter isDir free' middle split split'
    rw [none, List.append_nil] at split
    rw [none] at split'
    exact ⟨split, split'.symm⟩

/-- A child of a directory is one of no other. -/
theorem childName_child {rollupPath dir name : Text} (isDir : Dir dir)
    (isDir' : Dir rollupPath) (free : '/' ∉ name) :
    childName rollupPath (dir ++ name ++ ['/']) =
      if rollupPath = dir then some name else none := by
  split
  next same =>
      subst same
      have longer : ¬ (rollupPath ++ name ++ ['/'] = rollupPath ∨
          ¬ rollupPath <+: rollupPath ++ name ++ ['/']) := by
        rintro (equal | apart)
        · simpa using congrArg List.length equal
        · exact apart ⟨name ++ ['/'], (List.append_assoc _ _ _).symm⟩
      have rest : ((rollupPath ++ name ++ ['/']).drop rollupPath.length).dropLast =
          name := by
        rw [List.append_assoc, List.drop_left, List.dropLast_concat]
      simp only [childName]
      rw [if_neg longer, rest, if_neg free]
  next other =>
      simp only [childName]
      split
      · rfl
      next inside =>
          obtain ⟨differs, below⟩ := not_or.mp inside
          obtain ⟨rest, whole⟩ := not_not.mp below
          rw [if_pos]
          rw [← whole, List.drop_left]
          by_contra free'
          rcases List.eq_nil_or_concat rest with none | ⟨front, last, rfl⟩
          · rw [none, List.append_nil] at whole
            exact differs whole.symm
          · rw [List.concat_eq_append] at free' whole
            rw [List.dropLast_concat] at free'
            rw [← List.append_assoc] at whole
            have inner := List.append_inj_left' whole rfl
            exact other (isDir'.unique isDir free' free inner).1

/-! The tree below the badges. -/

/-- A step of the tree that makes no record. -/
structure Keeps (before after : TreeView.State) : Prop where
  treeRoot : after.treeRoot = before.treeRoot
  treeNodes : after.treeNodes = before.treeNodes
  recs : after.recs.length = before.recs.length
  requests : ∀ request ∈ after.requests, request ∈ before.requests ∨
    (∃ other ∈ before.requests, request.path = other.path) ∨
      ∃ id, before.treeNodes request.path = some id

theorem Keeps.refl (tree : TreeView.State) : Keeps tree tree :=
  ⟨rfl, rfl, rfl, fun _ member => .inl member⟩

namespace Page

structure Sound (page : Page) : Prop where
  beside : page.badges.length = page.tree.recs.length
  named : ∀ (p : Text) (id : Nat), page.tree.treeNodes p = some id →
    ∃ badge, page.badges[id]? = some badge ∧ badge.path = p
  dirs : ∀ (p : Text) (id : Nat), page.tree.treeNodes p = some id → Dir p
  asked : ∀ request ∈ page.tree.requests, Dir request.path
  kept : ∀ (dir : Text) (children : List (Text × Int)),
    page.rollups.get? dir = some children → Dir dir

/-- The badges of a level are of the rollup `vintage` gives for it, which is the
one that the page keeps, if it keeps one. -/
structure Shows (page : Page) (vintage : Text → Text → Option Int) : Prop where
  kept : ∀ (dir : Text) (children : List (Text × Int)),
    page.rollups.get? dir = some children → vintage dir = byName children
  level : ∀ (dir name : Text) (id : Nat) (badge : Badge), Dir dir → '/' ∉ name →
    page.tree.treeNodes (dir ++ name ++ ['/']) = some id →
    page.badges[id]? = some badge →
      (badge.shown = none ∨ badge.shown = vintage dir name) ∧
      ((page.rollups.get? dir).isSome = true →
        dir ++ name ++ ['/'] ≠ page.tree.treeRoot →
          badge.shown = vintage dir name)

variable {page after : Page} {vintage : Text → Text → Option Int}

theorem Sound.keeps (sound : page.Sound) {tree : TreeView.State}
    (keeps : Keeps page.tree tree) : Sound { page with tree := tree } where
  beside := sound.beside.trans keeps.recs.symm
  named := by
    rw [keeps.treeNodes]
    exact sound.named
  dirs := by
    rw [keeps.treeNodes]
    exact sound.dirs
  asked := by
    intro request member
    rcases keeps.requests request member with before | ⟨other, before, same⟩ |
      ⟨id, found⟩
    · exact sound.asked request before
    · rw [same]
      exact sound.asked other before
    · exact sound.dirs request.path id found
  kept := sound.kept

theorem Shows.keeps (shows : page.Shows vintage) {tree : TreeView.State}
    (keeps : Keeps page.tree tree) :
    Shows { page with tree := tree } vintage where
  kept := shows.kept
  level := by
    rw [keeps.treeNodes, keeps.treeRoot]
    exact shows.level

/-- What `annotateTree` does to the badge of a loaded child. -/
theorem annotateTree_spec (page : Page) (rollupPath : Text) :
    (page.annotateTree rollupPath).tree = page.tree ∧
    (page.annotateTree rollupPath).rollups = page.rollups ∧
    (page.annotateTree rollupPath).badges.length = page.badges.length ∧
    ∀ (id : Nat) (badge : Badge),
      (page.annotateTree rollupPath).badges[id]? = some badge →
      ∃ before, page.badges[id]? = some before ∧ badge.path = before.path ∧
        (page.rollups.get? rollupPath = none → badge = before) ∧
        ∀ children dir name, page.rollups.get? rollupPath = some children →
          Dir dir → Dir rollupPath → '/' ∉ name →
          before.path = dir ++ name ++ ['/'] →
          page.tree.treeNodes before.path = some id →
          badge.shown =
            if rollupPath = dir then byName children name else before.shown := by
  rw [annotateTree]
  cases found : page.rollups.get? rollupPath with
  | none =>
      exact ⟨rfl, rfl, rfl, fun id badge same =>
        ⟨badge, same, rfl, fun _ => rfl, fun _ _ _ kept => by cases kept⟩⟩
  | some children =>
      refine ⟨rfl, rfl, List.length_mapIdx, ?_⟩
      intro id badge same
      rw [List.getElem?_mapIdx] at same
      obtain ⟨before, stood, rfl⟩ := Option.map_eq_some_iff.mp same
      refine ⟨before, stood, ?_, fun none => (by cases none), ?_⟩
      · rw [annotate]
        split
        · split <;> rfl
        · rfl
      · rintro _ dir name ⟨⟩ isDir isDir' free whole owned
        rw [annotate, if_pos owned, whole, childName_child isDir isDir' free]
        rcases eq_or_ne rollupPath dir with level | other
        · rw [if_pos level, if_pos level]
        · rw [if_neg other, if_neg other]

theorem Sound.annotateTree (sound : page.Sound) (rollupPath : Text) :
    (page.annotateTree rollupPath).Sound := by
  obtain ⟨tree, rollups, length, badges⟩ := page.annotateTree_spec rollupPath
  constructor
  · rw [length, tree]
    exact sound.beside
  · intro p id owned
    rw [tree] at owned
    obtain ⟨before, stood, path⟩ := sound.named p id owned
    have inside := (List.getElem?_eq_some_iff.mp stood).1
    rw [← length] at inside
    obtain ⟨before', stood', same, _⟩ :=
      badges id _ (List.getElem?_eq_getElem inside)
    cases stood.symm.trans stood'
    exact ⟨_, List.getElem?_eq_getElem inside, same.trans path⟩
  · rw [tree]
    exact sound.dirs
  · rw [tree]
    exact sound.asked
  · rw [rollups]
    exact sound.kept

end Page

end Catwalk.Badges
