import Catwalk.Catalog.Components
import Catwalk.Listing.Query
import Catwalk.Theory.BreadthFirst

/-! `CacheWarmer.run_pass`: one breadth-first pass over a fixed tree of
directories. -/

namespace Catwalk

open BreadthFirst

/-- The directories, by normalized path: the unfiltered listing that
`warm_listing` serves from the cache or the backend, or what it raises. -/
structure WarmTree where
  listing : Text → Except String Listing

structure WarmConfig where
  warmPaths : List Text
  warmDepth : Nat
  warmMaxDirs : Nat

def WarmConfig.paths (cfg : WarmConfig) : List Text :=
  cfg.warmPaths.map normalizePrefix

/-- What `warm_listing` returns: the child directory names. -/
def warmListing (tree : WarmTree) (path : Text) : Except String (List Text) :=
  (tree.listing (normalizePrefix path)).map fun entry =>
    (entry.table.filter TypeFilter.dir.admits).map (·.name)

namespace CacheWarmer

/-- `_warm_one` -/
def warmOne (tree : WarmTree) (path : Text) : List Text :=
  match warmListing tree path with
  | .ok names => names
  | .error _ => []

/-- The value of `run_pass`, and the batches it gave to the pool. -/
structure Pass where
  visited : Nat
  batches : List (List Text)
  deriving DecidableEq

/-- `f"{path}{name}/"` for each child of each directory of the batch -/
def children (batch : List Text) (childrenPerDir : List (List Text)) :
    List Text :=
  (batch.zip childrenPerDir).flatMap fun (path, names) =>
    names.map fun name => path ++ name ++ ['/']

/-- The loop over the levels; `isSet` is the stop event at each of them. -/
def runLevels (tree : WarmTree) (maxDirs : Nat) (isSet : Nat → Bool) :
    List Nat → Finset Text → List Text → Nat → Pass
  | [], _, _, visited => ⟨visited, []⟩
  | level :: levels, seen, frontier, visited =>
      if frontier = [] ∨ isSet level then ⟨visited, []⟩
      else
        let batch := frontier.take (maxDirs - visited)
        if batch = [] then ⟨visited, []⟩
        else
          let childrenPerDir := batch.map (warmOne tree)
          let (seen, frontier) :=
            discover seen [] (children batch childrenPerDir)
          let rest := runLevels tree maxDirs isSet levels seen frontier
            (visited + batch.length)
          ⟨rest.visited, batch :: rest.batches⟩

/-- `run_pass`; `dict.fromkeys` keeps the first of equal paths. -/
def runPass (tree : WarmTree) (cfg : WarmConfig) (isSet : Nat → Bool) : Pass :=
  let frontier := (discover ∅ [] cfg.paths).2
  runLevels tree cfg.warmMaxDirs isSet (List.range (cfg.warmDepth + 1))
    frontier.toFinset frontier 0

end CacheWarmer

/-- A child of a successfully listed directory. -/
def WarmTree.Child (tree : WarmTree) (path child : Text) : Prop :=
  ∃ names, warmListing tree path = .ok names ∧
    ∃ name ∈ names, child = path ++ name ++ ['/']

/-- The least number of child steps from a warm root. -/
def WarmTree.Distance (tree : WarmTree) (cfg : WarmConfig) (steps : Nat)
    (path : Text) : Prop :=
  BreadthFirst.Distance (· ∈ cfg.paths) tree.Child steps path

/-- The directories within `warm_depth` child steps of a warm root. -/
def WarmTree.reachable (tree : WarmTree) (cfg : WarmConfig) : Set Text :=
  {path | ∃ steps, steps ≤ cfg.warmDepth ∧ tree.Distance cfg steps path}

namespace CacheWarmer

variable {tree : WarmTree} {cfg : WarmConfig} {maxDirs : Nat}

theorem mem_warmOne {path name : Text} :
    name ∈ warmOne tree path ↔
      ∃ names, warmListing tree path = .ok names ∧ name ∈ names := by
  unfold warmOne
  cases warmListing tree path <;> simp

theorem mem_children {batch : List Text} {child : Text} :
    child ∈ children batch (batch.map (warmOne tree)) ↔
      ∃ path ∈ batch, tree.Child path child := by
  have zipped : batch.zip (batch.map (warmOne tree)) =
      batch.map fun path => (path, warmOne tree path) := by
    induction batch with
    | nil => rfl
    | cons path rest ih =>
        rw [List.map_cons, List.zip_cons_cons, ih, List.map_cons]
  unfold children WarmTree.Child
  rw [zipped, List.flatMap_map, List.mem_flatMap]
  constructor
  · intro found
    obtain ⟨path, listed, found⟩ := found
    obtain ⟨name, named, same⟩ := List.mem_map.mp found
    obtain ⟨names, succeeded, member⟩ := mem_warmOne.mp named
    exact ⟨path, listed, names, succeeded, name, member, same.symm⟩
  · intro found
    obtain ⟨path, listed, names, succeeded, name, member, same⟩ := found
    refine ⟨path, listed, List.mem_map.mpr ⟨name, ?_, same.symm⟩⟩
    exact mem_warmOne.mpr ⟨names, succeeded, member⟩

variable {isSet : Nat → Bool} {levels : List Nat} {seen : Finset Text}
  {frontier : List Text} {visited : Nat}

variable {isRoot : Text → Prop} {first : Nat}

/-- The listings that a pass visited, in its order. -/
def Pass.visits (pass : Pass) : List Text := pass.batches.flatten

end CacheWarmer

end Catwalk
