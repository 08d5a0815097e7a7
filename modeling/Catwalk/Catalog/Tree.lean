import Catwalk.Catalog.Components

/-! Directories of the catalog, and the text of their paths. -/

namespace Catwalk

/-- A name between two slashes. -/
structure Component where
  text : Text
  nonempty : text ≠ []
  noSlash : '/' ∉ text
  notDot : text ≠ ['.']
  deriving DecidableEq

/-- The components from the root downwards. -/
abbrev Directory := List Component

namespace Directory

/-- The part of the path below a directory. -/
def below (directory : Directory) : Text :=
  directory.flatMap fun component => component.text ++ ['/']

/-- `/c1/…/cn/` -/
def path (directory : Directory) : Text := '/' :: directory.below

theorem below_eq (directory : Directory) :
    directory.below = slashed (directory.map (·.text)) := by
  simp [below, slashed, List.flatMap_map]

theorem path_eq (directory : Directory) :
    directory.path = rooted (directory.map (·.text)) := by
  rw [path, below_eq]
  rfl

theorem names_map (directory : Directory) :
    Names (directory.map (·.text)) := by
  intro name member
  obtain ⟨component, _, rfl⟩ := List.mem_map.mp member
  exact ⟨component.nonempty, component.noSlash⟩

theorem isPrefix_path {directory other : Directory} :
    directory.path <+: other.path ↔ directory <+: other := by
  have injective : Function.Injective Component.text := by
    intro first second same
    cases first
    cases second
    simpa using same
  rw [path_eq, path_eq, isPrefix_rooted (names_map _) (names_map _)]
  constructor
  · intro isPrefix
    obtain ⟨tail, same⟩ := isPrefix
    refine ⟨other.drop directory.length, ?_⟩
    apply List.map_injective_iff.mpr injective
    have dropped := congrArg (List.drop directory.length) same
    rw [List.drop_left' (List.length_map _), ← List.map_drop] at dropped
    rw [List.map_append, ← dropped, same]
  · intro isPrefix
    exact isPrefix.map _

theorem normalizePrefix_path (directory : Directory) :
    normalizePrefix directory.path = directory.path := by
  rw [path_eq, normalizePrefix_rooted (names_map directory)]

/-- The group of a file is named by the first components below the prefix. -/
theorem groupKey_path (directory rest : Directory) (depth : Nat) :
    groupKey (path (directory ++ rest)) directory.path depth =
      if rest = [] then ['.']
      else ['/'].intercalate ((rest.map (·.text)).take depth) := by
  rw [path_eq, path_eq, List.map_append, groupKey_rooted (names_map rest)]
  simp only [List.map_eq_nil_iff]

end Directory

end Catwalk
