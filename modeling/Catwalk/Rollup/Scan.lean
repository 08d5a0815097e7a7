import Catwalk.Catalog.Components
import Catwalk.Rollup.Compute
import Mathlib.Data.List.Lex
import Mathlib.Data.Char

/-! `scan_subtree_files`: the rows of a subtree, by whole path components. -/

namespace Catwalk

/-- The type of a catalog row, and the columns that a rollup reads. -/
structure CatalogRow where
  elementType : Option String
  file : FileRow

def CatalogRow.isFile (row : CatalogRow) : Bool :=
  row.elementType = some "FILE"

/-- A FILE row in the directory with these components, or below it. -/
def CatalogRow.inSubtree (names : List Text) (row : CatalogRow) : Bool :=
  row.isFile ∧ names <+: components row.file.parentPath

/-- `select` of the SDK: the table and a predicate give record batches. -/
structure Select where
  batches : (CatalogRow → Bool) → List CatalogRow → List (List FileRow)

structure Select.Documented (select : Select) : Prop where
  rows : ∀ predicate table, (select.batches predicate table).flatten.Perm
    ((table.filter predicate).map (·.file))

namespace VastBackend

def scanSubtreeFiles (select : Select) (table : List CatalogRow)
    (pathPrefix : Text) : List (List FileRow) :=
  select.batches (fun row =>
    row.isFile ∧ pathPrefix <+: row.file.parentPath) table

end VastBackend

/-- The generated tables by directory; `parent_path` is the directory. -/
structure MockCatalog where
  tree : OrderedDict Text (List CatalogRow)
  parents : ∀ path table, tree.get? path = some table →
    ∀ row ∈ table, row.file.parentPath = path

namespace MockBackend

def batchRows : Nat := 65536

/-- `to_batches(max_chunksize=BATCH_ROWS)` -/
def toBatches (rows : List FileRow) : List (List FileRow) :=
  (List.range ((rows.length + batchRows - 1) / batchRows)).map fun batch =>
    (rows.drop (batch * batchRows)).take batchRows

/-- One turn of the loop over the directories. -/
def scanDirectory (catalog : MockCatalog) (pathPrefix path : Text) :
    List (List FileRow) :=
  if ¬ pathPrefix <+: path then []
  else
    let table := ((catalog.tree.get? path).getD []).filter (·.isFile)
    if table.isEmpty then [] else toBatches (table.map (·.file))

def scanSubtreeFiles (catalog : MockCatalog) (pathPrefix : Text) :
    List (List FileRow) :=
  (catalog.tree.keys.mergeSort fun first second => first ≤ second).flatMap
    (scanDirectory catalog pathPrefix)

theorem flatten_windows (rows : List FileRow) (size count : Nat) :
    ((List.range count).map fun batch =>
      (rows.drop (batch * size)).take size).flatten =
        rows.take (count * size) := by
  induction count with
  | zero => simp
  | succ count ih =>
      rw [List.range_succ, List.map_append, List.flatten_append, ih,
        Nat.succ_mul, List.take_add]
      simp

theorem flatten_toBatches (rows : List FileRow) :
    (toBatches rows).flatten = rows := by
  rw [toBatches, flatten_windows, List.take_of_length_le]
  have whole := Nat.div_add_mod (rows.length + batchRows - 1) batchRows
  have rest := Nat.mod_lt (rows.length + batchRows - 1)
    (show 0 < batchRows by decide)
  have positive : 0 < batchRows := by decide
  rw [Nat.mul_comm]
  omega

end MockBackend

theorem isPrefix_normalizePrefix {path : Text} (inner : NoEmptyInner path)
    {names : List Text} (valid : Names names) :
    normalizePrefix path <+: rooted names ↔ components path <+: names := by
  rw [normalizePrefix_eq inner, isPrefix_rooted (names_components path) valid]

/-- A directory path in the form the catalog gives it. -/
def IsDirectory (path : Text) : Prop :=
  ∃ names, Names names ∧ path = rooted names

theorem isPrefix_of_isDirectory {path directory : Text}
    (inner : NoEmptyInner path) (isDirectory : IsDirectory directory) :
    normalizePrefix path <+: directory ↔
      components path <+: components directory := by
  obtain ⟨names, valid, rfl⟩ := isDirectory
  rw [isPrefix_normalizePrefix inner valid, components_rooted valid]

theorem VastBackend.scanSubtreeFiles_perm {select : Select}
    (documented : select.Documented) {path : Text} (inner : NoEmptyInner path)
    {table : List CatalogRow}
    (directories : ∀ row ∈ table, IsDirectory row.file.parentPath) :
    (scanSubtreeFiles select table (normalizePrefix path)).flatten.Perm
      ((table.filter (·.inSubtree (components path))).map (·.file)) := by
  have scanned := documented.rows (fun row =>
    row.isFile ∧ normalizePrefix path <+: row.file.parentPath) table
  have same : table.filter (fun row => decide
      (row.isFile ∧ normalizePrefix path <+: row.file.parentPath)) =
        table.filter (·.inSubtree (components path)) := by
    apply List.filter_congr
    intro row member
    rw [CatalogRow.inSubtree, decide_eq_decide,
      isPrefix_of_isDirectory inner (directories row member)]
  rw [same] at scanned
  exact scanned

namespace MockBackend

theorem flatten_scanDirectory (catalog : MockCatalog) {path : Text}
    (inner : NoEmptyInner path) {entry : Text × List CatalogRow}
    (member : entry ∈ catalog.tree.entries)
    (isDirectory : IsDirectory entry.1) :
    (scanDirectory catalog (normalizePrefix path) entry.1).flatten =
      (entry.2.filter (·.inSubtree (components path))).map (·.file) := by
  have found := OrderedDict.get?_eq_some_iff.mpr member
  have scope := isPrefix_of_isDirectory inner isDirectory
  have parents := catalog.parents entry.1 entry.2 found
  unfold scanDirectory
  by_cases inside : normalizePrefix path <+: entry.1
  · have same : entry.2.filter (·.inSubtree (components path)) =
        entry.2.filter (·.isFile) := by
      apply List.filter_congr
      intro row stored
      simp [CatalogRow.inSubtree, parents row stored, scope.mp inside]
    rw [if_neg (not_not.mpr inside), found, Option.getD_some, same]
    by_cases empty : (entry.2.filter (·.isFile)).isEmpty
    · rw [List.isEmpty_iff.mp empty]
      rfl
    · simp only [if_neg empty, flatten_toBatches]
  · have none : entry.2.filter (·.inSubtree (components path)) = [] := by
      apply List.filter_eq_nil_iff.mpr
      intro row stored
      simp [CatalogRow.inSubtree, parents row stored, mt scope.mpr inside]
    rw [if_pos inside, none]
    rfl

theorem scanSubtreeFiles_perm (catalog : MockCatalog) {path : Text}
    (inner : NoEmptyInner path)
    (directories : ∀ directory ∈ catalog.tree.keys, IsDirectory directory) :
    (scanSubtreeFiles catalog (normalizePrefix path)).flatten.Perm
      (((catalog.tree.entries.flatMap (·.2)).filter
        (·.inSubtree (components path))).map (·.file)) := by
  have sorted := List.mergeSort_perm catalog.tree.keys
    fun first second => decide (first ≤ second)
  refine ((sorted.flatMap_right _).flatten).trans ?_
  rw [OrderedDict.keys, List.flatMap_map, List.filter_flatMap,
    List.map_flatMap, List.flatten_eq_flatMap, List.flatMap_assoc]
  have each : ∀ entry ∈ catalog.tree.entries,
      (scanDirectory catalog (normalizePrefix path) entry.1).flatten =
        (entry.2.filter (·.inSubtree (components path))).map (·.file) := by
    intro entry member
    exact flatten_scanDirectory catalog inner member
      (directories entry.1 (List.mem_map_of_mem member))
  simp only [← List.flatten_eq_flatMap]
  rw [List.flatMap_congr each]

end MockBackend

/-- A prefix scopes by whole components: the paths it starts, the rows scanned
under it, the groups of these rows and the cache keys made from it. -/
theorem prefix_scoping {path : Text} (inner : NoEmptyInner path) :
    (∀ names, Names names →
      (normalizePrefix path <+: rooted names ↔ components path <+: names)) ∧
    (∀ select : Select, select.Documented → ∀ table : List CatalogRow,
      (∀ row ∈ table, IsDirectory row.file.parentPath) →
      (VastBackend.scanSubtreeFiles select table
          (normalizePrefix path)).flatten.Perm
        ((table.filter (·.inSubtree (components path))).map (·.file))) ∧
    (∀ catalog : MockCatalog,
      (∀ directory ∈ catalog.tree.keys, IsDirectory directory) →
      (MockBackend.scanSubtreeFiles catalog (normalizePrefix path)).flatten.Perm
        (((catalog.tree.entries.flatMap (·.2)).filter
          (·.inSubtree (components path))).map (·.file))) ∧
    (∀ rest depth, Names rest →
      groupKey (rooted (components path ++ rest)) (normalizePrefix path) depth =
        if rest = [] then ['.'] else ['/'].intercalate (rest.take depth)) ∧
    ∀ other, NoEmptyInner other → ∀ (epoch : Option String) (depth : Nat),
      ((epoch, normalizePrefix path, depth) : RollupKey) =
          (epoch, normalizePrefix other, depth) ↔
        components path = components other := by
  refine ⟨?_, ?_, ?_, ?_, ?_⟩
  · intro names valid
    exact isPrefix_normalizePrefix inner valid
  · intro select documented table directories
    exact VastBackend.scanSubtreeFiles_perm documented inner directories
  · intro catalog directories
    exact MockBackend.scanSubtreeFiles_perm catalog inner directories
  · intro rest depth valid
    rw [normalizePrefix_eq inner, groupKey_rooted valid]
  · intro other inner' epoch depth
    rw [normalizePrefix_eq inner, normalizePrefix_eq inner']
    constructor
    · intro same
      have same := congrArg (fun key => components key.2.1) same
      simpa only [components_rooted (names_components _)] using same
    · intro same
      rw [same]

/-- A query that answers in one batch. -/
def plainSelect : Select where
  batches predicate table := [(table.filter predicate).map (·.file)]

theorem plainSelect_documented : plainSelect.Documented where
  rows predicate table := by
    simp [plainSelect]

/-- A file below `/data/`, one below its sibling, and a directory. -/
def sampleTable : List CatalogRow :=
  [⟨some "FILE", ⟨"/data/a/".toList, some 5, none, some 20, none⟩⟩,
    ⟨some "FILE", ⟨"/database/".toList, some 7, none, some 30, none⟩⟩,
    ⟨some "DIR", ⟨"/data/".toList, some 9, none, some 40, none⟩⟩]

theorem sampleTable_scoping :
    (normalizePrefix "/data/".toList <+: rooted ["database".toList] ↔
      components "/data/".toList <+: ["database".toList]) ∧
    (VastBackend.scanSubtreeFiles plainSelect sampleTable
        (normalizePrefix "/data/".toList)).flatten.Perm
      ((sampleTable.filter (·.inSubtree (components "/data/".toList))).map
        (·.file)) := by
  have names : Names ["data".toList] := by decide
  have inner : NoEmptyInner "/data/".toList := noEmptyInner_rooted names
  obtain ⟨starts, scans, _⟩ := prefix_scoping inner
  refine ⟨starts _ (by decide),
    scans plainSelect plainSelect_documented sampleTable ?_⟩
  intro row member
  simp only [sampleTable, List.mem_cons, List.not_mem_nil, or_false] at member
  rcases member with rfl | rfl | rfl
  · exact ⟨["data".toList, "a".toList], by decide, rfl⟩
  · exact ⟨["database".toList], by decide, rfl⟩
  · exact ⟨["data".toList], by decide, rfl⟩

end Catwalk
