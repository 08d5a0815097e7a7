import Catwalk.Data.Generator
import Catwalk.Listing.Query

/-! `VastBackend.list_dir`: one directory from the catalog, with the name filter
pushed down to the query or applied to its batches. -/

namespace Catwalk

/-- What a query may raise, by the classes that `list_dir` catches. -/
inductive QueryError
  | notImplementedError (message : String)
  | valueError (message : String)
  | typeError (message : String)
  | other (message : String)
  deriving DecidableEq

/-- `except (NotImplementedError, ValueError, TypeError)` -/
def QueryError.isUnsupported : QueryError → Bool
  | .notImplementedError _ | .valueError _ | .typeError _ => true
  | .other _ => false

/-- Record batches as a query delivers them. -/
abbrev Batches := Generator (List ListingRow) QueryError

/-- A row of the catalog, with its directory. -/
structure CatalogEntry where
  parentPath : Text
  row : ListingRow

/-- `base`, or `base & _.name.contains(name)`. -/
structure ListPredicate where
  path : Text
  type : TypeFilter
  name : Option Text

def ListPredicate.holds (predicate : ListPredicate) (entry : CatalogEntry) :
    Bool :=
  entry.parentPath = predicate.path ∧ predicate.type.admits entry.row ∧
    predicate.name.elim true fun name => nameContains name entry.row

/-- The rows of a directory. -/
def directoryRows (table : List CatalogEntry) (path : Text) :
    List ListingRow :=
  (table.filter fun entry => entry.parentPath = path).map (·.row)

/-- The transaction and `select` of the SDK, for one state of the catalog. -/
structure ListSelect where
  reader : ListPredicate → Batches

/-- A query that does not raise delivers the rows its predicate holds of, and
one that raises has delivered some of them. -/
structure ListSelect.Documented (select : ListSelect)
    (table : List CatalogEntry) : Prop where
  rows : ∀ predicate, ∃ rows,
    rows.Perm ((table.filter predicate.holds).map (·.row)) ∧
      (select.reader predicate).values.flatten <+: rows ∧
      ((select.reader predicate).failure = none →
        (select.reader predicate).values.flatten = rows)

namespace VastBackend

/-- The body of the loop of `_run`; an empty filter is none. -/
def runBatch (clientNameFilter : Text) (batch : List ListingRow) :
    Option (List ListingRow) :=
  let batch :=
    if clientNameFilter ≠ [] ∧ batch.length ≠ 0 then
      batch.filter (nameContains clientNameFilter)
    else batch
  if batch.length ≠ 0 then some batch else none

/-- `_run` -/
def run (select : ListSelect) (predicate : ListPredicate)
    (clientNameFilter : Text) : Batches :=
  (select.reader predicate).filterMap (runBatch clientNameFilter)

/-- `list_dir`; the first batch decides who filters by name. -/
def listDir (select : ListSelect) (path : Text) (elementType : TypeFilter)
    (nameContains : Text) : Batches :=
  let base : ListPredicate := ⟨path, elementType, none⟩
  if nameContains = [] then run select base []
  else
    match run select { base with name := some nameContains } [] with
    | .returns => .returns
    | .raises error =>
        if error.isUnsupported then run select base nameContains
        else .raises error
    | .yields first gen => .yields first gen

variable {select : ListSelect}

theorem run_failure (predicate : ListPredicate) (clientNameFilter : Text) :
    (run select predicate clientNameFilter).failure =
      (select.reader predicate).failure :=
  Generator.failure_filterMap ..

theorem nameContains_nil (row : ListingRow) : nameContains [] row = true := by
  simp [nameContains]

theorem runBatch_toList_flatten (clientNameFilter : Text)
    (batch : List ListingRow) :
    (runBatch clientNameFilter batch).toList.flatten =
      batch.filter (nameContains clientNameFilter) := by
  have masked : (if clientNameFilter ≠ [] ∧ batch.length ≠ 0 then
      batch.filter (nameContains clientNameFilter) else batch) =
        batch.filter (nameContains clientNameFilter) := by
    split
    next => rfl
    next unmasked =>
      rcases eq_or_ne clientNameFilter ([]) with rfl | differs
      · exact (List.filter_eq_self.mpr fun row _ => nameContains_nil row).symm
      · have empty : batch = [] := by
          apply List.length_eq_zero_iff.mp
          by_contra rows
          exact unmasked ⟨differs, rows⟩
        rw [empty, List.filter_nil]
  unfold runBatch
  simp only [masked]
  split
  next => simp
  next empty =>
    rw [List.length_eq_zero_iff.mp (not_not.mp empty)]
    rfl

/-- The batches of `_run` hold the rows of the reader that pass the filter, in
its order. -/
theorem run_rows (predicate : ListPredicate) (clientNameFilter : Text) :
    (run select predicate clientNameFilter).values.flatten =
      (select.reader predicate).values.flatten.filter
        (nameContains clientNameFilter) := by
  unfold run
  rw [Generator.values_filterMap]
  induction (select.reader predicate).values with
  | nil => rfl
  | cons batch rest ih =>
      have first := runBatch_toList_flatten clientNameFilter batch
      rw [List.flatten_cons, List.filter_append, ← ih, ← first,
        List.filterMap_cons]
      cases runBatch clientNameFilter batch <;> simp

theorem run_rows_nil (predicate : ListPredicate) :
    (run select predicate []).values.flatten =
      (select.reader predicate).values.flatten := by
  rw [run_rows]
  exact List.filter_eq_self.mpr fun row _ => nameContains_nil row

theorem run_batches {predicate : ListPredicate} {clientNameFilter : Text}
    {batch : List ListingRow}
    (yielded : batch ∈ (run select predicate clientNameFilter).values) :
    batch ≠ [] := by
  rw [run, Generator.values_filterMap] at yielded
  obtain ⟨delivered, _, kept⟩ := List.mem_filterMap.mp yielded
  unfold runBatch at kept
  simp only at kept
  generalize (if clientNameFilter ≠ [] ∧ delivered.length ≠ 0 then
    delivered.filter (nameContains clientNameFilter) else delivered) = masked
    at kept
  split at kept
  next rows =>
    cases kept
    intro empty
    exact rows (List.length_eq_zero_iff.mpr empty)
  · cases kept

theorem run_values_eq_nil {predicate : ListPredicate} :
    (run select predicate []).values = [] ↔
      (select.reader predicate).values.flatten = [] := by
  rw [← run_rows_nil]
  constructor
  · intro empty
    rw [empty]
    rfl
  · intro empty
    apply List.eq_nil_iff_forall_not_mem.mpr
    intro batch yielded
    exact run_batches yielded (List.flatten_eq_nil_iff.mp empty batch yielded)

end VastBackend

/-- The query raises an error that `list_dir` catches, before any row. -/
def FallsBack (pushdown : Batches) : Prop :=
  pushdown.values.flatten = [] ∧
    ∃ error, pushdown.failure = some error ∧ error.isUnsupported = true

/-- All of the rows, or a first part of them and then the error. -/
structure YieldsPart (rows : List ListingRow) (served : Batches) : Prop where
  whole : served.failure = none → served.values.flatten = rows
  part : served.values.flatten <+: rows

namespace VastBackend

variable {select : ListSelect} {table : List CatalogEntry} {path name : Text}
  {type : TypeFilter}

theorem run_eq_raises_iff {predicate : ListPredicate} {error : QueryError} :
    run select predicate [] = .raises error ↔
      (select.reader predicate).values.flatten = [] ∧
        (select.reader predicate).failure = some error := by
  rw [Generator.eq_raises_iff, run_values_eq_nil, run_failure]

theorem listDir_of_fallsBack (filtered : name ≠ [])
    (falls : FallsBack (select.reader ⟨path, type, some name⟩)) :
    listDir select path type name = run select ⟨path, type, none⟩ name := by
  obtain ⟨empty, error, failed, unsupported⟩ := falls
  have raised := run_eq_raises_iff.mpr ⟨empty, failed⟩
  unfold listDir
  rw [if_neg filtered]
  simp only [raised]
  rw [if_pos unsupported]

theorem listDir_of_not_fallsBack (filtered : name ≠ [])
    (stays : ¬ FallsBack (select.reader ⟨path, type, some name⟩)) :
    listDir select path type name =
      run select ⟨path, type, some name⟩ [] := by
  unfold listDir
  rw [if_neg filtered]
  simp only
  split
  next returned => exact returned.symm
  next error raised =>
    have supported : ¬ error.isUnsupported = true := by
      intro unsupported
      obtain ⟨empty, failed⟩ := run_eq_raises_iff.mp raised
      exact stays ⟨empty, error, failed, unsupported⟩
    rw [if_neg supported]
    exact raised.symm
  next first rest yielded => exact yielded.symm

theorem matching_directoryRows :
    matching (directoryRows table path) type name =
      (table.filter (ListPredicate.holds ⟨path, type, some name⟩)).map
        (·.row) := by
  unfold matching directoryRows
  rw [List.filter_map, List.filter_filter]
  congr 1
  apply List.filter_congr
  intro entry _
  rw [Bool.eq_iff_iff]
  simp [ListPredicate.holds, and_comm]

theorem matching_directoryRows_base :
    matching (directoryRows table path) type name =
      ((table.filter (ListPredicate.holds ⟨path, type, none⟩)).map
        (·.row)).filter (nameContains name) := by
  rw [matching_directoryRows, List.filter_map, List.filter_filter]
  congr 1
  apply List.filter_congr
  intro entry _
  rw [Bool.eq_iff_iff]
  simp [ListPredicate.holds, and_left_comm, and_comm]

theorem run_yieldsPart (documented : select.Documented table)
    (predicate : ListPredicate) (clientNameFilter : Text) :
    ∃ rows, rows.Perm (((table.filter predicate.holds).map
        (·.row)).filter (nameContains clientNameFilter)) ∧
      YieldsPart rows (run select predicate clientNameFilter) := by
  obtain ⟨rows, matches_, part, whole⟩ := documented.rows predicate
  refine ⟨rows.filter (nameContains clientNameFilter), matches_.filter _, ?_, ?_⟩
  · intro ended
    rw [run_failure] at ended
    rw [run_rows, whole ended]
  · rw [run_rows]
    exact part.filter _

theorem listDir_of_unfiltered :
    listDir select path type [] = run select ⟨path, type, none⟩ [] := by
  unfold listDir
  rw [if_pos rfl]

/-- Whichever query serves it, a listing yields the matching rows of the
directory, or a first part of them and then the error. -/
theorem listDir_yieldsPart (documented : select.Documented table) :
    ∃ rows, rows.Perm (matching (directoryRows table path) type name) ∧
      YieldsPart rows (listDir select path type name) := by
  by_cases filtered : name = []
  · subst filtered
    rw [listDir_of_unfiltered, matching_directoryRows_base]
    exact run_yieldsPart documented _ []
  by_cases falls : FallsBack (select.reader ⟨path, type, some name⟩)
  · rw [listDir_of_fallsBack filtered falls, matching_directoryRows_base]
    exact run_yieldsPart documented _ name
  · rw [listDir_of_not_fallsBack filtered falls, matching_directoryRows]
    obtain ⟨rows, perm, yields⟩ := run_yieldsPart documented
      (⟨path, type, some name⟩ : ListPredicate) []
    rw [List.filter_eq_self.mpr fun row _ => nameContains_nil row] at perm
    exact ⟨rows, perm, yields⟩

/-- With a name filter, `list_dir` yields the matching rows of the directory,
each once and in the order of the query that served them, or a first part of
them and then the error; the base query serves them only when the pushed down
one raises a caught error before any row. -/
theorem listDir_filters_once (select : ListSelect) (table : List CatalogEntry)
    (documented : select.Documented table) (path : Text) (type : TypeFilter)
    (name : Text) (filtered : name ≠ []) :
    (∃ rows, rows.Perm (matching (directoryRows table path) type name) ∧
      YieldsPart rows (listDir select path type name)) ∧
    ((directoryRows table path).Nodup →
      (listDir select path type name).values.flatten.Nodup) ∧
    (¬ FallsBack (select.reader ⟨path, type, some name⟩) →
      listDir select path type name =
          run select ⟨path, type, some name⟩ [] ∧
        (listDir select path type name).values.flatten =
          (select.reader ⟨path, type, some name⟩).values.flatten ∧
        (listDir select path type name).failure =
          (select.reader ⟨path, type, some name⟩).failure) ∧
    (FallsBack (select.reader ⟨path, type, some name⟩) →
      (listDir select path type name).values.flatten =
          (select.reader ⟨path, type, none⟩).values.flatten.filter
            (nameContains name) ∧
        (listDir select path type name).failure =
          (select.reader ⟨path, type, none⟩).failure) := by
  have served : ∃ rows,
      rows.Perm (matching (directoryRows table path) type name) ∧
        YieldsPart rows (listDir select path type name) :=
    listDir_yieldsPart documented
  refine ⟨served, ?_, ?_, ?_⟩
  · intro distinct
    obtain ⟨rows, perm, yields⟩ := served
    have once : (matching (directoryRows table path) type name).Nodup :=
      distinct.filter _
    exact (perm.nodup_iff.mpr once).sublist yields.part.sublist
  · intro stays
    rw [listDir_of_not_fallsBack filtered stays]
    exact ⟨rfl, run_rows_nil _, run_failure _ _⟩
  · intro falls
    rw [listDir_of_fallsBack filtered falls]
    exact ⟨run_rows _ _, run_failure _ _⟩

/-! Two files of one directory, and a query that cannot push the filter down
and notices after an empty batch. -/

def sampleFile (name : Text) : ListingRow where
  name := name
  elementType := some "FILE"
  size := none
  used := none
  mtime := none
  atime := none
  ownerName := none
  extension := none
  nlinks := none

def sampleCatalog : List CatalogEntry :=
  [⟨['/', 'a', '/'], sampleFile ['x', 'y']⟩,
    ⟨['/', 'a', '/'], sampleFile ['z']⟩]

def sampleSelect : ListSelect where
  reader predicate :=
    if predicate.name.isSome then
      .yields [] (.raises (.notImplementedError "contains"))
    else
      .yields ((sampleCatalog.filter predicate.holds).map (·.row)) .returns

theorem sampleSelect_documented : sampleSelect.Documented sampleCatalog := by
  constructor
  intro predicate
  refine ⟨(sampleCatalog.filter predicate.holds).map (·.row), .refl _, ?_⟩
  cases named : predicate.name.isSome with
  | true => simp [sampleSelect, named]
  | false => simp [sampleSelect, named]

theorem sampleSelect_falls_back :
    (listDir sampleSelect ['/', 'a', '/'] .file ['y']).values =
        [[sampleFile ['x', 'y']]] ∧
      (listDir sampleSelect ['/', 'a', '/'] .file ['y']).values.flatten =
        (sampleSelect.reader ⟨['/', 'a', '/'], .file, none⟩).values.flatten.filter
          (nameContains ['y']) := by
  have falls : FallsBack
      (sampleSelect.reader ⟨['/', 'a', '/'], .file, some ['y']⟩) :=
    ⟨rfl, .notImplementedError "contains", rfl, rfl⟩
  refine ⟨by decide, ?_⟩
  exact ((listDir_filters_once sampleSelect sampleCatalog
    sampleSelect_documented ['/', 'a', '/'] .file ['y']
    (by simp)).2.2.2 falls).1

end VastBackend

end Catwalk
