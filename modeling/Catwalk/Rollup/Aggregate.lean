import Catwalk.Catalog.Path
import Catwalk.Data.Tally
import Catwalk.Rollup.FolderStats

/-! Folding record batches into folder groups. -/

namespace Catwalk

/-- The columns of a FILE row that a rollup reads. -/
structure FileRow where
  parentPath : Text
  size : Option Int
  used : Option Int
  mtime : Option Int
  atime : Option Int
  deriving DecidableEq

/-- One row on its own: a null size is no bytes, but still a file. -/
def FileRow.stats (row : FileRow) : FolderStats :=
  FolderStats.new.add 1 row.size row.used row.mtime row.atime

inductive RollupError
  | tooWide (message : String)
  | valueError (message : String)
  | permissionError (message : String)
  deriving DecidableEq

abbrev Groups := OrderedDict Text FolderStats

/-- A row of the table given to `group_by`. -/
structure KeyedRow where
  key : Text
  size : Option Int
  used : Option Int
  mtime : Option Int
  atime : Option Int

/-- A row of the `aggregate` result. -/
structure Summary where
  key : Text
  sizeCount : Nat
  sizeSum : Option Int
  usedSum : Option Int
  mtimeMax : Option Int
  atimeMax : Option Int

/-- The `pyarrow` kernels of the aggregation.  Calls are numbered, since the
order of the groups may differ from call to call. -/
structure Arrow where
  dictionaryEncode : List Text → List Text × List Nat
  aggregate : Nat → List KeyedRow → List Summary

/-- `sum` skips nulls and is null without a valid value. -/
def sumValid (column : List (Option Int)) : Option Int :=
  if column.reduceOption = [] then none else some column.reduceOption.sum

/-- The aggregates of the rows of one group. -/
def Summary.ofRows (key : Text) (rows : List KeyedRow) : Summary where
  key := key
  sizeCount := rows.length
  sizeSum := sumValid (rows.map (·.size))
  usedSum := sumValid (rows.map (·.used))
  mtimeMax := (rows.map (·.mtime)).reduceOption.max?
  atimeMax := (rows.map (·.atime)).reduceOption.max?

/-- The documented results of the kernels.  The columns are int64: the sums are
those of rows whose sums stay within its range. -/
structure Arrow.Documented (arrow : Arrow) : Prop where
  encode : ∀ column,
    (arrow.dictionaryEncode column).2.map
      ((arrow.dictionaryEncode column).1[·]?) = column.map some
  aggregate : ∀ call rows, (arrow.aggregate call rows).Perm
    ((rows.map (·.key)).dedup.map fun key =>
      .ofRows key (rows.filter (·.key = key)))

def tooWideMessage (maxGroups : Nat) : String :=
  s!"rollup exceeds CATWALK_ROLLUP_MAX_GROUPS={maxGroups}; " ++
    "use a smaller depth or a narrower path"

/-- `groups.setdefault(key, FolderStats()).add(…)` under the group limit. -/
def addGroup (maxGroups : Nat) (groups : Groups) (key : Text) (files : Nat)
    (nbytes used mtimeNs atimeNs : Option Int) : Except RollupError Groups :=
  if key ∉ groups.keys ∧ maxGroups ≠ 0 ∧ maxGroups ≤ groups.size then
    .error (.tooWide (tooWideMessage maxGroups))
  else
    .ok (groups.set key (((groups.get? key).getD .new).add files nbytes used
      mtimeNs atimeNs))

def addSummary (maxGroups : Nat) (groups : Groups) (row : Summary) :
    Except RollupError Groups :=
  addGroup maxGroups groups row.key row.sizeCount row.sizeSum row.usedSum
    row.mtimeMax row.atimeMax

/-- `pc.take`: the values at the indices. -/
def take (values : List Text) (indices : List Nat) : List Text :=
  indices.map fun index => values.getD index []

/-- The rows of a batch under their group keys. -/
def keyedRows (arrow : Arrow) (pathPrefix : Text) (depth : Nat)
    (batch : List FileRow) : List KeyedRow :=
  let encoded := arrow.dictionaryEncode (batch.map (·.parentPath))
  let keys := encoded.1.map fun path => groupKey path pathPrefix depth
  (take keys encoded.2).zipWith
    (fun key row => ⟨key, row.size, row.used, row.mtime, row.atime⟩) batch

/-- What `aggregate_reader` has so far: the groups, the rows and the counts it
reported through `rows_cb`. -/
structure Aggregation where
  groups : Groups
  rows : Nat
  reported : List Nat

def aggregateBatch (arrow : Arrow) (pathPrefix : Text) (depth maxGroups : Nat)
    (sofar : Aggregation) (numbered : List FileRow × Nat) :
    Except RollupError Aggregation :=
  let (batch, call) := numbered
  if batch = [] then .ok sofar else do
    let summary := arrow.aggregate call (keyedRows arrow pathPrefix depth batch)
    let groups ← summary.foldlM (addSummary maxGroups) sofar.groups
    let rows := sofar.rows + batch.length
    .ok ⟨groups, rows, sofar.reported ++ [rows]⟩

/-- Consume the batches of a reader, the first one in the given call. -/
def aggregateReader (arrow : Arrow) (call : Nat) (reader : List (List FileRow))
    (pathPrefix : Text) (depth : Nat) (groups : Groups) (maxGroups : Nat) :
    Except RollupError Aggregation :=
  (reader.zipIdx call).foldlM (aggregateBatch arrow pathPrefix depth maxGroups)
    ⟨groups, 0, []⟩

def mergeGroups (groups partialGroups : Groups) (maxGroups : Nat) :
    Except RollupError Groups :=
  partialGroups.entries.foldlM
    (fun groups entry => addGroup maxGroups groups entry.1 entry.2.files
      entry.2.bytes entry.2.used entry.2.mtimeNs entry.2.atimeNs) groups

theorem bind_eq_ok {Error Value Result : Type} {source : Except Error Value}
    {continuation : Value → Except Error Result} {result : Result} :
    (source >>= continuation) = .ok result ↔
      ∃ value, source = .ok value ∧ continuation value = .ok result := by
  cases source with
  | error error =>
      constructor
      · intro raised
        cases raised
      · rintro ⟨value, ⟨⟩, _⟩
  | ok value =>
      constructor
      · exact fun continued => ⟨value, rfl, continued⟩
      · rintro ⟨value, ⟨⟩, continued⟩
        exact continued

/-- The bound that `max_groups` stands for; zero is none. -/
def groupLimit (maxGroups : Nat) : Option Nat :=
  if maxGroups = 0 then none else some maxGroups

theorem within_groupLimit {maxGroups count : Nat} (le : count ≤ maxGroups) :
    OrderedDict.Within (groupLimit maxGroups) count := by
  unfold groupLimit
  split
  · rintro bound ⟨⟩
  · rintro bound ⟨⟩
    exact le

theorem addGroup_eq (maxGroups : Nat) (groups : Groups) (key : Text)
    (files : Nat) (nbytes used mtimeNs atimeNs : Option Int) :
    addGroup maxGroups groups key files nbytes used mtimeNs atimeNs =
      groups.accumulateWithin (groupLimit maxGroups)
        (.tooWide (tooWideMessage maxGroups))
        (key, FolderStats.new.add files nbytes used mtimeNs atimeNs) := by
  have room : (key ∈ groups.keys ∨
      OrderedDict.Within (groupLimit maxGroups) (groups.size + 1)) ↔
        ¬ (key ∉ groups.keys ∧ maxGroups ≠ 0 ∧ maxGroups ≤ groups.size) := by
    by_cases unlimited : maxGroups = 0
    · simp [OrderedDict.Within, groupLimit, unlimited]
    · by_cases present : key ∈ groups.keys
      · simp [present]
      · simp only [present, OrderedDict.Within, groupLimit, if_neg unlimited,
          false_or, not_false_eq_true, true_and, ne_eq, Option.mem_def,
          Option.some.injEq, forall_eq']
        omega
  unfold addGroup OrderedDict.accumulateWithin
  by_cases full : key ∉ groups.keys ∧ maxGroups ≠ 0 ∧ maxGroups ≤ groups.size
  · rw [if_pos full, if_neg (mt room.mp (not_not.mpr full))]
  · rw [if_neg full, if_pos (room.mpr full), FolderStats.add_eq]
    rfl

def Summary.stats (row : Summary) : FolderStats :=
  FolderStats.new.add row.sizeCount row.sizeSum row.usedSum row.mtimeMax
    row.atimeMax

def KeyedRow.stats (row : KeyedRow) : FolderStats :=
  FolderStats.new.add 1 row.size row.used row.mtime row.atime

theorem getD_sumValid (column : List (Option Int)) :
    (sumValid column).getD 0 = (column.map (·.getD 0)).sum := by
  have sum_eq : column.reduceOption.sum = (column.map (·.getD 0)).sum := by
    induction column with
    | nil => rfl
    | cons value rest ih => cases value <;> simp [ih]
  unfold sumValid
  split
  · next empty => rw [← sum_eq, empty]; rfl
  · exact sum_eq

theorem Summary.stats_ofRows (key : Text) (rows : List KeyedRow) :
    (Summary.ofRows key rows).stats = (rows.map KeyedRow.stats).sum := by
  rw [FolderStats.sum_eq]
  simp only [Summary.stats, Summary.ofRows, FolderStats.add, getD_sumValid,
    List.map_map, foldr_newest]
  ext1
  · simp [FolderStats.new, KeyedRow.stats, FolderStats.add, Function.comp_def]
  · simp [FolderStats.new, KeyedRow.stats, FolderStats.add, Function.comp_def]
  · simp [FolderStats.new, KeyedRow.stats, FolderStats.add, Function.comp_def]
  · simp [FolderStats.new, KeyedRow.stats, FolderStats.add, Function.comp_def]
  · simp [FolderStats.new, KeyedRow.stats, FolderStats.add, Function.comp_def]

theorem take_map_dictionaryEncode {arrow : Arrow}
    (documented : arrow.Documented) (column : List Text) (key : Text → Text) :
    take ((arrow.dictionaryEncode column).1.map key)
      (arrow.dictionaryEncode column).2 = column.map key := by
  calc
    take ((arrow.dictionaryEncode column).1.map key)
        (arrow.dictionaryEncode column).2
      = ((arrow.dictionaryEncode column).2.map
          ((arrow.dictionaryEncode column).1[·]?)).map
            fun value => (value.map key).getD [] := by
        simp [take, List.getD_eq_getElem?_getD]
    _ = column.map key := by
        rw [documented.encode]
        simp

def FileRow.keyed (pathPrefix : Text) (depth : Nat) (row : FileRow) : KeyedRow :=
  ⟨groupKey row.parentPath pathPrefix depth, row.size, row.used, row.mtime,
    row.atime⟩

theorem keyedRows_eq {arrow : Arrow} (documented : arrow.Documented)
    (pathPrefix : Text) (depth : Nat) (batch : List FileRow) :
    keyedRows arrow pathPrefix depth batch =
      batch.map (FileRow.keyed pathPrefix depth) := by
  simp only [keyedRows]
  rw [take_map_dictionaryEncode documented, List.map_map,
    List.zipWith_map_left, List.zipWith_self]
  rfl

/-- What each row adds to which group. -/
def rowEntries (pathPrefix : Text) (depth : Nat) (rows : List FileRow) :
    List (Text × FolderStats) :=
  rows.map fun row => (groupKey row.parentPath pathPrefix depth, row.stats)

/-- The row-by-row reference: each row counted in one group. -/
def rowByRow (pathPrefix : Text) (depth : Nat) (rows : List FileRow) : Groups :=
  (rowEntries pathPrefix depth rows).foldl .accumulate .empty

theorem rowEntries_append (pathPrefix : Text) (depth : Nat)
    (first second : List FileRow) :
    rowEntries pathPrefix depth (first ++ second) =
      rowEntries pathPrefix depth first ++
        rowEntries pathPrefix depth second :=
  List.map_append

theorem amount_rowByRow (pathPrefix : Text) (depth : Nat)
    (rows : List FileRow) (key : Text) :
    (rowByRow pathPrefix depth rows).amount key =
      OrderedDict.tally (rowEntries pathPrefix depth rows) key := by
  rw [rowByRow, OrderedDict.amount_foldl_accumulate,
    OrderedDict.amount_empty, zero_add]

theorem tally_summaries {arrow : Arrow} (documented : arrow.Documented)
    (call : Nat) (pathPrefix : Text) (depth : Nat) (batch : List FileRow)
    (key : Text) :
    OrderedDict.tally
        ((arrow.aggregate call (keyedRows arrow pathPrefix depth batch)).map
          fun row => (row.key, row.stats)) key =
      OrderedDict.tally (rowEntries pathPrefix depth batch) key := by
  rw [keyedRows_eq documented, OrderedDict.tally_perm
    ((documented.aggregate call _).map _), List.map_map]
  have regrouped := OrderedDict.tally_regroup
    (rowEntries pathPrefix depth batch) key
  have keys : (rowEntries pathPrefix depth batch).map Prod.fst =
      (batch.map (FileRow.keyed pathPrefix depth)).map (·.key) := by
    simp [rowEntries, FileRow.keyed, Function.comp_def]
  rw [← regrouped, keys]
  refine congrArg (OrderedDict.tally · key)
    (List.map_congr_left fun group _ => ?_)
  simp only [Function.comp_apply, Summary.stats_ofRows]
  refine congrArg (Prod.mk group) (congrArg List.sum ?_)
  simp [rowEntries, List.filter_map, Function.comp_def]
  rfl

/-- The keys of the groups that the rows are counted in. -/
def groupKeys (pathPrefix : Text) (depth : Nat) (rows : List FileRow) :
    Finset Text :=
  (rows.map fun row => groupKey row.parentPath pathPrefix depth).toFinset

theorem toFinset_rowEntries (pathPrefix : Text) (depth : Nat)
    (rows : List FileRow) :
    ((rowEntries pathPrefix depth rows).map Prod.fst).toFinset =
      groupKeys pathPrefix depth rows := by
  simp only [rowEntries, groupKeys, List.map_map, Function.comp_def]

theorem groupKeys_append (pathPrefix : Text) (depth : Nat)
    (first second : List FileRow) :
    groupKeys pathPrefix depth (first ++ second) =
      groupKeys pathPrefix depth first ∪ groupKeys pathPrefix depth second := by
  simp only [groupKeys, List.map_append, List.toFinset_append]

/-- The groups after counting the rows. -/
def Adds (pathPrefix : Text) (depth : Nat) (rows : List FileRow)
    (before after : Groups) : Prop :=
  ∀ key, after.amount key = before.amount key +
    OrderedDict.tally (rowEntries pathPrefix depth rows) key

theorem Adds.nil (pathPrefix : Text) (depth : Nat) (groups : Groups) :
    Adds pathPrefix depth [] groups groups :=
  fun _ => (add_zero _).symm

theorem Adds.trans {pathPrefix : Text} {depth : Nat}
    {first second : List FileRow} {before middle after : Groups}
    (adds : Adds pathPrefix depth first before middle)
    (adds' : Adds pathPrefix depth second middle after) :
    Adds pathPrefix depth (first ++ second) before after := by
  intro key
  rw [adds' key, adds key, rowEntries_append, OrderedDict.tally_append,
    add_assoc]

theorem Adds.keys {pathPrefix : Text} {depth : Nat} {rows : List FileRow}
    {before after : Groups} (adds : Adds pathPrefix depth rows before after) :
    after.keys.toFinset =
      before.keys.toFinset ∪ groupKeys pathPrefix depth rows := by
  rw [OrderedDict.keys_of_amount adds, toFinset_rowEntries]

theorem Adds.of_tally {pathPrefix : Text} {depth : Nat} {rows : List FileRow}
    {entries : List (Text × FolderStats)}
    (same : ∀ key, OrderedDict.tally entries key =
      OrderedDict.tally (rowEntries pathPrefix depth rows) key)
    (groups : Groups) :
    Adds pathPrefix depth rows groups
      (entries.foldl OrderedDict.accumulate groups) := by
  intro key
  rw [OrderedDict.amount_foldl_accumulate, same]

/-- Adding entries that add up to the rows succeeds within the limit. -/
theorem exists_adds {pathPrefix : Text} {depth : Nat} {rows : List FileRow}
    {entries : List (Text × FolderStats)}
    (same : ∀ key, OrderedDict.tally entries key =
      OrderedDict.tally (rowEntries pathPrefix depth rows) key)
    {limit : Option Nat} (refusal : RollupError) {groups : Groups}
    (within : OrderedDict.Within limit
      (groups.keys.toFinset ∪ groupKeys pathPrefix depth rows).card) :
    ∃ after,
      entries.foldlM (OrderedDict.accumulateWithin limit refusal) groups =
        .ok after ∧ Adds pathPrefix depth rows groups after := by
  refine ⟨_, OrderedDict.foldlM_accumulateWithin refusal entries groups ?_,
    Adds.of_tally same groups⟩
  rw [OrderedDict.keys_of_tally same, toFinset_rowEntries]
  exact within

theorem adds_of_eq_ok {pathPrefix : Text} {depth : Nat} {rows : List FileRow}
    {entries : List (Text × FolderStats)}
    (same : ∀ key, OrderedDict.tally entries key =
      OrderedDict.tally (rowEntries pathPrefix depth rows) key)
    {limit : Option Nat} {refusal : RollupError} {groups after : Groups}
    (carried : entries.foldlM
      (OrderedDict.accumulateWithin limit refusal) groups = .ok after) :
    Adds pathPrefix depth rows groups after ∧
      (OrderedDict.Within limit groups.size →
        OrderedDict.Within limit after.size) := by
  obtain ⟨result, within⟩ := OrderedDict.foldlM_accumulateWithin_eq_ok carried
  exact ⟨result ▸ Adds.of_tally same groups, within⟩

theorem foldlM_addSummary (maxGroups : Nat) (summaries : List Summary)
    (groups : Groups) :
    summaries.foldlM (addSummary maxGroups) groups =
      (summaries.map fun row => (row.key, row.stats)).foldlM
        (OrderedDict.accumulateWithin (groupLimit maxGroups)
          (.tooWide (tooWideMessage maxGroups))) groups := by
  rw [List.foldlM_map]
  refine congrArg (List.foldlM · groups summaries) ?_
  funext groups row
  exact addGroup_eq ..

theorem mergeGroups_eq (groups partialGroups : Groups) (maxGroups : Nat) :
    mergeGroups groups partialGroups maxGroups =
      partialGroups.entries.foldlM
        (OrderedDict.accumulateWithin (groupLimit maxGroups)
          (.tooWide (tooWideMessage maxGroups))) groups := by
  unfold mergeGroups
  refine congrArg (List.foldlM · groups partialGroups.entries) ?_
  funext groups entry
  have whole : FolderStats.new.add entry.2.files entry.2.bytes entry.2.used
      entry.2.mtimeNs entry.2.atimeNs = entry.2 :=
    zero_add entry.2
  rw [addGroup_eq, whole]

/-- What counting the rows does to an aggregation. -/
structure Counts (pathPrefix : Text) (depth : Nat) (rows : List FileRow)
    (before after : Aggregation) : Prop where
  adds : Adds pathPrefix depth rows before.groups after.groups
  rows : after.rows = before.rows + rows.length

theorem Counts.nil (pathPrefix : Text) (depth : Nat) (sofar : Aggregation) :
    Counts pathPrefix depth [] sofar sofar :=
  ⟨.nil pathPrefix depth sofar.groups, rfl⟩

theorem Counts.trans {pathPrefix : Text} {depth : Nat}
    {first second : List FileRow} {before middle after : Aggregation}
    (counts : Counts pathPrefix depth first before middle)
    (counts' : Counts pathPrefix depth second middle after) :
    Counts pathPrefix depth (first ++ second) before after := by
  refine ⟨counts.adds.trans counts'.adds, ?_⟩
  rw [counts'.rows, counts.rows, List.length_append, Nat.add_assoc]

section Reader

variable {arrow : Arrow} (documented : arrow.Documented)
include documented

theorem aggregateBatch_ok {pathPrefix : Text} {depth maxGroups : Nat}
    {sofar : Aggregation} {batch : List FileRow} (call : Nat)
    (within : OrderedDict.Within (groupLimit maxGroups)
      (sofar.groups.keys.toFinset ∪ groupKeys pathPrefix depth batch).card) :
    ∃ after,
      aggregateBatch arrow pathPrefix depth maxGroups sofar (batch, call) =
        .ok after ∧ Counts pathPrefix depth batch sofar after := by
  rcases eq_or_ne batch ([]) with rfl | differs
  · exact ⟨sofar, rfl, .nil pathPrefix depth sofar⟩
  · obtain ⟨groups, carried, adds⟩ := exists_adds
      (tally_summaries documented call pathPrefix depth batch)
      (.tooWide (tooWideMessage maxGroups)) within
    refine ⟨⟨groups, sofar.rows + batch.length,
      sofar.reported ++ [sofar.rows + batch.length]⟩, ?_, adds, rfl⟩
    rw [← foldlM_addSummary] at carried
    simp only [aggregateBatch, if_neg differs, carried]
    rfl

theorem aggregateBatch_eq_ok {pathPrefix : Text} {depth maxGroups : Nat}
    {sofar after : Aggregation} {batch : List FileRow} {call : Nat}
    (carried : aggregateBatch arrow pathPrefix depth maxGroups sofar
      (batch, call) = .ok after) :
    Counts pathPrefix depth batch sofar after ∧
      (OrderedDict.Within (groupLimit maxGroups) sofar.groups.size →
        OrderedDict.Within (groupLimit maxGroups) after.groups.size) := by
  rcases eq_or_ne batch ([]) with rfl | differs
  · cases carried
    exact ⟨.nil pathPrefix depth sofar, id⟩
  · simp only [aggregateBatch, if_neg differs, foldlM_addSummary] at carried
    obtain ⟨groups, added, result⟩ := bind_eq_ok.mp carried
    cases result
    obtain ⟨adds, within⟩ := adds_of_eq_ok
      (tally_summaries documented call pathPrefix depth batch) added
    exact ⟨⟨adds, rfl⟩, within⟩

theorem foldlM_aggregateBatch_ok {pathPrefix : Text} {depth maxGroups : Nat}
    (reader : List (List FileRow × Nat)) (sofar : Aggregation)
    (within : OrderedDict.Within (groupLimit maxGroups)
      (sofar.groups.keys.toFinset ∪
        groupKeys pathPrefix depth (reader.map Prod.fst).flatten).card) :
    ∃ after,
      reader.foldlM (aggregateBatch arrow pathPrefix depth maxGroups) sofar =
          .ok after ∧
        Counts pathPrefix depth (reader.map Prod.fst).flatten sofar after := by
  induction reader generalizing sofar with
  | nil => exact ⟨_, rfl, .nil pathPrefix depth _⟩
  | cons numbered rest ih =>
      obtain ⟨batch, call⟩ := numbered
      simp only [List.map_cons, List.flatten_cons, groupKeys_append,
        ← Finset.union_assoc] at within ⊢
      obtain ⟨middle, first, counts⟩ := aggregateBatch_ok documented call
        (within.mono (Finset.card_le_card Finset.subset_union_left))
      rw [← counts.adds.keys] at within
      obtain ⟨after, later, counts'⟩ := ih middle within
      refine ⟨after, ?_, counts.trans counts'⟩
      rw [List.foldlM_cons, first]
      exact later

theorem foldlM_aggregateBatch_eq_ok {pathPrefix : Text} {depth maxGroups : Nat}
    {reader : List (List FileRow × Nat)} {sofar after : Aggregation}
    (carried : reader.foldlM
      (aggregateBatch arrow pathPrefix depth maxGroups) sofar = .ok after) :
    Counts pathPrefix depth (reader.map Prod.fst).flatten sofar after ∧
      (OrderedDict.Within (groupLimit maxGroups) sofar.groups.size →
        OrderedDict.Within (groupLimit maxGroups) after.groups.size) := by
  induction reader generalizing sofar with
  | nil =>
      cases carried
      exact ⟨.nil pathPrefix depth _, id⟩
  | cons numbered rest ih =>
      obtain ⟨batch, call⟩ := numbered
      rw [List.foldlM_cons] at carried
      obtain ⟨middle, first, later⟩ := bind_eq_ok.mp carried
      obtain ⟨counts, within⟩ := aggregateBatch_eq_ok documented first
      obtain ⟨counts', within'⟩ := ih later
      exact ⟨counts.trans counts', fun before => within' (within before)⟩

theorem aggregateReader_ok {pathPrefix : Text} {depth maxGroups : Nat}
    (call : Nat) (reader : List (List FileRow)) (groups : Groups)
    (within : OrderedDict.Within (groupLimit maxGroups)
      (groups.keys.toFinset ∪
        groupKeys pathPrefix depth reader.flatten).card) :
    ∃ after,
      aggregateReader arrow call reader pathPrefix depth groups maxGroups =
          .ok after ∧
        Counts pathPrefix depth reader.flatten ⟨groups, 0, []⟩ after := by
  have batches : (reader.zipIdx call).map Prod.fst = reader :=
    List.zipIdx_map_fst ..
  obtain ⟨after, carried, counts⟩ := foldlM_aggregateBatch_ok documented
    (reader.zipIdx call) ⟨groups, 0, []⟩ (batches.symm ▸ within)
  exact ⟨after, carried, batches ▸ counts⟩

theorem aggregateReader_eq_ok {pathPrefix : Text} {depth maxGroups : Nat}
    {call : Nat} {reader : List (List FileRow)} {groups : Groups}
    {after : Aggregation}
    (carried : aggregateReader arrow call reader pathPrefix depth groups
      maxGroups = .ok after) :
    Counts pathPrefix depth reader.flatten ⟨groups, 0, []⟩ after ∧
      (OrderedDict.Within (groupLimit maxGroups) groups.size →
        OrderedDict.Within (groupLimit maxGroups) after.groups.size) := by
  have counted := foldlM_aggregateBatch_eq_ok documented carried
  rwa [List.zipIdx_map_fst] at counted

end Reader

section Merge

variable {pathPrefix : Text} {depth : Nat} {rows : List FileRow}
  {partialGroups : Groups} (adds : Adds pathPrefix depth rows .empty partialGroups)
include adds

theorem tally_partialGroups (key : Text) :
    OrderedDict.tally partialGroups.entries key =
      OrderedDict.tally (rowEntries pathPrefix depth rows) key := by
  rw [OrderedDict.tally_entries, adds key, OrderedDict.amount_empty, zero_add]

theorem mergeGroups_ok {maxGroups : Nat} {groups : Groups}
    (within : OrderedDict.Within (groupLimit maxGroups)
      (groups.keys.toFinset ∪ groupKeys pathPrefix depth rows).card) :
    ∃ after, mergeGroups groups partialGroups maxGroups = .ok after ∧
      Adds pathPrefix depth rows groups after := by
  rw [mergeGroups_eq]
  exact exists_adds (tally_partialGroups adds) _ within

theorem mergeGroups_eq_ok {maxGroups : Nat} {groups after : Groups}
    (merged : mergeGroups groups partialGroups maxGroups = .ok after) :
    Adds pathPrefix depth rows groups after ∧
      (OrderedDict.Within (groupLimit maxGroups) groups.size →
        OrderedDict.Within (groupLimit maxGroups) after.size) := by
  rw [mergeGroups_eq] at merged
  exact adds_of_eq_ok (tally_partialGroups adds) merged

end Merge

end Catwalk
