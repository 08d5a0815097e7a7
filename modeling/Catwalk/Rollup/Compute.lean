import Catwalk.Cache.Flight
import Catwalk.Rollup.Pipeline

/-! `RollupService.compute`: what a rollup reports and caches. -/

namespace Catwalk

structure RollupConfig where
  rollupThreads : Nat
  rollupMaxGroups : Nat
  rollupMaxDepth : Nat
  allowRoot : Bool

structure Child where
  name : Text
  fileCount : Nat
  totalBytes : Int
  totalUsed : Int
  lastModified : Text
  lastAccessed : Text

structure Totals where
  fileCount : Nat
  totalBytes : Int
  totalUsed : Int
  lastModified : Text

structure RollupResult where
  path : Text
  catalogSnapshot : Option String
  computedAt : Text
  elapsedS : Rat
  rowsScanned : Nat
  fromCache : Bool
  children : List Child
  totals : Totals

/-- What one rollup reads: the clock, and the answers of the backend. -/
structure RollupInput where
  epoch : Option String
  computedAt : Text
  elapsedS : Rat
  reader : List (List FileRow)
  childDirs : List Text

/-- Which of the two aggregations the backend offers. -/
inductive Backend
  | pipelined (completion : Completion)
  | sequential

abbrev RollupKey := Option String × Text × Nat

namespace RollupService

/-- The groups, the number of rows and the counts reported on the way. -/
def scan (arrow : Arrow) (backend : Backend) (cfg : RollupConfig)
    (pathPrefix : Text) (depth : Nat) (reader : List (List FileRow)) :
    Except RollupError (Groups × Nat × List Nat) :=
  match backend with
  | .pipelined completion =>
      rollupGroups arrow completion
        ⟨pathPrefix, depth, cfg.rollupThreads, cfg.rollupMaxGroups⟩ reader
  | .sequential => do
      let aggregation ← aggregateReader arrow 0 reader pathPrefix depth .empty
        cfg.rollupMaxGroups
      .ok (aggregation.groups, aggregation.rows, aggregation.reported)

def seedMessage (maxGroups : Nat) : String :=
  s!"rollup exceeds CATWALK_ROLLUP_MAX_GROUPS={maxGroups}; " ++
    "use a narrower path"

/-- An immediate child directory, so that empty folders show up. -/
def seed (maxGroups : Nat) (groups : Groups) (name : Text) :
    Except RollupError Groups :=
  if name ∉ groups.keys ∧ maxGroups ≤ groups.size then
    .error (.tooWide (seedMessage maxGroups))
  else .ok (groups.setDefault name .new)

/-- The groups of a rollup: those of the files, and the child directories. -/
def grouped (arrow : Arrow) (backend : Backend) (cfg : RollupConfig)
    (pathPrefix : Text) (depth : Nat) (input : RollupInput) :
    Except RollupError Groups := do
  let (scanned, _, _) ← scan arrow backend cfg pathPrefix depth input.reader
  input.childDirs.foldlM (seed cfg.rollupMaxGroups) scanned

def child (key : Text) (stats : FolderStats) : Child where
  name := key
  fileCount := stats.files
  totalBytes := stats.bytes
  totalUsed := stats.used
  lastModified := nsToIso stats.mtimeNs
  lastAccessed := nsToIso stats.atimeNs

/-- Largest first; Python's sort is stable. -/
def children (groups : Groups) : List Child :=
  (groups.entries.map fun entry => child entry.1 entry.2).mergeSort
    fun first second => second.totalBytes ≤ first.totalBytes

/-- `_fold` -/
def fold (groups : Groups) : FolderStats :=
  groups.entries.foldl (fun total entry => total.add entry.2.files
    entry.2.bytes entry.2.used entry.2.mtimeNs entry.2.atimeNs) .new

def totals (stats : FolderStats) : Totals where
  fileCount := stats.files
  totalBytes := stats.bytes
  totalUsed := stats.used
  lastModified := nsToIso stats.mtimeNs

def depthMessage (maxDepth : Nat) : String :=
  s!"rollup depth must be between 1 and {maxDepth}"

def rootMessage : String :=
  "Refusing a rollup of the entire namespace ('/'); " ++
    "set CATWALK_ALLOW_ROOT=1 to enable."

def report (input : RollupInput) (pathPrefix : Text) (groups : Groups)
    (totalRows : Nat) : RollupResult where
  path := pathPrefix
  catalogSnapshot := input.epoch
  computedAt := input.computedAt
  elapsedS := input.elapsedS
  rowsScanned := totalRows
  fromCache := false
  children := children groups
  totals := totals (fold groups)

/-- The result of a rollup and what it reported through `rows_cb`. -/
def rollup (arrow : Arrow) (backend : Backend) (cfg : RollupConfig)
    (path : Text) (depth : Nat) (input : RollupInput) :
    Except RollupError (RollupResult × List Nat) := do
  let pathPrefix := normalizePrefix path
  if depth < 1 ∨ cfg.rollupMaxDepth < depth then
    .error (.valueError (depthMessage cfg.rollupMaxDepth))
  else if pathPrefix = ['/'] ∧ ¬ cfg.allowRoot then
    .error (.permissionError rootMessage)
  else
    let (scanned, totalRows, reported) ←
      scan arrow backend cfg pathPrefix depth input.reader
    let groups ← input.childDirs.foldlM (seed cfg.rollupMaxGroups) scanned
    .ok (report input pathPrefix groups totalRows,
      0 :: reported ++ [totalRows])

theorem rollup_snapshot {arrow : Arrow} {backend : Backend}
    {cfg : RollupConfig} {path : Text} {depth : Nat} {input : RollupInput}
    {result : RollupResult} {reported : List Nat}
    (finished : rollup arrow backend cfg path depth input =
      .ok (result, reported)) : result.catalogSnapshot = input.epoch := by
  simp only [rollup] at finished
  split at finished
  · cases finished
  split at finished
  · cases finished
  obtain ⟨scanned, _, finished⟩ := bind_eq_ok.mp finished
  obtain ⟨groups, _, finished⟩ := bind_eq_ok.mp finished
  cases finished
  rfl

/-- `compute`: only a finished rollup is put into the cache. -/
def compute (arrow : Arrow) (backend : Backend) (cfg : RollupConfig)
    (deepSize : RollupResult → Nat) (now : Int) (path : Text) (depth : Nat)
    (input : RollupInput) (shared : SharedCache RollupKey RollupResult Unit) :
    Except RollupError RollupResult × SharedCache RollupKey RollupResult Unit :=
  match rollup arrow backend cfg path depth input with
  | .error error => (.error error, shared)
  | .ok (result, _) =>
      (.ok result, shared.put now (input.epoch, result.path, depth)
        (some result) (deepSize result))

end RollupService

/-- The totals of some rows, column by column: a null size or used count is no
bytes, the times are the latest ones that are not null. -/
def rowStats (rows : List FileRow) : FolderStats where
  files := rows.length
  bytes := (rows.map fun row => row.size.getD 0).sum
  used := (rows.map fun row => row.used.getD 0).sum
  mtimeNs := (rows.map (·.mtime)).reduceOption.max?
  atimeNs := (rows.map (·.atime)).reduceOption.max?

theorem sum_stats (rows : List FileRow) :
    (rows.map FileRow.stats).sum = rowStats rows := by
  rw [FolderStats.sum_eq, foldr_newest, foldr_newest]
  simp [rowStats, FileRow.stats, FolderStats.add, FolderStats.new,
    Function.comp_def]

/-- Each row is counted in the one group of its parent path. -/
def CountsEachRow (pathPrefix : Text) (depth : Nat) (rows : List FileRow)
    (groups : Groups) : Prop :=
  ∀ key, groups.get? key =
    if key ∈ groupKeys pathPrefix depth rows then
      some (rowStats (rows.filter fun row =>
        groupKey row.parentPath pathPrefix depth = key))
    else none

theorem countsEachRow_of_adds {pathPrefix : Text} {depth : Nat}
    {rows : List FileRow} {groups : Groups}
    (adds : Adds pathPrefix depth rows .empty groups) :
    CountsEachRow pathPrefix depth rows groups := by
  intro key
  have sums : groups.get? key =
      OrderedDict.tally (rowEntries pathPrefix depth rows) key := by
    have := adds key
    rwa [OrderedDict.amount_empty, zero_add] at this
  have members : key ∈ (rowEntries pathPrefix depth rows).map Prod.fst ↔
      key ∈ groupKeys pathPrefix depth rows := by
    rw [← toFinset_rowEntries, List.mem_toFinset]
  have group : ((rowEntries pathPrefix depth rows).filter (·.1 = key)).map
      Prod.snd = (rows.filter fun row =>
        groupKey row.parentPath pathPrefix depth = key).map FileRow.stats := by
    simp [rowEntries, List.filter_map, Function.comp_def]
  rw [sums, OrderedDict.tally_eq_sum, group, sum_stats]
  simp only [members]
  rfl

namespace RollupService

theorem fold_eq_total (groups : Groups) : fold groups = groups.total := by
  unfold fold OrderedDict.total
  rw [List.sum_eq_foldl, List.foldl_map]
  rfl

theorem seed_eq (maxGroups : Nat) (groups : Groups) (name : Text) :
    seed maxGroups groups name =
      groups.accumulateWithin (some maxGroups)
        (.tooWide (seedMessage maxGroups)) (name, 0) := by
  have added : groups.accumulate (name, 0) = groups.setDefault name .new := by
    unfold OrderedDict.accumulate OrderedDict.setDefault
    by_cases present : name ∈ groups.keys
    · obtain ⟨stats, found⟩ := OrderedDict.mem_keys_iff.mp present
      rw [if_pos present, found, Option.getD_some, add_zero,
        OrderedDict.set_get? found]
    · rw [if_neg present, OrderedDict.get?_eq_none_iff.mpr present]
      rfl
  unfold seed OrderedDict.accumulateWithin
  rw [added]
  by_cases present : name ∈ groups.keys
  · rw [if_neg (fun full => full.1 present), if_pos (.inl present)]
  · by_cases full : maxGroups ≤ groups.size
    · have refused : ¬ (name ∈ groups.keys ∨
          OrderedDict.Within (some maxGroups) (groups.size + 1)) := by
        rintro (member | within)
        · exact present member
        · exact absurd (within maxGroups rfl) (by omega)
      rw [if_pos ⟨present, full⟩, if_neg refused]
    · have room : OrderedDict.Within (some maxGroups) (groups.size + 1) := by
        rintro bound ⟨⟩
        omega
      rw [if_neg (fun refused => full refused.2), if_pos (.inr room)]

/-- The additions of the child directories. -/
def seedEntries (names : List Text) : List (Text × FolderStats) :=
  names.map fun name => (name, 0)

theorem seedAll_eq (maxGroups : Nat) (groups : Groups) (names : List Text) :
    names.foldlM (seed maxGroups) groups =
      (seedEntries names).foldlM
        (OrderedDict.accumulateWithin (some maxGroups)
          (.tooWide (seedMessage maxGroups))) groups := by
  rw [seedEntries, List.foldlM_map]
  refine congrArg (List.foldlM · groups names) ?_
  funext groups name
  exact seed_eq maxGroups groups name

section Scan

variable {arrow : Arrow} (documented : arrow.Documented) {backend : Backend}
  {cfg : RollupConfig} {pathPrefix : Text} {depth : Nat}
  {reader : List (List FileRow)}
include documented

theorem scan_eq_ok {groups : Groups} {total : Nat} {reported : List Nat}
    (scanned : scan arrow backend cfg pathPrefix depth reader =
      .ok (groups, total, reported)) :
    Adds pathPrefix depth reader.flatten .empty groups ∧
      total = reader.flatten.length ∧
      OrderedDict.Within (groupLimit cfg.rollupMaxGroups) groups.size := by
  cases backend with
  | pipelined completion => exact rollupGroups_eq_ok documented scanned
  | sequential =>
      obtain ⟨aggregation, aggregated, same⟩ := bind_eq_ok.mp scanned
      cases same
      obtain ⟨counts, within⟩ := aggregateReader_eq_ok documented aggregated
      exact ⟨counts.adds, counts.rows.trans (Nat.zero_add _),
        within fun _ _ => Nat.zero_le _⟩

theorem scan_ok (threads : cfg.rollupThreads ≠ 0)
    (within : OrderedDict.Within (groupLimit cfg.rollupMaxGroups)
      (groupKeys pathPrefix depth reader.flatten).card) :
    ∃ result, scan arrow backend cfg pathPrefix depth reader = .ok result := by
  cases backend with
  | pipelined completion => exact rollupGroups_ok documented threads within
  | sequential =>
      obtain ⟨after, aggregated, _⟩ :=
        aggregateReader_ok documented 0 reader .empty (by
          rw [show (OrderedDict.empty : Groups).keys.toFinset = ∅ from rfl,
            Finset.empty_union]
          exact within)
      exact ⟨(after.groups, after.rows, after.reported),
        bind_eq_ok.mpr ⟨after, aggregated, rfl⟩⟩

end Scan

/-- What a finished rollup is made of. -/
structure Finished (cfg : RollupConfig) (path : Text) (depth : Nat)
    (input : RollupInput) (groups : Groups) (result : RollupResult) : Prop where
  amount : ∀ key, groups.amount key = OrderedDict.tally
    (rowEntries (normalizePrefix path) depth input.reader.flatten ++
      seedEntries input.childDirs) key
  within : cfg.rollupMaxGroups ≠ 0 → groups.size ≤ cfg.rollupMaxGroups
  path : result.path = normalizePrefix path
  catalogSnapshot : result.catalogSnapshot = input.epoch
  rowsScanned : result.rowsScanned = input.reader.flatten.length
  children : result.children = RollupService.children groups
  totals : result.totals = RollupService.totals (fold groups)

theorem Finished.fold_eq {cfg : RollupConfig} {path : Text} {depth : Nat}
    {input : RollupInput} {groups : Groups} {result : RollupResult}
    (finished : Finished cfg path depth input groups result) :
    fold groups = rowStats input.reader.flatten := by
  rw [fold_eq_total, OrderedDict.total_of_amount finished.amount,
    ← sum_stats, List.map_append, List.sum_append]
  simp [rowEntries, seedEntries, Function.comp_def]

/-- The checks `compute` makes before it reads anything. -/
def Permitted (cfg : RollupConfig) (path : Text) (depth : Nat) : Prop :=
  1 ≤ depth ∧ depth ≤ cfg.rollupMaxDepth ∧
    (normalizePrefix path = ['/'] → cfg.allowRoot = true)

section Rollup

variable {arrow : Arrow} (documented : arrow.Documented) {backend : Backend}
  {cfg : RollupConfig} {path : Text} {depth : Nat} {input : RollupInput}
include documented

theorem rollup_eq_ok {result : RollupResult} {reported : List Nat}
    (rolled : rollup arrow backend cfg path depth input =
      .ok (result, reported)) :
    Permitted cfg path depth ∧
      ∃ groups,
        grouped arrow backend cfg (normalizePrefix path) depth input =
            .ok groups ∧
          Finished cfg path depth input groups result := by
  simp only [rollup] at rolled
  split at rolled
  · cases rolled
  next depthOk =>
    split at rolled
    · cases rolled
    next rootOk =>
      obtain ⟨⟨scanned, total, counts⟩, scans, rolled⟩ := bind_eq_ok.mp rolled
      obtain ⟨groups, seeded, same⟩ := bind_eq_ok.mp rolled
      cases same
      have isGrouped : grouped arrow backend cfg (normalizePrefix path) depth
          input = .ok groups :=
        bind_eq_ok.mpr ⟨_, scans, seeded⟩
      obtain ⟨adds, counted, within⟩ := scan_eq_ok documented scans
      rw [seedAll_eq] at seeded
      obtain ⟨isFold, keepsWithin⟩ :=
        OrderedDict.foldlM_accumulateWithin_eq_ok seeded
      refine ⟨⟨by omega, by omega, ?_⟩, groups, isGrouped, ?_, ?_, rfl, rfl,
        counted, rfl, rfl⟩
      · intro isRoot
        by_contra notAllowed
        exact rootOk ⟨isRoot, notAllowed⟩
      · intro key
        rw [isFold, OrderedDict.amount_foldl_accumulate, adds key,
          OrderedDict.amount_empty, zero_add, OrderedDict.tally_append]
      · intro limited
        refine keepsWithin ?_ cfg.rollupMaxGroups rfl
        simpa [groupLimit, limited] using within

theorem rollup_ok (permitted : Permitted cfg path depth)
    (threads : cfg.rollupThreads ≠ 0)
    (within : (groupKeys (normalizePrefix path) depth input.reader.flatten ∪
      input.childDirs.toFinset).card ≤ cfg.rollupMaxGroups) :
    ∃ result, rollup arrow backend cfg path depth input = .ok result := by
  obtain ⟨positive, shallow, root⟩ := permitted
  have limit : OrderedDict.Within (groupLimit cfg.rollupMaxGroups)
      (groupKeys (normalizePrefix path) depth input.reader.flatten).card :=
    within_groupLimit
      ((Finset.card_le_card Finset.subset_union_left).trans within)
  obtain ⟨⟨scanned, total, reported⟩, scans⟩ :
      ∃ result, scan arrow backend cfg (normalizePrefix path) depth
        input.reader = .ok result :=
    scan_ok documented threads limit
  obtain ⟨adds, _, _⟩ := scan_eq_ok documented scans
  have seeds : (seedEntries input.childDirs).map Prod.fst =
      input.childDirs := by
    simp [seedEntries, Function.comp_def]
  have nothing : (OrderedDict.empty : Groups).keys.toFinset = ∅ := rfl
  have room : OrderedDict.Within (some cfg.rollupMaxGroups)
      (scanned.keys.toFinset ∪
        ((seedEntries input.childDirs).map Prod.fst).toFinset).card := by
    rw [adds.keys, nothing, Finset.empty_union, seeds]
    rintro bound ⟨⟩
    exact within
  obtain ⟨groups, seeded⟩ : ∃ groups,
      input.childDirs.foldlM (seed cfg.rollupMaxGroups) scanned = .ok groups := by
    rw [seedAll_eq]
    exact ⟨_, OrderedDict.foldlM_accumulateWithin _ _ _ room⟩
  refine ⟨(report input (normalizePrefix path) groups total,
    0 :: reported ++ [total]), ?_⟩
  simp only [rollup]
  rw [if_neg (by omega), if_neg (fun refused => refused.2 (root refused.1))]
  exact bind_eq_ok.mpr ⟨_, scans, bind_eq_ok.mpr ⟨_, seeded, rfl⟩⟩

end Rollup

end RollupService

theorem get?_eq_of_adds {pathPrefix : Text} {depth : Nat} {rows : List FileRow}
    {first second : Groups} (adds : Adds pathPrefix depth rows .empty first)
    (adds' : Adds pathPrefix depth rows .empty second) (key : Text) :
    first.get? key = second.get? key :=
  (adds key).trans (adds' key).symm

theorem rowByRow_adds (pathPrefix : Text) (depth : Nat) (rows : List FileRow) :
    Adds pathPrefix depth rows .empty (rowByRow pathPrefix depth rows) := by
  intro key
  rw [amount_rowByRow, OrderedDict.amount_empty, zero_add]

/-- Both aggregations return the row-by-row groups and the number of rows, and
so do the rows and the totals that a rollup reports. -/
theorem rollup_exact {arrow : Arrow} (documented : arrow.Documented)
    (pathPrefix : Text) (depth : Nat) (rows : List FileRow)
    (cfg : RollupConfig) (threads : cfg.rollupThreads ≠ 0)
    (within : OrderedDict.Within (groupLimit cfg.rollupMaxGroups)
      (groupKeys pathPrefix depth rows).card) :
    CountsEachRow pathPrefix depth rows (rowByRow pathPrefix depth rows) ∧
    (∀ completion call batches batches', batches.flatten = rows →
      batches'.flatten = rows →
      ∃ groups total reported aggregation,
        rollupGroups arrow completion
            ⟨pathPrefix, depth, cfg.rollupThreads, cfg.rollupMaxGroups⟩
            batches = .ok (groups, total, reported) ∧
          aggregateReader arrow call batches' pathPrefix depth .empty
            cfg.rollupMaxGroups = .ok aggregation ∧
          (∀ key, groups.get? key = (rowByRow pathPrefix depth rows).get? key) ∧
          (∀ key, aggregation.groups.get? key = groups.get? key) ∧
          total = rows.length ∧ aggregation.rows = total) ∧
    (∀ path backend deepSize now input shared,
      normalizePrefix path = pathPrefix →
      RollupService.Permitted cfg path depth →
      input.reader.flatten = rows →
      (groupKeys pathPrefix depth rows ∪ input.childDirs.toFinset).card ≤
        cfg.rollupMaxGroups →
      ∃ result, (RollupService.compute arrow backend cfg deepSize now path depth
          input shared).1 = .ok result ∧
        result.rowsScanned = rows.length ∧
        result.totals.fileCount = rows.length ∧
        result.totals = RollupService.totals (rowStats rows)) := by
  refine ⟨countsEachRow_of_adds (rowByRow_adds pathPrefix depth rows), ?_, ?_⟩
  · rintro completion call batches batches' rfl same
    obtain ⟨⟨groups, total, reported⟩, pipelined⟩ :
        ∃ result, rollupGroups arrow completion
          ⟨pathPrefix, depth, cfg.rollupThreads, cfg.rollupMaxGroups⟩ batches =
            .ok result :=
      rollupGroups_ok documented threads within
    have nothing : (OrderedDict.empty : Groups).keys.toFinset = ∅ := rfl
    obtain ⟨aggregation, sequential, counts⟩ :=
      aggregateReader_ok documented call batches' .empty (by
        rw [nothing, Finset.empty_union, same]
        exact within)
    obtain ⟨adds, counted, _⟩ := rollupGroups_eq_ok documented pipelined
    rw [same] at counts
    refine ⟨groups, total, reported, aggregation, pipelined, sequential,
      get?_eq_of_adds adds (rowByRow_adds _ _ _),
      get?_eq_of_adds counts.adds adds, counted, ?_⟩
    rw [counts.rows, counted]
    exact Nat.zero_add _
  · rintro path backend deepSize now input shared rfl permitted rfl room
    obtain ⟨⟨result, reported⟩, rolled⟩ :
        ∃ result, RollupService.rollup arrow backend cfg path depth input =
          .ok result :=
      RollupService.rollup_ok documented permitted threads room
    obtain ⟨_, groups, _, finished⟩ :=
      RollupService.rollup_eq_ok documented rolled
    refine ⟨result, ?_, finished.rowsScanned, ?_, ?_⟩
    · simp only [RollupService.compute, rolled]
    · rw [finished.totals, finished.fold_eq]
      rfl
    · rw [finished.totals, finished.fold_eq]

/-- Kernels that list the groups in the order of their last rows. -/
def plainArrow : Arrow where
  dictionaryEncode column := (column.dedup, column.map column.dedup.idxOf)
  aggregate _ rows := (rows.map (·.key)).dedup.map fun key =>
    .ofRows key (rows.filter (·.key = key))

theorem plainArrow_documented : plainArrow.Documented where
  encode column := by
    simp only [plainArrow, List.map_map]
    refine List.map_congr_left fun value member => ?_
    exact List.getElem?_idxOf (List.mem_dedup.mpr member)
  aggregate _ _ := .refl _

/-- One future at a time, the latest one first. -/
def latestFirst : Completion where
  wait _ pending := (pending.reverse.take 1, pending.dropLast)
  perm _ pending := by
    rcases List.eq_nil_or_concat pending with rfl | ⟨rest, last, rfl⟩
    · exact .nil
    · simpa using (List.perm_append_singleton last rest).symm
  progress _ pending nonempty := by
    simpa using nonempty

def sampleRows : List FileRow :=
  [⟨"/data/a/".toList, some 5, none, some 20, none⟩,
    ⟨"/data/".toList, none, some 1, none, none⟩,
    ⟨"/data/a/b/".toList, some 7, some 2, some 10, some 3⟩]

def sampleConfig : RollupConfig where
  rollupThreads := 1
  rollupMaxGroups := 2
  rollupMaxDepth := 8
  allowRoot := false

def sampleInput : RollupInput where
  epoch := some "big_catalog_2026-08-12_19_01_25_UTC"
  computedAt := "2026-08-12T19:05:00+00:00".toList
  elapsedS := 1
  reader := [sampleRows.take 2, sampleRows.drop 2]
  childDirs := ["a".toList]

theorem sampleRows_exact :
    (∃ groups reported,
      rollupGroups plainArrow latestFirst ⟨"/data/".toList, 1, 1, 2⟩
          [sampleRows.take 1, [], sampleRows.drop 1] =
        .ok (groups, 3, reported) ∧
      groups.get? "a".toList = some ⟨2, 12, 2, some 20, some 3⟩ ∧
      groups.get? ".".toList = some ⟨1, 0, 1, none, none⟩) ∧
    ∃ result, (RollupService.compute plainArrow .sequential sampleConfig
        (fun _ => 500) 0 "/data".toList 1 sampleInput (.new 60 1000)).1 =
          .ok result ∧
      result.rowsScanned = 3 ∧ result.totals.fileCount = 3 := by
  obtain ⟨reference, aggregations, computes⟩ := rollup_exact
    plainArrow_documented "/data/".toList 1 sampleRows sampleConfig (by decide)
    (within_groupLimit (by decide))
  obtain ⟨groups, total, reported, _, ran, _, same, _, counted, _⟩ :=
    aggregations latestFirst 0 [sampleRows.take 1, [], sampleRows.drop 1]
      [sampleRows] rfl rfl
  obtain ⟨result, computed, scanned, files, _⟩ :=
    computes "/data".toList .sequential (fun _ => 500) 0 sampleInput
      (.new 60 1000) (by decide) ⟨by decide, by decide, by decide⟩ rfl
      (by decide)
  subst counted
  refine ⟨⟨groups, reported, ran, ?_, ?_⟩, result, computed, scanned, files⟩
  · rw [same, reference]
    decide
  · rw [same, reference]
    decide

end Catwalk
