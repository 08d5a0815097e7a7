import Catwalk.Catalog.Timestamp
import Catwalk.Rollup.Repeatable

/-! What a rollup's response says: each child is the sum of its own rows, the
totals are the sum of all children, and only the smallest children are cut off. -/

namespace Catwalk

/-- The rows counted in a group. -/
def groupRows (pathPrefix : Text) (depth : Nat) (rows : List FileRow) (key : Text) :
    List FileRow :=
  rows.filter fun row => groupKey row.parentPath pathPrefix depth = key

namespace RollupService

theorem Finished.stats {cfg : RollupConfig} {path : Text} {depth : Nat}
    {input : RollupInput} {groups : Groups} {result : RollupResult}
    (finished : Finished cfg path depth input groups result) {key : Text}
    {stats : FolderStats} (found : groups.get? key = some stats) :
    stats = rowStats (groupRows (normalizePrefix path) depth
      input.reader.flatten key) := by
  have amount := finished.amount key
  rw [OrderedDict.amount, found, OrderedDict.tally_eq_sum] at amount
  have seeds : ((seedEntries input.childDirs).filter (·.1 = key)).map Prod.snd =
      List.replicate ((seedEntries input.childDirs).filter (·.1 = key)).length 0 := by
    rw [List.eq_replicate_iff]
    refine ⟨List.length_map _, ?_⟩
    intro stats member
    obtain ⟨entry, isSeed, rfl⟩ := List.mem_map.mp member
    obtain ⟨name, _, rfl⟩ := List.mem_map.mp (List.mem_filter.mp isSeed).1
    rfl
  have rows : ((rowEntries (normalizePrefix path) depth
      input.reader.flatten).filter (·.1 = key)).map Prod.snd =
        (groupRows (normalizePrefix path) depth input.reader.flatten key).map
          FileRow.stats := by
    simp [rowEntries, groupRows, List.filter_map, Function.comp_def]
  split at amount
  case isTrue =>
    rw [List.filter_append, List.map_append, List.sum_append, seeds, rows,
      List.sum_replicate, nsmul_zero, add_zero, sum_stats] at amount
    exact WithZero.coe_inj.mp amount
  case isFalse => cases amount

theorem perm_children (groups : Groups) :
    (children groups).Perm
      (groups.entries.map fun entry => child entry.1 entry.2) :=
  List.mergeSort_perm _ _

/-- What the children and totals of a result say about the rows. -/
structure Reports (pathPrefix : Text) (depth : Nat) (rows : List FileRow)
    (folders : List Text) (result : RollupResult) : Prop where
  nodup : (result.children.map (·.name)).Nodup
  names : ∀ name, name ∈ result.children.map (·.name) ↔
    name ∈ groupKeys pathPrefix depth rows ∨ name ∈ folders
  child : ∀ child ∈ result.children,
    child.fileCount = (groupRows pathPrefix depth rows child.name).length ∧
    child.totalBytes = ((groupRows pathPrefix depth rows child.name).map
      fun row => row.size.getD 0).sum ∧
    child.totalUsed = ((groupRows pathPrefix depth rows child.name).map
      fun row => row.used.getD 0).sum ∧
    child.lastModified = latest ((groupRows pathPrefix depth rows child.name).map
      fun row => nsToIso row.mtime) ∧
    child.lastAccessed = latest ((groupRows pathPrefix depth rows child.name).map
      fun row => nsToIso row.atime)
  sorted : result.children.Pairwise
    fun first second => second.totalBytes ≤ first.totalBytes
  fileCount : result.totals.fileCount = (result.children.map (·.fileCount)).sum
  totalBytes : result.totals.totalBytes = (result.children.map (·.totalBytes)).sum
  totalUsed : result.totals.totalUsed = (result.children.map (·.totalUsed)).sum
  lastModified : result.totals.lastModified =
    latest (result.children.map (·.lastModified))

theorem nsToIso_max {times : List (Option Int)}
    (areShown : ∀ time ∈ times, Shown time) :
    nsToIso times.reduceOption.max? = latest (times.map nsToIso) := by
  rw [← foldr_newest, nsToIso_foldr areShown]

theorem shown_rowStats {rows : List FileRow}
    (times : ∀ row ∈ rows, Shown row.mtime) : Shown (rowStats rows).mtimeNs := by
  rw [rowStats, ← foldr_newest]
  apply Shown.foldr
  simpa using times

theorem latest_perm {first second : List Text} (perm : first.Perm second) :
    latest first = latest second :=
  perm.foldr_eq []

theorem sorted_children (groups : Groups) :
    (children groups).Pairwise
      fun first second => second.totalBytes ≤ first.totalBytes :=
  @StableSort.sorted_sort _ _ _ rank _

theorem Finished.reports {cfg : RollupConfig} {path : Text} {depth : Nat}
    {input : RollupInput} {groups : Groups} {result : RollupResult}
    (finished : Finished cfg path depth input groups result)
    (times : ∀ row ∈ input.reader.flatten, Shown row.mtime ∧ Shown row.atime) :
    Reports (normalizePrefix path) depth input.reader.flatten input.childDirs
      result := by
  have perm := perm_children groups
  have names : (groups.entries.map fun entry => child entry.1 entry.2).map
      (·.name) = groups.keys := by
    rw [List.map_map]
    rfl
  have ofGroup : ∀ entry ∈ groups.entries, entry.2 = rowStats (groupRows
      (normalizePrefix path) depth input.reader.flatten entry.1) :=
    fun entry member => finished.stats (OrderedDict.get?_eq_some_iff.mpr member)
  have inGroup : ∀ key, ∀ row ∈ groupRows (normalizePrefix path) depth
      input.reader.flatten key, Shown row.mtime ∧ Shown row.atime :=
    fun key row member => times row (List.mem_filter.mp member).1
  have sums := FolderStats.sum_eq (groups.entries.map Prod.snd)
  have total : result.totals = RollupService.totals (groups.entries.map Prod.snd).sum := by
    rw [finished.totals, fold_eq_total]
    rfl
  constructor
  case nodup =>
    rw [finished.children, (perm.map _).nodup_iff, names]
    exact groups.nodup
  case names =>
    intro name
    rw [finished.children, (perm.map _).mem_iff, names, ← List.mem_toFinset,
      finished.keys, Finset.mem_union, List.mem_toFinset]
  case child =>
    intro other member
    rw [finished.children, perm.mem_iff] at member
    obtain ⟨entry, stored, rfl⟩ := List.mem_map.mp member
    have shown := inGroup entry.1
    rw [ofGroup entry stored]
    refine ⟨rfl, rfl, rfl, ?_, ?_⟩
    · refine (nsToIso_max ?_).trans (by rw [List.map_map]; rfl)
      simpa using fun row member => (shown row member).1
    · refine (nsToIso_max ?_).trans (by rw [List.map_map]; rfl)
      simpa using fun row member => (shown row member).2
  case sorted =>
    rw [finished.children]
    exact sorted_children groups
  case fileCount =>
    rw [total, finished.children, (perm.map _).sum_eq, RollupService.totals, sums]
    simp [child, Function.comp_def]
  case totalBytes =>
    rw [total, finished.children, (perm.map _).sum_eq, RollupService.totals, sums]
    simp [child, Function.comp_def]
  case totalUsed =>
    rw [total, finished.children, (perm.map _).sum_eq, RollupService.totals, sums]
    simp [child, Function.comp_def]
  case lastModified =>
    rw [total, finished.children, latest_perm (perm.map _), RollupService.totals, sums]
    refine (nsToIso_foldr ?_).trans ?_
    · intro time member
      simp only [List.map_map, List.mem_map, Function.comp_apply] at member
      obtain ⟨entry, stored, rfl⟩ := member
      rw [ofGroup entry stored]
      exact shown_rowStats fun row member => (inGroup entry.1 row member).1
    · simp [child, Function.comp_def]

/-- What an API-sized copy leaves out. -/
structure Cuts (result : RollupResult) (copy : Api.PublicResult) (limit : Nat)
    (omitted : List Child) : Prop where
  children : result.children = copy.result.children ++ omitted
  shown : copy.result.children.length = min limit result.children.length
  smaller : ∀ child ∈ copy.result.children, ∀ other ∈ omitted,
    other.totalBytes ≤ child.totalBytes
  counted : copy.totalChildren = copy.result.children.length + omitted.length
  truncated : copy.childrenTruncated = true ↔ omitted ≠ []
  same : { copy.result with children := result.children } = result

theorem publicResult_cuts {cfg : Api.Config} {result : RollupResult}
    (sorted : result.children.Pairwise
      fun first second => second.totalBytes ≤ first.totalBytes)
    (childLimit : Option Nat) :
    ∃ limit omitted, limit ≤ cfg.rollup.rollupMaxGroups ∧
      Cuts result (Api.publicResult cfg result childLimit) limit omitted := by
  obtain ⟨limit, atMost, copy⟩ : ∃ limit, limit ≤ cfg.rollup.rollupMaxGroups ∧
      Api.publicResult cfg result childLimit =
        { result := { result with children := result.children.take limit }
          totalChildren := result.children.length
          childrenTruncated := limit < result.children.length } :=
    ⟨_, min_le_right _ _, rfl⟩
  rw [copy]
  refine ⟨limit, result.children.drop limit, atMost, ?_⟩
  constructor
  case children => exact (List.take_append_drop ..).symm
  case shown => exact List.length_take
  case smaller =>
    rw [← List.take_append_drop limit result.children, List.pairwise_append] at sorted
    exact sorted.2.2
  case counted =>
    rw [← List.length_append, List.take_append_drop]
  case truncated => simp
  case same => rfl

/-- A finished rollup reports its rows, and every copy of it cuts off only what
is smaller than all it shows. -/
theorem rollup_reports {arrow : Arrow} (documented : arrow.Documented)
    {backend : Backend} (cfg : Api.Config) (path : Text) (depth : Nat)
    (input : RollupInput) (result : RollupResult) (reported : List Nat)
    (times : ∀ row ∈ input.reader.flatten, Shown row.mtime ∧ Shown row.atime)
    (rolled : rollup arrow backend cfg.rollup path depth input =
      .ok (result, reported)) :
    Reports (normalizePrefix path) depth input.reader.flatten input.childDirs
        result ∧
      ∀ childLimit, ∃ limit omitted, limit ≤ cfg.rollup.rollupMaxGroups ∧
        Cuts result (Api.publicResult cfg result childLimit) limit omitted := by
  obtain ⟨_, groups, _, finished⟩ := rollup_eq_ok documented rolled
  have reports := finished.reports times
  exact ⟨reports, fun childLimit => publicResult_cuts reports.sorted childLimit⟩

def sampleApi : Api.Config where
  jobs := ⟨1, 1, 300⟩
  rollup := sampleConfig
  rollupResponseChildren := 1

theorem sampleRows_reports :
    ∃ result reported,
      rollup plainArrow .sequential sampleConfig "/data".toList 1 sampleInput =
          .ok (result, reported) ∧
        Reports (normalizePrefix "/data".toList) 1 sampleInput.reader.flatten
          sampleInput.childDirs result ∧
        ∀ childLimit, ∃ limit omitted, limit ≤ 2 ∧
          Cuts result (Api.publicResult sampleApi result childLimit) limit omitted := by
  obtain ⟨⟨result, reported⟩, rolled⟩ : ∃ answer, rollup plainArrow .sequential
      sampleConfig "/data".toList 1 sampleInput = .ok answer :=
    rollup_ok plainArrow_documented ⟨by decide, by decide, by decide⟩ (by decide)
      (by decide)
  refine ⟨result, reported, rolled, ?_⟩
  refine rollup_reports plainArrow_documented sampleApi "/data".toList 1 sampleInput
    result reported ?_ rolled
  have early : ∀ ns : Int, 0 ≤ ns → ns ≤ 20 → Shown (some ns) := by
    rintro ns low high _ ⟨⟩
    exact inCalendar_of_int64 (by omega) (by omega)
  have missing : Shown none := nofun
  intro row member
  rcases List.mem_cons.mp member with rfl | member
  · exact ⟨early 20 (by decide) (by decide), missing⟩
  rcases List.mem_cons.mp member with rfl | member
  · exact ⟨missing, missing⟩
  cases List.mem_singleton.mp member
  exact ⟨early 10 (by decide) (by decide), early 3 (by decide) (by decide)⟩

end RollupService

end Catwalk
