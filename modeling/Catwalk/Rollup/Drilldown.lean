import Catwalk.Catalog.Tree
import Catwalk.Rollup.Ceiling

/-! Rollups of one catalog tree: from a directory to its children, and from
one depth to the next. -/

namespace Catwalk

/-- The FILE rows of a snapshot, and its DIR rows by `parent_path` and name. -/
structure Tree where
  files : List FileRow
  dirs : List (Directory × Component)
  filed : ∀ row ∈ files, ∃ directory : Directory,
    row.parentPath = directory.path

namespace Tree

/-- `parent_path.startswith(prefix)` -/
def subtree (tree : Tree) (pathPrefix : Text) : List FileRow :=
  tree.files.filter fun row => pathPrefix <+: row.parentPath

/-- `parent_path == path` -/
def childDirs (tree : Tree) (directory : Directory) : Finset Text :=
  ((tree.dirs.filter (·.1 = directory)).map (·.2.text)).toFinset

/-- The answers of the backend: the files come in any order and batches. -/
structure Reads (tree : Tree) (maxGroups : Nat) (directory : Directory)
    (input : RollupInput) : Prop where
  files : input.reader.flatten.Perm (tree.subtree directory.path)
  dirs : ListsChildDirs (tree.childDirs directory) (maxGroups + 1)
    input.childDirs

end Tree

/-- A rollup of the directory ends with these groups and this result. -/
def Rolls (arrow : Arrow) (cfg : RollupConfig) (tree : Tree)
    (directory : Directory) (depth : Nat) (groups : Groups)
    (result : RollupResult) : Prop :=
  ∃ backend input reported,
    tree.Reads cfg.rollupMaxGroups directory input ∧
      RollupService.grouped arrow backend cfg directory.path depth input =
        .ok groups ∧
      RollupService.rollup arrow backend cfg directory.path depth input =
        .ok (result, reported)

/-- The additions of the files and of the child directories. -/
noncomputable def Tree.entries (tree : Tree) (directory : Directory)
    (depth : Nat) : List (Text × FolderStats) :=
  rowEntries directory.path depth (tree.subtree directory.path) ++
    RollupService.seedEntries (tree.childDirs directory).toList

/-- The first components of a group key. -/
def truncateKey (depth : Nat) (key : Text) : Text :=
  ['/'].intercalate ((key.splitOn '/').take depth)

/-- Merge the groups whose keys agree on their first components. -/
def coarsen (depth : Nat) (groups : Groups) : Groups :=
  (groups.entries.map fun entry => (truncateKey depth entry.1, entry.2)).foldl
    .accumulate .empty

theorem amount_coarsen (depth : Nat) (groups : Groups) (key : Text) :
    (coarsen depth groups).amount key = OrderedDict.tally
      (groups.entries.map fun entry => (truncateKey depth entry.1, entry.2))
        key := by
  rw [coarsen, OrderedDict.amount_foldl_accumulate, OrderedDict.amount_empty,
    zero_add]

theorem truncateKey_text {depth : Nat} (positive : 1 ≤ depth)
    (component : Component) :
    truncateKey depth component.text = component.text := by
  rw [truncateKey, List.splitOn_eq_singleton component.noSlash,
    List.take_of_length_le positive]
  exact List.append_nil _

theorem truncateKey_groupKey {depth : Nat} (positive : 1 ≤ depth)
    (directory rest : Directory) :
    truncateKey depth
        (groupKey (Directory.path (directory ++ rest)) directory.path
          (depth + 1)) =
      groupKey (Directory.path (directory ++ rest)) directory.path depth := by
  rw [Directory.groupKey_path, Directory.groupKey_path]
  by_cases empty : rest = []
  · rw [if_pos empty, if_pos empty, truncateKey,
      List.splitOn_eq_singleton (by decide), List.take_of_length_le positive]
    rfl
  · rw [if_neg empty, if_neg empty, truncateKey, List.splitOn_intercalate]
    · rw [List.take_take, Nat.min_eq_left (Nat.le_succ depth)]
    · intro text member
      obtain ⟨component, _, rfl⟩ :=
        List.mem_map.mp (List.mem_of_mem_take member)
      exact component.noSlash
    · simpa using empty

namespace Tree

variable {tree : Tree}

theorem mem_childDirs {directory : Directory} {name : Text} :
    name ∈ tree.childDirs directory ↔
      ∃ component, (directory, component) ∈ tree.dirs ∧
        component.text = name := by
  simp [childDirs]

theorem exists_below {directory : Directory} {row : FileRow}
    (member : row ∈ tree.subtree directory.path) :
    ∃ rest, row.parentPath = Directory.path (directory ++ rest) := by
  obtain ⟨stored, isPrefix⟩ := List.mem_filter.mp member
  obtain ⟨whole, same⟩ := tree.filed row stored
  rw [decide_eq_true_iff, same, Directory.isPrefix_path] at isPrefix
  obtain ⟨rest, split⟩ := isPrefix
  exact ⟨rest, by rw [same, split]⟩

/-- The additions at one depth are those at the next, under shorter keys. -/
theorem entries_truncate (tree : Tree) (directory : Directory) {depth : Nat}
    (positive : 1 ≤ depth) :
    (tree.entries directory (depth + 1)).map
        (fun entry => (truncateKey depth entry.1, entry.2)) =
      tree.entries directory depth := by
  rw [entries, entries, List.map_append]
  apply congrArg₂
  · rw [rowEntries, rowEntries, List.map_map]
    apply List.map_congr_left
    intro row member
    obtain ⟨rest, path⟩ := exists_below member
    simp only [Function.comp_apply, path]
    rw [truncateKey_groupKey positive]
  · rw [RollupService.seedEntries, List.map_map]
    apply List.map_congr_left
    intro name member
    obtain ⟨component, _, rfl⟩ :=
      mem_childDirs.mp (Finset.mem_toList.mp member)
    simp only [Function.comp_apply, truncateKey_text positive]

/-- At depth 1, the group of a component has the files of its directory. -/
theorem filter_groupKey (tree : Tree) (directory : Directory)
    (component : Component) :
    (tree.subtree directory.path).filter (fun row =>
        groupKey row.parentPath directory.path 1 = component.text) =
      tree.subtree (Directory.path (directory ++ [component])) := by
  rw [subtree, subtree, List.filter_filter]
  apply List.filter_congr
  intro row stored
  obtain ⟨whole, path⟩ := tree.filed row stored
  rw [path, Bool.eq_iff_iff, Bool.and_eq_true]
  simp only [decide_eq_true_iff, Directory.isPrefix_path]
  constructor
  · rintro ⟨key, rest, rfl⟩
    rw [Directory.groupKey_path] at key
    cases rest with
    | nil => exact absurd key.symm component.notDot
    | cons first others =>
        have same : first = component := by
          cases first
          cases component
          simpa using key
        exact ⟨others, by simp [same]⟩
  · rintro ⟨rest, rfl⟩
    rw [List.append_assoc]
    refine ⟨?_, List.prefix_append _ _⟩
    rw [Directory.groupKey_path, if_neg (by simp)]
    simp

end Tree

section Rolls

variable {arrow : Arrow} (documented : arrow.Documented) {cfg : RollupConfig}
  (limited : 1 ≤ cfg.rollupMaxGroups) {tree : Tree} {directory : Directory}
  {depth : Nat} {groups : Groups} {result : RollupResult}
  (rolls : Rolls arrow cfg tree directory depth groups result)
include documented limited rolls

theorem Rolls.amount (key : Text) :
    groups.amount key =
      OrderedDict.tally (tree.entries directory depth) key := by
  obtain ⟨backend, input, reported, reads, isGrouped, rolled⟩ := rolls
  obtain ⟨_, groups', isGrouped', finished⟩ :=
    RollupService.rollup_eq_ok documented rolled
  rw [Directory.normalizePrefix_path] at isGrouped'
  cases isGrouped.symm.trans isGrouped'
  have names : input.childDirs.toFinset = tree.childDirs directory := by
    apply reads.dirs.all
    have room : groups.size ≤ cfg.rollupMaxGroups :=
      finished.within (by omega)
    rw [← OrderedDict.card_keys, finished.keys] at room
    by_contra many
    have exceeds : cfg.rollupMaxGroups <
        (groupKeys (normalizePrefix directory.path) depth
          input.reader.flatten ∪ input.childDirs.toFinset).card := by
      apply reads.dirs.exceeds.mpr
      apply Nat.lt_of_lt_of_le _ (Finset.card_le_card Finset.subset_union_right)
      omega
    omega
  have listed : input.childDirs.Perm (tree.childDirs directory).toList := by
    apply List.perm_of_nodup_nodup_toFinset_eq reads.dirs.nodup
      (Finset.nodup_toList _)
    rw [names, Finset.toList_toFinset]
  rw [finished.amount, Directory.normalizePrefix_path]
  apply OrderedDict.tally_perm
  exact (reads.files.map _).append (listed.map _)

omit limited in
theorem Rolls.report :
    RollupService.Permitted cfg directory.path depth ∧
      result.children = RollupService.children groups ∧
      result.totals = RollupService.totals groups.total := by
  obtain ⟨backend, input, reported, reads, isGrouped, rolled⟩ := rolls
  obtain ⟨permitted, groups', isGrouped', finished⟩ :=
    RollupService.rollup_eq_ok documented rolled
  rw [Directory.normalizePrefix_path] at isGrouped'
  cases isGrouped.symm.trans isGrouped'
  refine ⟨permitted, finished.children, ?_⟩
  rw [finished.totals, RollupService.fold_eq_total]

theorem Rolls.total :
    groups.total =
      ((tree.subtree directory.path).map FileRow.stats).sum := by
  rw [OrderedDict.total_of_amount (rolls.amount documented limited),
    Tree.entries, List.map_append, List.sum_append]
  simp [rowEntries, RollupService.seedEntries, Function.comp_def]

end Rolls

/-- The group of a child at depth 1 holds the files below it. -/
theorem Tree.tally_child (tree : Tree) (directory : Directory)
    (component : Component) :
    OrderedDict.tally (tree.entries directory 1) component.text =
      if component.text ∈ (tree.entries directory 1).map Prod.fst
      then (((tree.subtree (Directory.path (directory ++ [component]))).map
        FileRow.stats).sum : WithZero FolderStats)
      else 0 := by
  have files : ((rowEntries directory.path 1
      (tree.subtree directory.path)).filter (·.1 = component.text)).map
        Prod.snd =
      (tree.subtree (Directory.path (directory ++ [component]))).map
        FileRow.stats := by
    rw [← tree.filter_groupKey]
    simp [rowEntries, List.filter_map, Function.comp_def]
  rw [OrderedDict.tally_eq_sum]
  congr 2
  rw [Tree.entries, List.filter_append, List.map_append, List.sum_append,
    RollupService.sum_seedEntries, add_zero, files]

theorem Tree.mem_entries {tree : Tree} {directory : Directory}
    {component : Component}
    (isChild : component.text ∈ tree.childDirs directory ∨
      tree.subtree (Directory.path (directory ++ [component])) ≠ []) :
    component.text ∈ (tree.entries directory 1).map Prod.fst := by
  rw [Tree.entries, List.map_append, List.mem_append]
  rcases isChild with listed | stored
  · right
    rw [RollupService.seedEntries, List.map_map]
    exact List.mem_map.mpr ⟨_, Finset.mem_toList.mpr listed, rfl⟩
  · left
    obtain ⟨row, member⟩ := List.exists_mem_of_ne_nil _ stored
    rw [← tree.filter_groupKey] at member
    obtain ⟨below, key⟩ := List.mem_filter.mp member
    rw [rowEntries, List.map_map]
    exact List.mem_map.mpr ⟨row, below, of_decide_eq_true key⟩

/-- The rollups of a directory agree with those of its children, and from one
depth to the next. -/
theorem rollups_coherent {arrow : Arrow} (documented : arrow.Documented)
    (cfg : RollupConfig) (limited : 1 ≤ cfg.rollupMaxGroups) (tree : Tree)
    (directory : Directory) :
    (∀ depth groups result,
      Rolls arrow cfg tree directory depth groups result →
      result.children = RollupService.children groups ∧
        result.totals = RollupService.totals groups.total) ∧
    (∀ component depth groups result groups' result',
      (component.text ∈ tree.childDirs directory ∨
        tree.subtree (Directory.path (directory ++ [component])) ≠ []) →
      Rolls arrow cfg tree directory 1 groups result →
      Rolls arrow cfg tree (directory ++ [component]) depth groups' result' →
      ∃ entry,
        (∀ other, other ∈ result.children ∧ other.name = component.text ↔
          other = entry) ∧
        entry.fileCount = result'.totals.fileCount ∧
        entry.totalBytes = result'.totals.totalBytes ∧
        entry.totalUsed = result'.totals.totalUsed ∧
        entry.lastModified = result'.totals.lastModified) ∧
    (∀ depth groups result groups' result',
      Rolls arrow cfg tree directory depth groups result →
      Rolls arrow cfg tree directory (depth + 1) groups' result' →
      ∀ key, (coarsen depth groups').get? key = groups.get? key) ∧
    ∀ depth depth' groups result groups' result',
      Rolls arrow cfg tree directory depth groups result →
      Rolls arrow cfg tree directory depth' groups' result' →
      result.totals = result'.totals := by
  refine ⟨?_, ?_, ?_, ?_⟩
  · intro depth groups result rolls
    exact (rolls.report documented).2
  · intro component depth groups result groups' result' isChild rolls rolls'
    have stored : groups.get? component.text = some
        ((tree.subtree (Directory.path (directory ++ [component]))).map
          FileRow.stats).sum := by
      have amount := rolls.amount documented limited component.text
      rw [tree.tally_child, if_pos (Tree.mem_entries isChild)] at amount
      exact amount
    obtain ⟨_, children, _⟩ := rolls.report documented
    obtain ⟨_, _, totals⟩ := rolls'.report documented
    rw [← rolls'.total documented limited] at stored
    rw [totals]
    refine ⟨RollupService.child component.text groups'.total, ?_, rfl, rfl, rfl,
      rfl⟩
    intro other
    rw [children, RollupService.mem_children]
    constructor
    · rintro ⟨⟨key, stats, found, rfl⟩, name⟩
      have same : key = component.text := name
      rw [same, stored, Option.some.injEq] at found
      rw [same, found]
    · rintro rfl
      exact ⟨⟨component.text, groups'.total, stored, rfl⟩, rfl⟩
  · intro depth groups result groups' result' rolls rolls' key
    obtain ⟨⟨positive, _⟩, _⟩ := rolls.report documented
    have merged : (coarsen depth groups').amount key = groups.amount key := by
      rw [amount_coarsen, rolls.amount documented limited,
        ← tree.entries_truncate directory positive]
      apply OrderedDict.tally_rename
      intro key
      rw [OrderedDict.tally_entries, rolls'.amount documented limited]
    exact merged
  · intro depth depth' groups result groups' result' rolls rolls'
    obtain ⟨_, _, totals⟩ := rolls.report documented
    obtain ⟨_, _, totals'⟩ := rolls'.report documented
    rw [totals, totals', rolls.total documented limited,
      rolls'.total documented limited]

theorem exists_rolls {arrow : Arrow} (documented : arrow.Documented)
    {cfg : RollupConfig} (threads : cfg.rollupThreads ≠ 0) {tree : Tree}
    {directory : Directory} {depth : Nat} {input : RollupInput}
    (permitted : RollupService.Permitted cfg directory.path depth)
    (reads : tree.Reads cfg.rollupMaxGroups directory input)
    (within : (groupKeys directory.path depth input.reader.flatten ∪
      input.childDirs.toFinset).card ≤ cfg.rollupMaxGroups) :
    ∃ groups result, Rolls arrow cfg tree directory depth groups result := by
  rw [← Directory.normalizePrefix_path] at within
  obtain ⟨⟨result, reported⟩, rolled⟩ :
      ∃ result, RollupService.rollup arrow .sequential cfg directory.path depth
        input = .ok result :=
    RollupService.rollup_ok documented permitted threads within
  obtain ⟨_, groups, isGrouped, _⟩ :=
    RollupService.rollup_eq_ok documented rolled
  rw [Directory.normalizePrefix_path] at isGrouped
  exact ⟨groups, result, .sequential, input, reported, reads, isGrouped, rolled⟩

namespace SampleTree

def data : Component := ⟨"data".toList, by decide, by decide, by decide⟩

def a : Component := ⟨"a".toList, by decide, by decide, by decide⟩

def b : Component := ⟨"b".toList, by decide, by decide, by decide⟩

def tree : Tree where
  files := sampleRows
  dirs := [([], data), ([data], a), ([data], b), ([data, a], b)]
  filed := by
    intro row stored
    simp only [sampleRows, List.mem_cons, List.not_mem_nil, or_false] at stored
    rcases stored with rfl | rfl | rfl
    · exact ⟨[data, a], by decide⟩
    · exact ⟨[data], by decide⟩
    · exact ⟨[data, a, b], by decide⟩

def config : RollupConfig where
  rollupThreads := 1
  rollupMaxGroups := 5
  rollupMaxDepth := 8
  allowRoot := false

def input (directory : Directory) (names : List Text) : RollupInput where
  epoch := none
  computedAt := []
  elapsedS := 1
  reader := [tree.subtree directory.path]
  childDirs := names

theorem reads (directory : Directory) (names : List Text)
    (lists : ListsChildDirs (tree.childDirs directory) 6 names) :
    tree.Reads 5 directory (input directory names) where
  files := by
    rw [input, List.flatten_singleton]
  dirs := lists

/-- Two of the three files are below `/data/a/`, which has 12 of their bytes. -/
theorem rollups_agree :
    ∃ groups result groups' result' fine result'',
      Rolls plainArrow config tree [data] 1 groups result ∧
      Rolls plainArrow config tree [data, a] 3 groups' result' ∧
      Rolls plainArrow config tree [data] 2 fine result'' ∧
      (∃ entry ∈ result.children, entry.name = a.text ∧
        entry.fileCount = 2 ∧ entry.totalBytes = 12) ∧
      (∀ key, (coarsen 1 fine).get? key = groups.get? key) ∧
      result.totals.fileCount = 3 ∧ result.totals.totalUsed = 3 ∧
      result.totals = result''.totals := by
  obtain ⟨_, child, depths, totals⟩ := rollups_coherent plainArrow_documented
    config (by decide) tree [data]
  obtain ⟨groups, result, rolls⟩ : ∃ groups result,
      Rolls plainArrow config tree [data] 1 groups result :=
    exists_rolls plainArrow_documented (by decide)
      ⟨by decide, by decide, by decide⟩
      (reads [data] [a.text, b.text] ⟨by decide, by decide, by decide⟩) (by decide)
  obtain ⟨fine, result'', rolls''⟩ : ∃ groups result,
      Rolls plainArrow config tree [data] 2 groups result :=
    exists_rolls plainArrow_documented (by decide)
      ⟨by decide, by decide, by decide⟩
      (reads [data] [a.text, b.text] ⟨by decide, by decide, by decide⟩) (by decide)
  obtain ⟨groups', result', rolls'⟩ : ∃ groups result,
      Rolls plainArrow config tree [data, a] 3 groups result :=
    exists_rolls plainArrow_documented (by decide)
      ⟨by decide, by decide, by decide⟩
      (reads [data, a] [b.text] ⟨by decide, by decide, by decide⟩) (by decide)
  obtain ⟨entry, only, files, bytes, _⟩ :=
    child a 3 groups result groups' result' (.inl (by decide)) rolls rolls'
  obtain ⟨member, name⟩ := (only entry).mpr rfl
  have summed : ∀ {directory depth groups result},
      Rolls plainArrow config tree directory depth groups result →
        result.totals = RollupService.totals
          ((tree.subtree directory.path).map FileRow.stats).sum := by
    intro directory depth groups result rolls
    rw [(rolls.report plainArrow_documented).2.2,
      rolls.total plainArrow_documented (by decide)]
  rw [summed rolls'] at files bytes
  refine ⟨groups, result, groups', result', fine, result'', rolls, rolls',
    rolls'', ⟨entry, member, name, files, bytes⟩,
    depths 1 groups result fine result'' rolls rolls'', ?_, ?_,
    totals 1 2 groups result fine result'' rolls rolls''⟩
  · rw [summed rolls]
    rfl
  · rw [summed rolls]
    rfl

end SampleTree

end Catwalk
