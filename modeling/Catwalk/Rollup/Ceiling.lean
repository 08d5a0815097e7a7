import Catwalk.Rollup.Compute

/-! The ceiling on the number of groups of a rollup. -/

namespace Catwalk

/-- Every error of the computation is one of `errors`. -/
def RaisesOnly {Error Value : Type} (errors : Error → Prop)
    (source : Except Error Value) : Prop :=
  ∀ error, source = .error error → errors error

section RaisesOnly

variable {Error Value Result : Type} {errors : Error → Prop}

theorem RaisesOnly.ok (value : Value) :
    RaisesOnly errors (.ok value : Except Error Value) := by
  intro error raised
  cases raised

theorem RaisesOnly.bind {source : Except Error Value}
    {continuation : Value → Except Error Result}
    (first : RaisesOnly errors source)
    (later : ∀ value, RaisesOnly errors (continuation value)) :
    RaisesOnly errors (source >>= continuation) := by
  cases source with
  | error error =>
      intro other raised
      apply first other
      cases raised
      rfl
  | ok value => exact later value

theorem RaisesOnly.foldlM {Item : Type}
    {step : Value → Item → Except Error Value}
    (each : ∀ value item, RaisesOnly errors (step value item))
    (items : List Item) (start : Value) :
    RaisesOnly errors (items.foldlM step start) := by
  induction items generalizing start with
  | nil => exact .ok start
  | cons item rest ih =>
      rw [List.foldlM_cons]
      apply RaisesOnly.bind (each start item)
      intro value
      exact ih value

end RaisesOnly

/-- `RollupTooWideError` -/
def RollupError.TooWide : RollupError → Prop
  | .tooWide _ => True
  | _ => False

theorem addGroup_raises (maxGroups : Nat) (groups : Groups) (key : Text)
    (files : Nat) (nbytes used mtimeNs atimeNs : Option Int) :
    RaisesOnly RollupError.TooWide
      (addGroup maxGroups groups key files nbytes used mtimeNs atimeNs) := by
  intro error raised
  unfold addGroup at raised
  split at raised
  · cases raised
    trivial
  · cases raised

theorem aggregateReader_raises (arrow : Arrow) (call : Nat)
    (reader : List (List FileRow)) (pathPrefix : Text) (depth : Nat)
    (groups : Groups) (maxGroups : Nat) :
    RaisesOnly RollupError.TooWide (aggregateReader arrow call reader
      pathPrefix depth groups maxGroups) := by
  apply RaisesOnly.foldlM
  rintro sofar ⟨batch, call⟩
  rw [aggregateBatch]
  split
  · exact .ok sofar
  · apply RaisesOnly.bind
    · apply RaisesOnly.foldlM
      intro groups row
      apply addGroup_raises
    · intro groups
      exact .ok _

theorem mergeGroups_raises (groups partialGroups : Groups) (maxGroups : Nat) :
    RaisesOnly RollupError.TooWide
      (mergeGroups groups partialGroups maxGroups) := by
  apply RaisesOnly.foldlM
  intro groups entry
  apply addGroup_raises

namespace Pipeline

variable (arrow : Arrow) (completion : Completion) (query : RollupQuery)

theorem collectOne_raises (sofar : Groups × Nat) (future : BatchFuture) :
    RaisesOnly RollupError.TooWide (collectOne arrow query sofar future) := by
  apply RaisesOnly.bind
  · apply RaisesOnly.bind
    · apply aggregateReader_raises
    · intro aggregation
      exact .ok _
  · rintro ⟨rows, partialGroups⟩
    apply RaisesOnly.bind
    · apply mergeGroups_raises
    · intro groups
      exact .ok _

theorem waitAndCollect_raises (state : Pipeline) :
    RaisesOnly RollupError.TooWide
      (waitAndCollect arrow completion query state) := by
  apply RaisesOnly.bind
  · apply RaisesOnly.foldlM
    exact collectOne_raises arrow query
  · intro collected
    exact .ok _

theorem feed_raises (state : Pipeline) (numbered : List FileRow × Nat) :
    RaisesOnly RollupError.TooWide
      (feed arrow completion query state numbered) := by
  obtain ⟨batch, call⟩ := numbered
  rw [feed]
  split
  · exact .ok state
  · split
    · apply waitAndCollect_raises
    · exact .ok _

theorem drain_raises (fuel : Nat) (state : Pipeline) :
    RaisesOnly RollupError.TooWide
      (drain arrow completion query fuel state) := by
  induction fuel generalizing state with
  | zero => exact .ok state
  | succ fuel ih =>
      unfold drain
      split
      · exact .ok state
      · apply RaisesOnly.bind
        · apply waitAndCollect_raises
        · intro next
          exact ih next

end Pipeline

theorem rollupGroups_raises (arrow : Arrow) (completion : Completion)
    {query : RollupQuery} (threads : query.threads ≠ 0)
    (reader : List (List FileRow)) :
    RaisesOnly RollupError.TooWide
      (rollupGroups arrow completion query reader) := by
  rw [rollupGroups, if_neg threads]
  apply RaisesOnly.bind
  · apply RaisesOnly.foldlM
    exact Pipeline.feed_raises arrow completion query
  · intro fed
    apply RaisesOnly.bind
    · apply Pipeline.drain_raises
    · intro drained
      exact .ok _

namespace RollupService

variable {arrow : Arrow} {backend : Backend} {cfg : RollupConfig} {path : Text}
  {depth : Nat} {input : RollupInput}

theorem scan_raises (threads : cfg.rollupThreads ≠ 0) (pathPrefix : Text)
    (reader : List (List FileRow)) :
    RaisesOnly RollupError.TooWide
      (scan arrow backend cfg pathPrefix depth reader) := by
  cases backend with
  | pipelined completion => exact rollupGroups_raises arrow completion threads reader
  | sequential =>
      apply RaisesOnly.bind
      · apply aggregateReader_raises
      · intro aggregation
        exact .ok _

theorem seed_raises (maxGroups : Nat) (groups : Groups) (name : Text) :
    RaisesOnly RollupError.TooWide (seed maxGroups groups name) := by
  intro error raised
  unfold seed at raised
  split at raised
  · cases raised
    trivial
  · cases raised

theorem rollup_raises (permitted : Permitted cfg path depth)
    (threads : cfg.rollupThreads ≠ 0) :
    RaisesOnly RollupError.TooWide
      (rollup arrow backend cfg path depth input) := by
  obtain ⟨positive, shallow, root⟩ := permitted
  unfold rollup
  rw [if_neg (by omega), if_neg (fun refused => refused.2 (root refused.1))]
  apply RaisesOnly.bind
  · exact scan_raises threads _ _
  · rintro ⟨scanned, total, reported⟩
    apply RaisesOnly.bind
    · apply RaisesOnly.foldlM
      exact seed_raises cfg.rollupMaxGroups
    · intro groups
      exact .ok _

theorem Finished.keys {groups : Groups} {result : RollupResult}
    (finished : Finished cfg path depth input groups result) :
    groups.keys.toFinset =
      groupKeys (normalizePrefix path) depth input.reader.flatten ∪
        input.childDirs.toFinset := by
  have added : ∀ key, groups.amount key =
      (OrderedDict.empty : Groups).amount key + OrderedDict.tally
        (rowEntries (normalizePrefix path) depth input.reader.flatten ++
          seedEntries input.childDirs) key := by
    intro key
    rw [OrderedDict.amount_empty, zero_add]
    exact finished.amount key
  have seeds : (seedEntries input.childDirs).map Prod.fst =
      input.childDirs := by
    simp [seedEntries, Function.comp_def]
  have nothing : (OrderedDict.empty : Groups).keys.toFinset = ∅ := rfl
  rw [OrderedDict.keys_of_amount added, nothing, Finset.empty_union,
    List.map_append, List.toFinset_append, toFinset_rowEntries, seeds]

theorem sum_seedEntries (names : List Text) (key : Text) :
    (((seedEntries names).filter (·.1 = key)).map Prod.snd).sum = 0 := by
  induction names with
  | nil => rfl
  | cons name rest ih =>
      by_cases same : name = key
      · simpa [seedEntries, same] using ih
      · simpa [seedEntries, same] using ih

theorem Finished.get?_seeded {groups : Groups} {result : RollupResult}
    (finished : Finished cfg path depth input groups result) {key : Text}
    {stats : FolderStats} (stored : groups.get? key = some stats)
    (unread : key ∉
      groupKeys (normalizePrefix path) depth input.reader.flatten) :
    stats = .new := by
  have amount := finished.amount key
  rw [OrderedDict.tally_append, OrderedDict.tally_eq_zero (by
      rw [← List.mem_toFinset, toFinset_rowEntries]
      exact unread), zero_add, OrderedDict.tally_eq_sum] at amount
  rw [sum_seedEntries] at amount
  split at amount
  · exact Option.some.inj (stored.symm.trans amount)
  · have missing : groups.get? key = none := amount
    rw [stored] at missing
    cases missing

theorem mem_children {groups : Groups} {entry : Child} :
    entry ∈ children groups ↔
      ∃ key stats, groups.get? key = some stats ∧ entry = child key stats := by
  rw [children, (List.mergeSort_perm _ _).mem_iff, List.mem_map]
  constructor
  · rintro ⟨⟨key, stats⟩, member, same⟩
    exact ⟨key, stats, OrderedDict.get?_eq_some_iff.mpr member, same.symm⟩
  · rintro ⟨key, stats, stored, same⟩
    exact ⟨(key, stats), OrderedDict.get?_eq_some_iff.mp stored, same.symm⟩

theorem names_children (groups : Groups) :
    ((children groups).map (·.name)).Perm groups.keys := by
  have sorted := (List.mergeSort_perm
    (groups.entries.map fun entry => child entry.1 entry.2)
    fun first second => second.totalBytes ≤ first.totalBytes).map (·.name)
  rw [List.map_map] at sorted
  exact sorted

end RollupService

/-- The answer of `list_child_dirs` for these directories under a limit. -/
structure ListsChildDirs (dirs : Finset Text) (limit : Nat)
    (names : List Text) : Prop where
  nodup : names.Nodup
  known : ∀ name ∈ names, name ∈ dirs
  length : names.length = min limit dirs.card

theorem ListsChildDirs.card_toFinset {dirs : Finset Text} {limit : Nat}
    {names : List Text} (lists : ListsChildDirs dirs limit names) :
    names.toFinset.card = min limit dirs.card := by
  rw [List.toFinset_card_of_nodup lists.nodup, lists.length]

theorem ListsChildDirs.subset {dirs : Finset Text} {limit : Nat}
    {names : List Text} (lists : ListsChildDirs dirs limit names) :
    names.toFinset ⊆ dirs := by
  intro name member
  exact lists.known name (List.mem_toFinset.mp member)

theorem ListsChildDirs.all {dirs : Finset Text} {limit : Nat}
    {names : List Text} (lists : ListsChildDirs dirs limit names)
    (few : dirs.card ≤ limit) : names.toFinset = dirs := by
  apply Finset.eq_of_subset_of_card_le lists.subset
  rw [lists.card_toFinset, Nat.min_eq_right few]

/-- One name more than the ceiling is enough to see that it is exceeded. -/
theorem ListsChildDirs.exceeds {dirs keys : Finset Text} {maxGroups : Nat}
    {names : List Text} (lists : ListsChildDirs dirs (maxGroups + 1) names) :
    maxGroups < (keys ∪ names.toFinset).card ↔
      maxGroups < (keys ∪ dirs).card := by
  by_cases few : dirs.card ≤ maxGroups
  · rw [lists.all (Nat.le_succ_of_le few)]
  · have names_exceed : maxGroups < (keys ∪ names.toFinset).card := by
      apply Nat.lt_of_lt_of_le _ (Finset.card_le_card Finset.subset_union_right)
      rw [lists.card_toFinset]
      omega
    have dirs_exceed : maxGroups < (keys ∪ dirs).card := by
      apply Nat.lt_of_lt_of_le _ (Finset.card_le_card Finset.subset_union_right)
      omega
    exact iff_of_true names_exceed dirs_exceed

namespace RollupService

/-- A rollup is refused exactly when its files and its child directories make
more groups than the ceiling, and otherwise reports each of them once. -/
theorem compute_ceiling {arrow : Arrow} (documented : arrow.Documented)
    (backend : Backend) (cfg : RollupConfig) (threads : cfg.rollupThreads ≠ 0)
    (limited : 1 ≤ cfg.rollupMaxGroups) (deepSize : RollupResult → Nat)
    (now : Int) (path : Text) (depth : Nat)
    (permitted : Permitted cfg path depth) (input : RollupInput)
    (dirs : Finset Text)
    (lists : ListsChildDirs dirs (cfg.rollupMaxGroups + 1) input.childDirs)
    (shared : SharedCache RollupKey RollupResult Unit) :
    let keys := groupKeys (normalizePrefix path) depth input.reader.flatten
    let computed := compute arrow backend cfg deepSize now path depth input
      shared
    ((∃ message, computed.1 = .error (.tooWide message)) ↔
        cfg.rollupMaxGroups < (keys ∪ dirs).card) ∧
      (∀ error, computed.1 = .error error →
        error.TooWide ∧ computed.2 = shared) ∧
      ∀ result, computed.1 = .ok result →
        (result.children.map (·.name)).Nodup ∧
          (result.children.map (·.name)).toFinset = keys ∪ dirs ∧
          ∀ entry ∈ result.children, entry.name ∉ keys →
            entry = child entry.name .new := by
  intro keys computed
  have raises : RaisesOnly RollupError.TooWide
      (rollup arrow backend cfg path depth input) :=
    rollup_raises permitted threads
  cases rolled : rollup arrow backend cfg path depth input with
  | error error =>
      have same : computed = (.error error, shared) := by
        simp only [computed, compute, rolled]
      have wide : error.TooWide := raises error rolled
      have exceeds : cfg.rollupMaxGroups < (keys ∪ dirs).card := by
        by_contra fits
        rw [← lists.exceeds, not_lt] at fits
        have finishes :
            ∃ result, rollup arrow backend cfg path depth input = .ok result :=
          rollup_ok documented permitted threads fits
        obtain ⟨result, finished⟩ := finishes
        rw [rolled] at finished
        cases finished
      rw [same]
      refine ⟨⟨fun _ => exceeds, fun _ => ?_⟩, ?_, ?_⟩
      · cases error with
        | tooWide message => exact ⟨message, rfl⟩
        | valueError message => exact wide.elim
        | permissionError message => exact wide.elim
      · intro other raised
        cases raised
        exact ⟨wide, rfl⟩
      · intro result finished
        cases finished
  | ok value =>
      obtain ⟨result, reported⟩ := value
      have same : computed.1 = .ok result := by
        simp only [computed, compute, rolled]
      obtain ⟨_, groups, _, finished⟩ := rollup_eq_ok documented rolled
      have names := names_children groups
      have fits : ¬ cfg.rollupMaxGroups < (keys ∪ dirs).card := by
        rw [← lists.exceeds, ← finished.keys, OrderedDict.card_keys, not_lt]
        exact finished.within (by omega)
      have few : dirs.card ≤ cfg.rollupMaxGroups := by
        apply Nat.le_trans (Finset.card_le_card Finset.subset_union_right)
        exact Nat.le_of_not_lt fits
      rw [same]
      refine ⟨iff_of_false ?_ fits, ?_, ?_⟩
      · rintro ⟨message, raised⟩
        cases raised
      · intro error raised
        cases raised
      · intro other computedResult
        cases computedResult
        rw [finished.children]
        refine ⟨names.nodup_iff.mpr groups.nodup, ?_, ?_⟩
        · rw [List.toFinset_eq_of_perm _ _ names, finished.keys,
            lists.all (Nat.le_succ_of_le few)]
        · intro entry member unread
          obtain ⟨key, stats, stored, isChild⟩ := mem_children.mp member
          cases isChild
          rw [finished.get?_seeded stored unread]
          rfl

/-- The answers for a directory with four children, of which three are listed. -/
def wideInput : RollupInput where
  epoch := none
  computedAt := []
  elapsedS := 1
  reader := [sampleRows.take 1, sampleRows.drop 1]
  childDirs := ["b".toList, "c".toList, "a".toList]

theorem wideInput_refused :
    ∃ message, (compute plainArrow (.pipelined latestFirst) sampleConfig
      (fun _ => 500) 0 "/data".toList 1 wideInput (.new 60 1000)).1 =
        .error (.tooWide message) := by
  have ceiling := compute_ceiling plainArrow_documented
    (.pipelined latestFirst) sampleConfig (by decide) (by decide)
    (fun _ => 500) 0 "/data".toList 1 ⟨by decide, by decide, by decide⟩
    wideInput {"a".toList, "b".toList, "c".toList, "d".toList}
    ⟨by decide, by decide, by decide⟩ (.new 60 1000)
  apply ceiling.1.mpr
  decide

end RollupService

end Catwalk
