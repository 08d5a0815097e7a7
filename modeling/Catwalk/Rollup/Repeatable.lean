import Catwalk.Api.Rollup
import Catwalk.Data.StableSort
import Catwalk.Rollup.Ceiling

/-! Rollups of one snapshot: what their children list depends on. -/

namespace Catwalk

/-! The first group of a rollup stays the first one. -/

def Starts (key : Text) (groups : Groups) : Prop :=
  groups.keys.head? = some key

theorem foldlM_keeps {Error State Item : Type}
    {step : State → Item → Except Error State} (Holds : State → Prop)
    (each : ∀ state item after, Holds state → step state item = .ok after →
      Holds after)
    {items : List Item} {start final : State} (holds : Holds start)
    (ran : items.foldlM step start = .ok final) : Holds final := by
  induction items generalizing start with
  | nil =>
      cases ran
      exact holds
  | cons item rest ih =>
      rw [List.foldlM_cons] at ran
      obtain ⟨next, stepped, ran⟩ := bind_eq_ok.mp ran
      exact ih (each start item next holds stepped) ran

theorem Starts.set {key other : Text} {groups : Groups}
    (starts : Starts key groups) (stats : FolderStats) :
    Starts key (groups.set other stats) := by
  rw [Starts, OrderedDict.keys_set]
  split
  · exact starts
  · rw [List.head?_append, starts]
    rfl

theorem Starts.addGroup {key other : Text} {groups after : Groups}
    {maxGroups files : Nat} {nbytes used mtimeNs atimeNs : Option Int}
    (starts : Starts key groups)
    (added : Catwalk.addGroup maxGroups groups other files nbytes used mtimeNs
      atimeNs = .ok after) : Starts key after := by
  unfold Catwalk.addGroup at added
  split at added
  · cases added
  · cases added
    exact starts.set _

theorem Starts.aggregateBatch {arrow : Arrow} {pathPrefix key : Text}
    {depth maxGroups : Nat} {sofar after : Aggregation}
    {numbered : List FileRow × Nat} (starts : Starts key sofar.groups)
    (aggregated : Catwalk.aggregateBatch arrow pathPrefix depth maxGroups sofar
      numbered = .ok after) : Starts key after.groups := by
  obtain ⟨batch, call⟩ := numbered
  rw [Catwalk.aggregateBatch] at aggregated
  by_cases empty : batch = []
  · rw [if_pos empty] at aggregated
    cases aggregated
    exact starts
  · rw [if_neg empty] at aggregated
    obtain ⟨groups, folded, same⟩ := bind_eq_ok.mp aggregated
    cases same
    refine foldlM_keeps (Starts key) ?_ starts folded
    intro groups row after starts added
    exact starts.addGroup added

theorem Starts.mergeGroups {key : Text} {groups partialGroups after : Groups}
    {maxGroups : Nat} (starts : Starts key groups)
    (merged : Catwalk.mergeGroups groups partialGroups maxGroups = .ok after) :
    Starts key after := by
  refine foldlM_keeps (Starts key) ?_ starts merged
  intro groups entry after starts added
  exact starts.addGroup added

/-- A group that is alone is the first one. -/
theorem starts_of_keys {key : Text} {groups : Groups}
    (keys : groups.keys.toFinset = {key}) : Starts key groups := by
  have perm : groups.keys.Perm [key] := by
    apply (List.perm_ext_iff_of_nodup groups.nodup (List.nodup_singleton _)).mpr
    intro other
    rw [← OrderedDict.keys, ← List.mem_toFinset, keys]
    simp
  rw [Starts, List.perm_singleton.mp perm]
  rfl

/-- Futures come back in the order of their submission, one at a time. -/
def oldestFirst : Completion where
  wait _ pending := (pending.take 1, pending.drop 1)
  perm _ pending := by rw [List.take_append_drop]
  progress _ pending nonempty := by
    simpa using nonempty

namespace Pipeline

variable {arrow : Arrow} {query : RollupQuery} {key : Text}

theorem starts_collectOne {sofar after : Groups × Nat} {future : BatchFuture}
    (starts : Starts key sofar.1)
    (collected : collectOne arrow query sofar future = .ok after) :
    Starts key after.1 := by
  obtain ⟨⟨rows, partialGroups⟩, _, collected⟩ := bind_eq_ok.mp collected
  obtain ⟨groups, merged, same⟩ := bind_eq_ok.mp collected
  cases same
  exact starts.mergeGroups merged

theorem starts_waitAndCollect {completion : Completion} {state next : Pipeline}
    (starts : Starts key state.groups)
    (waited : waitAndCollect arrow completion query state = .ok next) :
    Starts key next.groups := by
  obtain ⟨⟨groups, total⟩, collected, same⟩ := bind_eq_ok.mp waited
  cases same
  have kept := foldlM_keeps (fun sofar : Groups × Nat => Starts key sofar.1)
    (fun sofar future after starts collected =>
      starts_collectOne starts collected) starts collected
  exact kept

theorem starts_drain {completion : Completion} {fuel : Nat}
    {state final : Pipeline} (starts : Starts key state.groups)
    (drained : drain arrow completion query fuel state = .ok final) :
    Starts key final.groups := by
  induction fuel generalizing state with
  | zero =>
      cases drained
      exact starts
  | succ fuel ih =>
      unfold drain at drained
      split at drained
      · cases drained
        exact starts
      · obtain ⟨next, waited, drained⟩ := bind_eq_ok.mp drained
        exact ih (starts_waitAndCollect starts waited) drained

/-- The first batch submitted is the first one collected. -/
theorem starts_oldestFirst (documented : arrow.Documented) {state next : Pipeline}
    {call : Nat} {row : FileRow} {others : List BatchFuture}
    (pending : state.pending = ⟨call, [row]⟩ :: others)
    (empty : state.groups = .empty)
    (waited : waitAndCollect arrow oldestFirst query state = .ok next) :
    Starts (groupKey row.parentPath query.pathPrefix query.depth)
      next.groups := by
  obtain ⟨⟨groups, total⟩, collected, same⟩ := bind_eq_ok.mp waited
  cases same
  have done : (oldestFirst.wait state.waits state.pending).1 =
      [⟨call, [row]⟩] := by
    rw [pending]
    rfl
  rw [done] at collected
  have keys := (collect_eq_ok documented collected).adds.keys
  rw [empty] at keys
  apply starts_of_keys
  rw [keys]
  rfl

theorem starts_rollupGroups (documented : arrow.Documented)
    (threads : query.threads ≠ 0) {row : FileRow} {rest : List FileRow}
    (more : rest ≠ []) {groups : Groups} {total : Nat} {reported : List Nat}
    (ran : rollupGroups arrow oldestFirst query [[row], rest] =
      .ok (groups, total, reported)) :
    Starts (groupKey row.parentPath query.pathPrefix query.depth) groups := by
  rw [rollupGroups, if_neg threads] at ran
  obtain ⟨fed, feeds, ran⟩ := bind_eq_ok.mp ran
  obtain ⟨drained, drains, same⟩ := bind_eq_ok.mp ran
  cases same
  obtain ⟨first, firstFed, feeds⟩ := bind_eq_ok.mp feeds
  obtain ⟨second, secondFed, feeds⟩ := bind_eq_ok.mp feeds
  cases feeds
  have room : ¬ query.threads * 2 ≤ 1 := by omega
  have submitted : first = Pipeline.start.submit [row] 0 := by
    have fed : feed arrow oldestFirst query .start ([row], 0) =
        .ok (Pipeline.start.submit [row] 0) := by
      rw [feed, if_neg (List.cons_ne_nil _ _)]
      exact if_neg room
    have same := firstFed.symm.trans fed
    cases same
    rfl
  have pending : (first.submit rest 1).pending = [⟨0, [row]⟩, ⟨1, rest⟩] := by
    rw [submitted]
    rfl
  have empty : (first.submit rest 1).groups = .empty := by
    rw [submitted]
    rfl
  have secondFed : feed arrow oldestFirst query first (rest, 1) =
      .ok fed := secondFed
  rw [feed, if_neg more] at secondFed
  split at secondFed
  · exact starts_drain (starts_oldestFirst documented pending empty secondFed)
      drains
  · cases secondFed
    rw [pending] at drains
    have drains : drain arrow oldestFirst query (1 + 1)
        (first.submit rest 1) = .ok drained := drains
    rw [drain, pending, if_neg (List.cons_ne_nil _ _)] at drains
    obtain ⟨next, waited, drains⟩ := bind_eq_ok.mp drains
    exact starts_drain (starts_oldestFirst documented pending empty waited)
      drains

end Pipeline

/-- A backend with or without `rollup_groups`, for one order of completion. -/
def Backend.of (hasRollupGroups : Bool) (completion : Completion) : Backend :=
  if hasRollupGroups then .pipelined completion else .sequential

namespace RollupService

theorem starts_scan {arrow : Arrow} (documented : arrow.Documented)
    {cfg : RollupConfig} (threads : cfg.rollupThreads ≠ 0)
    (hasRollupGroups : Bool) {pathPrefix : Text} {depth : Nat} {row : FileRow}
    {rest : List FileRow} (more : rest ≠ []) {groups : Groups} {total : Nat}
    {reported : List Nat}
    (scanned : scan arrow (.of hasRollupGroups oldestFirst) cfg pathPrefix depth
      [[row], rest] = .ok (groups, total, reported)) :
    Starts (groupKey row.parentPath pathPrefix depth) groups := by
  cases hasRollupGroups with
  | true => exact Pipeline.starts_rollupGroups documented threads more scanned
  | false =>
      obtain ⟨aggregation, aggregated, same⟩ := bind_eq_ok.mp scanned
      cases same
      obtain ⟨first, firstBatch, aggregated⟩ := bind_eq_ok.mp aggregated
      obtain ⟨second, secondBatch, aggregated⟩ := bind_eq_ok.mp aggregated
      cases aggregated
      have keys := (aggregateBatch_eq_ok documented firstBatch).1.adds.keys
      have starts : Starts (groupKey row.parentPath pathPrefix depth)
          first.groups := by
        apply starts_of_keys
        rw [keys]
        rfl
      exact starts.aggregateBatch secondBatch

/-! The groups in their order: those of the rows, then the empty folders. -/

/-- What the rows say about a group; nothing about an empty folder. -/
def statsOf (pathPrefix : Text) (depth : Nat) (rows : List FileRow)
    (key : Text) : FolderStats :=
  if key ∈ groupKeys pathPrefix depth rows then
    rowStats (rows.filter fun row =>
      groupKey row.parentPath pathPrefix depth = key)
  else .new

theorem keys_seedAll {maxGroups : Nat} {names : List Text}
    (nodup : names.Nodup) {scanned groups : Groups}
    (seeded : names.foldlM (seed maxGroups) scanned = .ok groups) :
    groups.keys = scanned.keys ++ names.filter (· ∉ scanned.keys) ∧
      ∀ key ∈ groups.keys, groups.get? key =
        some ((scanned.get? key).getD .new) := by
  induction names generalizing scanned with
  | nil =>
      cases seeded
      refine ⟨(List.append_nil _).symm, ?_⟩
      intro key member
      obtain ⟨stats, found⟩ := OrderedDict.mem_keys_iff.mp member
      rw [found]
      rfl
  | cons name rest ih =>
      obtain ⟨absent, nodup⟩ := List.nodup_cons.mp nodup
      obtain ⟨next, stepped, seeded⟩ := bind_eq_ok.mp seeded
      obtain ⟨keys, stats⟩ := ih nodup seeded
      unfold seed at stepped
      split at stepped
      · cases stepped
      · cases stepped
        by_cases present : name ∈ scanned.keys
        · rw [OrderedDict.setDefault, if_pos present] at keys stats
          refine ⟨?_, stats⟩
          rw [keys, List.filter_cons_of_neg (by simpa using present)]
        · rw [OrderedDict.setDefault, if_neg present] at keys stats
          rw [OrderedDict.keys_set, if_neg present] at keys
          constructor
          · have others : rest.filter (· ∉ scanned.keys ++ [name]) =
                rest.filter (· ∉ scanned.keys) := by
              apply List.filter_congr
              intro other member
              have differ : other ≠ name := by
                rintro rfl
                exact absent member
              simp [differ]
            rw [keys, others, List.filter_cons_of_pos (by simpa using present),
              List.append_assoc]
            rfl
          · intro key member
            rw [stats key member, OrderedDict.get?_set]
            split
            next same =>
              rw [same, OrderedDict.get?_eq_none_iff.mpr present]
              rfl
            next => rfl

/-- The order in which a scan has found the groups of its rows. -/
structure FoundIn (pathPrefix : Text) (depth : Nat) (rows : List FileRow)
    (order : List Text) : Prop where
  nodup : order.Nodup
  keys : order.toFinset = groupKeys pathPrefix depth rows

/-- Larger totals first. -/
def rank (child : Child) : ℤᵒᵈ := OrderDual.toDual child.totalBytes

/-- The children list for an order of the groups and of the folders. -/
def ranked (pathPrefix : Text) (depth : Nat) (rows : List FileRow)
    (order folders : List Text) : List Child :=
  StableSort.sort rank ((order ++ folders.filter (· ∉ groupKeys pathPrefix depth
    rows)).map fun key => child key (statsOf pathPrefix depth rows key))

theorem children_eq_ranked {pathPrefix : Text} {depth maxGroups : Nat}
    {rows : List FileRow} {scanned groups : Groups} {names : List Text}
    (adds : Adds pathPrefix depth rows .empty scanned) (nodup : names.Nodup)
    (seeded : names.foldlM (seed maxGroups) scanned = .ok groups) :
    children groups = ranked pathPrefix depth rows scanned.keys names := by
  obtain ⟨keys, stats⟩ := keys_seedAll nodup seeded
  have counts := countsEachRow_of_adds adds
  have found : ∀ key, key ∈ scanned.keys ↔
      key ∈ groupKeys pathPrefix depth rows := by
    intro key
    have whole := adds.keys
    rw [show (OrderedDict.empty : Groups).keys.toFinset = ∅ from rfl,
      Finset.empty_union] at whole
    rw [← whole, List.mem_toFinset]
  have entries : groups.entries.map (fun entry => child entry.1 entry.2) =
      groups.keys.map fun key =>
        child key (statsOf pathPrefix depth rows key) := by
    rw [OrderedDict.keys, List.map_map]
    apply List.map_congr_left
    intro entry member
    have stored := OrderedDict.get?_eq_some_iff.mpr member
    have key : entry.1 ∈ groups.keys :=
      OrderedDict.mem_keys_iff.mpr ⟨entry.2, stored⟩
    rw [stats entry.1 key, Option.some.injEq, counts] at stored
    have same : statsOf pathPrefix depth rows entry.1 = entry.2 := by
      rw [← stored, statsOf]
      split <;> rfl
    simp only [Function.comp_apply, same]
  have filtered : names.filter (· ∉ scanned.keys) =
      names.filter (· ∉ groupKeys pathPrefix depth rows) := by
    apply List.filter_congr
    intro name _
    simp only [found]
  rw [children, entries, keys, filtered]
  rfl

section Orders

variable {pathPrefix : Text} {depth : Nat} {rows rows' : List FileRow}

theorem groupKeys_perm (perm : rows.Perm rows') :
    groupKeys pathPrefix depth rows = groupKeys pathPrefix depth rows' :=
  List.toFinset_eq_of_perm _ _ (perm.map _)

theorem statsOf_perm (perm : rows.Perm rows') (key : Text) :
    statsOf pathPrefix depth rows key = statsOf pathPrefix depth rows' key := by
  have same := ((perm.filter fun row => decide
    (groupKey row.parentPath pathPrefix depth = key)).map FileRow.stats).sum_eq
  rw [sum_stats, sum_stats] at same
  rw [statsOf, statsOf, groupKeys_perm perm, same]

theorem ranked_perm (perm : rows.Perm rows') (order folders : List Text) :
    ranked pathPrefix depth rows order folders =
      ranked pathPrefix depth rows' order folders := by
  unfold ranked
  simp only [groupKeys_perm perm, statsOf_perm perm]

/-- The bytes of the files of a group. -/
def groupBytes (pathPrefix : Text) (depth : Nat) (rows : List FileRow)
    (key : Text) : Int :=
  ((rows.filter fun row => groupKey row.parentPath pathPrefix depth = key).map
    fun row => row.size.getD 0).sum

theorem bytes_statsOf (key : Text) :
    (statsOf pathPrefix depth rows key).bytes =
      groupBytes pathPrefix depth rows key := by
  unfold statsOf
  split
  next => rfl
  next absent =>
    have none : rows.filter (fun row =>
        groupKey row.parentPath pathPrefix depth = key) = [] := by
      apply List.filter_eq_nil_iff.mpr
      intro row member same
      apply absent
      rw [groupKeys, List.mem_toFinset]
      exact List.mem_map.mpr ⟨row, member, of_decide_eq_true same⟩
    rw [groupBytes, none]
    rfl

theorem groupBytes_of_not_mem {key : Text}
    (absent : key ∉ groupKeys pathPrefix depth rows) :
    groupBytes pathPrefix depth rows key = 0 := by
  rw [← bytes_statsOf, statsOf, if_neg absent]
  rfl

/-- Only the order among groups of equally many bytes shows. -/
theorem ranked_eq_iff {order order' folders folders' : List Text} :
    ranked pathPrefix depth rows order folders =
        ranked pathPrefix depth rows order' folders' ↔
      ∀ bytes : Int,
        (order ++ folders.filter (· ∉ groupKeys pathPrefix depth rows)).filter
            (fun key => groupBytes pathPrefix depth rows key = bytes) =
          (order' ++
            folders'.filter (· ∉ groupKeys pathPrefix depth rows)).filter
            fun key => groupBytes pathPrefix depth rows key = bytes := by
  have injective : Function.Injective fun key =>
      child key (statsOf pathPrefix depth rows key) := by
    intro key other same
    exact congrArg Child.name same
  have tiers : ∀ (keys : List Text) (bytes : Int),
      StableSort.tier rank (OrderDual.toDual bytes)
          (keys.map fun key =>
            child key (statsOf pathPrefix depth rows key)) =
        (keys.filter fun key =>
          groupBytes pathPrefix depth rows key = bytes).map fun key =>
            child key (statsOf pathPrefix depth rows key) := by
    intro keys bytes
    rw [StableSort.tier, List.filter_map]
    apply congrArg
    apply List.filter_congr
    intro key _
    rw [← bytes_statsOf]
    rfl
  unfold ranked
  rw [StableSort.sort_eq_iff]
  constructor
  · intro same bytes
    have same := same (OrderDual.toDual bytes)
    rw [tiers, tiers] at same
    exact List.map_injective_iff.mpr injective same
  · intro same bytes
    have same := congrArg (List.map fun key =>
      child key (statsOf pathPrefix depth rows key))
      (same (OrderDual.ofDual bytes))
    rw [← tiers, ← tiers] at same
    exact same

/-- No two groups with files have equally many bytes. -/
def Untied (pathPrefix : Text) (depth : Nat) (rows : List FileRow) : Prop :=
  ∀ first ∈ groupKeys pathPrefix depth rows,
    ∀ second ∈ groupKeys pathPrefix depth rows,
      groupBytes pathPrefix depth rows first =
        groupBytes pathPrefix depth rows second → first = second

theorem filter_eq_of_unique {names names' : List Text} (nodup : names.Nodup)
    (nodup' : names'.Nodup) (same : names.toFinset = names'.toFinset)
    {test : Text → Bool}
    (unique : ∀ first ∈ names, ∀ second ∈ names, test first = true →
      test second = true → first = second) :
    names.filter test = names'.filter test := by
  have perm : (names.filter test).Perm (names'.filter test) := by
    apply List.Perm.filter
    apply (List.perm_ext_iff_of_nodup nodup nodup').mpr
    intro name
    rw [← List.mem_toFinset, same, List.mem_toFinset]
  apply List.Perm.eq_of_pairwise _ _ _ perm
  · exact fun _ _ => True
  · intro first second member member' _ _
    obtain ⟨member, passes⟩ := List.mem_filter.mp member
    obtain ⟨member', passes'⟩ :=
      List.mem_filter.mp (perm.mem_iff.mpr member')
    exact unique first member second member' passes passes'
  · exact List.pairwise_of_forall fun _ _ => trivial
  · exact List.pairwise_of_forall fun _ _ => trivial

theorem ranked_eq_of_untied (untied : Untied pathPrefix depth rows)
    {order order' folders folders' : List Text}
    (found : FoundIn pathPrefix depth rows order)
    (found' : FoundIn pathPrefix depth rows order')
    (same : folders.filter (· ∉ groupKeys pathPrefix depth rows) =
      folders'.filter (· ∉ groupKeys pathPrefix depth rows)) :
    ranked pathPrefix depth rows order folders =
      ranked pathPrefix depth rows order' folders' := by
  rw [ranked_eq_iff, same]
  intro bytes
  rw [List.filter_append, List.filter_append]
  congr 1
  apply filter_eq_of_unique found.nodup found'.nodup
    (found.keys.trans found'.keys.symm)
  intro first member second member' hasBytes hasBytes'
  rw [← List.mem_toFinset, found.keys] at member member'
  apply untied first member second member'
  rw [of_decide_eq_true hasBytes, of_decide_eq_true hasBytes']

/-- The first of all groups is the first of those with as many bytes. -/
theorem ranked_ne_of_heads {order order' folders folders' : List Text}
    {first second : Text} (head : order.head? = some first)
    (head' : order'.head? = some second)
    (tied : groupBytes pathPrefix depth rows first =
      groupBytes pathPrefix depth rows second) (differ : first ≠ second) :
    ranked pathPrefix depth rows order folders ≠
      ranked pathPrefix depth rows order' folders' := by
  rw [Ne, ranked_eq_iff]
  intro same
  have same := same (groupBytes pathPrefix depth rows first)
  obtain ⟨rest, rfl⟩ := List.head?_eq_some_iff.mp head
  obtain ⟨rest', rfl⟩ := List.head?_eq_some_iff.mp head'
  rw [List.cons_append, List.cons_append,
    List.filter_cons_of_pos (by simp),
    List.filter_cons_of_pos (by simp [tied])] at same
  exact differ (List.cons.inj same).1

end Orders

theorem rollup_children {arrow : Arrow} (documented : arrow.Documented)
    {backend : Backend} {cfg : RollupConfig} {path : Text} {depth : Nat}
    {input : RollupInput} (nodup : input.childDirs.Nodup)
    {result : RollupResult} {reported : List Nat}
    (rolled : rollup arrow backend cfg path depth input =
      .ok (result, reported)) :
    ∃ scanned total counts,
      scan arrow backend cfg (normalizePrefix path) depth input.reader =
          .ok (scanned, total, counts) ∧
        FoundIn (normalizePrefix path) depth input.reader.flatten scanned.keys ∧
        result.children = ranked (normalizePrefix path) depth
          input.reader.flatten scanned.keys input.childDirs := by
  simp only [rollup] at rolled
  split at rolled
  · cases rolled
  split at rolled
  · cases rolled
  obtain ⟨⟨scanned, total, counts⟩, scans, rolled⟩ := bind_eq_ok.mp rolled
  obtain ⟨groups, seeded, same⟩ := bind_eq_ok.mp rolled
  cases same
  obtain ⟨adds, _, _⟩ := scan_eq_ok documented scans
  have keys := adds.keys
  rw [show (OrderedDict.empty : Groups).keys.toFinset = ∅ from rfl,
    Finset.empty_union] at keys
  exact ⟨scanned, total, counts, scans, ⟨scanned.nodup, keys⟩,
    children_eq_ranked adds nodup seeded⟩

/-- The answers of the backend for some FILE rows and child directories. -/
structure Answers (rows : List FileRow) (dirs : Finset Text) (maxGroups : Nat)
    (input : RollupInput) : Prop where
  files : input.reader.flatten.Perm rows
  childDirs : ListsChildDirs dirs (maxGroups + 1) input.childDirs

/-- All that may differ between two rollups of one snapshot. -/
structure Run where
  completion : Completion
  input : RollupInput
  now : Int
  shared : SharedCache RollupKey RollupResult Unit

/-- What `compute` returns in a run. -/
def Run.result (run : Run) (arrow : Arrow) (hasRollupGroups : Bool)
    (cfg : RollupConfig) (deepSize : RollupResult → Nat) (path : Text)
    (depth : Nat) : Option RollupResult :=
  (compute arrow (.of hasRollupGroups run.completion) cfg deepSize run.now path
    depth run.input run.shared).1.toOption

theorem Run.result_eq_some_iff {run : Run} {arrow : Arrow}
    {hasRollupGroups : Bool} {cfg : RollupConfig}
    {deepSize : RollupResult → Nat} {path : Text} {depth : Nat}
    {result : RollupResult} :
    run.result arrow hasRollupGroups cfg deepSize path depth = some result ↔
      ∃ reported, rollup arrow (.of hasRollupGroups run.completion) cfg path
        depth run.input = .ok (result, reported) := by
  unfold Run.result compute
  split
  next error raised => simp [raised, Except.toOption]
  next other reported rolled =>
    simp only [rolled, Except.toOption, Option.some.injEq, Except.ok.injEq,
      Prod.mk.injEq]
    constructor
    · intro same
      exact ⟨reported, same, rfl⟩
    · intro found
      obtain ⟨_, same, _⟩ := found
      exact same

/-- The same children, or both none, and so for every truncation of them. -/
def SameChildren (cfg : Api.Config) (first second : Option RollupResult) :
    Prop :=
  first.map (·.children) = second.map (·.children) ∧
    ∀ childLimit,
      (first.map fun result =>
        (Api.publicResult cfg result childLimit).result.children) =
      second.map fun result =>
        (Api.publicResult cfg result childLimit).result.children

theorem sameChildren_iff {cfg : Api.Config} {first second : RollupResult} :
    SameChildren cfg (some first) (some second) ↔
      first.children = second.children := by
  constructor
  · intro same
    exact Option.some.inj same.1
  · intro same
    refine ⟨congrArg some same, fun childLimit => ?_⟩
    simp only [Option.map_some, Api.publicResult, same]

/-- Any two runs whose answers are related give the same children. -/
def Repeatable (arrow arrow' : Arrow) (hasRollupGroups : Bool)
    (cfg : Api.Config) (deepSize : RollupResult → Nat) (path : Text)
    (depth : Nat) (rows : List FileRow) (dirs : Finset Text)
    (related : RollupInput → RollupInput → Prop) : Prop :=
  ∀ run run' : Run,
    Answers rows dirs cfg.rollup.rollupMaxGroups run.input →
    Answers rows dirs cfg.rollup.rollupMaxGroups run'.input →
    related run.input run'.input →
    SameChildren cfg
      (run.result arrow hasRollupGroups cfg.rollup deepSize path depth)
      (run'.result arrow' hasRollupGroups cfg.rollup deepSize path depth)

/-- `compute` refuses no run with these answers. -/
def Accepts (cfg : RollupConfig) (path : Text) (depth : Nat)
    (rows : List FileRow) (dirs : Finset Text) : Prop :=
  Permitted cfg path depth ∧
    (groupKeys (normalizePrefix path) depth rows ∪ dirs).card ≤
      cfg.rollupMaxGroups

section Runs

variable {arrow : Arrow} (documented : arrow.Documented)
  {hasRollupGroups : Bool} {cfg : RollupConfig}
  {deepSize : RollupResult → Nat} {path : Text} {depth : Nat}
  {rows : List FileRow} {dirs : Finset Text} {run : Run}
  (answers : Answers rows dirs cfg.rollupMaxGroups run.input)
include documented answers

theorem Run.result_of_accepts (threads : cfg.rollupThreads ≠ 0)
    (accepts : Accepts cfg path depth rows dirs) :
    ∃ result, run.result arrow hasRollupGroups cfg deepSize path depth =
      some result := by
  have few : dirs.card ≤ cfg.rollupMaxGroups + 1 := by
    have inside : dirs ⊆ groupKeys (normalizePrefix path) depth rows ∪ dirs :=
      Finset.subset_union_right
    exact Nat.le_succ_of_le ((Finset.card_le_card inside).trans accepts.2)
  have within : (groupKeys (normalizePrefix path) depth
      run.input.reader.flatten ∪ run.input.childDirs.toFinset).card ≤
        cfg.rollupMaxGroups := by
    rw [groupKeys_perm answers.files, answers.childDirs.all few]
    exact accepts.2
  obtain ⟨⟨result, reported⟩, rolled⟩ :
      ∃ result, rollup arrow (.of hasRollupGroups run.completion) cfg path depth
        run.input = .ok result :=
    rollup_ok documented accepts.1 threads within
  exact ⟨result, Run.result_eq_some_iff.mpr ⟨reported, rolled⟩⟩

theorem Run.accepts_of_result (limited : 1 ≤ cfg.rollupMaxGroups)
    {result : RollupResult}
    (returned : run.result arrow hasRollupGroups cfg deepSize path depth =
      some result) : Accepts cfg path depth rows dirs := by
  obtain ⟨reported, rolled⟩ := Run.result_eq_some_iff.mp returned
  obtain ⟨permitted, groups, _, finished⟩ := rollup_eq_ok documented rolled
  refine ⟨permitted, ?_⟩
  by_contra exceeds
  rw [not_le, ← answers.childDirs.exceeds, ← groupKeys_perm answers.files,
    ← finished.keys, OrderedDict.card_keys] at exceeds
  exact absurd (finished.within (by omega)) (not_le.mpr exceeds)

theorem Run.children {result : RollupResult}
    (returned : run.result arrow hasRollupGroups cfg deepSize path depth =
      some result) :
    ∃ scanned total counts,
      scan arrow (.of hasRollupGroups run.completion) cfg (normalizePrefix path)
          depth run.input.reader = .ok (scanned, total, counts) ∧
        FoundIn (normalizePrefix path) depth rows scanned.keys ∧
        result.children = ranked (normalizePrefix path) depth rows scanned.keys
          run.input.childDirs := by
  obtain ⟨reported, rolled⟩ := Run.result_eq_some_iff.mp returned
  obtain ⟨scanned, total, counts, scans, found, children⟩ :=
    rollup_children documented answers.childDirs.nodup rolled
  refine ⟨scanned, total, counts, scans, ⟨found.nodup, ?_⟩, ?_⟩
  · rw [found.keys, groupKeys_perm answers.files]
  · rw [children, ranked_perm answers.files]

end Runs

section Repeatable

variable {arrow arrow' : Arrow} (documented : arrow.Documented)
  (documented' : arrow'.Documented) {hasRollupGroups : Bool} {cfg : Api.Config}
  {deepSize : RollupResult → Nat} {path : Text} {depth : Nat}
  {rows : List FileRow} {dirs : Finset Text}
  {related : RollupInput → RollupInput → Prop}
include documented documented'

theorem repeatable_of_refused (limited : 1 ≤ cfg.rollup.rollupMaxGroups)
    (refused : ¬ Accepts cfg.rollup path depth rows dirs) :
    Repeatable arrow arrow' hasRollupGroups cfg deepSize path depth rows dirs
      related := by
  intro run run' answers answers' _
  have nothing : run.result arrow hasRollupGroups cfg.rollup deepSize path
      depth = none := by
    apply Option.eq_none_iff_forall_ne_some.mpr
    intro result returned
    exact refused (Run.accepts_of_result documented answers limited returned)
  have nothing' : run'.result arrow' hasRollupGroups cfg.rollup deepSize path
      depth = none := by
    apply Option.eq_none_iff_forall_ne_some.mpr
    intro result returned
    exact refused (Run.accepts_of_result documented' answers' limited returned)
  rw [nothing, nothing']
  exact ⟨rfl, fun _ => rfl⟩

theorem repeatable_of_untied (threads : cfg.rollup.rollupThreads ≠ 0)
    (accepts : Accepts cfg.rollup path depth rows dirs)
    (untied : Untied (normalizePrefix path) depth rows)
    (folders : ∀ input input',
      Answers rows dirs cfg.rollup.rollupMaxGroups input →
      Answers rows dirs cfg.rollup.rollupMaxGroups input' →
      related input input' →
      input.childDirs.filter
          (· ∉ groupKeys (normalizePrefix path) depth rows) =
        input'.childDirs.filter
          (· ∉ groupKeys (normalizePrefix path) depth rows)) :
    Repeatable arrow arrow' hasRollupGroups cfg deepSize path depth rows dirs
      related := by
  intro run run' answers answers' isRelated
  obtain ⟨result, returned⟩ :
      ∃ result, run.result arrow hasRollupGroups cfg.rollup deepSize path depth =
        some result := Run.result_of_accepts documented answers threads accepts
  obtain ⟨result', returned'⟩ :
      ∃ result, run'.result arrow' hasRollupGroups cfg.rollup deepSize path
        depth = some result :=
    Run.result_of_accepts documented' answers' threads accepts
  obtain ⟨_, _, _, _, found, children⟩ :=
    Run.children documented answers returned
  obtain ⟨_, _, _, _, found', children'⟩ :=
    Run.children documented' answers' returned'
  rw [returned, returned', sameChildren_iff, children, children']
  exact ranked_eq_of_untied untied found found'
    (folders _ _ answers answers' isRelated)

omit documented documented' in
/-- All files arrive in one batch, but for one that arrives before them. -/
def runFrom (row : FileRow) (rows : List FileRow) (names : List Text) :
    Run where
  completion := oldestFirst
  input := ⟨none, [], 0, [[row], rows.erase row], names⟩
  now := 0
  shared := .new 0 0

omit documented documented' in
theorem answers_runFrom {row : FileRow} (member : row ∈ rows)
    {maxGroups : Nat} {names : List Text}
    (lists : ListsChildDirs dirs (maxGroups + 1) names) :
    Answers rows dirs maxGroups (runFrom row rows names).input := by
  refine ⟨?_, lists⟩
  have perm := List.perm_cons_erase member
  simpa [runFrom] using perm.symm

omit documented documented' in
theorem lists_toList {maxGroups : Nat} (few : dirs.card ≤ maxGroups) :
    ListsChildDirs dirs (maxGroups + 1) dirs.toList := by
  refine ⟨dirs.nodup_toList, fun name member => Finset.mem_toList.mp member, ?_⟩
  rw [Finset.length_toList, Nat.min_eq_right (Nat.le_succ_of_le few)]

theorem not_repeatable_of_tie (threads : cfg.rollup.rollupThreads ≠ 0)
    (accepts : Accepts cfg.rollup path depth rows dirs)
    (relates : ∀ input input' : RollupInput,
      input.childDirs = input'.childDirs → related input input')
    (tied : ¬ Untied (normalizePrefix path) depth rows) :
    ¬ Repeatable arrow arrow' hasRollupGroups cfg deepSize path depth rows dirs
      related := by
  intro repeatable
  simp only [Untied, not_forall] at tied
  obtain ⟨first, isKey, second, isKey', tied, differ⟩ := tied
  rw [groupKeys, List.mem_toFinset] at isKey isKey'
  obtain ⟨row, member, rfl⟩ := List.mem_map.mp isKey
  obtain ⟨row', member', rfl⟩ := List.mem_map.mp isKey'
  have distinct : row ≠ row' := by
    rintro rfl
    exact differ rfl
  have more : rows.erase row ≠ [] := List.ne_nil_of_mem
    ((List.mem_erase_of_ne distinct.symm).mpr member')
  have more' : rows.erase row' ≠ [] := List.ne_nil_of_mem
    ((List.mem_erase_of_ne distinct).mpr member)
  have few : dirs.card ≤ cfg.rollup.rollupMaxGroups :=
    (Finset.card_le_card Finset.subset_union_right).trans accepts.2
  have lists := lists_toList few
  have answers := answers_runFrom member lists
  have answers' := answers_runFrom member' lists
  obtain ⟨result, returned⟩ :
      ∃ result, (runFrom row rows dirs.toList).result arrow hasRollupGroups
        cfg.rollup deepSize path depth = some result :=
    Run.result_of_accepts documented answers threads accepts
  obtain ⟨result', returned'⟩ :
      ∃ result, (runFrom row' rows dirs.toList).result arrow' hasRollupGroups
        cfg.rollup deepSize path depth = some result :=
    Run.result_of_accepts documented' answers' threads accepts
  have same := repeatable _ _ answers answers' (relates _ _ rfl)
  rw [returned, returned', sameChildren_iff] at same
  obtain ⟨_, _, _, scans, _, children⟩ :=
    Run.children documented answers returned
  obtain ⟨_, _, _, scans', _, children'⟩ :=
    Run.children documented' answers' returned'
  rw [children, children'] at same
  exact ranked_ne_of_heads
    (starts_scan documented threads hasRollupGroups more scans)
    (starts_scan documented' threads hasRollupGroups more' scans') tied differ
    same

omit documented documented' in
theorem lists_cons {maxGroups : Nat} (few : dirs.card ≤ maxGroups)
    {name : Text} (member : name ∈ dirs) :
    ListsChildDirs dirs (maxGroups + 1) (name :: (dirs.erase name).toList) := by
  refine ⟨?_, ?_, ?_⟩
  · rw [List.nodup_cons, Finset.mem_toList]
    exact ⟨Finset.notMem_erase _ _, Finset.nodup_toList _⟩
  · intro other listed
    rcases List.mem_cons.mp listed with rfl | later
    · exact member
    · exact Finset.mem_of_mem_erase (Finset.mem_toList.mp later)
  · rw [List.length_cons, Finset.length_toList, Finset.card_erase_add_one member,
      Nat.min_eq_right (Nat.le_succ_of_le few)]

theorem not_repeatable_of_folders (threads : cfg.rollup.rollupThreads ≠ 0)
    (accepts : Accepts cfg.rollup path depth rows dirs)
    (untied : Untied (normalizePrefix path) depth rows)
    (folders : 1 <
      (dirs \ groupKeys (normalizePrefix path) depth rows).card) :
    ¬ Repeatable arrow arrow' hasRollupGroups cfg deepSize path depth rows dirs
      (fun _ _ => True) := by
  intro repeatable
  obtain ⟨first, isFolder, second, isFolder', differ⟩ :=
    Finset.one_lt_card.mp folders
  obtain ⟨member, unread⟩ := Finset.mem_sdiff.mp isFolder
  obtain ⟨member', unread'⟩ := Finset.mem_sdiff.mp isFolder'
  have few : dirs.card ≤ cfg.rollup.rollupMaxGroups :=
    (Finset.card_le_card Finset.subset_union_right).trans accepts.2
  have answers : ∀ name, name ∈ dirs → Answers rows dirs
      cfg.rollup.rollupMaxGroups
      ⟨none, [], 0, [rows], name :: (dirs.erase name).toList⟩ := by
    intro name member
    refine ⟨?_, lists_cons few member⟩
    rw [List.flatten_singleton]
  let run : Text → Run := fun name => ⟨oldestFirst,
    ⟨none, [], 0, [rows], name :: (dirs.erase name).toList⟩, 0, .new 0 0⟩
  obtain ⟨result, returned⟩ :
      ∃ result, (run first).result arrow hasRollupGroups cfg.rollup deepSize
        path depth = some result :=
    Run.result_of_accepts documented (answers first member) threads accepts
  obtain ⟨result', returned'⟩ :
      ∃ result, (run second).result arrow' hasRollupGroups cfg.rollup deepSize
        path depth = some result :=
    Run.result_of_accepts documented' (answers second member') threads accepts
  have same := repeatable (run first) (run second) (answers first member)
    (answers second member') trivial
  rw [returned, returned', sameChildren_iff] at same
  obtain ⟨_, _, _, _, found, children⟩ :=
    Run.children documented (answers first member) returned
  obtain ⟨_, _, _, _, found', children'⟩ :=
    Run.children documented' (answers second member') returned'
  rw [children, children', ranked_eq_iff] at same
  have same := same 0
  have head : ∀ name rest,
      name ∉ groupKeys (normalizePrefix path) depth rows →
      (((name :: rest).filter
          (· ∉ groupKeys (normalizePrefix path) depth rows)).filter fun key =>
        groupBytes (normalizePrefix path) depth rows key = 0).head? =
          some name := by
    intro name rest unread
    rw [List.filter_cons_of_pos (by simpa using unread),
      List.filter_cons_of_pos (by simp [groupBytes_of_not_mem unread])]
    rfl
  rw [List.filter_append, List.filter_append,
    filter_eq_of_unique found.nodup found'.nodup
      (found.keys.trans found'.keys.symm) ?_] at same
  · have same := congrArg List.head? (List.append_cancel_left same)
    rw [head first _ unread, head second _ unread', Option.some.injEq] at same
    exact differ same
  · intro key isKey other isKey' empty empty'
    rw [← List.mem_toFinset, found.keys] at isKey isKey'
    apply untied key isKey other isKey'
    rw [of_decide_eq_true empty, of_decide_eq_true empty']

/-- Two rollups with the same child directories agree, whatever the order of
their rows, exactly when no two groups of files tie; and whatever the order of
the directories too, when in addition at most one of them is empty. -/
theorem repeatable_iff (threads : cfg.rollup.rollupThreads ≠ 0)
    (limited : 1 ≤ cfg.rollup.rollupMaxGroups) :
    (Repeatable arrow arrow' hasRollupGroups cfg deepSize path depth rows dirs
        (fun input input' => input.childDirs = input'.childDirs) ↔
      (Accepts cfg.rollup path depth rows dirs →
        Untied (normalizePrefix path) depth rows)) ∧
    (Repeatable arrow arrow' hasRollupGroups cfg deepSize path depth rows dirs
        (fun _ _ => True) ↔
      (Accepts cfg.rollup path depth rows dirs →
        Untied (normalizePrefix path) depth rows ∧
        (dirs \ groupKeys (normalizePrefix path) depth rows).card ≤ 1)) := by
  by_cases accepts : Accepts cfg.rollup path depth rows dirs
  · simp only [accepts, forall_const]
    by_cases untied : Untied (normalizePrefix path) depth rows
    · simp only [untied, iff_true, true_and]
      constructor
      · apply repeatable_of_untied documented documented' threads accepts untied
        intro input input' _ _ same
        rw [same]
      · constructor
        · intro repeatable
          by_contra many
          exact not_repeatable_of_folders documented documented' threads accepts
            untied (not_le.mp many) repeatable
        · intro few
          apply repeatable_of_untied documented documented' threads accepts
            untied
          intro input input' answers answers' _
          have all : dirs.card ≤ cfg.rollup.rollupMaxGroups :=
            (Finset.card_le_card Finset.subset_union_right).trans accepts.2
          have listed :=
            answers.childDirs.all (Nat.le_succ_of_le all)
          have listed' :=
            answers'.childDirs.all (Nat.le_succ_of_le all)
          apply filter_eq_of_unique answers.childDirs.nodup
            answers'.childDirs.nodup (listed.trans listed'.symm)
          intro first member second member' unread unread'
          rw [← List.mem_toFinset, listed] at member member'
          exact Finset.card_le_one.mp few first
            (Finset.mem_sdiff.mpr ⟨member, of_decide_eq_true unread⟩) second
            (Finset.mem_sdiff.mpr ⟨member', of_decide_eq_true unread'⟩)
    · simp only [untied, iff_false, false_and]
      constructor
      · exact not_repeatable_of_tie documented documented' threads accepts
          (fun _ _ same => same) untied
      · exact not_repeatable_of_tie documented documented' threads accepts
          (fun _ _ _ => trivial) untied
  · simp only [accepts, false_implies, iff_true]
    exact ⟨repeatable_of_refused documented documented' limited accepts,
      repeatable_of_refused documented documented' limited accepts⟩

end Repeatable

/-- Two folders with one file of five bytes each. -/
def tiedRows : List FileRow :=
  [⟨"/data/a/".toList, some 5, none, none, none⟩,
    ⟨"/data/b/".toList, some 5, none, none, none⟩]

def tiedConfig : Api.Config where
  jobs := ⟨2, 16, 300⟩
  rollup := sampleConfig
  rollupResponseChildren := 1

theorem tiedRows_accepted :
    Accepts sampleConfig "/data".toList 1 tiedRows ∅ :=
  ⟨⟨by decide, by decide, by decide⟩, by decide⟩

theorem tiedRows_tied : ¬ Untied (normalizePrefix "/data".toList) 1 tiedRows := by
  intro untied
  have same := untied "a".toList (by decide) "b".toList (by decide) (by decide)
  exact absurd same (by decide)

theorem tiedRows_not_repeatable :
    ¬ Repeatable plainArrow plainArrow true tiedConfig (fun _ => 500)
      "/data".toList 1 tiedRows ∅
      (fun input input' => input.childDirs = input'.childDirs) :=
  not_repeatable_of_tie plainArrow_documented plainArrow_documented (by decide)
    tiedRows_accepted (fun _ _ same => same) tiedRows_tied

theorem tiedRows_repeatable_iff :
    Repeatable plainArrow plainArrow true tiedConfig (fun _ => 500)
        "/data".toList 1 tiedRows ∅
        (fun input input' => input.childDirs = input'.childDirs) ↔
      (Accepts sampleConfig "/data".toList 1 tiedRows ∅ →
        Untied (normalizePrefix "/data".toList) 1 tiedRows) :=
  (repeatable_iff plainArrow_documented plainArrow_documented (by decide)
    (by decide)).1

end RollupService

end Catwalk
