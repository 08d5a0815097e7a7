import Catwalk.Rollup.Aggregate

/-! The pipelined aggregation of `VastBackend.rollup_groups`. -/

namespace Catwalk

/-- A future of the aggregation pool, by the batch it was submitted for. -/
structure BatchFuture where
  call : Nat
  batch : List FileRow

/-- The answers of `wait(pending, return_when=FIRST_COMPLETED)`, call by call:
at least one pending future is done, and the done ones come in any order. -/
structure Completion where
  wait : Nat → List BatchFuture → List BatchFuture × List BatchFuture
  perm : ∀ call pending,
    ((wait call pending).1 ++ (wait call pending).2).Perm pending
  progress : ∀ call pending, pending ≠ [] → (wait call pending).1 ≠ []

/-- The settings and the query of one rollup. -/
structure RollupQuery where
  pathPrefix : Text
  depth : Nat
  threads : Nat
  maxGroups : Nat

/-- The variables of `rollup_groups`; `waits` numbers the calls of `wait`. -/
structure Pipeline where
  pending : List BatchFuture
  groups : Groups
  total : Nat
  fed : Nat
  reported : List Nat
  waits : Nat

namespace Pipeline

/-- `aggregate_batch`, as the future returns it. -/
def batchResult (arrow : Arrow) (query : RollupQuery) (future : BatchFuture) :
    Except RollupError (Nat × Groups) := do
  let aggregation ← aggregateReader arrow future.call [future.batch]
    query.pathPrefix query.depth .empty query.maxGroups
  .ok (aggregation.rows, aggregation.groups)

def collectOne (arrow : Arrow) (query : RollupQuery)
    (sofar : Groups × Nat) (future : BatchFuture) :
    Except RollupError (Groups × Nat) := do
  let (rows, partialGroups) ← batchResult arrow query future
  let groups ← mergeGroups sofar.1 partialGroups query.maxGroups
  .ok (groups, sofar.2 + rows)

/-- `done, pending = wait(pending, …); collect(done)` -/
def waitAndCollect (arrow : Arrow) (completion : Completion)
    (query : RollupQuery) (state : Pipeline) : Except RollupError Pipeline := do
  let (done, pending) := completion.wait state.waits state.pending
  let (groups, total) ←
    done.foldlM (collectOne arrow query) (state.groups, state.total)
  .ok { state with
    pending := pending
    groups := groups
    total := total
    waits := state.waits + 1 }

/-- `pending.add(pool.submit(aggregate_batch, batch))`, counted and reported. -/
def submit (state : Pipeline) (batch : List FileRow) (call : Nat) : Pipeline :=
  { state with
    pending := state.pending ++ [⟨call, batch⟩]
    fed := state.fed + batch.length
    reported := state.reported ++ [state.fed + batch.length] }

/-- One turn of the loop over the reader. -/
def feed (arrow : Arrow) (completion : Completion) (query : RollupQuery)
    (state : Pipeline) (numbered : List FileRow × Nat) :
    Except RollupError Pipeline :=
  let (batch, call) := numbered
  if batch = [] then .ok state
  else if query.threads * 2 ≤ (state.submit batch call).pending.length then
    waitAndCollect arrow completion query (state.submit batch call)
  else .ok (state.submit batch call)

/-- `while pending: …`; every turn takes at least one future. -/
def drain (arrow : Arrow) (completion : Completion) (query : RollupQuery) :
    Nat → Pipeline → Except RollupError Pipeline
  | 0, state => .ok state
  | fuel + 1, state =>
      if state.pending = [] then .ok state else do
        let next ← waitAndCollect arrow completion query state
        drain arrow completion query fuel next

def start : Pipeline where
  pending := []
  groups := .empty
  total := 0
  fed := 0
  reported := []
  waits := 0

end Pipeline

/-- The groups, the number of rows and the counts reported on the way. -/
def rollupGroups (arrow : Arrow) (completion : Completion) (query : RollupQuery)
    (reader : List (List FileRow)) :
    Except RollupError (Groups × Nat × List Nat) :=
  if query.threads = 0 then
    .error (.valueError "max_workers must be greater than 0")
  else do
    let fed ← reader.zipIdx.foldlM (Pipeline.feed arrow completion query) .start
    let drained ←
      Pipeline.drain arrow completion query fed.pending.length fed
    .ok (drained.groups, drained.total, drained.reported)

namespace Pipeline

def rowsOf (futures : List BatchFuture) : List FileRow :=
  futures.flatMap (·.batch)

/-- Every row fed so far is counted or waits in one future. -/
structure Conserves (query : RollupQuery) (rows : List FileRow)
    (state : Pipeline) : Prop where
  amount : ∀ key, state.groups.amount key +
      OrderedDict.tally
        (rowEntries query.pathPrefix query.depth (rowsOf state.pending)) key =
    OrderedDict.tally (rowEntries query.pathPrefix query.depth rows) key
  total : state.total + (rowsOf state.pending).length = rows.length

theorem tally_rowsOf_perm {first second : List BatchFuture}
    (perm : first.Perm second) (pathPrefix : Text) (depth : Nat) (key : Text) :
    OrderedDict.tally (rowEntries pathPrefix depth (rowsOf first)) key =
      OrderedDict.tally (rowEntries pathPrefix depth (rowsOf second)) key :=
  OrderedDict.tally_perm ((perm.flatMap_right _).map _) key

theorem Conserves.keys {query : RollupQuery} {rows : List FileRow}
    {state : Pipeline} (conserves : Conserves query rows state) :
    state.groups.keys.toFinset ∪
        groupKeys query.pathPrefix query.depth (rowsOf state.pending) =
      groupKeys query.pathPrefix query.depth rows := by
  rw [← toFinset_rowEntries, ← toFinset_rowEntries]
  ext key
  rw [Finset.mem_union, List.mem_toFinset, List.mem_toFinset,
    List.mem_toFinset, ← OrderedDict.amount_ne_zero_iff,
    ← OrderedDict.tally_ne_zero_iff, ← OrderedDict.tally_ne_zero_iff,
    ← OrderedDict.add_ne_zero_iff, conserves.amount]

theorem Conserves.submit {query : RollupQuery} {rows : List FileRow}
    {state : Pipeline} (conserves : Conserves query rows state)
    (batch : List FileRow) (call : Nat) :
    Conserves query (rows ++ batch) (state.submit batch call) := by
  have joined : rowsOf (state.submit batch call).pending =
      rowsOf state.pending ++ batch := by
    simp [Pipeline.submit, rowsOf]
  constructor
  · intro key
    rw [joined, rowEntries_append, rowEntries_append, OrderedDict.tally_append,
      OrderedDict.tally_append, ← conserves.amount key, ← add_assoc]
    rfl
  · rw [joined, List.length_append, List.length_append, ← conserves.total,
      ← Nat.add_assoc]
    rfl

section Steps

variable {arrow : Arrow} (documented : arrow.Documented)
  {completion : Completion} {query : RollupQuery}
include documented

theorem batchResult_eq_ok {future : BatchFuture} {rows : Nat} {groups : Groups}
    (result : batchResult arrow query future = .ok (rows, groups)) :
    Adds query.pathPrefix query.depth future.batch .empty groups ∧
      rows = future.batch.length := by
  obtain ⟨aggregation, aggregated, same⟩ := bind_eq_ok.mp result
  cases same
  obtain ⟨counts, _⟩ := aggregateReader_eq_ok documented aggregated
  rw [List.flatten_singleton] at counts
  exact ⟨counts.adds, counts.rows.trans (Nat.zero_add _)⟩

theorem batchResult_ok {future : BatchFuture}
    (within : OrderedDict.Within (groupLimit query.maxGroups)
      (groupKeys query.pathPrefix query.depth future.batch).card) :
    ∃ result, batchResult arrow query future = .ok result := by
  have nothing : (OrderedDict.empty : Groups).keys.toFinset = ∅ := rfl
  rw [← Finset.empty_union (groupKeys _ _ _), ← nothing,
    ← @List.flatten_singleton _ future.batch] at within
  obtain ⟨after, aggregated, _⟩ := aggregateReader_ok documented future.call
    [future.batch] .empty within
  exact ⟨(after.rows, after.groups), bind_eq_ok.mpr ⟨after, aggregated, rfl⟩⟩

/-- What collecting some futures does to the groups and the total. -/
structure Collects (query : RollupQuery) (rows : List FileRow)
    (before after : Groups × Nat) : Prop where
  adds : Adds query.pathPrefix query.depth rows before.1 after.1
  total : after.2 = before.2 + rows.length
  within : OrderedDict.Within (groupLimit query.maxGroups) before.1.size →
    OrderedDict.Within (groupLimit query.maxGroups) after.1.size

omit documented in
theorem Collects.trans {first second : List FileRow}
    {before middle after : Groups × Nat}
    (collects : Collects query first before middle)
    (collects' : Collects query second middle after) :
    Collects query (first ++ second) before after where
  adds := collects.adds.trans collects'.adds
  total := by
    rw [collects'.total, collects.total, List.length_append, Nat.add_assoc]
  within := fun before => collects'.within (collects.within before)

theorem collectOne_eq_ok {sofar after : Groups × Nat} {future : BatchFuture}
    (collected : collectOne arrow query sofar future = .ok after) :
    Collects query future.batch sofar after := by
  obtain ⟨⟨rows, partialGroups⟩, result, merges⟩ := bind_eq_ok.mp collected
  obtain ⟨groups, merged, same⟩ := bind_eq_ok.mp merges
  cases same
  obtain ⟨adds, counted⟩ := batchResult_eq_ok documented result
  obtain ⟨adds, within⟩ := mergeGroups_eq_ok adds merged
  exact ⟨adds, congrArg (sofar.2 + ·) counted, within⟩

theorem collectOne_ok {sofar : Groups × Nat} {future : BatchFuture}
    (within : OrderedDict.Within (groupLimit query.maxGroups)
      (sofar.1.keys.toFinset ∪
        groupKeys query.pathPrefix query.depth future.batch).card) :
    ∃ after, collectOne arrow query sofar future = .ok after := by
  obtain ⟨⟨rows, partialGroups⟩, result⟩ := batchResult_ok documented
    (within.mono (Finset.card_le_card Finset.subset_union_right))
  obtain ⟨groups, merged, _⟩ :=
    mergeGroups_ok (batchResult_eq_ok documented result).1 within
  exact ⟨_, bind_eq_ok.mpr ⟨_, result, bind_eq_ok.mpr ⟨_, merged, rfl⟩⟩⟩

theorem collect_eq_ok {done : List BatchFuture} {sofar after : Groups × Nat}
    (collected : done.foldlM (collectOne arrow query) sofar = .ok after) :
    Collects query (rowsOf done) sofar after := by
  induction done generalizing sofar with
  | nil =>
      cases collected
      exact ⟨.nil _ _ _, rfl, id⟩
  | cons future rest ih =>
      obtain ⟨middle, first, later⟩ := bind_eq_ok.mp collected
      exact (collectOne_eq_ok documented first).trans (ih later)

theorem collect_ok (done : List BatchFuture) (sofar : Groups × Nat)
    (within : OrderedDict.Within (groupLimit query.maxGroups)
      (sofar.1.keys.toFinset ∪
        groupKeys query.pathPrefix query.depth (rowsOf done)).card) :
    ∃ after, done.foldlM (collectOne arrow query) sofar = .ok after := by
  induction done generalizing sofar with
  | nil => exact ⟨_, rfl⟩
  | cons future rest ih =>
      have split : rowsOf (future :: rest) = future.batch ++ rowsOf rest := rfl
      rw [split, groupKeys_append, ← Finset.union_assoc] at within
      obtain ⟨middle, first⟩ := collectOne_ok documented
        (within.mono (Finset.card_le_card Finset.subset_union_left))
      rw [← (collectOne_eq_ok documented first).adds.keys] at within
      obtain ⟨after, later⟩ := ih middle within
      exact ⟨after, bind_eq_ok.mpr ⟨middle, first, later⟩⟩

/-- What a step that loses no row does. -/
structure Keeps (query : RollupQuery) (rows rows' : List FileRow)
    (before after : Pipeline) : Prop where
  conserves : Conserves query rows before → Conserves query rows' after
  within :
    OrderedDict.Within (groupLimit query.maxGroups) before.groups.size →
      OrderedDict.Within (groupLimit query.maxGroups) after.groups.size

theorem waitAndCollect_eq_ok {state next : Pipeline} (rows : List FileRow)
    (waited : waitAndCollect arrow completion query state = .ok next) :
    Keeps query rows rows state next ∧
      (state.pending ≠ [] → next.pending.length < state.pending.length) := by
  have perm := completion.perm state.waits state.pending
  have progress := completion.progress state.waits state.pending
  unfold waitAndCollect at waited
  generalize completion.wait state.waits state.pending = answer at *
  obtain ⟨done, pending⟩ := answer
  obtain ⟨⟨groups, total⟩, collected, same⟩ := bind_eq_ok.mp waited
  cases same
  have collects := collect_eq_ok documented collected
  have split : rowsOf (done ++ pending) = rowsOf done ++ rowsOf pending :=
    List.flatMap_append
  refine ⟨⟨fun conserves => ⟨fun key => ?_, ?_⟩, collects.within⟩, ?_⟩
  · rw [← conserves.amount key, ← tally_rowsOf_perm perm, split,
      rowEntries_append, OrderedDict.tally_append, ← add_assoc]
    exact congrArg (· + _) (collects.adds key)
  · have lengths : (rowsOf (done ++ pending)).length =
        (rowsOf state.pending).length :=
      (perm.flatMap_right BatchFuture.batch).length_eq
    have counted := conserves.total
    have added := collects.total
    rw [split, List.length_append] at lengths
    simp only at added ⊢
    omega
  · intro some_pending
    have lengths := perm.length_eq
    have some_done := List.length_pos_of_ne_nil (progress some_pending)
    rw [List.length_append] at lengths
    simp only at lengths some_done ⊢
    omega

theorem waitAndCollect_ok {state : Pipeline} {rows : List FileRow}
    (conserves : Conserves query rows state)
    (within : OrderedDict.Within (groupLimit query.maxGroups)
      (groupKeys query.pathPrefix query.depth rows).card) :
    ∃ next, waitAndCollect arrow completion query state = .ok next := by
  have perm := completion.perm state.waits state.pending
  have fewer : groupKeys query.pathPrefix query.depth
      (rowsOf (completion.wait state.waits state.pending).1) ⊆
        groupKeys query.pathPrefix query.depth (rowsOf state.pending) := by
    intro key member
    simp only [groupKeys, List.mem_toFinset, List.mem_map, rowsOf,
      List.mem_flatMap] at member ⊢
    obtain ⟨row, ⟨future, done, inBatch⟩, same⟩ := member
    exact ⟨row, ⟨future,
      perm.subset (List.mem_append_left _ done), inBatch⟩, same⟩
  obtain ⟨after, collected⟩ := collect_ok documented
    (completion.wait state.waits state.pending).1 (state.groups, state.total)
    (within.mono (Finset.card_le_card (by
      rw [← conserves.keys]
      exact Finset.union_subset_union_right fewer)))
  exact ⟨_, bind_eq_ok.mpr ⟨after, collected, rfl⟩⟩

theorem feed_eq_ok {state next : Pipeline} {batch : List FileRow} {call : Nat}
    (rows : List FileRow)
    (fed : feed arrow completion query state (batch, call) = .ok next) :
    Keeps query rows (rows ++ batch) state next := by
  rcases eq_or_ne batch ([]) with rfl | differs
  · cases fed
    rw [List.append_nil]
    exact ⟨id, id⟩
  · have submits : Keeps query rows (rows ++ batch) state
        (state.submit batch call) :=
      ⟨fun conserves => conserves.submit batch call, id⟩
    simp only [feed, if_neg differs] at fed
    split at fed
    · obtain ⟨waits, _⟩ :=
        waitAndCollect_eq_ok documented (rows ++ batch) fed
      exact ⟨waits.conserves ∘ submits.conserves,
        waits.within ∘ submits.within⟩
    · cases fed
      exact submits

theorem feed_ok {state : Pipeline} {rows batch : List FileRow} (call : Nat)
    (conserves : Conserves query rows state)
    (within : OrderedDict.Within (groupLimit query.maxGroups)
      (groupKeys query.pathPrefix query.depth (rows ++ batch)).card) :
    ∃ next, feed arrow completion query state (batch, call) = .ok next := by
  rcases eq_or_ne batch ([]) with rfl | differs
  · exact ⟨state, rfl⟩
  · have submitted := conserves.submit batch call
    simp only [feed, if_neg differs]
    split
    · exact waitAndCollect_ok documented submitted within
    · exact ⟨_, rfl⟩

theorem drain_eq_ok {fuel : Nat} {state final : Pipeline} (rows : List FileRow)
    (enough : state.pending.length ≤ fuel)
    (drained : drain arrow completion query fuel state = .ok final) :
    Keeps query rows rows state final ∧ final.pending = [] := by
  induction fuel generalizing state with
  | zero =>
      cases drained
      exact ⟨⟨id, id⟩, List.eq_nil_of_length_eq_zero (Nat.le_zero.mp enough)⟩
  | succ fuel ih =>
      unfold drain at drained
      split at drained
      · next empty =>
          cases drained
          exact ⟨⟨id, id⟩, empty⟩
      · next some_pending =>
          obtain ⟨next, waited, drained⟩ := bind_eq_ok.mp drained
          obtain ⟨keeps, shorter⟩ :=
            waitAndCollect_eq_ok documented rows waited
          have shorter := shorter some_pending
          obtain ⟨keeps', empty⟩ := ih (by omega) drained
          exact ⟨⟨keeps'.conserves ∘ keeps.conserves,
            keeps'.within ∘ keeps.within⟩, empty⟩

theorem drain_ok (fuel : Nat) {state : Pipeline} {rows : List FileRow}
    (conserves : Conserves query rows state)
    (within : OrderedDict.Within (groupLimit query.maxGroups)
      (groupKeys query.pathPrefix query.depth rows).card) :
    ∃ final, drain arrow completion query fuel state = .ok final := by
  induction fuel generalizing state with
  | zero => exact ⟨_, rfl⟩
  | succ fuel ih =>
      unfold drain
      split
      · exact ⟨_, rfl⟩
      · obtain ⟨next, waited⟩ := waitAndCollect_ok documented conserves within
        obtain ⟨keeps, _⟩ := waitAndCollect_eq_ok documented rows waited
        obtain ⟨final, drained⟩ := ih (keeps.conserves conserves)
        exact ⟨final, bind_eq_ok.mpr ⟨next, waited, drained⟩⟩

theorem feedAll_eq_ok {reader : List (List FileRow × Nat)}
    {state fed : Pipeline} (rows : List FileRow)
    (ran : reader.foldlM (feed arrow completion query) state = .ok fed) :
    Keeps query rows (rows ++ (reader.map Prod.fst).flatten) state fed := by
  induction reader generalizing state rows with
  | nil =>
      cases ran
      simp only [List.map_nil, List.flatten_nil, List.append_nil]
      exact ⟨id, id⟩
  | cons numbered rest ih =>
      obtain ⟨batch, call⟩ := numbered
      obtain ⟨middle, first, later⟩ := bind_eq_ok.mp ran
      have keeps := feed_eq_ok documented rows first
      have keeps' := ih (rows ++ batch) later
      rw [List.append_assoc] at keeps'
      exact ⟨keeps'.conserves ∘ keeps.conserves, keeps'.within ∘ keeps.within⟩

theorem feedAll_ok (reader : List (List FileRow × Nat)) {state : Pipeline}
    {rows : List FileRow} (conserves : Conserves query rows state)
    (within : OrderedDict.Within (groupLimit query.maxGroups)
      (groupKeys query.pathPrefix query.depth
        (rows ++ (reader.map Prod.fst).flatten)).card) :
    ∃ fed, reader.foldlM (feed arrow completion query) state = .ok fed := by
  induction reader generalizing state rows with
  | nil => exact ⟨_, rfl⟩
  | cons numbered rest ih =>
      obtain ⟨batch, call⟩ := numbered
      rw [List.map_cons, List.flatten_cons, ← List.append_assoc] at within
      obtain ⟨middle, first⟩ := feed_ok documented call conserves (by
        rw [groupKeys_append] at within
        exact within.mono (Finset.card_le_card Finset.subset_union_left))
      have keeps := feed_eq_ok documented rows first
      obtain ⟨fed, later⟩ := ih (keeps.conserves conserves) within
      exact ⟨fed, bind_eq_ok.mpr ⟨middle, first, later⟩⟩

end Steps

theorem conserves_start (query : RollupQuery) :
    Conserves query [] .start :=
  ⟨fun _ => rfl, rfl⟩

end Pipeline

section Result

variable {arrow : Arrow} (documented : arrow.Documented)
  {completion : Completion} {query : RollupQuery}
  {reader : List (List FileRow)}
include documented

theorem rollupGroups_eq_ok {groups : Groups} {total : Nat}
    {reported : List Nat}
    (ran : rollupGroups arrow completion query reader =
      .ok (groups, total, reported)) :
    Adds query.pathPrefix query.depth reader.flatten .empty groups ∧
      total = reader.flatten.length ∧
      OrderedDict.Within (groupLimit query.maxGroups) groups.size := by
  unfold rollupGroups at ran
  split at ran
  · cases ran
  · obtain ⟨fed, feeds, drains⟩ := bind_eq_ok.mp ran
    obtain ⟨drained, drains, same⟩ := bind_eq_ok.mp drains
    have fills := Pipeline.feedAll_eq_ok documented [] feeds
    rw [List.nil_append, List.zipIdx_map_fst] at fills
    obtain ⟨empties, empty⟩ :=
      Pipeline.drain_eq_ok documented reader.flatten le_rfl drains
    have conserves :=
      empties.conserves (fills.conserves (Pipeline.conserves_start query))
    have within : OrderedDict.Within (groupLimit query.maxGroups)
        drained.groups.size :=
      empties.within (fills.within fun _ _ => Nat.zero_le _)
    cases same
    refine ⟨fun key => ?_, ?_, within⟩
    · rw [← conserves.amount key, empty, OrderedDict.amount_empty, zero_add]
      exact (add_zero _).symm
    · rw [← conserves.total, empty]
      rfl

theorem rollupGroups_ok (threads : query.threads ≠ 0)
    (within : OrderedDict.Within (groupLimit query.maxGroups)
      (groupKeys query.pathPrefix query.depth reader.flatten).card) :
    ∃ result, rollupGroups arrow completion query reader = .ok result := by
  have batches : reader.zipIdx.map Prod.fst = reader := List.zipIdx_map_fst ..
  obtain ⟨fed, feeds⟩ : ∃ fed,
      reader.zipIdx.foldlM (Pipeline.feed arrow completion query) .start =
        .ok fed := by
    refine Pipeline.feedAll_ok documented reader.zipIdx
      (Pipeline.conserves_start query) ?_
    rw [batches]
    exact within
  have fills := Pipeline.feedAll_eq_ok documented [] feeds
  rw [batches] at fills
  obtain ⟨drained, drains⟩ : ∃ drained,
      Pipeline.drain arrow completion query fed.pending.length fed =
        .ok drained :=
    Pipeline.drain_ok documented _
      (fills.conserves (Pipeline.conserves_start query)) within
  refine ⟨(drained.groups, drained.total, drained.reported), ?_⟩
  unfold rollupGroups
  rw [if_neg threads]
  exact bind_eq_ok.mpr ⟨fed, feeds, bind_eq_ok.mpr ⟨drained, drains, rfl⟩⟩

end Result

end Catwalk
