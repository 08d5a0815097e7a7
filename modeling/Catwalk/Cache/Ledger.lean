import Catwalk.Cache.Runs

/-! Every entry that enters a cache leaves it once, and its bytes with it. -/

namespace Catwalk

variable {Key Value : Type}

namespace CacheEvent

/-- A put that returned `True`. -/
def puts : CacheEvent Key Value → Nat
  | stored _ _ _ _ _ _ => 1
  | _ => 0

/-- An entry that a later put of its key has taken out. -/
def replaces : CacheEvent Key Value → Nat
  | stored _ _ _ _ replaced _ | refused _ replaced => replaced.toNat
  | _ => 0

def invalidates : CacheEvent Key Value → Nat
  | invalidated _ removed => removed
  | _ => 0

end CacheEvent

def successfulPuts (history : List (CacheEvent Key Value)) : Nat :=
  (history.map CacheEvent.puts).sum

def replacedEntries (history : List (CacheEvent Key Value)) : Nat :=
  (history.map CacheEvent.replaces).sum

def invalidatedEntries (history : List (CacheEvent Key Value)) : Nat :=
  (history.map CacheEvent.invalidates).sum

namespace TTLCache

/-- The entries in the cache, and those it has counted out. -/
def entered (cache : TTLCache Key Value) : Nat :=
  cache.d.size + cache.expired + cache.evicted

theorem entered_pruneExpired (cache : TTLCache Key Value) (now : Int) :
    (cache.pruneExpired now).entered = cache.entered := by
  have parts := List.length_eq_length_filter_add (l := cache.d.entries)
    fun entry => decide (entry.2.expires ≤ now)
  simp only [entered, pruneExpired, OrderedDict.size, OrderedDict.filter]
  simp only [decide_not] at parts ⊢
  omega

theorem bytes_pruneExpired (cache : TTLCache Key Value) (now : Int) :
    (cache.pruneExpired now).bytes ≤ cache.bytes := by
  simp only [pruneExpired]
  omega

variable [DecidableEq Key]

theorem size_erase {d : OrderedDict Key (CacheEntry Value)} {key : Key}
    {entry : CacheEntry Value} (found : d.get? key = some entry) :
    (d.erase key).size + 1 = d.size := by
  have parts := List.length_eq_length_filter_add (l := d.entries)
    fun candidate => decide (candidate.1 ≠ key)
  have only := OrderedDict.filter_key_eq found
  simp only [decide_not, Bool.not_not] at parts
  simp only [ne_eq, not_not] at only
  rw [only] at parts
  simp only [OrderedDict.size, OrderedDict.erase, OrderedDict.filter,
    ne_eq, decide_not]
  rw [parts]
  rfl

theorem size_moveToEnd {d : OrderedDict Key (CacheEntry Value)} {key : Key}
    {entry : CacheEntry Value} (found : d.get? key = some entry) :
    (d.moveToEnd key).size = d.size := by
  rw [← size_erase found, OrderedDict.size, OrderedDict.entries_moveToEnd found,
    List.length_append]
  rfl

theorem bytes_discard (cache : TTLCache Key Value) (key : Key) :
    (cache.discard key).bytes ≤ cache.bytes := by
  unfold discard
  split
  · exact le_refl _
  · simp only [drop]
    omega

theorem size_discard (cache : TTLCache Key Value) (key : Key) :
    (cache.discard key).d.size + (decide (key ∈ cache.d.keys)).toNat =
      cache.d.size := by
  unfold discard
  split
  next missing =>
    have absent := OrderedDict.get?_eq_none_iff.mp missing
    simp [absent]
  next entry found =>
    have present := OrderedDict.mem_keys_iff.mpr ⟨entry, found⟩
    have erased := size_erase found
    simpa [drop, present] using erased

theorem entered_discard (cache : TTLCache Key Value) (key : Key) :
    (cache.discard key).entered + (decide (key ∈ cache.d.keys)).toNat =
      cache.entered := by
  have size := size_discard cache key
  obtain ⟨expired, evicted⟩ := counters_discard cache key
  simp only [entered, expired, evicted]
  omega

theorem get_entered (cache : TTLCache Key Value) (now : Int) (key : Key) :
    (cache.get now key).2.entered = cache.entered ∧
      (cache.get now key).2.bytes ≤ cache.bytes := by
  unfold get
  split
  next => exact ⟨rfl, le_refl _⟩
  next entry found =>
    split
    · have erased := size_erase found
      simp only [entered, drop]
      constructor <;> omega
    · have moved := size_moveToEnd found
      simp only [entered, moved]
      exact ⟨trivial, le_refl _⟩

theorem expiresIn_entered (cache : TTLCache Key Value) (now : Int)
    (key : Key) :
    (cache.expiresIn now key).2.entered = cache.entered ∧
      (cache.expiresIn now key).2.bytes ≤ cache.bytes := by
  unfold expiresIn
  split
  next => exact ⟨rfl, le_refl _⟩
  next entry found =>
    split
    · have erased := size_erase found
      simp only [entered, drop]
      constructor <;> omega
    · exact ⟨rfl, le_refl _⟩

theorem Stores.entered {cache after : TTLCache Key Value} {sweep stamp : Int}
    {key : Key} {value : Option Value} {nbytes dropped : Nat}
    (stores : Stores cache after sweep stamp key value nbytes dropped) :
    after.entered +
        (decide (key ∈ (cache.pruneExpired sweep).d.keys)).toNat =
      cache.entered + 1 := by
  have swept := entered_discard (cache.pruneExpired sweep) key
  rw [entered_pruneExpired] at swept
  obtain ⟨_, evicted⟩ := counters_discard (cache.pruneExpired sweep) key
  obtain ⟨expired, _⟩ := counters_discard (cache.pruneExpired sweep) key
  have others := stores.others
  have size : after.d.size =
      ((cache.pruneExpired sweep).discard key).d.size - dropped + 1 := by
    rw [OrderedDict.size, stores.entries, OrderedDict.size, entries_swept,
      List.length_append, List.length_drop]
    rfl
  rw [← entries_swept, ← OrderedDict.size] at others
  simp only [TTLCache.entered, size, stores.expired, stores.evicted, expired,
    evicted] at swept ⊢
  simp only [pruneExpired] at swept others ⊢
  omega

theorem Stores.keeps {cache after : TTLCache Key Value} {sweep stamp : Int}
    {key : Key} {value : Option Value} {nbytes dropped : Nat}
    (stores : Stores cache after sweep stamp key value nbytes dropped) :
    after.d.get? key = some ⟨value, stamp + cache.ttl, nbytes⟩ := by
  rw [OrderedDict.get?_eq_some_iff, stores.entries]
  exact List.mem_append_right _ (List.mem_singleton.mpr rfl)

end TTLCache

open TTLCache

variable [DecidableEq Key]

namespace ClockedCache

/-- What holds of a cache after the events of its history. -/
structure Balanced (ttl : Int) (maxBytes : Nat)
    (history : List (CacheEvent Key Value))
    (state : ClockedCache Key Value) : Prop where
  accounted : state.cache.Accounted
  sameTtl : state.cache.ttl = ttl
  sameBound : state.cache.maxBytes = maxBytes
  bounded : 0 < maxBytes → state.cache.bytes ≤ maxBytes
  puts : successfulPuts history = state.cache.entered +
    replacedEntries history + invalidatedEntries history

variable {ttl : Int} {maxBytes : Nat}
  {past : List (CacheEvent Key Value)} {state : ClockedCache Key Value}

omit [DecidableEq Key] in
/-- A call whose event balances the entries that it takes in and out. -/
theorem Balanced.extend (balanced : Balanced ttl maxBytes past state)
    {after : ClockedCache Key Value} {event : Option (CacheEvent Key Value)}
    (accounted : after.cache.Accounted)
    (bounds : after.cache.ttl = state.cache.ttl ∧
      after.cache.maxBytes = state.cache.maxBytes)
    (bounded : 0 < maxBytes → after.cache.bytes ≤ maxBytes)
    (entered : after.cache.entered + replacedEntries event.toList +
        invalidatedEntries event.toList =
      state.cache.entered + successfulPuts event.toList) :
    Balanced ttl maxBytes (past ++ event.toList) after := by
  refine ⟨accounted, bounds.1.trans balanced.sameTtl,
    bounds.2.trans balanced.sameBound, bounded, ?_⟩
  have puts := balanced.puts
  simp only [successfulPuts, replacedEntries, invalidatedEntries,
    List.map_append, List.sum_append] at puts entered ⊢
  omega

theorem Balanced.put (balanced : Balanced ttl maxBytes past state)
    {sweep stamp : Int} {key : Key} {value : Option Value} {nbytes : Nat}
    {after : ClockedCache Key Value}
    (stepped : state.step (.put sweep stamp key value nbytes) = some after) :
    Balanced ttl maxBytes (past ++
      (state.observe (.put sweep stamp key value nbytes)).toList) after := by
  obtain ⟨_, taken, cache, stored, rfl⟩ := step_put.mp stepped
  have pruned := balanced.accounted.pruneExpired sweep
  have entered := entered_pruneExpired state.cache sweep
  simp only [observe]
  rcases put_cases balanced.accounted sweep stamp key value nbytes with
    ⟨_, result⟩ | ⟨kept, dropped, _, result, stores⟩
  · rw [result]
    cases stored.symm.trans result
    have discarded := entered_discard (state.cache.pruneExpired sweep) key
    refine balanced.extend (pruned.discard key)
      (discard_bounds (state.cache.pruneExpired sweep) key) ?_ ?_
    · intro positive
      exact (bytes_discard _ key).trans
        ((bytes_pruneExpired _ sweep).trans (balanced.bounded positive))
    · simp only [replacedEntries, invalidatedEntries, successfulPuts,
        Option.toList_some, List.map_cons, List.map_nil, List.sum_singleton,
        CacheEvent.puts, CacheEvent.replaces, CacheEvent.invalidates]
      omega
  · rw [result]
    cases stored.symm.trans result
    refine balanced.extend stores.accounted ⟨stores.ttl, stores.maxBytes⟩ ?_
      ?_
    · intro positive
      have enough := stores.enough (by rw [balanced.sameBound]; omega)
      have total : cache.bytes = totalNbytes cache.d.entries :=
        stores.accounted
      rw [stores.entries, totalNbytes_append] at total
      rw [balanced.sameBound] at enough
      simp only [totalNbytes, List.map_cons, List.map_nil,
        List.sum_singleton] at total enough ⊢
      omega
    · have entered := stores.entered
      simp only [replacedEntries, invalidatedEntries, successfulPuts,
        Option.toList_some, List.map_cons, List.map_nil, List.sum_singleton,
        CacheEvent.puts, CacheEvent.replaces, CacheEvent.invalidates]
      omega

theorem Balanced.invalidate (balanced : Balanced ttl maxBytes past state)
    (key : Option Key) :
    Balanced ttl maxBytes (past ++ (state.observe (.invalidate key)).toList)
      ⟨state.clock, state.cache.invalidate key⟩ := by
  have accounted := balanced.accounted.invalidate key
  refine balanced.extend accounted (invalidate_bounds _ _) ?_ ?_
  · intro positive
    refine le_trans ?_ (balanced.bounded positive)
    cases key with
    | none =>
        have total : state.cache.bytes = totalNbytes state.cache.d.entries :=
          balanced.accounted
        simp only [TTLCache.invalidate]
        omega
    | some key => exact bytes_discard _ key
  · simp only [observe, replacedEntries, invalidatedEntries, successfulPuts,
      Option.toList_some, List.map_cons, List.map_nil, List.sum_singleton,
      CacheEvent.puts, CacheEvent.replaces, CacheEvent.invalidates]
    cases key with
    | none =>
        simp only [TTLCache.invalidate, TTLCache.entered, OrderedDict.empty,
          OrderedDict.size, List.length_nil]
        omega
    | some key =>
        have entered := entered_discard state.cache key
        have size := size_discard state.cache key
        simp only [TTLCache.invalidate]
        omega

theorem Balanced.step (balanced : Balanced ttl maxBytes past state)
    {call : CacheCall Key Value} {after : ClockedCache Key Value}
    (stepped : state.step call = some after) :
    Balanced ttl maxBytes (past ++ (state.observe call).toList) after := by
  cases call with
  | put sweep stamp key value nbytes => exact balanced.put stepped
  | get now key =>
      obtain ⟨_, rfl⟩ := step_get.mp stepped
      obtain ⟨entered, bytes⟩ := get_entered state.cache now key
      refine balanced.extend (balanced.accounted.get now key)
        (get_bounds _ _ _) ?_ ?_
      · intro positive
        exact bytes.trans (balanced.bounded positive)
      · simp only [observe, entered]
        split <;> rfl
  | expiresIn now key =>
      obtain ⟨_, rfl⟩ := step_expiresIn.mp stepped
      obtain ⟨entered, bytes⟩ := expiresIn_entered state.cache now key
      refine balanced.extend (balanced.accounted.expiresIn now key)
        (expiresIn_bounds _ _ _) ?_ ?_
      · intro positive
        exact bytes.trans (balanced.bounded positive)
      · simp only [entered]
        rfl
  | prune now =>
      obtain ⟨_, rfl⟩ := step_prune.mp stepped
      refine balanced.extend (balanced.accounted.pruneExpired now)
        ⟨rfl, rfl⟩ ?_ (entered_pruneExpired state.cache now)
      intro positive
      exact (bytes_pruneExpired _ now).trans (balanced.bounded positive)
  | invalidate key =>
      cases stepped
      exact balanced.invalidate key

omit [DecidableEq Key] in
theorem balanced_new {start : ClockedCache Key Value}
    (initial : start.cache = .new ttl maxBytes) :
    Balanced ttl maxBytes [] start := by
  refine ⟨?_, ?_, ?_, ?_, ?_⟩
  · rw [initial]
    rfl
  · rw [initial]
    rfl
  · rw [initial]
    rfl
  · intro _
    rw [initial]
    exact Int.natCast_nonneg _
  · rw [initial]
    rfl

theorem run_balanced {start final : ClockedCache Key Value}
    {schedule : List (CacheCall Key Value)}
    (initial : start.cache = .new ttl maxBytes)
    (ran : (system ttl maxBytes).run start schedule = some final) :
    Balanced ttl maxBytes (history ttl maxBytes start schedule) final := by
  have preserved : ∀ (past : List (CacheEvent Key Value)) state call after,
      Balanced ttl maxBytes past state →
      (system ttl maxBytes).step state call = some after →
      Balanced ttl maxBytes (past ++ (state.observe call).toList) after := by
    intro past state call after balanced stepped
    exact balanced.step stepped
  exact StepSystem.run_observations preserved ran (balanced_new initial)

/-- The byte count is exact and within its bound, no put fails or loses what
it stores, and every stored entry is accounted for once. -/
theorem cache_accounted {start final : ClockedCache Key Value}
    {schedule : List (CacheCall Key Value)}
    (initial : start.cache = .new ttl maxBytes)
    (ran : (system ttl maxBytes).run start schedule = some final) :
    final.cache.bytes = totalNbytes final.cache.d.entries ∧
    (0 < maxBytes → final.cache.bytes ≤ maxBytes) ∧
    (∀ sweep stamp key value nbytes, ∃ stored after,
      final.cache.put sweep stamp key value nbytes = some (stored, after) ∧
      (stored = true →
        after.d.get? key = some ⟨value, stamp + ttl, nbytes⟩)) ∧
    successfulPuts (history ttl maxBytes start schedule) =
      final.cache.d.size + final.cache.expired + final.cache.evicted +
        replacedEntries (history ttl maxBytes start schedule) +
        invalidatedEntries (history ttl maxBytes start schedule) := by
  have balanced := run_balanced initial ran
  refine ⟨balanced.accounted, balanced.bounded, ?_, balanced.puts⟩
  intro sweep stamp key value nbytes
  rcases put_cases balanced.accounted sweep stamp key value nbytes with
    ⟨_, result⟩ | ⟨after, dropped, _, result, stores⟩
  · exact ⟨false, _, result, fun stored => by cases stored⟩
  · refine ⟨true, after, result, fun _ => ?_⟩
    have keeps := stores.keeps
    rwa [balanced.sameTtl] at keeps

/-- An eviction, a replacement, a refusal, an expiry and an invalidation. -/
def sampleCalls : List (CacheCall Nat Nat) :=
  [.put 0 0 1 (some 10) 4, .put 1 1 2 (some 20) 4, .get 2 1,
    .put 3 3 3 (some 30) 4, .put 4 4 1 (some 11) 5, .put 5 5 3 (some 31) 20,
    .expiresIn 20 1, .put 21 21 4 (some 40) 1, .invalidate none]

theorem sampleCalls_accounted :
    ∃ final, (system 10 10).run ⟨0, .new 10 10⟩ sampleCalls = some final ∧
      successfulPuts (history 10 10 ⟨0, .new 10 10⟩ sampleCalls) =
        final.cache.d.size + final.cache.expired + final.cache.evicted +
          replacedEntries (history 10 10 ⟨0, .new 10 10⟩ sampleCalls) +
          invalidatedEntries (history 10 10 ⟨0, .new 10 10⟩ sampleCalls) :=
  ⟨_, rfl, (cache_accounted rfl rfl).2.2.2⟩

end ClockedCache

end Catwalk
