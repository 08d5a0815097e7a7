import Catwalk.Cache.TTLCache
import Catwalk.Theory.StepSystem

/-! Runs of a cache: its calls at nondecreasing times, and what they do. -/

namespace Catwalk

variable {Key Value : Type}

/-- A method call, with the times at which it reads the clock. -/
inductive CacheCall (Key Value : Type) where
  | put (sweep stamp : Int) (key : Key) (value : Option Value) (nbytes : Nat)
  | get (now : Int) (key : Key)
  | expiresIn (now : Int) (key : Key)
  | prune (now : Int)
  | invalidate (key : Option Key)

/-- A cache and the latest time at which it has read the clock. -/
structure ClockedCache (Key Value : Type) where
  clock : Int
  cache : TTLCache Key Value

/-- What a call has done. -/
inductive CacheEvent (Key Value : Type) where
  | stored (key : Key) (value : Option Value) (stamp : Int) (nbytes : Nat)
      (replaced : Bool) (evicted : List Key)
  | refused (key : Key) (replaced : Bool)
  | used (key : Key)
  | invalidated (key : Option Key) (removed : Nat)

namespace TTLCache

variable [DecidableEq Key]

/-- The entries that a put of the key leaves alone before it evicts any. -/
def remaining (cache : TTLCache Key Value) (sweep : Int) (key : Key) :
    List (Key × CacheEntry Value) :=
  cache.d.entries.filter fun entry =>
    sweep < entry.2.expires ∧ entry.1 ≠ key

theorem entries_discard (cache : TTLCache Key Value) (key : Key) :
    (cache.discard key).d.entries =
      cache.d.entries.filter fun entry => entry.1 ≠ key := by
  unfold discard
  split
  next missing =>
    have absent := OrderedDict.get?_eq_none_iff.mp missing
    symm
    apply List.filter_eq_self.mpr
    intro entry member
    apply decide_eq_true
    intro same
    exact absent (List.mem_map.mpr ⟨entry, member, same⟩)
  next => rfl

theorem entries_swept (cache : TTLCache Key Value) (sweep : Int) (key : Key) :
    ((cache.pruneExpired sweep).discard key).d.entries =
      cache.remaining sweep key := by
  rw [entries_discard]
  simp only [pruneExpired, OrderedDict.filter, remaining, List.filter_filter]
  apply List.filter_congr
  intro entry _
  simp [and_comm]

omit [DecidableEq Key] in
theorem expired_evictLoop {rounds : Nat} {cache kept : TTLCache Key Value}
    (looped : evictLoop rounds cache = some kept) :
    kept.expired = cache.expired := by
  induction rounds generalizing cache with
  | zero =>
      unfold evictLoop at looped
      split at looped
      · cases looped
      · cases looped
        rfl
  | succ rounds ih =>
      unfold evictLoop at looped
      split at looped
      · split at looped
        · cases looped
        · have later := ih looped
          exact later
      · cases looped
        rfl

theorem counters_discard (cache : TTLCache Key Value) (key : Key) :
    (cache.discard key).expired = cache.expired ∧
      (cache.discard key).evicted = cache.evicted := by
  unfold discard
  split <;> exact ⟨rfl, rfl⟩

/-- A put that stores drops the first `dropped` of the remaining entries. -/
structure Stores (cache after : TTLCache Key Value) (sweep stamp : Int)
    (key : Key) (value : Option Value) (nbytes dropped : Nat) : Prop where
  accounted : after.Accounted
  ttl : after.ttl = cache.ttl
  maxBytes : after.maxBytes = cache.maxBytes
  entries : after.d.entries = (cache.remaining sweep key).drop dropped ++
    [(key, ⟨value, stamp + cache.ttl, nbytes⟩)]
  others : dropped ≤ (cache.remaining sweep key).length
  expired : after.expired = (cache.pruneExpired sweep).expired
  evicted : after.evicted = cache.evicted + dropped
  needed : ∀ fewer < dropped, cache.maxBytes ≠ 0 ∧ cache.maxBytes <
    totalNbytes ((cache.remaining sweep key).drop fewer) + nbytes
  enough : cache.maxBytes ≠ 0 →
    totalNbytes ((cache.remaining sweep key).drop dropped) + nbytes ≤
      cache.maxBytes

theorem put_refuses {cache : TTLCache Key Value} {nbytes : Nat}
    (oversized : ¬ cache.Fits nbytes) (sweep stamp : Int) (key : Key)
    (value : Option Value) :
    cache.put sweep stamp key value nbytes =
      some (false, (cache.pruneExpired sweep).discard key) := by
  have bound : ((cache.pruneExpired sweep).discard key).maxBytes =
      cache.maxBytes := (discard_bounds _ _).2
  simp only [Fits, not_or] at oversized
  unfold put
  simp only [bound]
  exact if_pos ⟨oversized.1, by omega⟩

theorem put_stores {cache : TTLCache Key Value} (accounted : cache.Accounted)
    {nbytes : Nat} (fits : cache.Fits nbytes) (sweep stamp : Int) (key : Key)
    (value : Option Value) :
    ∃ after dropped,
      cache.put sweep stamp key value nbytes = some (true, after) ∧
        Stores cache after sweep stamp key value nbytes dropped := by
  have sweptAccounted := (accounted.pruneExpired sweep).discard key
  have left := entries_swept cache sweep key
  obtain ⟨ttl, bound⟩ := discard_bounds (cache.pruneExpired sweep) key
  obtain ⟨expired, evicted⟩ := counters_discard (cache.pruneExpired sweep) key
  have absent : key ∉ ((cache.pruneExpired sweep).discard key).d.keys := by
    rw [← OrderedDict.get?_eq_none_iff, get?_discard, if_pos rfl]
  unfold put
  generalize (cache.pruneExpired sweep).discard key = swept at *
  have storedAccounted := sweptAccounted.store absent stamp value nbytes
  have stored := entries_store absent stamp value nbytes
  rw [left, ttl] at stored
  have accepted : ¬ (swept.maxBytes ≠ 0 ∧ nbytes > swept.maxBytes) := by
    rw [bound]
    rintro ⟨bounded, exceeds⟩
    rcases fits with unbounded | within
    · exact bounded unbounded
    · exact absurd exceeds (by simpa [pruneExpired] using within)
  simp only [if_neg accepted]
  by_cases bounded : swept.maxBytes ≠ 0
  · obtain ⟨kept, dropped, looped, suffix, keptAccounted, keptTtl, keptBound,
      within, keptEvicted, needed⟩ := evictLoop_spec storedAccounted le_rfl
    have alone : nbytes ≤ swept.maxBytes := by
      have := accepted
      omega
    have others : dropped ≤ (cache.remaining sweep key).length := by
      by_contra more
      have least := needed (cache.remaining sweep key).length (by omega)
      rw [stored, List.drop_left] at least
      simp only [TTLCache.store, totalNbytes, List.map_cons, List.map_nil,
        List.sum_singleton] at least
      omega
    rw [stored, List.drop_append_of_le_length others] at suffix
    refine ⟨kept, dropped, ?_, keptAccounted, keptTtl.trans ttl,
      keptBound.trans bound, suffix, others, ?_, ?_, ?_, ?_⟩
    · rw [if_pos (show (swept.store stamp key value nbytes).maxBytes ≠ 0 from
        bounded), looped]
      rfl
    · exact (expired_evictLoop looped).trans expired
    · rw [keptEvicted]
      exact congrArg (· + dropped) evicted
    · intro fewer less
      have more := needed fewer less
      rw [stored, List.drop_append_of_le_length (by omega),
        totalNbytes_append] at more
      refine ⟨fun unbounded => bounded (bound.trans unbounded), ?_⟩
      have same : (swept.store stamp key value nbytes).maxBytes =
          cache.maxBytes := bound
      rw [same] at more
      simpa [totalNbytes] using more
    · intro _
      rw [suffix, totalNbytes_append] at within
      have same : (swept.store stamp key value nbytes).maxBytes =
          cache.maxBytes := bound
      rw [same] at within
      simpa [totalNbytes] using within
  · refine ⟨swept.store stamp key value nbytes, 0, ?_, storedAccounted, ttl,
      bound, stored, Nat.zero_le _, expired, evicted, ?_, ?_⟩
    · exact if_neg bounded
    · intro fewer less
      exact absurd less (Nat.not_lt_zero fewer)
    · intro positive
      exact absurd (fun zero => positive (bound.symm.trans zero)) bounded

theorem put_cases {cache : TTLCache Key Value} (accounted : cache.Accounted)
    (sweep stamp : Int) (key : Key) (value : Option Value) (nbytes : Nat) :
    (¬ cache.Fits nbytes ∧ cache.put sweep stamp key value nbytes =
        some (false, (cache.pruneExpired sweep).discard key)) ∨
      ∃ after dropped, cache.Fits nbytes ∧
        cache.put sweep stamp key value nbytes = some (true, after) ∧
        Stores cache after sweep stamp key value nbytes dropped := by
  by_cases fits : cache.Fits nbytes
  · obtain ⟨after, dropped, result, stores⟩ :=
      put_stores accounted fits sweep stamp key value
    exact .inr ⟨after, dropped, fits, result, stores⟩
  · exact .inl ⟨fits, put_refuses fits sweep stamp key value⟩

theorem get?_put_unevicted {cache after : TTLCache Key Value}
    (accounted : cache.Accounted) {sweep stamp : Int} {key : Key}
    {value : Option Value} {nbytes : Nat} {stored : Bool}
    (put : cache.put sweep stamp key value nbytes = some (stored, after))
    (unevicted : after.evicted = cache.evicted) (other : Key)
    (entry : CacheEntry Value) :
    after.d.get? other = some entry ↔
      (other = key ∧ cache.Fits nbytes ∧
        entry = ⟨value, stamp + cache.ttl, nbytes⟩) ∨
        (other ≠ key ∧ cache.d.get? other = some entry ∧
          sweep < entry.expires) := by
  rcases put_cases accounted sweep stamp key value nbytes with
    ⟨oversized, refused⟩ | ⟨same, dropped, fits, result, stores⟩
  · cases refused.symm.trans put
    rw [get?_swept]
    simp [oversized]
  · cases result.symm.trans put
    have none_ : dropped = 0 := by
      have evicted := stores.evicted
      omega
    rw [OrderedDict.get?_eq_some_iff, OrderedDict.get?_eq_some_iff,
      stores.entries, none_, List.drop_zero, List.mem_append,
      List.mem_singleton, remaining, List.mem_filter, Prod.mk.injEq]
    simp only [decide_eq_true_eq]
    tauto

theorem get?_expiresIn (cache : TTLCache Key Value) (now : Int)
    (key other : Key) (entry : CacheEntry Value) :
    (cache.expiresIn now key).2.d.get? other = some entry ↔
      cache.d.get? other = some entry ∧
        (other = key → now < entry.expires) := by
  unfold expiresIn
  split
  next missing =>
    constructor
    · intro found
      refine ⟨found, fun same => ?_⟩
      rw [same, missing] at found
      cases found
    · exact And.left
  next stored found =>
    rcases eq_or_ne other key with rfl | differs
    · split
      next dead =>
        simp only [drop, OrderedDict.get?_erase_self, found,
          Option.some.injEq]
        constructor
        · intro absurdity
          cases absurdity
        · intro kept
          obtain ⟨rfl, live⟩ := kept
          have := live trivial
          omega
      next live =>
        simp only [found, Option.some.injEq]
        constructor
        · intro kept
          exact ⟨kept, fun _ => by rw [← kept]; omega⟩
        · exact And.left
    · split
      · simp [drop, OrderedDict.get?_erase, differs]
      · simp [differs]

theorem get?_prune {cache : TTLCache Key Value} {now : Int} {key : Key}
    {entry : CacheEntry Value} :
    (cache.prune now).d.get? key = some entry ↔
      cache.d.get? key = some entry ∧ now < entry.expires := by
  unfold prune pruneExpired
  rw [OrderedDict.get?_filter_eq_some_iff]
  simp

theorem expiresIn_eq_some {cache : TTLCache Key Value} {now : Int} {key : Key}
    {remaining : Int} (left : (cache.expiresIn now key).1 = some remaining) :
    ∃ entry, cache.d.get? key = some entry ∧
      remaining = entry.expires - now := by
  unfold expiresIn at left
  split at left
  · cases left
  next entry found =>
    split at left
    · cases left
    · cases left
      exact ⟨entry, found, rfl⟩

end TTLCache

variable [DecidableEq Key]

namespace ClockedCache

/-- No call reads an earlier time than the calls before it. -/
def step (state : ClockedCache Key Value) :
    CacheCall Key Value → Option (ClockedCache Key Value)
  | .put sweep stamp key value nbytes =>
      if state.clock ≤ sweep ∧ sweep ≤ stamp then
        (state.cache.put sweep stamp key value nbytes).map fun result =>
          ⟨stamp, result.2⟩
      else none
  | .get now key =>
      if state.clock ≤ now then some ⟨now, (state.cache.get now key).2⟩
      else none
  | .expiresIn now key =>
      if state.clock ≤ now then some ⟨now, (state.cache.expiresIn now key).2⟩
      else none
  | .prune now =>
      if state.clock ≤ now then some ⟨now, state.cache.prune now⟩ else none
  | .invalidate key => some ⟨state.clock, state.cache.invalidate key⟩

section Steps

variable {state after : ClockedCache Key Value} {now : Int} {key : Key}

theorem step_put {sweep stamp : Int} {value : Option Value} {nbytes : Nat} :
    state.step (.put sweep stamp key value nbytes) = some after ↔
      (state.clock ≤ sweep ∧ sweep ≤ stamp) ∧ ∃ stored cache,
        state.cache.put sweep stamp key value nbytes = some (stored, cache) ∧
          ⟨stamp, cache⟩ = after := by
  simp only [step, Option.ite_none_right_eq_some, Option.map_eq_some_iff,
    Prod.exists]

theorem step_get : state.step (.get now key) = some after ↔
    state.clock ≤ now ∧ ⟨now, (state.cache.get now key).2⟩ = after := by
  simp only [step, Option.ite_none_right_eq_some, Option.some.injEq]

theorem step_expiresIn : state.step (.expiresIn now key) = some after ↔
    state.clock ≤ now ∧ ⟨now, (state.cache.expiresIn now key).2⟩ = after := by
  simp only [step, Option.ite_none_right_eq_some, Option.some.injEq]

theorem step_prune : state.step (.prune now) = some after ↔
    state.clock ≤ now ∧ ⟨now, state.cache.prune now⟩ = after := by
  simp only [step, Option.ite_none_right_eq_some, Option.some.injEq]

end Steps

/-- The event of a call: a failed lookup and a sweep are none. -/
def observe (state : ClockedCache Key Value) :
    CacheCall Key Value → Option (CacheEvent Key Value)
  | .put sweep stamp key value nbytes =>
      let replaced := decide (key ∈ (state.cache.pruneExpired sweep).d.keys)
      match state.cache.put sweep stamp key value nbytes with
      | none => none
      | some (false, _) => some (.refused key replaced)
      | some (true, after) =>
          some (.stored key value stamp nbytes replaced
            (((state.cache.remaining sweep key).map Prod.fst).filter
              fun other => other ∉ after.d.keys))
  | .get now key =>
      if (state.cache.get now key).2.hits = state.cache.hits then none
      else some (.used key)
  | .expiresIn _ _ | .prune _ => none
  | .invalidate key =>
      some (.invalidated key
        (state.cache.d.size - (state.cache.invalidate key).d.size))

def system (ttl : Int) (maxBytes : Nat) :
    StepSystem (ClockedCache Key Value) (CacheCall Key Value) where
  init state := state.cache = .new ttl maxBytes
  step := step

/-- The events of a run, the oldest first. -/
def history (ttl : Int) (maxBytes : Nat) (start : ClockedCache Key Value)
    (schedule : List (CacheCall Key Value)) : List (CacheEvent Key Value) :=
  (system ttl maxBytes).observations observe start schedule

end ClockedCache

end Catwalk
