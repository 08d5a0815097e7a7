import Catwalk.Data.OrderedDict
import Mathlib.Algebra.BigOperators.Group.List.Basic
import Mathlib.Data.Int.Cast.Basic
import Mathlib.Tactic.Linarith

/-! `TTLCache`: a dictionary with a time to live and an LRU byte bound. -/

namespace Catwalk

/-- A stored `value` may be Python's `None`. -/
structure CacheEntry (Value : Type) where
  value : Option Value
  expires : Int
  nbytes : Nat

/-- Oldest use first in `d`; no byte bound when `maxBytes` is 0. -/
structure TTLCache (Key Value : Type) where
  ttl : Int
  maxBytes : Nat
  d : OrderedDict Key (CacheEntry Value)
  bytes : Int
  hits : Nat
  misses : Nat
  coalesced : Nat
  expired : Nat
  evicted : Nat

namespace TTLCache

variable {Key Value : Type}

def new (ttl : Int) (maxBytes : Nat) : TTLCache Key Value where
  ttl := ttl
  maxBytes := maxBytes
  d := .empty
  bytes := 0
  hits := 0
  misses := 0
  coalesced := 0
  expired := 0
  evicted := 0

def totalNbytes (entries : List (Key × CacheEntry Value)) : Nat :=
  (entries.map fun entry => entry.2.nbytes).sum

/-- `_prune_expired_locked` -/
def pruneExpired (cache : TTLCache Key Value) (now : Int) :
    TTLCache Key Value :=
  let stale := cache.d.entries.filter fun entry => entry.2.expires ≤ now
  { cache with
    d := cache.d.filter fun _ entry => ¬ entry.expires ≤ now
    bytes := cache.bytes - totalNbytes stale
    expired := cache.expired + stale.length }

/-- `_, evicted = self._d.popitem(last=False)` with its bytes -/
def evictOne (cache : TTLCache Key Value) (nbytes : Nat)
    (rest : OrderedDict Key (CacheEntry Value)) : TTLCache Key Value :=
  { cache with
    d := rest
    bytes := cache.bytes - nbytes
    evicted := cache.evicted + 1 }

/-- `while self._bytes > self.max_bytes: self._d.popitem(last=False)`; the
`KeyError` of popping an empty dictionary is `none`.  As many rounds as there
are entries empty it. -/
def evictLoop : Nat → TTLCache Key Value → Option (TTLCache Key Value)
  | 0, cache => if cache.bytes > cache.maxBytes then none else some cache
  | rounds + 1, cache =>
      if cache.bytes > cache.maxBytes then
        match cache.d.popFirst with
        | none => none
        | some (entry, rest) =>
            evictLoop rounds (cache.evictOne entry.2.nbytes rest)
      else
        some cache

variable [DecidableEq Key]

/-- `del self._d[key]` with its bytes -/
def drop (cache : TTLCache Key Value) (key : Key)
    (entry : CacheEntry Value) : TTLCache Key Value :=
  { cache with d := cache.d.erase key, bytes := cache.bytes - entry.nbytes }

def get (cache : TTLCache Key Value) (now : Int) (key : Key) :
    Option Value × TTLCache Key Value :=
  match cache.d.get? key with
  | none => (none, { cache with misses := cache.misses + 1 })
  | some entry =>
      if entry.expires ≤ now then
        (none, { cache.drop key entry with
          expired := cache.expired + 1
          misses := cache.misses + 1 })
      else
        (entry.value, { cache with
          d := cache.d.moveToEnd key
          hits := cache.hits + 1 })

def expiresIn (cache : TTLCache Key Value) (now : Int) (key : Key) :
    Option Int × TTLCache Key Value :=
  match cache.d.get? key with
  | none => (none, cache)
  | some entry =>
      if entry.expires - now ≤ 0 then
        (none, { cache.drop key entry with expired := cache.expired + 1 })
      else
        (some (entry.expires - now), cache)

/-- `self._d.pop(key, None)` with its bytes -/
def discard (cache : TTLCache Key Value) (key : Key) : TTLCache Key Value :=
  match cache.d.get? key with
  | none => cache
  | some entry => cache.drop key entry

/-- `self._d[key] = _Entry(...)` with its bytes -/
def store (cache : TTLCache Key Value) (stamp : Int) (key : Key)
    (value : Option Value) (nbytes : Nat) : TTLCache Key Value :=
  { cache with
    d := cache.d.set key ⟨value, stamp + cache.ttl, nbytes⟩
    bytes := cache.bytes + nbytes }

/-- The clock is read once for the sweep and once for the new entry.  The
`Bool` is what `put` returns; `none` is the `KeyError` of `evictLoop`. -/
def put (cache : TTLCache Key Value) (sweep stamp : Int) (key : Key)
    (value : Option Value) (nbytes : Nat) :
    Option (Bool × TTLCache Key Value) :=
  let swept := (cache.pruneExpired sweep).discard key
  if swept.maxBytes ≠ 0 ∧ nbytes > swept.maxBytes then
    some (false, swept)
  else
    let stored := swept.store stamp key value nbytes
    if stored.maxBytes ≠ 0 then
      (evictLoop stored.d.size stored).map fun kept => (true, kept)
    else
      some (true, stored)

def prune (cache : TTLCache Key Value) (now : Int) : TTLCache Key Value :=
  cache.pruneExpired now

def invalidate (cache : TTLCache Key Value) : Option Key → TTLCache Key Value
  | none => { cache with d := .empty, bytes := 0 }
  | some key => cache.discard key

/-! Byte accounting. -/

/-- `_bytes` is the total of the stored entries. -/
def Accounted (cache : TTLCache Key Value) : Prop :=
  cache.bytes = totalNbytes cache.d.entries

omit [DecidableEq Key] in
theorem totalNbytes_split (entries : List (Key × CacheEntry Value))
    (test : Key × CacheEntry Value → Bool) :
    totalNbytes entries =
      totalNbytes (entries.filter test) +
        totalNbytes (entries.filter fun entry => ¬ test entry) := by
  induction entries with
  | nil => rfl
  | cons entry rest ih =>
      simp only [totalNbytes] at ih ⊢
      cases kept : test entry <;> simp [kept, ih] <;> omega

omit [DecidableEq Key] in
theorem totalNbytes_append (first second : List (Key × CacheEntry Value)) :
    totalNbytes (first ++ second) = totalNbytes first + totalNbytes second := by
  simp [totalNbytes]

omit [DecidableEq Key] in
theorem Accounted.pruneExpired {cache : TTLCache Key Value}
    (accounted : cache.Accounted) (now : Int) :
    (cache.pruneExpired now).Accounted := by
  have parts := totalNbytes_split cache.d.entries
    fun entry => entry.2.expires ≤ now
  simp only [Accounted, TTLCache.pruneExpired, OrderedDict.filter] at *
  rw [accounted, parts]
  simp

theorem totalNbytes_erase {d : OrderedDict Key (CacheEntry Value)} {key : Key}
    {entry : CacheEntry Value} (found : d.get? key = some entry) :
    totalNbytes d.entries = totalNbytes (d.erase key).entries + entry.nbytes := by
  have parts := totalNbytes_split d.entries
    fun candidate => decide (candidate.1 ≠ key)
  have only := OrderedDict.filter_key_eq found
  simp only [decide_eq_true_eq] at parts
  rw [parts, only]
  simp [totalNbytes, OrderedDict.erase, OrderedDict.filter]

theorem Accounted.drop {cache : TTLCache Key Value}
    (accounted : cache.Accounted) {key : Key} {entry : CacheEntry Value}
    (found : cache.d.get? key = some entry) :
    (cache.drop key entry).Accounted := by
  have parts := totalNbytes_erase found
  simp only [Accounted, TTLCache.drop] at *
  omega

theorem Accounted.discard {cache : TTLCache Key Value}
    (accounted : cache.Accounted) (key : Key) :
    (cache.discard key).Accounted := by
  unfold TTLCache.discard
  split
  next => exact accounted
  next entry found => exact accounted.drop found

theorem Accounted.get {cache : TTLCache Key Value}
    (accounted : cache.Accounted) (now : Int) (key : Key) :
    (cache.get now key).2.Accounted := by
  unfold TTLCache.get
  split
  next => exact accounted
  next entry found =>
    split
    · exact accounted.drop found
    · have parts := totalNbytes_erase found
      have moved := OrderedDict.entries_moveToEnd found
      simp only [Accounted] at *
      rw [moved, totalNbytes_append, accounted, parts]
      simp [totalNbytes]

theorem Accounted.expiresIn {cache : TTLCache Key Value}
    (accounted : cache.Accounted) (now : Int) (key : Key) :
    (cache.expiresIn now key).2.Accounted := by
  unfold TTLCache.expiresIn
  split
  next => exact accounted
  next entry found =>
    split
    · exact accounted.drop found
    · exact accounted

theorem Accounted.invalidate {cache : TTLCache Key Value}
    (accounted : cache.Accounted) (key : Option Key) :
    (cache.invalidate key).Accounted := by
  cases key with
  | none => rfl
  | some key => exact accounted.discard key

omit [DecidableEq Key] in
/-- The loop drops the shortest run of oldest entries that brings the total
within the bound; it never pops an empty dictionary. -/
theorem evictLoop_spec {cache : TTLCache Key Value} {rounds : Nat}
    (accounted : cache.Accounted) (enough : cache.d.size ≤ rounds) :
    ∃ kept dropped, evictLoop rounds cache = some kept ∧
      kept.d.entries = cache.d.entries.drop dropped ∧
      kept.Accounted ∧ kept.ttl = cache.ttl ∧ kept.maxBytes = cache.maxBytes ∧
      totalNbytes kept.d.entries ≤ cache.maxBytes ∧
      kept.evicted = cache.evicted + dropped ∧
      ∀ fewer < dropped,
        cache.maxBytes < totalNbytes (cache.d.entries.drop fewer) := by
  induction rounds generalizing cache with
  | zero =>
      have nothing : cache.d.entries = [] :=
        List.length_eq_zero_iff.mp (Nat.le_zero.mp enough)
      have within : ¬ cache.bytes > cache.maxBytes := by
        rw [accounted, nothing]
        simp [totalNbytes]
      refine ⟨cache, 0, ?_, rfl, accounted, rfl, rfl, ?_, rfl, by simp⟩
      · rw [evictLoop, if_neg within]
      · simp [nothing, totalNbytes]
  | succ rounds ih =>
      by_cases exceeds : cache.bytes > cache.maxBytes
      · have full : totalNbytes cache.d.entries > cache.maxBytes := by
          rw [accounted] at exceeds
          omega
        cases shape : cache.d.entries with
        | nil => simp [shape, totalNbytes] at full
        | cons first tail =>
            obtain ⟨rest, popped, restEntries⟩ :=
              OrderedDict.popFirst_of_entries shape
            have first_total : totalNbytes cache.d.entries =
                first.2.nbytes + totalNbytes tail := by
              simp [shape, totalNbytes]
            have oneAccounted :
                (cache.evictOne first.2.nbytes rest).Accounted := by
              simp only [Accounted, evictOne] at accounted ⊢
              rw [restEntries, accounted, first_total]
              omega
            have oneSize :
                (cache.evictOne first.2.nbytes rest).d.size ≤ rounds := by
              simp only [OrderedDict.size, evictOne] at enough ⊢
              rw [shape, List.length_cons] at enough
              rw [restEntries]
              omega
            obtain ⟨kept, dropped, looped, suffix, keptAccounted, ttl, bound,
              within, evicted, needed⟩ := ih oneAccounted oneSize
            simp only [evictOne, restEntries] at suffix ttl bound
            simp only [evictOne, restEntries] at within evicted needed
            refine ⟨kept, dropped + 1, ?_, ?_, keptAccounted, ttl, bound,
              within, ?_, ?_⟩
            · rw [evictLoop, if_pos exceeds, popped]
              exact looped
            · rw [suffix, List.drop_succ_cons]
            · omega
            · intro fewer less
              cases fewer with
              | zero => simpa [shape] using full
              | succ fewer => exact needed fewer (by omega)
      · refine ⟨cache, 0, ?_, rfl, accounted, rfl, rfl, ?_, rfl, by simp⟩
        · rw [evictLoop, if_neg exceeds]
        · rw [accounted] at exceeds
          omega

theorem get?_discard (cache : TTLCache Key Value) (key other : Key) :
    (cache.discard key).d.get? other =
      if other = key then none else cache.d.get? other := by
  unfold discard
  split
  next missing =>
    by_cases same : other = key
    · rw [if_pos same, same, missing]
    · rw [if_neg same]
  next => exact OrderedDict.get?_erase _ _ _

theorem discard_bounds (cache : TTLCache Key Value) (key : Key) :
    (cache.discard key).ttl = cache.ttl ∧
      (cache.discard key).maxBytes = cache.maxBytes := by
  unfold discard
  split <;> exact ⟨rfl, rfl⟩

theorem get?_swept (cache : TTLCache Key Value) (now : Int)
    (key other : Key) (entry : CacheEntry Value) :
    ((cache.pruneExpired now).discard key).d.get? other = some entry ↔
      other ≠ key ∧ cache.d.get? other = some entry ∧ now < entry.expires := by
  rw [get?_discard]
  by_cases same : other = key
  · simp [same]
  · rw [if_neg same, pruneExpired, OrderedDict.get?_filter_eq_some_iff]
    simp [same]

def Fits (cache : TTLCache Key Value) (nbytes : Nat) : Prop :=
  cache.maxBytes = 0 ∨ nbytes ≤ cache.maxBytes

/-- What `put` leaves in an accounted cache. -/
structure PutSpec (cache after : TTLCache Key Value) (sweep stamp : Int)
    (key : Key) (value : Option Value) (nbytes : Nat) : Prop where
  accounted : after.Accounted
  ttl : after.ttl = cache.ttl
  maxBytes : after.maxBytes = cache.maxBytes
  of_stored : ∀ other entry, after.d.get? other = some entry →
    (other = key ∧ entry = ⟨value, stamp + cache.ttl, nbytes⟩) ∨
      (other ≠ key ∧ cache.d.get? other = some entry ∧ sweep < entry.expires)
  stored : cache.Fits nbytes →
    after.d.get? key = some ⟨value, stamp + cache.ttl, nbytes⟩

theorem entries_store {cache : TTLCache Key Value} {key : Key}
    (absent : key ∉ cache.d.keys) (stamp : Int) (value : Option Value)
    (nbytes : Nat) :
    (cache.store stamp key value nbytes).d.entries =
      cache.d.entries ++ [(key, ⟨value, stamp + cache.ttl, nbytes⟩)] :=
  OrderedDict.entries_set_of_not_mem _ absent _

theorem Accounted.store {cache : TTLCache Key Value}
    (accounted : cache.Accounted) {key : Key} (absent : key ∉ cache.d.keys)
    (stamp : Int) (value : Option Value) (nbytes : Nat) :
    (cache.store stamp key value nbytes).Accounted := by
  rw [Accounted, entries_store absent, totalNbytes_append]
  simp only [Accounted] at accounted
  simp [TTLCache.store, totalNbytes] at accounted ⊢
  omega

/-- The entry just stored is the last one the loop would drop, and it is
never dropped when it fits the bound on its own. -/
theorem evictLoop_keeps_stored {cache : TTLCache Key Value}
    (accounted : cache.Accounted) {key : Key} (absent : key ∉ cache.d.keys)
    (stamp : Int) (value : Option Value) {nbytes : Nat}
    (fits : nbytes ≤ cache.maxBytes) {kept : TTLCache Key Value}
    (looped : evictLoop (cache.store stamp key value nbytes).d.size
      (cache.store stamp key value nbytes) = some kept) :
    kept.d.get? key = some ⟨value, stamp + cache.ttl, nbytes⟩ := by
  obtain ⟨kept', dropped, looped', suffix, _, _, _, _, _, needed⟩ :=
    evictLoop_spec (accounted.store absent stamp value nbytes) le_rfl
  have same : kept' = kept := Option.some.inj (looped'.symm.trans looped)
  subst same
  rw [entries_store absent] at suffix needed
  rw [OrderedDict.get?_eq_some_iff, suffix]
  by_cases short : dropped ≤ cache.d.entries.length
  · rw [List.drop_append_of_le_length short]
    exact List.mem_append_right _ (List.mem_singleton.mpr rfl)
  · have alone := needed cache.d.entries.length (by omega)
    rw [List.drop_left] at alone
    simp only [TTLCache.store, totalNbytes, List.map_cons, List.map_nil,
      List.sum_singleton] at alone
    omega

theorem put_spec {cache : TTLCache Key Value} (accounted : cache.Accounted)
    (sweep stamp : Int) (key : Key) (value : Option Value) (nbytes : Nat) :
    ∃ stored after,
      cache.put sweep stamp key value nbytes = some (stored, after) ∧
        PutSpec cache after sweep stamp key value nbytes := by
  have sweptAccounted := (accounted.pruneExpired sweep).discard key
  have lookup := get?_swept cache sweep key
  obtain ⟨ttl, maxBytes⟩ : ((cache.pruneExpired sweep).discard key).ttl =
      cache.ttl ∧ ((cache.pruneExpired sweep).discard key).maxBytes =
        cache.maxBytes := discard_bounds _ _
  unfold put
  generalize (cache.pruneExpired sweep).discard key = swept at *
  dsimp only
  have absent : key ∉ swept.d.keys := by
    rw [← OrderedDict.get?_eq_none_iff, Option.eq_none_iff_forall_ne_some]
    intro entry found
    exact ((lookup key entry).mp found).1 rfl
  have storedGet : ∀ other entry,
      (swept.store stamp key value nbytes).d.get? other = some entry →
        (other = key ∧ entry = ⟨value, stamp + cache.ttl, nbytes⟩) ∨
          (other ≠ key ∧ cache.d.get? other = some entry ∧
            sweep < entry.expires) := by
    intro other entry found
    rw [store, OrderedDict.get?_set] at found
    split at found
    next same =>
      rw [ttl, Option.some.injEq] at found
      exact .inl ⟨same, found.symm⟩
    next => exact .inr ((lookup other entry).mp found)
  have storedAccounted := sweptAccounted.store absent stamp value nbytes
  split
  next oversized =>
    refine ⟨false, swept, rfl, sweptAccounted, ttl, maxBytes, ?_, ?_⟩
    · intro other entry found
      exact .inr ((lookup other entry).mp found)
    · rw [maxBytes] at oversized
      rintro (unbounded | fits)
      · exact absurd unbounded oversized.1
      · exact absurd oversized.2 (by omega)
  next accepted =>
    split
    next bounded =>
      obtain ⟨kept, dropped, looped, suffix, keptAccounted, keptTtl,
        keptBound, _⟩ := evictLoop_spec storedAccounted le_rfl
      refine ⟨true, kept, by rw [looped]; rfl, keptAccounted,
        keptTtl.trans ttl, keptBound.trans maxBytes, ?_, ?_⟩
      · intro other entry found
        refine storedGet other entry ?_
        rw [OrderedDict.get?_eq_some_iff] at found ⊢
        rw [suffix] at found
        exact List.mem_of_mem_drop found
      · intro fits
        rw [← ttl]
        refine evictLoop_keeps_stored sweptAccounted absent stamp value ?_
          looped
        rcases fits with unbounded | fits
        · exact absurd (maxBytes.trans unbounded) bounded
        · exact maxBytes ▸ fits
    next unbounded =>
      refine ⟨true, _, rfl, storedAccounted, ttl, maxBytes, storedGet,
        fun _ => ?_⟩
      rw [← ttl]
      exact OrderedDict.get?_set_self _ _ _

theorem get?_get (cache : TTLCache Key Value) (now : Int) (key other : Key)
    (entry : CacheEntry Value) :
    (cache.get now key).2.d.get? other = some entry ↔
      cache.d.get? other = some entry ∧
        (other = key → now < entry.expires) := by
  unfold get
  split
  next missing =>
    constructor
    · intro found
      refine ⟨found, ?_⟩
      rintro rfl
      rw [missing] at found
      cases found
    · exact And.left
  next stored found =>
    split
    next expired =>
      change (cache.d.erase key).get? other = some entry ↔ _
      rw [OrderedDict.get?_erase]
      by_cases same : other = key
      · subst same
        rw [if_pos rfl, found]
        constructor
        · intro absurdity
          cases absurdity
        · rintro ⟨same, live⟩
          have := live rfl
          cases same
          omega
      · simp [same]
    next live =>
      change (cache.d.moveToEnd key).get? other = some entry ↔ _
      rw [OrderedDict.get?_moveToEnd]
      constructor
      · intro lookup
        refine ⟨lookup, ?_⟩
        rintro rfl
        rw [found] at lookup
        cases lookup
        omega
      · exact And.left

theorem get_eq_some {cache : TTLCache Key Value} {now : Int} {key : Key}
    {value : Value} (hit : (cache.get now key).1 = some value) :
    ∃ entry, cache.d.get? key = some entry ∧ now < entry.expires ∧
      entry.value = some value := by
  unfold get at hit
  split at hit
  next => cases hit
  next entry found =>
    split at hit
    next => cases hit
    next live => exact ⟨entry, found, by omega, hit⟩

theorem get_eq_some_iff {cache : TTLCache Key Value} {now : Int} {key : Key}
    {value : Value} :
    (cache.get now key).1 = some value ↔
      ∃ entry, cache.d.get? key = some entry ∧ now < entry.expires ∧
        entry.value = some value := by
  refine ⟨get_eq_some, ?_⟩
  intro stored
  obtain ⟨entry, found, live, same⟩ := stored
  unfold get
  rw [found]
  exact (congrArg Prod.fst (if_neg (not_le.mpr live))).trans same

theorem hits_get_iff {cache : TTLCache Key Value} {now : Int} {key : Key} :
    (cache.get now key).2.hits = cache.hits + 1 ↔
      ∃ entry, cache.d.get? key = some entry ∧ now < entry.expires := by
  unfold get
  split
  next missing => simp [missing]
  next entry found =>
    split
    next dead =>
      have dead : ¬ now < entry.expires := not_lt.mpr dead
      simp [found, dead, drop]
    next live => simp [found, not_le.mp live]

theorem expiresIn_bounds (cache : TTLCache Key Value) (now : Int)
    (key : Key) :
    (cache.expiresIn now key).2.ttl = cache.ttl ∧
      (cache.expiresIn now key).2.maxBytes = cache.maxBytes := by
  unfold expiresIn
  split
  next => exact ⟨rfl, rfl⟩
  next => split <;> exact ⟨rfl, rfl⟩

theorem invalidate_bounds (cache : TTLCache Key Value) (key : Option Key) :
    (cache.invalidate key).ttl = cache.ttl ∧
      (cache.invalidate key).maxBytes = cache.maxBytes := by
  cases key with
  | none => exact ⟨rfl, rfl⟩
  | some key => exact discard_bounds cache key

theorem get_bounds (cache : TTLCache Key Value) (now : Int) (key : Key) :
    (cache.get now key).2.ttl = cache.ttl ∧
      (cache.get now key).2.maxBytes = cache.maxBytes := by
  unfold get
  split
  next => exact ⟨rfl, rfl⟩
  next => split <;> exact ⟨rfl, rfl⟩

end TTLCache

end Catwalk
