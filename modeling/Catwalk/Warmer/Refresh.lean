import Catwalk.Cache.Runs

/-! Visits of one directory by successive warm passes: `warm_listing` asks for
the life left, and either takes the entry or replaces it. -/

namespace Catwalk

/-- The numbers of `CacheWarmer`, in ticks of the clock. -/
structure RefreshConfig where
  cacheTtl : Int
  maxBytes : Nat
  interval : Int
  second : Int
  interval_nonneg : 0 ≤ interval
  second_pos : 0 < second

namespace RefreshConfig

/-- `_PASS_MARGIN_SECS` -/
def passMargin (cfg : RefreshConfig) : Int := 60 * cfg.second

/-- The default `min_ttl` of `run_pass`. -/
def minTtl (cfg : RefreshConfig) : Int := cfg.interval + cfg.passMargin

theorem minTtl_pos (cfg : RefreshConfig) : 0 < cfg.minTtl := by
  have interval := cfg.interval_nonneg
  have second := cfg.second_pos
  unfold minTtl passMargin
  omega

end RefreshConfig

/-- When `warm_listing` asked for the life left, and when it returned. -/
structure Visit where
  checked : Int
  completed : Int
  deriving DecidableEq

/-- Where `warm_listing` stands; `fresh` is before its `cache.get`, `stale` at
its query. -/
inductive VisitStage
  | idle
  | fresh (checked : Int)
  | stale (checked : Int)
  deriving DecidableEq

/-- `visits` are the completed visits of the directory, the last one first. -/
structure WarmState (Key Value : Type) where
  clocked : ClockedCache Key Value
  stage : VisitStage
  visits : List Visit

/-- `request` is a call by anyone but the visits of the directory; `store` ends a
query and `fail` is a query that raises. -/
inductive WarmLabel (Key Value : Type)
  | tick (now : Int)
  | request (call : CacheCall Key Value)
  | check (now : Int)
  | peek (now : Int)
  | store (sweep stamp : Int) (value : Value) (nbytes : Nat)
  | fail

variable {Key Value : Type}

/-- The query of a visit raises. -/
def WarmLabel.Fails : WarmLabel Key Value → Prop
  | .fail => True
  | _ => False

instance (label : WarmLabel Key Value) : Decidable label.Fails :=
  match label with
  | .fail => inferInstanceAs (Decidable True)
  | .tick _ | .request _ | .check _ | .peek _ | .store .. =>
      inferInstanceAs (Decidable False)

/-- Requests store listings, and invalidate nothing. -/
def CacheCall.isRequest : CacheCall Key Value → Bool
  | .put _ _ _ value _ => value.isSome
  | .get _ _ | .expiresIn _ _ | .prune _ => true
  | .invalidate _ => false

/-- `remaining is not None and remaining >= min_ttl` -/
def RefreshConfig.stageAfter (cfg : RefreshConfig) (now : Int) :
    Option Int → VisitStage
  | some remaining =>
      if cfg.minTtl ≤ remaining then .fresh now else .stale now
  | none => .stale now

variable [DecidableEq Key]

namespace WarmState

/-- `key` is that of the unfiltered listing of the directory. -/
def step (cfg : RefreshConfig) (key : Key) (state : WarmState Key Value) :
    WarmLabel Key Value → Option (WarmState Key Value)
  | .tick now =>
      if state.clocked.clock ≤ now then
        some { state with clocked := ⟨now, state.clocked.cache⟩ }
      else none
  | .request call =>
      if call.isRequest then
        (state.clocked.step call).map fun clocked =>
          { state with clocked := clocked }
      else none
  | .check now =>
      match state.stage with
      | .idle =>
          (state.clocked.step (.expiresIn now key)).map fun clocked =>
            { state with
              clocked := clocked
              stage := cfg.stageAfter now
                (state.clocked.cache.expiresIn now key).1 }
      | _ => none
  | .peek now =>
      match state.stage with
      | .fresh checked =>
          (state.clocked.step (.get now key)).map fun clocked =>
            if (state.clocked.cache.get now key).1.isSome then
              ⟨clocked, .idle, ⟨checked, now⟩ :: state.visits⟩
            else ⟨clocked, .stale checked, state.visits⟩
      | _ => none
  | .store sweep stamp value nbytes =>
      match state.stage with
      | .stale checked =>
          (state.clocked.step (.put sweep stamp key (some value) nbytes)).map
            fun clocked => ⟨clocked, .idle, ⟨checked, stamp⟩ :: state.visits⟩
      | _ => none
  | .fail =>
      match state.stage with
      | .stale _ => some { state with stage := .idle }
      | _ => none

def system (cfg : RefreshConfig) (key : Key) :
    StepSystem (WarmState Key Value) (WarmLabel Key Value) where
  init state := state.clocked.cache = .new cfg.cacheTtl cfg.maxBytes ∧
    state.stage = .idle ∧ state.visits = []
  step := step cfg key

end WarmState

/-- A put evicts nothing for the byte bound. -/
def ClockedCache.Unevicted (clocked : ClockedCache Key Value) :
    CacheCall Key Value → Prop
  | .put sweep stamp key value nbytes =>
      ∃ kept ∈ clocked.cache.put sweep stamp key value nbytes,
        kept.2.evicted = clocked.cache.evicted
  | _ => True

instance (clocked : ClockedCache Key Value) (call : CacheCall Key Value) :
    Decidable (clocked.Unevicted call) :=
  match call with
  | .put .. => inferInstanceAs (Decidable (∃ kept ∈ _, _))
  | .get .. | .expiresIn .. | .prune _ | .invalidate _ =>
      inferInstanceAs (Decidable True)

/-- A put of the key is within the byte bound. -/
def ClockedCache.Admits (clocked : ClockedCache Key Value) (key : Key) :
    CacheCall Key Value → Prop
  | .put _ _ other _ nbytes => other = key → clocked.cache.Fits nbytes
  | _ => True

instance (clocked : ClockedCache Key Value) (key : Key)
    (call : CacheCall Key Value) : Decidable (clocked.Admits key call) :=
  match call with
  | .put _ _ other _ nbytes =>
      inferInstanceAs (Decidable (other = key → _ = 0 ∨ nbytes ≤ _))
  | .get .. | .expiresIn .. | .prune _ | .invalidate _ =>
      inferInstanceAs (Decidable True)

namespace WarmState

/-- The cache call of a step. -/
def call (key : Key) : WarmLabel Key Value → Option (CacheCall Key Value)
  | .tick _ | .fail => none
  | .request call => some call
  | .check now => some (.expiresIn now key)
  | .peek now => some (.get now key)
  | .store sweep stamp value nbytes =>
      some (.put sweep stamp key (some value) nbytes)

/-- When the step completes a visit. -/
def completes (key : Key) (state : WarmState Key Value) :
    WarmLabel Key Value → Option Int
  | .peek now =>
      if (state.clocked.cache.get now key).1.isSome then some now else none
  | .store _ stamp _ _ => some stamp
  | _ => none

/-- No byte eviction, no failing query, and each visit is complete before the
interval and the margin have passed since the visit before it began. -/
structure Steady (cfg : RefreshConfig) (key : Key) (state : WarmState Key Value)
    (label : WarmLabel Key Value) : Prop where
  unevicted : ∀ called ∈ call key label, state.clocked.Unevicted called
  succeeds : ¬ label.Fails
  punctual : ∀ now ∈ state.completes key label,
    ∀ previous ∈ state.visits.head?, now - previous.checked < cfg.minTtl

instance (cfg : RefreshConfig) (key : Key) (state : WarmState Key Value)
    (label : WarmLabel Key Value) : Decidable (Steady cfg key state label) :=
  decidable_of_iff (_ ∧ _ ∧ _)
    ⟨fun ⟨unevicted, succeeds, punctual⟩ => ⟨unevicted, succeeds, punctual⟩,
      fun steady => ⟨steady.unevicted, steady.succeeds, steady.punctual⟩⟩

/-- A put that is refused would have popped the entry before. -/
structure Timely (cfg : RefreshConfig) (key : Key) (state : WarmState Key Value)
    (label : WarmLabel Key Value) : Prop extends Steady cfg key state label where
  admits : ∀ called ∈ call key label, state.clocked.Admits key called

instance (cfg : RefreshConfig) (key : Key) (state : WarmState Key Value)
    (label : WarmLabel Key Value) : Decidable (Timely cfg key state label) :=
  decidable_of_iff (_ ∧ _)
    ⟨fun ⟨steady, admits⟩ => ⟨steady, admits⟩,
      fun timely => ⟨timely.toSteady, timely.admits⟩⟩

end WarmState

/-- What a call may do to the entry of a key: it stays unless it has expired or
a put at the time of the call replaces it. -/
structure Touched (ttl : Int) (key : Key) (before after : ClockedCache Key Value) :
    Prop where
  accounted : after.cache.Accounted
  ttl_eq : after.cache.ttl = ttl
  clock : before.clock ≤ after.clock
  kept : ∀ entry, before.cache.d.get? key = some entry →
    after.clock < entry.expires → after.cache.d.get? key = some entry ∨
      ∃ value nbytes, after.cache.d.get? key =
        some ⟨some value, after.clock + ttl, nbytes⟩
  source : ∀ entry, after.cache.d.get? key = some entry →
    before.cache.d.get? key = some entry ∨
      ∃ value nbytes, entry = ⟨some value, after.clock + ttl, nbytes⟩

variable {key : Key} {ttl : Int} {clocked after : ClockedCache Key Value}

theorem Touched.of_lookups (accounted : after.cache.Accounted)
    (ttl_eq : after.cache.ttl = ttl) (clock : clocked.clock ≤ after.clock)
    (kept : ∀ entry, clocked.cache.d.get? key = some entry →
      after.clock < entry.expires → after.cache.d.get? key = some entry)
    (source : ∀ entry, after.cache.d.get? key = some entry →
      clocked.cache.d.get? key = some entry) :
    Touched ttl key clocked after where
  accounted := accounted
  ttl_eq := ttl_eq
  clock := clock
  kept entry found live := .inl (kept entry found live)
  source entry found := .inl (source entry found)

theorem ClockedCache.touched {call : CacheCall Key Value}
    (accounted : clocked.cache.Accounted) (ttl_eq : clocked.cache.ttl = ttl)
    (request : call.isRequest = true) (unevicted : clocked.Unevicted call)
    (admits : clocked.Admits key call)
    (stepped : clocked.step call = some after) :
    Touched ttl key clocked after := by
  cases call with
  | put sweep stamp other value nbytes =>
      obtain ⟨⟨stored, cache⟩, kept, none_⟩ := unevicted
      obtain ⟨value, rfl⟩ := Option.isSome_iff_exists.mp request
      obtain ⟨ordered, _, _, put, rfl⟩ := ClockedCache.step_put.mp stepped
      cases put.symm.trans kept
      obtain ⟨same, result, put, spec⟩ := TTLCache.put_spec accounted sweep
        stamp other (some value) nbytes
      cases put.symm.trans kept
      have lookup := TTLCache.get?_put_unevicted accounted kept none_ key
      refine ⟨spec.accounted, spec.ttl.trans ttl_eq, ?_, ?_, ?_⟩
      · exact ordered.1.trans ordered.2
      · intro entry found live
        by_cases same : key = other
        · right
          refine ⟨value, nbytes, (lookup _).mpr
            (.inl ⟨same, admits same.symm, ?_⟩)⟩
          rw [ttl_eq]
        · left
          exact (lookup entry).mpr
            (.inr ⟨same, found, lt_of_le_of_lt ordered.2 live⟩)
      · intro entry found
        rcases (lookup entry).mp found with ⟨_, _, new⟩ | ⟨_, old, _⟩
        · exact .inr ⟨value, nbytes, by rw [new, ttl_eq]⟩
        · exact .inl old
  | get now other =>
      obtain ⟨later, rfl⟩ := ClockedCache.step_get.mp stepped
      apply Touched.of_lookups (accounted.get now other)
        ((TTLCache.get_bounds _ now other).1.trans ttl_eq) later
      · intro entry found live
        exact (TTLCache.get?_get _ now other key entry).mpr
          ⟨found, fun _ => live⟩
      · intro entry found
        exact ((TTLCache.get?_get _ now other key entry).mp found).1
  | expiresIn now other =>
      obtain ⟨later, rfl⟩ := ClockedCache.step_expiresIn.mp stepped
      apply Touched.of_lookups (accounted.expiresIn now other)
        ((TTLCache.expiresIn_bounds _ now other).1.trans ttl_eq) later
      · intro entry found live
        exact (TTLCache.get?_expiresIn _ now other key entry).mpr
          ⟨found, fun _ => live⟩
      · intro entry found
        exact ((TTLCache.get?_expiresIn _ now other key entry).mp found).1
  | prune now =>
      obtain ⟨later, rfl⟩ := ClockedCache.step_prune.mp stepped
      refine .of_lookups (accounted.pruneExpired now) ?_ later ?_ ?_
      · exact ttl_eq
      · intro entry found live
        exact TTLCache.get?_prune.mpr ⟨found, live⟩
      · intro entry found
        exact (TTLCache.get?_prune.mp found).1
  | invalidate other => cases request

namespace WarmState

variable {cfg : RefreshConfig} {state next : WarmState Key Value}

/-- While the next visit may still be completed in time, the entry outlives that
completion; a visit that found the entry fresh enough can take no older one. -/
structure Warm (cfg : RefreshConfig) (key : Key) (state : WarmState Key Value) :
    Prop where
  accounted : state.clocked.cache.Accounted
  ttl : state.clocked.cache.ttl = cfg.cacheTtl
  values : ∀ entry, state.clocked.cache.d.get? key = some entry →
    entry.value.isSome = true
  began : ∀ checked,
    state.stage = .fresh checked ∨ state.stage = .stale checked →
      checked ≤ state.clocked.clock
  fresh : ∀ checked entry, state.stage = .fresh checked →
    state.clocked.cache.d.get? key = some entry →
      checked + cfg.minTtl ≤ entry.expires
  ended : ∀ last, state.visits.head? = some last →
    last.checked ≤ last.completed ∧ last.completed ≤ state.clocked.clock
  live : ∀ last, state.visits.head? = some last →
    state.clocked.clock < last.checked + cfg.minTtl ∨
        state.clocked.clock ≤ last.completed →
      ∃ entry, state.clocked.cache.d.get? key = some entry ∧
        last.checked + cfg.minTtl ≤ entry.expires ∧
        last.completed < entry.expires

/-- The ways a step can go, with the cache call it makes. -/
inductive Moves (cfg : RefreshConfig) (key : Key) (state : WarmState Key Value) :
    WarmLabel Key Value → WarmState Key Value → Prop
  | tick {now} (later : state.clocked.clock ≤ now) :
      Moves cfg key state (.tick now)
        { state with clocked := ⟨now, state.clocked.cache⟩ }
  | request {call clocked} (request : call.isRequest = true)
      (called : state.clocked.step call = some clocked) :
      Moves cfg key state (.request call) { state with clocked := clocked }
  | check {now clocked} (stage : state.stage = .idle)
      (called : state.clocked.step (.expiresIn now key) = some clocked) :
      Moves cfg key state (.check now)
        { state with
          clocked := clocked
          stage := cfg.stageAfter now
            (state.clocked.cache.expiresIn now key).1 }
  | hit {now clocked checked} (stage : state.stage = .fresh checked)
      (called : state.clocked.step (.get now key) = some clocked)
      (hit : (state.clocked.cache.get now key).1.isSome = true) :
      Moves cfg key state (.peek now)
        ⟨clocked, .idle, ⟨checked, now⟩ :: state.visits⟩
  | miss {now clocked checked} (stage : state.stage = .fresh checked)
      (called : state.clocked.step (.get now key) = some clocked) :
      Moves cfg key state (.peek now) ⟨clocked, .stale checked, state.visits⟩
  | store {sweep stamp value nbytes clocked checked}
      (stage : state.stage = .stale checked)
      (called : state.clocked.step (.put sweep stamp key (some value) nbytes) =
        some clocked) :
      Moves cfg key state (.store sweep stamp value nbytes)
        ⟨clocked, .idle, ⟨checked, stamp⟩ :: state.visits⟩
  | fail {checked} (stage : state.stage = .stale checked) :
      Moves cfg key state .fail { state with stage := .idle }

theorem moves_of_step {label : WarmLabel Key Value}
    (stepped : WarmState.step cfg key state label = some next) :
    Moves cfg key state label next := by
  cases label with
  | tick now =>
      obtain ⟨later, same⟩ := Option.ite_none_right_eq_some.mp stepped
      cases same
      exact .tick later
  | request call =>
      obtain ⟨request, mapped⟩ := Option.ite_none_right_eq_some.mp stepped
      obtain ⟨clocked, called, rfl⟩ := Option.map_eq_some_iff.mp mapped
      exact .request request called
  | check now =>
      simp only [WarmState.step] at stepped
      split at stepped
      next stage =>
        obtain ⟨clocked, called, rfl⟩ := Option.map_eq_some_iff.mp stepped
        exact .check stage called
      · cases stepped
  | peek now =>
      simp only [WarmState.step] at stepped
      split at stepped
      next checked stage =>
        obtain ⟨clocked, called, rfl⟩ := Option.map_eq_some_iff.mp stepped
        split
        next hit => exact .hit stage called hit
        next => exact .miss stage called
      · cases stepped
  | store sweep stamp value nbytes =>
      simp only [WarmState.step] at stepped
      split at stepped
      next checked stage =>
        obtain ⟨clocked, called, rfl⟩ := Option.map_eq_some_iff.mp stepped
        exact .store stage called
      · cases stepped
  | fail =>
      simp only [WarmState.step] at stepped
      split at stepped
      next checked stage =>
        cases stepped
        exact .fail stage
      · cases stepped

theorem Warm.touch (inside : cfg.minTtl < cfg.cacheTtl)
    (warm : Warm cfg key state)
    (touched : Touched cfg.cacheTtl key state.clocked after) :
    Warm cfg key { state with clocked := after } where
  accounted := touched.accounted
  ttl := touched.ttl_eq
  values entry found := by
    rcases touched.source entry found with old | ⟨value, nbytes, rfl⟩
    · exact warm.values entry old
    · rfl
  began checked stage := (warm.began checked stage).trans touched.clock
  fresh checked entry stage found := by
    rcases touched.source entry found with old | ⟨value, nbytes, rfl⟩
    · exact warm.fresh checked entry stage old
    · have began := warm.began checked (.inl stage)
      have clock := touched.clock
      simp only
      omega
  ended last visited := by
    obtain ⟨order, ended⟩ := warm.ended last visited
    exact ⟨order, ended.trans touched.clock⟩
  live last visited early := by
    obtain ⟨order, ended⟩ := warm.ended last visited
    have clock := touched.clock
    have positive := cfg.minTtl_pos
    obtain ⟨entry, found, outlives, survives⟩ := warm.live last visited
      (by simp only at early; omega)
    have alive : after.clock < entry.expires := by
      simp only at early
      omega
    rcases touched.kept entry found alive with same | ⟨value, nbytes, new⟩
    · exact ⟨entry, same, outlives, survives⟩
    · refine ⟨_, new, ?_, ?_⟩
      · simp only
        omega
      · simp only
        omega

theorem Warm.check (inside : cfg.minTtl < cfg.cacheTtl)
    (warm : Warm cfg key state) {now : Int}
    (called : state.clocked.step (.expiresIn now key) = some after) :
    Warm cfg key { state with
      clocked := after
      stage := cfg.stageAfter now (state.clocked.cache.expiresIn now key).1 } := by
  have unevicted : state.clocked.Unevicted (.expiresIn now key) := trivial
  have admits : state.clocked.Admits key (.expiresIn now key) := trivial
  have moved := warm.touch inside
    (ClockedCache.touched warm.accounted warm.ttl rfl unevicted admits called)
  obtain ⟨_, rfl⟩ := ClockedCache.step_expiresIn.mp called
  refine ⟨moved.accounted, moved.ttl, moved.values, ?_, ?_, moved.ended,
    moved.live⟩
  · intro checked stands
    simp only [RefreshConfig.stageAfter] at stands
    split at stands
    · split at stands <;> simp at stands <;> exact stands.ge
    · simp at stands
      exact stands.ge
  · intro checked entry stands found
    simp only [RefreshConfig.stageAfter] at stands
    split at stands
    next remaining left =>
      split at stands <;> cases stands
      next enough =>
        obtain ⟨old, was, rfl⟩ := TTLCache.expiresIn_eq_some left
        have same := ((TTLCache.get?_expiresIn _ _ _ _ _).mp found).1
        cases was.symm.trans same
        omega
    · cases stands

theorem Warm.complete {checked completed : Int}
    (moved : Warm cfg key { state with clocked := after })
    (began : checked ≤ completed) (now : after.clock = completed)
    (entry : CacheEntry Value)
    (found : after.cache.d.get? key = some entry)
    (outlives : checked + cfg.minTtl ≤ entry.expires)
    (survives : completed < entry.expires) :
    Warm cfg key
      ⟨after, .idle, ⟨checked, completed⟩ :: state.visits⟩ where
  accounted := moved.accounted
  ttl := moved.ttl
  values := moved.values
  began _ stands := by simp at stands
  fresh _ _ stands := by cases stands
  ended last visited := by
    cases visited
    exact ⟨began, now.ge⟩
  live last visited _ := by
    cases visited
    exact ⟨entry, found, outlives, survives⟩

theorem Warm.peek (inside : cfg.minTtl < cfg.cacheTtl)
    (warm : Warm cfg key state) {now : Int}
    (called : state.clocked.step (.get now key) = some after) :
    Warm cfg key { state with clocked := after } := by
  have unevicted : state.clocked.Unevicted (.get now key) := trivial
  have admits : state.clocked.Admits key (.get now key) := trivial
  exact warm.touch inside
    (ClockedCache.touched warm.accounted warm.ttl rfl unevicted admits called)

theorem Warm.hit (inside : cfg.minTtl < cfg.cacheTtl)
    (warm : Warm cfg key state) {now checked : Int}
    (stage : state.stage = .fresh checked)
    (called : state.clocked.step (.get now key) = some after)
    (hit : (state.clocked.cache.get now key).1.isSome = true) :
    Warm cfg key ⟨after, .idle, ⟨checked, now⟩ :: state.visits⟩ := by
  have moved := warm.peek inside called
  have began := moved.began checked (.inl stage)
  obtain ⟨_, rfl⟩ := ClockedCache.step_get.mp called
  obtain ⟨value, hit⟩ := Option.isSome_iff_exists.mp hit
  obtain ⟨entry, found, live, _⟩ := TTLCache.get_eq_some hit
  apply moved.complete began rfl entry
  · exact (TTLCache.get?_get _ _ _ _ _).mpr ⟨found, fun _ => live⟩
  · exact warm.fresh checked entry stage found
  · exact live

theorem Warm.miss (inside : cfg.minTtl < cfg.cacheTtl)
    (warm : Warm cfg key state) {now checked : Int}
    (stage : state.stage = .fresh checked)
    (called : state.clocked.step (.get now key) = some after) :
    Warm cfg key ⟨after, .stale checked, state.visits⟩ := by
  have moved := warm.peek inside called
  have began := moved.began checked (.inl stage)
  refine ⟨moved.accounted, moved.ttl, moved.values, ?_, ?_, moved.ended,
    moved.live⟩
  · intro other stands
    simp at stands
    exact stands ▸ began
  · intro other entry stands
    cases stands

theorem Warm.store (inside : cfg.minTtl < cfg.cacheTtl)
    (warm : Warm cfg key state) {sweep stamp checked : Int} {value : Value}
    {nbytes : Nat} (stage : state.stage = .stale checked)
    (unevicted : state.clocked.Unevicted
      (.put sweep stamp key (some value) nbytes))
    (admits : state.clocked.Admits key
      (.put sweep stamp key (some value) nbytes))
    (called : state.clocked.step (.put sweep stamp key (some value) nbytes) =
      some after) :
    Warm cfg key ⟨after, .idle, ⟨checked, stamp⟩ :: state.visits⟩ := by
  have moved := warm.touch inside
    (ClockedCache.touched warm.accounted warm.ttl rfl unevicted admits called)
  have began := moved.began checked (.inr stage)
  have positive := cfg.minTtl_pos
  obtain ⟨⟨stored, cache⟩, kept, none_⟩ := unevicted
  have lookup := TTLCache.get?_put_unevicted warm.accounted kept none_ key
  obtain ⟨_, _, _, put, rfl⟩ := ClockedCache.step_put.mp called
  cases put.symm.trans kept
  apply moved.complete began rfl
    ⟨some value, stamp + state.clocked.cache.ttl, nbytes⟩
  · exact (lookup _).mpr (.inl ⟨rfl, admits rfl, rfl⟩)
  · rw [warm.ttl]
    simp only at began ⊢
    omega
  · rw [warm.ttl]
    simp only
    omega

theorem Warm.step (inside : cfg.minTtl < cfg.cacheTtl)
    (warm : Warm cfg key state) {label : WarmLabel Key Value}
    (timely : Timely cfg key state label)
    (stepped : WarmState.step cfg key state label = some next) :
    Warm cfg key next := by
  cases moves_of_step stepped with
  | tick later =>
      apply warm.touch inside
      refine .of_lookups warm.accounted warm.ttl later ?_ ?_
      · exact fun _ found _ => found
      · exact fun _ found => found
  | request request called =>
      exact warm.touch inside (ClockedCache.touched warm.accounted warm.ttl
        request (timely.unevicted _ rfl) (timely.admits _ rfl) called)
  | check stage called => exact warm.check inside called
  | hit stage called hit => exact warm.hit inside stage called hit
  | miss stage called => exact warm.miss inside stage called
  | store stage called =>
      exact warm.store inside stage (timely.unevicted _ rfl)
        (timely.admits _ rfl) called
  | fail => exact absurd trivial timely.succeeds

theorem warm_of_init (initial : (system cfg key).init state) :
    Warm cfg key state := by
  obtain ⟨fresh, idle, none_⟩ := initial
  have missing : state.clocked.cache.d.get? key = none := by
    rw [fresh]
    rfl
  constructor
  case accounted =>
    rw [fresh]
    rfl
  case ttl =>
    rw [fresh]
    rfl
  case values => simp [missing]
  case began => simp [idle]
  case fresh => simp [idle]
  case ended => simp [none_]
  case live => simp [none_]

theorem warm_of_run (inside : cfg.minTtl < cfg.cacheTtl)
    {start : WarmState Key Value} {schedule : List (WarmLabel Key Value)}
    (initial : (system cfg key).init start)
    (timely : (system cfg key).Meets (Timely cfg key) start schedule)
    (ran : (system cfg key).run start schedule = some state) :
    Warm cfg key state := by
  have reached := StepSystem.Reachable.of_run (.start initial) timely ran
  apply reached.invariant
  · exact fun _ initial => warm_of_init initial
  · intro state label after _ warm timely stepped
    exact warm.step inside timely stepped

theorem clock_mono {call : CacheCall Key Value}
    (called : clocked.step call = some after) :
    clocked.clock ≤ after.clock := by
  cases call with
  | put sweep stamp other value nbytes =>
      obtain ⟨ordered, _, _, _, rfl⟩ := ClockedCache.step_put.mp called
      exact ordered.1.trans ordered.2
  | get now other =>
      obtain ⟨later, rfl⟩ := ClockedCache.step_get.mp called
      exact later
  | expiresIn now other =>
      obtain ⟨later, rfl⟩ := ClockedCache.step_expiresIn.mp called
      exact later
  | prune now =>
      obtain ⟨later, rfl⟩ := ClockedCache.step_prune.mp called
      exact later
  | invalidate other =>
      cases called
      exact le_rfl

/-- A step completes a visit at its own time, or completes none. -/
theorem visits_step {label : WarmLabel Key Value}
    (stepped : WarmState.step cfg key state label = some next) :
    state.clocked.clock ≤ next.clocked.clock ∧
      (next.visits = state.visits ∨
        state.completes key label = some next.clocked.clock) := by
  cases moves_of_step stepped with
  | tick later => exact ⟨later, .inl rfl⟩
  | request request called => exact ⟨clock_mono called, .inl rfl⟩
  | check stage called => exact ⟨clock_mono called, .inl rfl⟩
  | hit stage called hit =>
      have later := clock_mono called
      obtain ⟨_, rfl⟩ := ClockedCache.step_get.mp called
      exact ⟨later, .inr (if_pos hit)⟩
  | miss stage called => exact ⟨clock_mono called, .inl rfl⟩
  | store stage called =>
      have later := clock_mono called
      obtain ⟨_, _, _, _, rfl⟩ := ClockedCache.step_put.mp called
      exact ⟨later, .inr rfl⟩
  | fail => exact ⟨le_rfl, .inl rfl⟩

/-- Before a further visit is complete, the margin since the last one has not
passed. -/
theorem early_of_run {final : WarmState Key Value}
    {schedule : List (WarmLabel Key Value)}
    (timely : (system cfg key).Meets (Timely cfg key) state schedule)
    (ran : (system cfg key).run state schedule = some final) :
    final.visits = state.visits ∨ ∀ last, state.visits.head? = some last →
      state.clocked.clock < last.checked + cfg.minTtl := by
  induction schedule generalizing state with
  | nil =>
      cases ran
      exact .inl rfl
  | cons label rest ih =>
      obtain ⟨next, stepped, ran⟩ := StepSystem.run_cons.mp ran
      obtain ⟨later, same | completed⟩ := visits_step stepped
      · rcases ih (timely.2 next stepped) ran with unchanged | early
        · exact .inl (unchanged.trans same)
        · right
          intro last visited
          rw [same] at early
          exact lt_of_le_of_lt later (early last visited)
      · right
        intro last visited
        have punctual := timely.1.punctual _ completed last visited
        omega

/-- From the completion of the first visit of a directory to that of the last,
its entry is live at every moment. -/
theorem warmed_stays_live (cfg : RefreshConfig)
    (inside : cfg.minTtl < cfg.cacheTtl) (key : Key)
    (start state final : WarmState Key Value)
    (before rest : List (WarmLabel Key Value))
    (initial : (system cfg key).init start)
    (ran : (system cfg key).run start before = some state)
    (timely : (system cfg key).Meets (Timely cfg key) start before)
    (ranOn : (system cfg key).run state rest = some final)
    (timelyOn : (system cfg key).Meets (Timely cfg key) state rest)
    (begun : state.visits ≠ []) (last : Visit)
    (isLast : final.visits.head? = some last)
    (during : state.clocked.clock ≤ last.completed) :
    ∃ value, (state.clocked.cache.get state.clocked.clock key).1 =
      some value := by
  have warm := warm_of_run inside initial timely ran
  obtain ⟨visit, visited⟩ : ∃ visit, state.visits.head? = some visit := by
    cases same : state.visits with
    | nil => exact absurd same begun
    | cons visit _ => exact ⟨visit, rfl⟩
  have early : state.clocked.clock < visit.checked + cfg.minTtl ∨
      state.clocked.clock ≤ visit.completed := by
    rcases early_of_run timelyOn ranOn with same | early
    · rw [same, visited] at isLast
      cases isLast
      exact .inr during
    · exact .inl (early visit visited)
  obtain ⟨entry, found, outlives, survives⟩ := warm.live visit visited early
  obtain ⟨value, stored⟩ := Option.isSome_iff_exists.mp (warm.values entry found)
  have alive : state.clocked.clock < entry.expires := by omega
  exact ⟨value, TTLCache.get_eq_some_iff.mpr ⟨entry, found, alive, stored⟩⟩

/-! A lifetime of 900 s and an interval of 675 s: the first query takes 5 s, and
the next visit finds too little life left and queries for 20 s. -/

def sampleRefresh : RefreshConfig where
  cacheTtl := 900
  maxBytes := 0
  interval := 675
  second := 1
  interval_nonneg := by decide
  second_pos := by decide

def coldStart : WarmState Bool Nat where
  clocked := ⟨0, .new 900 0⟩
  stage := .idle
  visits := []

def firstVisit : List (WarmLabel Bool Nat) :=
  [.check 0, .store 5 5 1 10, .request (.get 100 true), .tick 719]

def nextVisit : List (WarmLabel Bool Nat) := [.check 719, .store 734 734 2 10]

theorem nextVisit_live :
    ∃ state, (system sampleRefresh true).run coldStart firstVisit =
        some state ∧
      ∃ value, (state.clocked.cache.get state.clocked.clock true).1 =
        some value :=
  ⟨_, rfl, warmed_stays_live sampleRefresh (by decide) true coldStart _ _
    firstVisit nextVisit ⟨rfl, rfl, rfl⟩ rfl (by decide) rfl (by decide)
    (by simp) ⟨719, 734⟩ rfl (by decide)⟩

/-! With a bound of 100 bytes, the listing has outgrown it at the second visit
and fits again at the third. -/

def boundedRefresh : RefreshConfig := { sampleRefresh with maxBytes := 100 }

def boundedStart : WarmState Bool Nat :=
  { coldStart with clocked := ⟨0, .new 900 100⟩ }

def outgrownVisits : List (WarmLabel Bool Nat) :=
  [.check 0, .store 5 5 1 10, .check 719, .store 724 724 2 200]

theorem outgrownVisits_cold :
    ¬ ∀ (cfg : RefreshConfig) (key : Bool) (start state final : WarmState Bool Nat)
      (before rest : List (WarmLabel Bool Nat)), cfg.minTtl < cfg.cacheTtl →
      (system cfg key).init start →
      (system cfg key).run start before = some state →
      (system cfg key).Meets (Steady cfg key) start before →
      (system cfg key).run state rest = some final →
      (system cfg key).Meets (Steady cfg key) state rest →
      state.visits ≠ [] → ∀ last, final.visits.head? = some last →
        state.clocked.clock ≤ last.completed →
        ∃ value, (state.clocked.cache.get state.clocked.clock key).1 =
          some value := by
  intro live
  obtain ⟨value, found⟩ := live boundedRefresh true boundedStart _ _
    outgrownVisits [.check 1400, .store 1420 1420 3 10] (by decide)
    ⟨rfl, rfl, rfl⟩ rfl (by decide) rfl (by decide) (by simp) ⟨1400, 1420⟩ rfl
    (by decide)
  cases found

end WarmState

end Catwalk
