import Catwalk.Cache.Flight
import Catwalk.Theory.StepSystem

/-! Concurrent `get_or_compute` calls on one cache. -/

namespace Catwalk.SingleFlight

/-- `computed` lists what the executions of `compute()` returned, latest
first. -/
structure State (Thread Key Value Error : Type) where
  now : Int
  shared : SharedCache Key Value Error
  callers : Thread → Caller Value Error
  computed : List (Key × Except Error (Option Value))

/-- Other uses of the cache. -/
inductive Operation (Key Value : Type)
  | get (key : Key)
  | put (key : Key) (value : Option Value) (nbytes : Nat)
  | expiresIn (key : Key)
  | prune
  | invalidate (key : Option Key)

inductive Label (Thread Key Value Error : Type)
  | tick (elapsed : Nat)
  | advance (thread : Thread)
  | compute (thread : Thread) (outcome : Except Error (Option Value × Nat))
  | other (operation : Operation Key Value)

variable {Thread Key Value Error : Type} [DecidableEq Thread] [DecidableEq Key]

def Operation.apply (now : Int) (shared : SharedCache Key Value Error) :
    Operation Key Value → SharedCache Key Value Error
  | .get key => (shared.get now key).2
  | .put key value nbytes => shared.put now key value nbytes
  | .expiresIn key => (shared.expiresIn now key).2
  | .prune => shared.prune now
  | .invalidate key => shared.invalidate key

/-- `key thread` is the key the thread calls `get_or_compute` with. -/
def step (key : Thread → Key) (state : State Thread Key Value Error) :
    Label Thread Key Value Error → Option (State Thread Key Value Error)
  | .tick elapsed => some { state with now := state.now + elapsed }
  | .advance thread =>
      (state.shared.getOrCompute state.now (key thread)
        (state.callers thread)).map fun moved =>
          { state with
            callers := Function.update state.callers thread moved.1
            shared := moved.2 }
  | .compute thread outcome =>
      (SharedCache.computed (state.callers thread) outcome).map fun caller =>
        { state with
          callers := Function.update state.callers thread caller
          computed := (key thread, outcome.map Prod.fst) :: state.computed }
  | .other operation =>
      some { state with shared := operation.apply state.now state.shared }

/-- Nobody is inside a call and no flight is registered. -/
def Initial (state : State Thread Key Value Error) : Prop :=
  (∀ key, state.shared.inflight key = none) ∧
    (∀ thread, state.callers thread = .get) ∧ state.computed = [] ∧
    0 < state.shared.cache.ttl

def system (key : Thread → Key) :
    StepSystem (State Thread Key Value Error)
      (Label Thread Key Value Error) where
  init := Initial
  step := step key

/-- The stored entry of the key. -/
def State.stored (state : State Thread Key Value Error) (key : Key) :
    Option (CacheEntry Value) :=
  state.shared.cache.d.get? key

/-- `compute()` succeeds with a cost within the byte bound, and the stored
entry of the key is neither expired nor touched by others. -/
def Undisturbed (key : Key) (state : State Thread Key Value Error) :
    Label Thread Key Value Error → Prop
  | .tick elapsed => ∀ entry, state.stored key = some entry →
      state.now + elapsed < entry.expires
  | .advance _ => True
  | .compute _ (.ok (_, nbytes)) => state.shared.cache.Fits nbytes
  | .compute _ (.error _) => False
  | .other operation =>
      (operation.apply state.now state.shared).cache.d.get? key =
        state.stored key

/-- No caller registers a flight while the key is stored. -/
def Timely (key : Key) (state : State Thread Key Value Error) :
    Label Thread Key Value Error → Prop
  | .advance thread =>
      match state.callers thread with
      | .lookup => state.shared.inflight key = none → state.stored key = none
      | _ => True
  | _ => True

/-- `compute()` ran once and every caller returned its value. -/
def ComputedOnce (key : Key) (state : State Thread Key Value Error) : Prop :=
  ∃ value, state.computed = [(key, .ok value)] ∧
    ∀ thread, ∃ fromCache, state.callers thread = .returned value fromCache

/-- The key is stored with this value and has not expired. -/
def State.Live (state : State Thread Key Value Error) (key : Key)
    (value : Option Value) : Prop :=
  ∃ entry, state.stored key = some entry ∧ entry.value = value ∧
    state.now < entry.expires

/-- A caller that leads no flight; it follows only the given one. -/
def Bystander (key : Key)
    (computed : List (Key × Except Error (Option Value)))
    (flight : Option Nat) : Caller Value Error → Prop
  | .get | .lookup => True
  | .follow followed => flight = some followed
  | .returned value _ => computed = [(key, .ok value)]
  | _ => False

/-- The leader of the one flight, and what is stored and registered meanwhile. -/
def LeaderAt (key : Key) (state : State Thread Key Value Error)
    (flight : Nat) : Caller Value Error → Prop
  | .compute led => led = flight ∧ state.computed = [] ∧
      state.stored key = none ∧ state.shared.inflight key = some flight
  | .put led value nbytes => led = flight ∧
      state.computed = [(key, .ok value)] ∧ state.stored key = none ∧
      state.shared.inflight key = some flight ∧ state.shared.cache.Fits nbytes
  | .unregister led value => led = flight ∧
      state.computed = [(key, .ok value)] ∧ state.Live key value ∧
      state.shared.inflight key = some flight
  | .publish led value => led = flight ∧
      state.computed = [(key, .ok value)] ∧ state.Live key value ∧
      state.shared.inflight key = none
  | _ => False

/-- The three stages of a run: nobody leads, one caller leads, the value is
published. -/
def Center (key : Key) (state : State Thread Key Value Error) :
    Option Nat → Option Thread → Prop
  | none, none => state.computed = [] ∧ state.stored key = none ∧
      state.shared.inflight key = none
  | some flight, some leader =>
      LeaderAt key state flight (state.callers leader) ∧
        state.shared.futures flight = some ⟨key, .pending⟩
  | some flight, none => ∃ value, state.computed = [(key, .ok value)] ∧
      state.Live key value ∧ state.shared.inflight key = none ∧
      state.shared.futures flight = some ⟨key, .result value⟩
  | none, some _ => False

structure Stage (key : Key) (state : State Thread Key Value Error)
    (flight : Option Nat) (leader : Option Thread) : Prop where
  center : Center key state flight leader
  others : ∀ thread, leader ≠ some thread →
    Bystander key state.computed flight (state.callers thread)

/-- Nothing that concerns the key changed. -/
structure Unchanged (key : Key) (before after : SharedCache Key Value Error) :
    Prop where
  stored : after.cache.d.get? key = before.cache.d.get? key
  inflight : after.inflight key = before.inflight key
  futures : after.futures = before.futures
  ttl : after.cache.ttl = before.cache.ttl
  maxBytes : after.cache.maxBytes = before.cache.maxBytes

omit [DecidableEq Thread] in
theorem Operation.apply_unchanged {key : Key}
    {state : State Thread Key Value Error} {operation : Operation Key Value}
    (undisturbed : Undisturbed key state (.other operation)) :
    Unchanged key state.shared (operation.apply state.now state.shared) := by
  refine ⟨undisturbed, ?_, ?_, ?_, ?_⟩
  · cases operation <;> rfl
  · cases operation <;> rfl
  · cases operation with
    | get key => exact (TTLCache.get_bounds _ _ _).1
    | put key value nbytes => exact (state.shared.putCache_spec _ _ _ _).ttl
    | expiresIn key => exact (TTLCache.expiresIn_bounds _ _ _).1
    | prune => rfl
    | invalidate key => exact (TTLCache.invalidate_bounds _ _).1
  · cases operation with
    | get key => exact (TTLCache.get_bounds _ _ _).2
    | put key value nbytes =>
        exact (state.shared.putCache_spec _ _ _ _).maxBytes
    | expiresIn key => exact (TTLCache.expiresIn_bounds _ _ _).2
    | prune => rfl
    | invalidate key => exact (TTLCache.invalidate_bounds _ _).2

theorem get_unchanged {shared : SharedCache Key Value Error} {now : Int}
    {key : Key} (live : ∀ entry, shared.cache.d.get? key = some entry →
      now < entry.expires) : Unchanged key shared (shared.get now key).2 := by
  refine ⟨?_, rfl, rfl, (TTLCache.get_bounds _ _ _).1,
    (TTLCache.get_bounds _ _ _).2⟩
  ext entry
  change (shared.cache.get now key).2.d.get? key = some entry ↔ _
  rw [TTLCache.get?_get]
  exact ⟨And.left, fun found => ⟨found, fun _ => live entry found⟩⟩

/-- A step that leaves the key and the leader alone. -/
structure Agrees (key : Key) (before after : State Thread Key Value Error) :
    Prop where
  shared : Unchanged key before.shared after.shared
  computed : after.computed = before.computed
  live : ∀ value, before.Live key value → after.Live key value

omit [DecidableEq Thread] in
theorem Stage.transfer {key : Key} {before after : State Thread Key Value Error}
    {flight : Option Nat} {leader : Option Thread}
    (stage : Stage key before flight leader) (agrees : Agrees key before after)
    (leading : ∀ thread, leader = some thread →
      after.callers thread = before.callers thread)
    (others : ∀ thread, leader ≠ some thread →
      Bystander key before.computed flight (after.callers thread)) :
    Stage key after flight leader := by
  obtain ⟨⟨stored, inflight, futures, _, maxBytes⟩, computed, live⟩ := agrees
  change after.stored key = before.stored key at stored
  refine ⟨?_, ?_⟩
  · have center := stage.center
    match flight, leader with
    | none, none =>
        simpa only [Center, computed, stored, inflight] using center
    | some flight, some thread =>
        obtain ⟨leads, pending⟩ := center
        refine ⟨?_, by rw [futures]; exact pending⟩
        rw [leading thread rfl]
        revert leads
        cases before.callers thread <;>
          simp only [LeaderAt, computed, stored, inflight, TTLCache.Fits,
            maxBytes, false_implies]
        · exact id
        · exact id
        · exact fun h => ⟨h.1, h.2.1, live _ h.2.2.1, h.2.2.2⟩
        · exact fun h => ⟨h.1, h.2.1, live _ h.2.2.1, h.2.2.2⟩
    | some flight, none =>
        obtain ⟨value, once, isLive, noFlight, outcome⟩ := center
        exact ⟨value, computed.trans once, live value isLive,
          inflight.trans noFlight, by rw [futures]; exact outcome⟩
    | none, some _ => exact center.elim
  · intro thread other
    have bystander := others thread other
    revert bystander
    cases after.callers thread <;>
      simp only [Bystander, computed, imp_self]

omit [DecidableEq Thread] in
/-- Between its storing and the end of the run the entry is live; before, the
key is absent. -/
theorem Stage.live_of_stored {key : Key}
    {state : State Thread Key Value Error} {flight : Option Nat}
    {leader : Option Thread} (stage : Stage key state flight leader) :
    ∀ entry, state.stored key = some entry →
      state.now < entry.expires ∧ state.computed = [(key, .ok entry.value)] := by
  intro entry found
  have of_live : ∀ value, state.Live key value →
      state.computed = [(key, .ok value)] →
        state.now < entry.expires ∧
          state.computed = [(key, .ok entry.value)] := by
    rintro value ⟨other, stored, same, live⟩ computed
    rw [found, Option.some.injEq] at stored
    subst stored
    exact ⟨live, same ▸ computed⟩
  have center := stage.center
  match flight, leader with
  | none, none => rw [center.2.1] at found; cases found
  | some flight, some thread =>
      obtain ⟨leads, _⟩ := center
      cases caller : state.callers thread with
      | compute => rw [caller] at leads; rw [leads.2.2.1] at found; cases found
      | put => rw [caller] at leads; rw [leads.2.2.1] at found; cases found
      | unregister =>
          rw [caller] at leads
          exact of_live _ leads.2.2.1 leads.2.1
      | publish =>
          rw [caller] at leads
          exact of_live _ leads.2.2.1 leads.2.1
      | _ => rw [caller] at leads; exact leads.elim
  | some flight, none =>
      obtain ⟨value, computed, live, _⟩ := center
      exact of_live value live computed
  | none, some _ => exact center.elim

omit [DecidableEq Thread] in
theorem Stage.leads {key : Key} {state : State Thread Key Value Error}
    {flight : Option Nat} {thread : Thread}
    (stage : Stage key state flight (some thread)) :
    ∃ led, flight = some led ∧ LeaderAt key state led (state.callers thread) ∧
      state.shared.futures led = some ⟨key, .pending⟩ := by
  have center := stage.center
  cases flight with
  | none => exact center.elim
  | some led => exact ⟨led, rfl, center⟩

theorem Stage.move {key : Key} {state : State Thread Key Value Error}
    {flight : Option Nat} {leader : Option Thread}
    (stage : Stage key state flight leader) {thread : Thread}
    (notLeader : leader ≠ some thread) {caller : Caller Value Error}
    {shared : SharedCache Key Value Error}
    (unchanged : Unchanged key state.shared shared)
    (bystander : Bystander key state.computed flight caller) :
    Stage key { state with
      callers := Function.update state.callers thread caller
      shared := shared } flight leader := by
  refine stage.transfer ⟨unchanged, rfl, ?_⟩ ?_ ?_
  · rintro value ⟨entry, stored, same, live⟩
    exact ⟨entry, unchanged.stored.trans stored, same, live⟩
  · intro other leads
    have differ : other ≠ thread := fun same => notLeader (same ▸ leads)
    exact Function.update_of_ne differ _ _
  · intro other notLeads
    rcases eq_or_ne other thread with rfl | differs
    · simpa using bystander
    · simpa [differs] using stage.others other notLeads

theorem Unchanged.refl (key : Key) (shared : SharedCache Key Value Error) :
    Unchanged key shared shared :=
  ⟨rfl, rfl, rfl, rfl, rfl⟩

omit [DecidableEq Thread] in
theorem Stage.ne_leader {key : Key} {state : State Thread Key Value Error}
    {flight : Option Nat} {leader : Option Thread}
    (stage : Stage key state flight leader) {thread : Thread}
    (apart : ∀ led, ¬ LeaderAt key state led (state.callers thread)) :
    leader ≠ some thread := by
  rintro rfl
  obtain ⟨led, _, leads, _⟩ := stage.leads
  exact apart led leads

theorem Stage.advance_get {key : Key} {state after : State Thread Key Value Error}
    {flight : Option Nat} {leader : Option Thread}
    (stage : Stage key state flight leader) {thread : Thread}
    (caller : state.callers thread = .get)
    (stepped : step (fun _ => key) state (.advance thread) = some after) :
    ∃ flight leader, Stage key after flight leader := by
  have notLeader : leader ≠ some thread :=
    stage.ne_leader fun _ => by rw [caller]; exact id
  have unchanged : Unchanged key state.shared
      (state.shared.get state.now key).2 :=
    get_unchanged fun entry found => (stage.live_of_stored entry found).1
  refine ⟨flight, leader, ?_⟩
  simp only [step, caller, SharedCache.getOrCompute] at stepped
  split at stepped
  next value shared hit =>
    cases stepped
    have result : (state.shared.cache.get state.now key).1 = some value :=
      congrArg Prod.fst hit
    obtain ⟨entry, found, _, isValue⟩ := TTLCache.get_eq_some result
    have computed := (stage.live_of_stored entry found).2
    rw [hit] at unchanged
    exact stage.move notLeader unchanged (isValue ▸ computed)
  next shared miss =>
    cases stepped
    rw [miss] at unchanged
    exact stage.move notLeader unchanged trivial

omit [DecidableEq Thread] in
theorem LeaderAt.registered_or_live {key : Key}
    {state : State Thread Key Value Error} {flight : Nat}
    {caller : Caller Value Error} (leads : LeaderAt key state flight caller) :
    state.shared.inflight key = some flight ∨
      (state.shared.inflight key = none ∧ ∃ value, state.Live key value) := by
  cases caller with
  | compute => exact .inl leads.2.2.2
  | put => exact .inl leads.2.2.2.1
  | unregister => exact .inl leads.2.2.2
  | publish => exact .inr ⟨leads.2.2.2, _, leads.2.2.1⟩
  | _ => exact leads.elim

omit [DecidableEq Thread] in
/-- Without a flight and without an entry nothing was computed yet. -/
theorem Stage.idle_of_absent {key : Key}
    {state : State Thread Key Value Error} {flight : Option Nat}
    {leader : Option Thread} (stage : Stage key state flight leader)
    (noFlight : state.shared.inflight key = none)
    (absent : state.stored key = none) :
    flight = none ∧ leader = none ∧ state.computed = [] := by
  have notLive : ∀ value, ¬ state.Live key value := by
    rintro value ⟨entry, stored, _⟩
    rw [absent] at stored
    cases stored
  have center := stage.center
  match flight, leader with
  | none, none => exact ⟨rfl, rfl, center.1⟩
  | none, some _ => exact center.elim
  | some flight, none =>
      obtain ⟨value, _, live, _⟩ := center
      exact absurd live (notLive value)
  | some flight, some other =>
      rcases center.1.registered_or_live with registered | ⟨_, value, live⟩
      · rw [noFlight] at registered
        cases registered
      · exact absurd live (notLive value)

omit [DecidableEq Thread] in
theorem Stage.flight_of_registered {key : Key}
    {state : State Thread Key Value Error} {flight : Option Nat}
    {leader : Option Thread} (stage : Stage key state flight leader)
    {found : Nat} (registered : state.shared.inflight key = some found) :
    flight = some found := by
  have center := stage.center
  match flight, leader with
  | none, none => rw [center.2.2] at registered; cases registered
  | none, some _ => exact center.elim
  | some flight, none =>
      obtain ⟨_, _, _, noFlight, _⟩ := center
      rw [noFlight] at registered
      cases registered
  | some flight, some other =>
      rcases center.1.registered_or_live with leads | ⟨noFlight, _⟩
      · exact leads.symm.trans registered
      · rw [noFlight] at registered
        cases registered

theorem Stage.advance_lookup {key : Key}
    {state after : State Thread Key Value Error}
    {flight : Option Nat} {leader : Option Thread}
    (stage : Stage key state flight leader) {thread : Thread}
    (caller : state.callers thread = .lookup)
    (timely : state.shared.inflight key = none → state.stored key = none)
    (stepped : step (fun _ => key) state (.advance thread) = some after) :
    ∃ flight leader, Stage key after flight leader := by
  simp only [step, caller, SharedCache.getOrCompute] at stepped
  cases registered : state.shared.inflight key with
  | none =>
      rw [registered] at stepped
      cases stepped
      obtain ⟨rfl, rfl, nothing⟩ :=
        stage.idle_of_absent registered (timely registered)
      refine ⟨some state.shared.nextFuture, some thread, ?_, ?_⟩
      · refine ⟨?_, by simp [SharedCache.register]⟩
        simp only [Function.update_self]
        exact ⟨rfl, nothing, timely registered, by simp [SharedCache.register]⟩
      · intro other differ
        have differ : other ≠ thread := fun same => differ (same ▸ rfl)
        have bystander := stage.others other (by simp)
        simp only [Function.update_of_ne differ]
        revert bystander
        cases state.callers other <;> simp [Bystander, nothing]
  | some found =>
      rw [registered] at stepped
      cases stepped
      have notLeader : leader ≠ some thread := by
        rintro rfl
        obtain ⟨led, _, leads, _⟩ := stage.leads
        rw [caller] at leads
        exact leads
      exact ⟨flight, leader, stage.move notLeader ⟨rfl, rfl, rfl, rfl, rfl⟩
        (stage.flight_of_registered registered)⟩

theorem Stage.advance_follow {key : Key}
    {state after : State Thread Key Value Error}
    {flight : Option Nat} {leader : Option Thread}
    (stage : Stage key state flight leader) {thread : Thread} {followed : Nat}
    (caller : state.callers thread = .follow followed)
    (stepped : step (fun _ => key) state (.advance thread) = some after) :
    ∃ flight leader, Stage key after flight leader := by
  have notLeader : leader ≠ some thread :=
    stage.ne_leader fun _ => by rw [caller]; exact id
  have follows := stage.others thread notLeader
  rw [caller] at follows
  have center := stage.center
  change flight = some followed at follows
  subst follows
  simp only [step, caller, SharedCache.getOrCompute] at stepped
  cases leader with
  | some other =>
      rw [center.2] at stepped
      cases stepped
  | none =>
      obtain ⟨value, computed, _, _, outcome⟩ := center
      rw [outcome] at stepped
      cases stepped
      exact ⟨some followed, none,
        stage.move notLeader (.refl key state.shared) computed⟩

/-- The leader stores, removes the flight and publishes, in this order. -/
theorem Stage.advance_leader {key : Key}
    {state after : State Thread Key Value Error} {led : Nat} {leader : Thread}
    (stage : Stage key state (some led) (some leader))
    (ttl : 0 < state.shared.cache.ttl)
    (stepped : step (fun _ => key) state (.advance leader) = some after) :
    ∃ flight leader, Stage key after flight leader := by
  obtain ⟨leads, pending⟩ := stage.center
  have bystanders : ∀ caller shared, after = { state with
        callers := Function.update state.callers leader caller
        shared := shared } →
      ∀ other, some leader ≠ some other →
        Bystander key after.computed (some led) (after.callers other) := by
    intro caller shared moved other differ
    have differ' : other ≠ leader := fun same => differ (same ▸ rfl)
    have bystander := stage.others other differ
    subst moved
    simpa only [Function.update_of_ne differ'] using bystander
  cases caller : state.callers leader with
  | put flight value nbytes =>
      rw [caller] at leads
      obtain ⟨rfl, computed, absent, registered, fits⟩ := leads
      simp only [step, caller, SharedCache.getOrCompute, Option.map_some,
        Option.some.injEq] at stepped
      have spec := state.shared.putCache_spec state.now key value nbytes
      refine ⟨some flight, some leader, ⟨?_, ?_⟩,
        bystanders _ _ stepped.symm⟩
      · subst stepped
        simp only [Function.update_self]
        exact ⟨rfl, computed, ⟨_, spec.stored fits, rfl, by simpa using ttl⟩,
          registered⟩
      · subst stepped
        exact pending
  | unregister flight value =>
      rw [caller] at leads
      obtain ⟨rfl, computed, live, _⟩ := leads
      simp only [step, caller, SharedCache.getOrCompute, Option.map_some,
        Option.some.injEq] at stepped
      refine ⟨some flight, some leader, ⟨?_, ?_⟩,
        bystanders _ _ stepped.symm⟩
      · subst stepped
        simp only [Function.update_self]
        exact ⟨rfl, computed, live, by simp [SharedCache.unregister]⟩
      · subst stepped
        exact pending
  | publish flight value =>
      rw [caller] at leads
      obtain ⟨rfl, computed, live, noFlight⟩ := leads
      simp only [step, caller, SharedCache.getOrCompute, Option.map_some,
        Option.some.injEq] at stepped
      have others := bystanders _ _ stepped.symm
      subst stepped
      refine ⟨some flight, none, ?_, ?_⟩
      · exact ⟨value, computed, live, noFlight,
          by simp [SharedCache.complete]⟩
      · intro other _
        rcases eq_or_ne other leader with rfl | differs
        · simpa [Bystander] using computed
        · exact others other fun eq => differs (Option.some.inj eq).symm
  | compute flight =>
      simp [step, caller, SharedCache.getOrCompute] at stepped
  | _ => rw [caller] at leads; exact leads.elim

theorem Stage.compute {key : Key} {state after : State Thread Key Value Error}
    {flight : Option Nat} {leader : Option Thread}
    (stage : Stage key state flight leader) {thread : Thread}
    {outcome : Except Error (Option Value × Nat)}
    (undisturbed : Undisturbed key state (.compute thread outcome))
    (stepped : step (fun _ => key) state (.compute thread outcome) =
      some after) :
    ∃ flight leader, Stage key after flight leader := by
  cases caller : state.callers thread with
  | compute computing =>
      have isLeader : leader = some thread := by
        by_contra other
        have bystander := stage.others thread other
        rw [caller] at bystander
        exact bystander
      subst isLeader
      obtain ⟨led, rfl, leads, pending⟩ := stage.leads
      rw [caller] at leads
      obtain ⟨rfl, nothing, absent, registered⟩ := leads
      match outcome with
      | .error error => exact undisturbed.elim
      | .ok (value, nbytes) =>
          simp only [step, caller, SharedCache.computed, Option.map_some,
            Option.some.injEq] at stepped
          subst stepped
          refine ⟨some computing, some thread, ⟨?_, pending⟩, ?_⟩
          · simp only [Function.update_self, nothing]
            exact ⟨rfl, rfl, absent, registered, undisturbed⟩
          · intro other differ
            have bystander := stage.others other differ
            have differ : other ≠ thread := fun same => differ (same ▸ rfl)
            simp only [Function.update_of_ne differ, nothing] at bystander ⊢
            revert bystander
            cases state.callers other <;> simp [Bystander]
  | _ => simp [step, caller, SharedCache.computed] at stepped

omit [DecidableEq Thread] in
theorem Stage.tick {key : Key} {state : State Thread Key Value Error}
    {flight : Option Nat} {leader : Option Thread}
    (stage : Stage key state flight leader) {elapsed : Nat}
    (undisturbed : Undisturbed key state (.tick elapsed)) :
    Stage key { state with now := state.now + elapsed } flight leader := by
  refine stage.transfer ⟨.refl key state.shared, rfl, ?_⟩ (fun _ _ => rfl)
    stage.others
  rintro value ⟨entry, stored, same, _⟩
  exact ⟨entry, stored, same, undisturbed entry stored⟩

omit [DecidableEq Thread] in
theorem Stage.other {key : Key} {state : State Thread Key Value Error}
    {flight : Option Nat} {leader : Option Thread}
    (stage : Stage key state flight leader) {operation : Operation Key Value}
    (undisturbed : Undisturbed key state (.other operation)) :
    Stage key
      { state with shared := operation.apply state.now state.shared }
      flight leader := by
  have unchanged := Operation.apply_unchanged undisturbed
  refine stage.transfer ⟨unchanged, rfl, ?_⟩ (fun _ _ => rfl) stage.others
  rintro value ⟨entry, stored, same, live⟩
  exact ⟨entry, unchanged.stored.trans stored, same, live⟩

/-- The run is in one of its stages; the time to live is positive. -/
def Staged (key : Key) (state : State Thread Key Value Error) : Prop :=
  (∃ flight leader, Stage key state flight leader) ∧ 0 < state.shared.cache.ttl

omit [DecidableEq Thread] in
theorem staged_of_initial {key : Key} {state : State Thread Key Value Error}
    (initial : Initial state) (absent : state.stored key = none) :
    Staged key state := by
  obtain ⟨noFlights, atGet, nothing, ttl⟩ := initial
  refine ⟨⟨none, none, ⟨nothing, absent, noFlights key⟩, ?_⟩, ttl⟩
  intro thread _
  rw [atGet thread]
  trivial

theorem Staged.step {key : Key} {state after : State Thread Key Value Error}
    {label : Label Thread Key Value Error} (staged : Staged key state)
    (undisturbed : Undisturbed key state label)
    (timely : Timely key state label)
    (stepped : step (fun _ => key) state label = some after) :
    Staged key after := by
  obtain ⟨⟨flight, leader, stage⟩, ttl⟩ := staged
  cases label with
  | tick elapsed =>
      cases stepped
      exact ⟨⟨flight, leader, stage.tick undisturbed⟩, ttl⟩
  | other operation =>
      cases stepped
      refine ⟨⟨flight, leader, stage.other undisturbed⟩, ?_⟩
      rw [(Operation.apply_unchanged undisturbed).ttl]
      exact ttl
  | compute thread outcome =>
      refine ⟨stage.compute undisturbed stepped, ?_⟩
      simp only [SingleFlight.step, Option.map_eq_some_iff] at stepped
      obtain ⟨_, _, rfl⟩ := stepped
      exact ttl
  | advance thread =>
      constructor
      · cases caller : state.callers thread with
        | get => exact stage.advance_get caller stepped
        | lookup =>
            simp only [Timely, caller] at timely
            exact stage.advance_lookup caller timely stepped
        | follow followed => exact stage.advance_follow caller stepped
        | _ =>
            by_cases leads : leader = some thread
            · subst leads
              obtain ⟨led, rfl, _⟩ := stage.leads
              exact stage.advance_leader ttl stepped
            · have bystander := stage.others thread leads
              rw [caller] at bystander
              first
                | exact bystander.elim
                | simp [SingleFlight.step, caller, SharedCache.getOrCompute]
                    at stepped
      · simp only [SingleFlight.step, Option.map_eq_some_iff] at stepped
        obtain ⟨moved, moves, rfl⟩ := stepped
        rw [(SharedCache.getOrCompute_bounds moves).1]
        exact ttl

omit [DecidableEq Thread] in
/-- When every caller has ended, a staged run has computed once. -/
theorem Staged.computedOnce [Nonempty Thread] {key : Key}
    {state : State Thread Key Value Error} (staged : Staged key state)
    (ended : ∀ thread, (state.callers thread).Ended) :
    ComputedOnce key state := by
  obtain ⟨⟨flight, leader, stage⟩, _⟩ := staged
  have noLeader : ∀ thread, leader ≠ some thread := by
    rintro thread rfl
    obtain ⟨led, _, leads, _⟩ := stage.leads
    have finished := ended thread
    revert leads finished
    cases state.callers thread <;> simp [LeaderAt, Caller.Ended]
  have values : ∀ thread, ∃ value fromCache,
      state.callers thread = .returned value fromCache ∧
        state.computed = [(key, .ok value)] := by
    intro thread
    have bystander := stage.others thread (noLeader thread)
    have finished := ended thread
    revert bystander finished
    cases state.callers thread <;> simp [Bystander, Caller.Ended]
  obtain ⟨thread⟩ := ‹Nonempty Thread›
  obtain ⟨value, _, _, computed⟩ := values thread
  refine ⟨value, computed, fun other => ?_⟩
  obtain ⟨otherValue, fromCache, returned, same⟩ := values other
  rw [computed] at same
  cases same
  exact ⟨fromCache, returned⟩

/-- Whoever holds a computed value, and the cache, holds it because some
`compute()` has ended. -/
structure Traced (key : Key) (state : State Thread Key Value Error) : Prop where
  callers : ∀ thread flight value nbytes,
    state.callers thread = .put flight value nbytes → state.computed ≠ []
  stored : ∀ entry, state.stored key = some entry → state.computed ≠ []

theorem Traced.step {key : Key} {state after : State Thread Key Value Error}
    {label : Label Thread Key Value Error} (traced : Traced key state)
    (undisturbed : Undisturbed key state label)
    (stepped : step (fun _ => key) state label = some after) :
    Traced key after := by
  cases label with
  | tick elapsed =>
      cases stepped
      exact ⟨traced.callers, traced.stored⟩
  | other operation =>
      cases stepped
      refine ⟨traced.callers, fun entry found => traced.stored entry ?_⟩
      exact (Operation.apply_unchanged undisturbed).stored.symm.trans found
  | compute thread outcome =>
      simp only [SingleFlight.step, Option.map_eq_some_iff] at stepped
      obtain ⟨caller, _, rfl⟩ := stepped
      exact ⟨fun _ _ _ _ _ => List.cons_ne_nil _ _,
        fun _ _ => List.cons_ne_nil _ _⟩
  | advance thread =>
      simp only [SingleFlight.step, Option.map_eq_some_iff] at stepped
      obtain ⟨⟨caller, shared⟩, moves, rfl⟩ := stepped
      have notPut : ∀ flight value nbytes, caller ≠ .put flight value nbytes := by
        rintro flight value nbytes rfl
        unfold SharedCache.getOrCompute at moves
        split at moves <;> first | cases moves | (split at moves <;> cases moves)
      constructor
      · intro other flight value nbytes puts
        rcases eq_or_ne other thread with rfl | differs
        · simp only [Function.update_self] at puts
          exact absurd puts (notPut _ _ _)
        · simp only [Function.update_of_ne differs] at puts
          exact traced.callers _ _ _ _ puts
      · intro entry found
        by_cases before : ∃ old, state.stored key = some old
        · obtain ⟨old, stored⟩ := before
          exact traced.stored old stored
        · -- only `put` can have stored the key
          cases place : state.callers thread with
          | put flight value nbytes => exact traced.callers _ _ _ _ place
          | get =>
              have : shared = (state.shared.get state.now key).2 := by
                simp only [place, SharedCache.getOrCompute] at moves
                split at moves <;> next got =>
                  cases moves
                  exact (congrArg Prod.snd got).symm
              subst this
              exact absurd ⟨entry, ((TTLCache.get?_get _ _ _ _ _).mp found).1⟩
                before
          | _ =>
              refine absurd ⟨entry, ?_⟩ before
              simp only [place, SharedCache.getOrCompute] at moves
              first
                | (cases moves; done)
                | (cases moves; exact found)
                | (split at moves <;> cases moves <;> exact found)

/-- A second execution of `compute()` has happened or is bound to happen. -/
def Late (state : State Thread Key Value Error) : Prop :=
  2 ≤ state.computed.length ∨
    (state.computed ≠ [] ∧
      ∃ thread flight, state.callers thread = .compute flight)

theorem Late.step {key : Key} {state after : State Thread Key Value Error}
    {label : Label Thread Key Value Error} (late : Late state)
    (stepped : step (fun _ => key) state label = some after) : Late after := by
  cases label with
  | tick elapsed => cases stepped; exact late
  | other operation => cases stepped; exact late
  | compute thread outcome =>
      simp only [SingleFlight.step, Option.map_eq_some_iff] at stepped
      obtain ⟨caller, _, rfl⟩ := stepped
      left
      have some_computed : state.computed ≠ [] := by
        rcases late with twice | ⟨once, _⟩
        · intro nothing
          rw [nothing] at twice
          simp at twice
        · exact once
      have := List.length_pos_of_ne_nil some_computed
      simp only [List.length_cons]
      omega
  | advance thread =>
      simp only [SingleFlight.step, Option.map_eq_some_iff] at stepped
      obtain ⟨⟨caller, shared⟩, moves, rfl⟩ := stepped
      rcases late with twice | ⟨once, other, flight, computes⟩
      · exact .inl twice
      · refine .inr ⟨once, other, flight, ?_⟩
        have differ : other ≠ thread := by
          rintro rfl
          rw [computes] at moves
          cases moves
        simpa [Function.update_of_ne differ] using computes

theorem late_of_untimely {key : Key} {state after : State Thread Key Value Error}
    {label : Label Thread Key Value Error} (traced : Traced key state)
    (untimely : ¬ Timely key state label)
    (stepped : step (fun _ => key) state label = some after) : Late after := by
  cases label with
  | advance thread =>
      cases place : state.callers thread with
      | lookup =>
          simp only [Timely, place, Classical.not_imp] at untimely
          obtain ⟨noFlight, stored⟩ := untimely
          obtain ⟨entry, found⟩ := Option.ne_none_iff_exists'.mp stored
          simp only [SingleFlight.step, place, SharedCache.getOrCompute,
            noFlight, Option.map_some, Option.some.injEq] at stepped
          subst stepped
          exact .inr ⟨traced.stored entry found, thread, _,
            Function.update_self ..⟩
      | _ => simp [Timely, place] at untimely
  | _ => exact absurd trivial untimely

/-- A burst of calls that have all ended computed once for all of them exactly
if no caller registered a flight while the key was stored. -/
theorem computedOnce_iff_timely [Nonempty Thread] (key : Key)
    {start final : State Thread Key Value Error}
    {schedule : List (Label Thread Key Value Error)}
    (initial : (system fun _ => key).init start)
    (absent : start.stored key = none)
    (undisturbed : (system fun _ => key).Meets (Undisturbed key) start schedule)
    (ran : (system fun _ => key).run start schedule = some final)
    (ended : ∀ thread, (final.callers thread).Ended) :
    ComputedOnce key final ↔
      (system fun _ => key).Meets (Timely key) start schedule := by
  constructor
  · rintro ⟨value, once, _⟩
    by_contra untimely
    obtain ⟨before, label, rest, middle, after, split, toMiddle, offends,
      stepped, fromAfter⟩ := StepSystem.exists_offending ran untimely
    have tracedStart : Traced key start := by
      obtain ⟨_, atGet, _, _⟩ := initial
      constructor
      · intro thread flight value nbytes puts
        rw [atGet thread] at puts
        cases puts
      · intro entry found
        rw [absent] at found
        cases found
    have traced : Traced key middle :=
      StepSystem.run_preserves
        (fun _ _ _ traced undisturbed stepped =>
          traced.step undisturbed stepped)
        (StepSystem.Meets.left (split ▸ undisturbed)) toMiddle tracedStart
    have late : Late final :=
      StepSystem.run_preserves
        (fun _ _ _ late _ stepped => late.step stepped)
        (StepSystem.Meets.any _ _ _) fromAfter
        (late_of_untimely traced offends stepped)
    rcases late with twice | ⟨_, thread, flight, computes⟩
    · rw [once] at twice
      simp at twice
    · have finished := ended thread
      rw [computes] at finished
      exact finished
  · intro timely
    have staged : Staged key final :=
      StepSystem.run_preserves
        (fun _ _ _ staged allowed stepped =>
          staged.step allowed.1 allowed.2 stepped)
        (undisturbed.and timely) ran (staged_of_initial initial absent)
    exact staged.computedOnce ended

/-- Two callers on an empty cache. -/
def twoCallers : State Bool String Nat Unit where
  now := 0
  shared := .new 60 100
  callers := fun _ => .get
  computed := []

/-- The second caller looks for a flight after the first has removed its. -/
def lateLookup : List (Label Bool String Nat Unit) :=
  [.advance false, .advance true, .advance false,
    .compute false (.ok (some 1, 10)), .advance false, .advance false,
    .advance false, .advance true, .compute true (.ok (some 2, 10)),
    .advance true, .advance true, .advance true]

/-- The second caller looks for a flight while the first computes. -/
def timelyLookup : List (Label Bool String Nat Unit) :=
  [.advance false, .advance true, .advance false, .advance true,
    .compute false (.ok (some 1, 10)), .advance false, .advance false,
    .advance false, .advance true]

theorem twoCallers_initial : Initial twoCallers :=
  ⟨fun _ => rfl, fun _ => rfl, rfl, by decide⟩

theorem lateLookup_computes_twice :
    ∃ final,
      (system fun _ => "/a").init twoCallers ∧
        twoCallers.stored "/a" = none ∧
        (system fun _ => "/a").Meets (Undisturbed "/a") twoCallers lateLookup ∧
        (system fun _ => "/a").run twoCallers lateLookup = some final ∧
        (∀ thread, (final.callers thread).Ended) ∧
        final.callers false = .returned (some 1) false ∧
        final.callers true = .returned (some 2) false ∧
        ¬ ComputedOnce "/a" final := by
  refine ⟨_, twoCallers_initial, rfl, ?_, rfl, ?_, rfl, rfl, ?_⟩
  · have fits : 10 ≤ 100 := by decide
    exact .cons trivial rfl <| .cons trivial rfl <| .cons trivial rfl <|
      .cons (.inr fits) rfl <| .cons trivial rfl <| .cons trivial rfl <|
      .cons trivial rfl <| .cons trivial rfl <| .cons (.inr fits) rfl <|
      .cons trivial rfl <| .cons trivial rfl <| .cons trivial rfl trivial
  · intro thread
    cases thread <;> trivial
  · rintro ⟨value, once, _⟩
    cases once

theorem timelyLookup_computes_once :
    ∃ final,
      (system fun _ => "/a").run twoCallers timelyLookup = some final ∧
        ComputedOnce "/a" final ∧
        (ComputedOnce "/a" final ↔
          (system fun _ => "/a").Meets (Timely "/a") twoCallers
            timelyLookup) := by
  refine ⟨_, rfl, ⟨some 1, rfl, ?_⟩, computedOnce_iff_timely "/a"
    twoCallers_initial rfl ?_ rfl ?_⟩
  · intro thread
    cases thread
    · exact ⟨false, rfl⟩
    · exact ⟨true, rfl⟩
  · have fits : 10 ≤ 100 := by decide
    exact .cons trivial rfl <| .cons trivial rfl <| .cons trivial rfl <|
      .cons trivial rfl <| .cons (.inr fits) rfl <| .cons trivial rfl <|
      .cons trivial rfl <| .cons trivial rfl <| .cons trivial rfl trivial
  · intro thread
    cases thread <;> trivial

end Catwalk.SingleFlight
