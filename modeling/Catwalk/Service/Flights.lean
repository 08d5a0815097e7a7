import Catwalk.Service.Contents
import Catwalk.Service.Steps

/-! Who leads a flight, who holds a query slot, and what a request that gave up
a join depends on. -/

namespace Catwalk.Service

/-- Nothing is handed on without a value. -/
def valued : Contract where
  listing _ value := value.isSome = true
  rollup _ _ := True
  source _ _ := True

theorem valued_kept (setting : Setting) :
    valued.Kept setting StepSystem.AnyStep where
  catalog _ _ _ _ _ _ _ _ := trivial
  rows _ _ _ _ _ _ _ _ _ _ _ := rfl
  derive _ _ _ _ _ _ _ := rfl
  rollup _ _ _ _ _ _ _ _ _ _ := trivial

/-- When a join is given up, the prefetch does not lead the request's flight and
does not hold the only query slot; and while the request waits, the prefetch
does not register the flight the request is about to look up and does not take
the only slot. -/
def StaysApart (cfg : Config) (state : State) : Label → Prop
  | .timeout id => ∀ task worker, state.task id = some task →
      task.place = .join worker →
        (∀ flight, state.listings.inflight task.key = some flight →
          (state.view worker).leads ≠ some flight) ∧
        (cfg.queryThreads = some 1 → (state.view worker).inGate = false)
  | .advance worker => ∀ id await,
      (state.view id).awaits = some (worker, await) →
        (∀ task, state.task worker = some task → task.place = .caching .lookup →
          await = .lookup task.key →
            state.listings.inflight task.key ≠ none) ∧
        (cfg.queryThreads = some 1 → ∀ activity,
          state.activity worker = some activity → activity.atGate = false)
  | _ => True

/-- Who is inside the query gate. -/
structure GateHeld (slots : Nat) (state : State) : Prop where
  nodup : state.gate.Nodup
  within : state.gate.length ≤ slots
  held_iff : ∀ id, id ∈ state.gate ↔ (state.view id).inGate = true

/-- Every flight that is not done has a leader, and the gate knows who is inside
it. -/
structure Tended (cfg : Config) (state : State) : Prop where
  led : ∀ flight key, state.listings.futures flight = some ⟨key, .pending⟩ →
    ∃ id, (state.view id).leads = some flight
  gate : ∀ slots, cfg.queryThreads = some slots → GateHeld slots state

/-- Every flight that is not done has a leader, and no request that gave up on a
prefetch depends on a flight or the only query slot of that prefetch. -/
structure Orderly (cfg : Config) (state : State) : Prop where
  led : ∀ flight key, state.listings.futures flight = some ⟨key, .pending⟩ →
    ∃ id, (state.view id).leads = some flight
  gate : ∀ slots, cfg.queryThreads = some slots → GateHeld slots state
  lookup : ∀ id worker key, (state.view id).awaits = some (worker, .lookup key) →
    ∀ flight, state.listings.inflight key = some flight →
      (state.view worker).leads ≠ some flight
  follow : ∀ id worker flight,
    (state.view id).awaits = some (worker, .flight flight) →
      (state.view worker).leads ≠ some flight
  slot : cfg.queryThreads = some 1 → ∀ id worker await,
    (state.view id).awaits = some (worker, await) →
      (state.view worker).inGate = false

variable {setting : Setting} {state after : State}

theorem SharedCache.Names.lt {contract : Contract} {flight : Nat}
    {key : ListingKey} (holds : state.Holds contract)
    (names : state.listings.Names flight key) :
    flight < state.listings.nextFuture := by
  obtain ⟨outcome, found⟩ := names
  by_contra later
  rw [holds.listings.fresh flight (Nat.le_of_not_lt later)] at found
  cases found

theorem State.Holds.names_led {contract : Contract} {id flight : Nat}
    {task : Task} (holds : state.Holds contract)
    (found : state.task id = some task)
    (leads : task.place.leads = some flight) :
    state.listings.Names flight task.key := by
  have carries := holds.task found
  cases place : task.place with
  | caching caller =>
      rw [place] at carries leads
      have carries := carries.caller
      cases caller <;> cases leads <;>
        first | exact carries | exact carries.1
  | query led stage =>
      rw [place] at carries leads
      exact carries.1 flight leads
  | _ =>
      rw [place] at leads
      cases leads

theorem State.view_leads {id flight : Nat}
    (leads : (state.view id).leads = some flight) :
    ∃ task, state.task id = some task ∧ task.place.leads = some flight := by
  unfold State.view at leads
  split at leads
  next activity found =>
    cases activity with
    | listing task => exact ⟨task, State.task_eq_some.mpr found, leads⟩
    | rollup task => cases leads
  · cases leads

theorem State.view_awaits {id worker : Nat} {await : Await}
    (awaits : (state.view id).awaits = some (worker, await)) :
    ∃ task, state.task id = some task ∧ task.timedOut = some worker ∧
      task.place.awaits task.key = some await := by
  unfold State.view at awaits
  split at awaits
  next activity found =>
    cases activity with
    | listing task =>
        obtain ⟨other, timedOut, awaits⟩ := Option.bind_eq_some_iff.mp awaits
        obtain ⟨waits, awaits, same⟩ := Option.map_eq_some_iff.mp awaits
        cases same
        exact ⟨task, State.task_eq_some.mpr found, timedOut, awaits⟩
    | rollup task => cases awaits
  · cases awaits

theorem State.Holds.led_lt {contract : Contract} {id flight : Nat}
    (holds : state.Holds contract)
    (leads : (state.view id).leads = some flight) :
    flight < state.listings.nextFuture := by
  obtain ⟨task, found, leads⟩ := State.view_leads leads
  exact SharedCache.Names.lt holds (holds.names_led found leads)

theorem State.Holds.followed_lt {contract : Contract} {id worker flight : Nat}
    (holds : state.Holds contract)
    (awaits : (state.view id).awaits = some (worker, .flight flight)) :
    flight < state.listings.nextFuture := by
  obtain ⟨task, found, _, awaits⟩ := State.view_awaits awaits
  have carries := holds.task found
  cases place : task.place with
  | caching caller =>
      rw [place] at carries awaits
      have carries := carries.caller
      cases caller <;> cases awaits
      exact SharedCache.Names.lt holds carries
  | query led stage =>
      rw [place] at awaits
      cases stage <;> cases led <;> cases awaits
  | _ =>
      rw [place] at awaits
      cases awaits

/-- A step that changes no flight, no leader and no slot. -/
structure Calm (state after : State) : Prop where
  flights : SameFlights state after
  leads : ∀ id, (after.view id).leads = (state.view id).leads
  awaits : ∀ id, (after.view id).awaits = none ∨
    (after.view id).awaits = (state.view id).awaits

theorem Quiet.calm (quiet : Quiet state after) : Calm state after where
  flights := quiet.flights
  leads id := (quiet.view id).leads
  awaits id := (quiet.view id).awaits

theorem Orderly.tended {cfg : Config} (orderly : Orderly cfg state) :
    Tended cfg state :=
  ⟨orderly.led, orderly.gate⟩

theorem GateHeld.of_same {slots : Nat} (held : GateHeld slots state)
    (gate : after.gate = state.gate)
    (inGate : ∀ id, (after.view id).inGate = (state.view id).inGate) :
    GateHeld slots after where
  nodup := gate ▸ held.nodup
  within := gate ▸ held.within
  held_iff id := by
    rw [gate, inGate]
    exact held.held_iff id

theorem Calm.tended {cfg : Config} (calm : Calm state after)
    (tended : Tended cfg state)
    (gate : ∀ slots, cfg.queryThreads = some slots → GateHeld slots after) :
    Tended cfg after where
  led flight key pending := by
    rw [calm.flights.futures] at pending
    obtain ⟨id, leads⟩ := tended.led flight key pending
    exact ⟨id, (calm.leads id).trans leads⟩
  gate := gate

theorem Calm.tended_outside {cfg : Config} (calm : Calm state after)
    (tended : Tended cfg state) (gate : after.gate = state.gate)
    (inGate : ∀ id, (after.view id).inGate = (state.view id).inGate) :
    Tended cfg after :=
  calm.tended tended fun slots gated =>
    (tended.gate slots gated).of_same gate inGate

theorem Calm.orderly {cfg : Config} (calm : Calm state after)
    (orderly : Orderly cfg state) (tended : Tended cfg after)
    (slot : cfg.queryThreads = some 1 → ∀ id worker await,
      (state.view id).awaits = some (worker, await) →
        (after.view worker).inGate = false) : Orderly cfg after := by
  have awaits : ∀ {id await}, (after.view id).awaits = some await →
      (state.view id).awaits = some await := by
    intro id await found
    rcases calm.awaits id with none | same
    · rw [none] at found
      cases found
    · rw [← same, found]
  refine ⟨tended.led, tended.gate, ?_, ?_, ?_⟩
  · intro id worker key waits flight registered
    rw [calm.flights.inflight] at registered
    rw [calm.leads]
    exact orderly.lookup id worker key (awaits waits) flight registered
  · intro id worker flight waits
    rw [calm.leads]
    exact orderly.follow id worker flight (awaits waits)
  · intro single id worker await waits
    exact slot single id worker await (awaits waits)

theorem Calm.orderly_outside {cfg : Config} (calm : Calm state after)
    (orderly : Orderly cfg state) (tended : Tended cfg after)
    (inGate : ∀ id, (after.view id).inGate = (state.view id).inGate) :
    Orderly cfg after := by
  refine calm.orderly orderly tended ?_
  intro single id worker await waits
  rw [inGate]
  exact orderly.slot single id worker await waits

theorem Turns.calm {id : Nat} {view : View} (turns : Turns state after id view)
    (flights : SameFlights state after)
    (leads : view.leads = (state.view id).leads)
    (awaits : view.awaits = none ∨ view.awaits = (state.view id).awaits) :
    Calm state after where
  flights := flights
  leads other := by
    rcases eq_or_ne other id with rfl | differs
    · rw [turns.self, leads]
    · rw [turns.others other differs]
  awaits other := by
    rcases eq_or_ne other id with rfl | differs
    · rw [turns.self]
      exact awaits
    · exact .inr (congrArg View.awaits (turns.others other differs))

theorem Turns.inGate {id : Nat} {view : View} (turns : Turns state after id view)
    (inGate : view.inGate = (state.view id).inGate) (other : Nat) :
    (after.view other).inGate = (state.view other).inGate := by
  rcases eq_or_ne other id with rfl | differs
  · rw [turns.self, inGate]
  · rw [turns.others other differs]

theorem State.acquire_gate {id slots : Nat}
    (gated : setting.cfg.queryThreads = some slots)
    (acquired : state.acquire setting.cfg id = some after) :
    state.gate.length < slots ∧ after.gate = id :: state.gate := by
  unfold State.acquire at acquired
  rw [gated] at acquired
  simp only at acquired
  split at acquired
  next free =>
    cases acquired
    exact ⟨free, rfl⟩
  · cases acquired

theorem tended_enter {id : Nat} {middle : State}
    (tended : Tended setting.cfg state)
    (acquired : state.acquire setting.cfg id = some middle)
    (flights : SameFlights state after) (gate : after.gate = middle.gate)
    (before : (state.view id).inGate = false)
    (turns : Turns state after id { state.view id with
      inGate := true
      awaits := none }) : Tended setting.cfg after := by
  apply (turns.calm flights rfl (.inl rfl)).tended tended
  intro slots gated
  obtain ⟨free, entered⟩ := State.acquire_gate gated acquired
  have held := tended.gate slots gated
  have outside : id ∉ state.gate := by
    rw [held.held_iff, before]
    exact Bool.false_ne_true
  refine ⟨?_, ?_, fun other => ?_⟩
  · rw [gate, entered]
    exact List.nodup_cons.mpr ⟨outside, held.nodup⟩
  · rw [gate, entered]
    exact free
  · rw [gate, entered, List.mem_cons, held.held_iff]
    rcases eq_or_ne other id with rfl | differs
    · simp [turns.self]
    · simp [differs, turns.others other differs]

theorem tended_leave {cfg : Config} {id : Nat} (tended : Tended cfg state)
    (flights : SameFlights state after) (gate : after.gate = state.gate.erase id)
    (turns : Turns state after id { state.view id with
      inGate := false
      awaits := none }) : Tended cfg after := by
  apply (turns.calm flights rfl (.inl rfl)).tended tended
  intro slots gated
  have held := tended.gate slots gated
  refine ⟨?_, ?_, fun other => ?_⟩
  · rw [gate]
    exact held.nodup.erase id
  · rw [gate]
    exact (List.length_erase_le).trans held.within
  · rw [gate, held.nodup.mem_erase_iff, held.held_iff]
    rcases eq_or_ne other id with rfl | differs
    · simp [turns.self]
    · simp [differs, turns.others other differs]

theorem orderly_enter {id : Nat} {activity : Activity}
    (orderly : Orderly setting.cfg state)
    (apart : StaysApart setting.cfg state (.advance id))
    (found : state.activity id = some activity)
    (atGate : activity.atGate = true) (tended : Tended setting.cfg after)
    (flights : SameFlights state after)
    (turns : Turns state after id { state.view id with
      inGate := true
      awaits := none }) : Orderly setting.cfg after := by
  apply (turns.calm flights rfl (.inl rfl)).orderly orderly tended
  intro single other worker await waits
  rcases eq_or_ne worker id with rfl | differs
  · have asks := (apart other await waits).2 single activity found
    rw [atGate] at asks
    cases asks
  · rw [turns.others worker differs]
    exact orderly.slot single other worker await waits

theorem orderly_leave {cfg : Config} {id : Nat} (orderly : Orderly cfg state)
    (tended : Tended cfg after) (flights : SameFlights state after)
    (turns : Turns state after id { state.view id with
      inGate := false
      awaits := none }) : Orderly cfg after := by
  apply (turns.calm flights rfl (.inl rfl)).orderly orderly tended
  intro single other worker await waits
  rcases eq_or_ne worker id with rfl | differs
  · rw [turns.self]
  · rw [turns.others worker differs]
    exact orderly.slot single other worker await waits

theorem Turns.timeout {id future : Nat} {task : Task}
    (found : state.task id = some task) (place : task.place = .join future) :
    Turns state (state.enterCache id task (some future)) id
      { state.view id with awaits := some (future, .lookup task.key) } := by
  rw [State.view_of_task found, Task.view, Task.keyed, place]
  exact .of_setActivity rfl rfl (State.task_eq_some.mp found)

theorem tended_timeout {cfg : Config} {id future : Nat} {task : Task}
    (tended : Tended cfg state) (found : state.task id = some task)
    (place : task.place = .join future) :
    Tended cfg (state.enterCache id task (some future)) := by
  have turns := Turns.timeout found place
  constructor
  · intro flight key pending
    obtain ⟨other, led⟩ := tended.led flight key pending
    refine ⟨other, ?_⟩
    by_cases same : other = id
    · rw [same] at led ⊢
      rw [turns.self, led]
    · rw [turns.others other same, led]
  · intro slots gated
    exact (tended.gate slots gated).of_same rfl (turns.inGate rfl)

/-- A request that gives up a join may have to wait for what is registered. -/
theorem orderly_timeout {cfg : Config} {id future : Nat} {task : Task}
    (orderly : Orderly cfg state) (apart : StaysApart cfg state (.timeout id))
    (found : state.task id = some task) (place : task.place = .join future)
    (tended : Tended cfg (state.enterCache id task (some future))) :
    Orderly cfg (state.enterCache id task (some future)) := by
  obtain ⟨unled, unheld⟩ := apart task future found place
  have turns := Turns.timeout found place
  have leads : ∀ other, ((state.enterCache id task (some future)).view
      other).leads = (state.view other).leads := by
    intro other
    rcases eq_or_ne other id with rfl | differs
    · rw [turns.self]
    · rw [turns.others other differs]
  refine ⟨tended.led, tended.gate, ?_, ?_, ?_⟩
  · intro other worker key waits flight registered
    rw [leads]
    rcases eq_or_ne other id with rfl | differs
    · rw [turns.self] at waits
      cases waits
      exact unled flight registered
    · rw [turns.others other differs] at waits
      exact orderly.lookup other worker key waits flight registered
  · intro other worker flight waits
    rw [leads]
    rcases eq_or_ne other id with rfl | differs
    · rw [turns.self] at waits
      cases waits
    · rw [turns.others other differs] at waits
      exact orderly.follow other worker flight waits
  · intro single other worker await waits
    rw [turns.inGate rfl]
    rcases eq_or_ne other id with rfl | differs
    · rw [turns.self] at waits
      cases waits
      exact unheld single
    · rw [turns.others other differs] at waits
      exact orderly.slot single other worker await waits

/-- The view of a task at a caller of `get_or_compute`. -/
structure CachingView (task : Task) (caller : Caller Cached String)
    (view : View) : Prop where
  leads : view.leads = caller.leads
  inGate : view.inGate = false
  awaits : ∀ worker await, view.awaits = some (worker, await) →
    task.timedOut = some worker ∧
      ((caller = .get ∨ caller = .lookup) ∧ await = .lookup task.key ∨
        (∃ flight, caller = .follow flight ∧ await = .flight flight) ∨
        (∃ flight, caller = .compute flight) ∧ await = .slot)

theorem cachingView (task : Task) (caller : Caller Cached String)
    (call : Epoch.Call) :
    CachingView task caller
      (Task.view { task with place := task.cachingAt caller } call) := by
  have awaits : ∀ {place : Place} {worker : Nat} {await : Await},
      (Task.view { task with place := place } call).awaits =
        some (worker, await) →
      task.timedOut = some worker ∧ place.awaits task.key = some await := by
    intro place worker await waits
    obtain ⟨other, timedOut, waits⟩ := Option.bind_eq_some_iff.mp waits
    obtain ⟨_, waits, same⟩ := Option.map_eq_some_iff.mp waits
    cases same
    exact ⟨timedOut, waits⟩
  cases caller with
  | compute flight =>
      refine ⟨rfl, ?_, fun worker await waits => ?_⟩
      · simp only [Task.view, Task.cachingAt, Task.computing]
        split <;> rfl
      · obtain ⟨timedOut, waits⟩ := awaits waits
        refine ⟨timedOut, .inr (.inr ⟨⟨flight, rfl⟩, ?_⟩)⟩
        simp only [Task.cachingAt, Task.computing] at waits
        split at waits <;> exact (Option.some.inj waits).symm
  | get | lookup =>
      refine ⟨rfl, rfl, fun worker await waits => ?_⟩
      obtain ⟨timedOut, waits⟩ := awaits waits
      exact ⟨timedOut, .inl ⟨by simp, (Option.some.inj waits).symm⟩⟩
  | follow flight =>
      refine ⟨rfl, rfl, fun worker await waits => ?_⟩
      obtain ⟨timedOut, waits⟩ := awaits waits
      exact ⟨timedOut, .inr (.inl ⟨flight, rfl, (Option.some.inj waits).symm⟩)⟩
  | _ =>
      refine ⟨rfl, rfl, fun worker await waits => ?_⟩
      cases (awaits waits).2

theorem State.asking_awaits {id worker : Nat} {task : Task}
    {caller : Caller Cached String} (found : state.task id = some task)
    (place : task.place = .caching caller) (timedOut : task.timedOut = some worker)
    (asking : caller = .get ∨ caller = .lookup) :
    (state.view id).awaits = some (worker, .lookup task.key) := by
  rw [State.view_of_task found, Task.view, place, timedOut]
  rcases asking with rfl | rfl <;> rfl

theorem CachingView.asking {task : Task} {caller next : Caller Cached String}
    {view : View} {worker : Nat} {await : Await}
    {shared after : SharedCache ListingKey Cached String}
    (seen : CachingView task next view)
    (flights : SharedCache.FlightStep shared after task.key caller next)
    (waits : view.awaits = some (worker, await)) :
    task.timedOut = some worker ∧ (caller = .get ∨ caller = .lookup) := by
  obtain ⟨timedOut, waits⟩ := seen.awaits worker _ waits
  refine ⟨timedOut, ?_⟩
  rcases waits with ⟨looks, _⟩ | ⟨flight, follows, _⟩ | ⟨⟨flight, computes⟩, _⟩
  · exact .inl (flights.lookup looks)
  · exact .inr (flights.follow flight follows).1
  · exact .inr (flights.compute flight computes)

theorem State.view_of_caching {id : Nat} {task : Task}
    {caller : Caller Cached String} (found : state.task id = some task)
    (place : task.place = .caching caller) :
    (state.view id).leads = caller.leads ∧ (state.view id).inGate = false := by
  rw [State.view_of_task found, Task.view, place]
  exact ⟨rfl, rfl⟩

theorem tended_caching {cfg : Config} {id : Nat} {task : Task}
    {caller next : Caller Cached String} {view : View}
    (tended : Tended cfg state) (found : state.task id = some task)
    (place : task.place = .caching caller)
    (flights : SharedCache.FlightStep state.listings after.listings task.key
      caller next)
    (gate : after.gate = state.gate) (turns : Turns state after id view)
    (seen : CachingView task next view) : Tended cfg after := by
  obtain ⟨leads, outside⟩ := State.view_of_caching found place
  constructor
  · intro flight key pending
    rcases flights.pending flight key pending with new | ⟨old, other⟩
    · exact ⟨id, by rw [turns.self, seen.leads, new]⟩
    · obtain ⟨leader, before⟩ := tended.led flight key old
      refine ⟨leader, ?_⟩
      rw [turns.others leader ?_, before]
      rintro rfl
      exact other (leads ▸ before)
  · intro slots gated
    exact (tended.gate slots gated).of_same gate
      (turns.inGate (seen.inGate.trans outside.symm))

theorem Calm.epoch (epochs : Epoch.State Nat) :
    Calm state { state with epochs := epochs } where
  flights := .of_listings rfl
  leads id := by rw [State.epoch_view]
  awaits id := by
    rw [State.epoch_view]
    exact .inr rfl

theorem Tended.step {label : Label} (tended : Tended setting.cfg state)
    (stepped : Service.step setting state label = some after) :
    Tended setting.cfg after := by
  cases step_cases stepped with
  | epoch permitted read =>
      refine (Calm.epoch _).tended_outside tended rfl fun id => ?_
      rw [State.epoch_view]
  | quiet reads quiet responses =>
      exact quiet.calm.tended_outside tended quiet.gate
        fun id => (quiet.view id).inGate
  | report found place answered flights gate epochs turns responses =>
      exact (turns.calm flights rfl (.inr rfl)).tended_outside tended gate
        (turns.inGate rfl)
  | caching found place steps =>
      exact tended_caching tended found place
        (SharedCache.getOrCompute_flights steps) rfl
        (.of_setActivity rfl rfl (State.task_eq_some.mp found))
        (cachingView _ _ _)
  | enter found atGate acquired flights gate epochs before turns responses =>
      exact tended_enter tended acquired flights gate before turns
  | leave flights gate epochs turns responses =>
      exact tended_leave tended flights gate turns
  | timeout found place => exact tended_timeout tended found place

theorem orderly_caching {contract : Contract} {cfg : Config} {id : Nat}
    {task : Task} {caller next : Caller Cached String} {view : View}
    (orderly : Orderly cfg state) (holds : state.Holds contract)
    (apart : StaysApart cfg state (.advance id))
    (found : state.task id = some task) (place : task.place = .caching caller)
    (flights : SharedCache.FlightStep state.listings after.listings task.key
      caller next)
    (tended : Tended cfg after) (turns : Turns state after id view)
    (seen : CachingView task next view) : Orderly cfg after := by
  obtain ⟨leads, outside⟩ := State.view_of_caching found place
  -- a leader is either an old one or the one that registers now
  have led : ∀ worker flight, (after.view worker).leads = some flight →
      (state.view worker).leads = some flight ∨
        worker = id ∧ caller = .lookup ∧
          state.listings.inflight task.key = none ∧
          flight = state.listings.nextFuture := by
    intro worker flight after
    rcases eq_or_ne worker id with rfl | differs
    · rw [turns.self, seen.leads] at after
      rw [leads]
      exact (flights.leads flight after).imp_right fun new => ⟨rfl, new⟩
    · rw [turns.others worker differs] at after
      exact .inl after
  refine ⟨tended.led, tended.gate, ?_, ?_, ?_⟩
  · intro other worker key waits flight registered leading
    rcases eq_or_ne other id with rfl | differs
    · rw [turns.self] at waits
      obtain ⟨timedOut, waits⟩ := seen.awaits worker _ waits
      rcases waits with ⟨looks, waits⟩ | ⟨_, _, waits⟩ | ⟨_, waits⟩
      · cases waits
        have hit := flights.lookup looks
        have before := State.asking_awaits found place timedOut (.inl hit)
        rcases flights.inflight _ flight registered with old | ⟨new, _⟩
        · rcases led worker flight leading with led | ⟨_, new, _⟩
          · exact orderly.lookup other worker _ before flight old led
          · cases hit.symm.trans new
        · cases hit.symm.trans new
      · cases waits
      · cases waits
    · rw [turns.others other differs] at waits
      rcases flights.inflight key flight registered with
        old | ⟨looks, rfl, absent, rfl⟩
      · rcases led worker flight leading with led | ⟨_, _, _, rfl⟩
        · exact orderly.lookup other worker key waits flight old led
        · exact absurd (SharedCache.Names.lt holds
            (holds.listings.registered key _ old)) (Nat.lt_irrefl _)
      · rcases led worker _ leading with led | ⟨rfl, _⟩
        · exact absurd (holds.led_lt led) (Nat.lt_irrefl _)
        · exact (apart other _ waits).1 task found (looks ▸ place) rfl absent
  · intro other worker flight waits leading
    by_cases same : other = id
    · rw [same, turns.self] at waits
      obtain ⟨timedOut, waits⟩ := seen.awaits worker _ waits
      rcases waits with ⟨_, waits⟩ | ⟨follows, same', waits⟩ | ⟨_, waits⟩
      · cases waits
      · cases waits
        obtain ⟨looks, registered⟩ := flights.follow flight same'
        have before := State.asking_awaits found place timedOut (.inr looks)
        rcases led worker flight leading with led | ⟨_, _, absent, _⟩
        · exact orderly.lookup id worker _ before flight registered led
        · cases registered.symm.trans absent
      · cases waits
    · rw [turns.others other same] at waits
      rcases led worker flight leading with led | ⟨_, _, _, rfl⟩
      · exact orderly.follow other worker flight waits led
      · exact absurd (holds.followed_lt waits) (Nat.lt_irrefl _)
  · intro single other worker await waits
    rw [turns.inGate (seen.inGate.trans outside.symm)]
    rcases eq_or_ne other id with rfl | differs
    · rw [turns.self] at waits
      obtain ⟨timedOut, asking⟩ := seen.asking flights waits
      exact orderly.slot single other worker _
        (State.asking_awaits found place timedOut asking)
    · rw [turns.others other differs] at waits
      exact orderly.slot single other worker await waits

theorem orderly_step {contract : Contract} {label : Label}
    (orderly : Orderly setting.cfg state) (holds : state.Holds contract)
    (apart : StaysApart setting.cfg state label)
    (stepped : step setting state label = some after) :
    Orderly setting.cfg after := by
  have tended : Tended setting.cfg after := orderly.tended.step stepped
  cases step_cases stepped with
  | epoch permitted read =>
      refine (Calm.epoch _).orderly_outside orderly tended fun id => ?_
      rw [State.epoch_view]
  | quiet reads quiet responses =>
      exact quiet.calm.orderly_outside orderly tended
        fun id => (quiet.view id).inGate
  | report found place answered flights gate epochs turns responses =>
      exact (turns.calm flights rfl (.inr rfl)).orderly_outside orderly tended
        (turns.inGate rfl)
  | caching found place steps =>
      exact orderly_caching orderly holds apart found place
        (SharedCache.getOrCompute_flights steps) tended
        (.of_setActivity rfl rfl (State.task_eq_some.mp found))
        (cachingView _ _ _)
  | enter found atGate acquired flights gate epochs before turns responses =>
      exact orderly_enter orderly apart found atGate tended flights turns
  | leave flights gate epochs turns responses =>
      exact orderly_leave orderly tended flights turns
  | timeout found place =>
      exact orderly_timeout orderly apart found place tended

theorem Initial.view (initial : Initial state) (id : Nat) :
    state.view id = ⟨none, false, none, state.epochs.calls id, none⟩ := by
  rw [State.view, State.activity, initial.tasks]
  rfl

theorem tended_of_initial {cfg : Config} (initial : Initial state) :
    Tended cfg state := by
  constructor
  · intro flight key pending
    rw [initial.futures] at pending
    cases pending
  · intro slots _
    refine ⟨?_, ?_, fun id => ?_⟩
    · rw [initial.gate]
      exact List.nodup_nil
    · rw [initial.gate]
      exact Nat.zero_le _
    · rw [initial.gate, initial.view]
      simp

theorem tended_of_reachable
    (reachable : (system setting).Reachable StepSystem.AnyStep state) :
    Tended setting.cfg state := by
  refine reachable.invariant ?_ ?_
  · exact fun _ initial => tended_of_initial initial
  · exact fun _ _ _ _ tended _ stepped => tended.step stepped

theorem orderly_of_initial {cfg : Config} (initial : Initial state) :
    Orderly cfg state := by
  have tended : Tended cfg state := tended_of_initial initial
  refine ⟨tended.led, tended.gate, ?_, ?_, ?_⟩
  · intro id worker key waits
    rw [initial.view] at waits
    cases waits
  · intro id worker flight waits
    rw [initial.view] at waits
    cases waits
  · intro _ id worker await waits
    rw [initial.view] at waits
    cases waits

/-- In a run whose steps keep requests and given up prefetches apart. -/
theorem orderly_of_reachable
    (reachable : (system setting).Reachable (StaysApart setting.cfg) state) :
    Orderly setting.cfg state := by
  refine reachable.invariant ?_ ?_
  · exact fun _ initial => orderly_of_initial initial
  · intro state label after before orderly apart stepped
    have holds := holds_of_reachable (valued_kept setting)
      (before.mono fun _ _ _ => trivial)
    exact orderly_step orderly holds apart stepped

/-- No request that gave up a join waits for anything. -/
def State.Unawaited (state : State) : Prop :=
  ∀ id, (state.view id).awaits = none

theorem State.Unawaited.step {label : Label} (unawaited : state.Unawaited)
    (joined : ∀ id, label ≠ .timeout id)
    (stepped : step setting state label = some after) : after.Unawaited := by
  intro id
  have turned : ∀ {other view}, Turns state after other view →
      view.awaits = none → (after.view id).awaits = none := by
    intro other view turns self
    rcases eq_or_ne id other with rfl | differs
    · rw [turns.self, self]
    · rw [turns.others id differs, unawaited]
  cases step_cases stepped with
  | epoch permitted read =>
      rw [State.epoch_view]
      exact unawaited id
  | quiet reads quiet responses =>
      exact (quiet.view id).awaits.elim (fun none => none)
        fun same => same.trans (unawaited id)
  | report found place answered flights gate epochs turns responses =>
      exact turned turns (unawaited _)
  | caching found place steps =>
      refine turned (.of_setActivity rfl rfl (State.task_eq_some.mp found)) ?_
      rw [Option.eq_none_iff_forall_not_mem]
      rintro ⟨worker, await⟩ waits
      obtain ⟨timedOut, asking⟩ := (cachingView _ _ _).asking
        (SharedCache.getOrCompute_flights steps) waits
      have before := State.asking_awaits found place timedOut asking
      rw [unawaited] at before
      cases before
  | enter found atGate acquired flights gate epochs before turns responses =>
      exact turned turns rfl
  | leave flights gate epochs turns responses => exact turned turns rfl
  | timeout found place => exact absurd rfl (joined _)

/-- As long as no join is given up, all steps stay apart. -/
theorem staysApart_of_joined {schedule : List Label} (initial : Initial state)
    (joined : ∀ label ∈ schedule, ∀ id, label ≠ .timeout id) :
    (system setting).Meets (StaysApart setting.cfg) state schedule := by
  have preserved : ∀ state label after, State.Unawaited state →
      (∀ id, label ≠ .timeout id) → step setting state label = some after →
        after.Unawaited :=
    fun _ _ _ unawaited joined stepped => unawaited.step joined stepped
  refine StepSystem.Meets.of_invariant preserved ?_ ?_ (.of_labels joined state)
  · intro state label unawaited joined
    cases label with
    | timeout id => exact absurd rfl (joined id)
    | advance worker =>
        intro id await waits
        rw [unawaited] at waits
        cases waits
    | _ => trivial
  · intro id
    rw [initial.view]

end Catwalk.Service
