import Catwalk.Service.Machine

/-! What a step does to flights, to the query gate, to epoch reads and to the
responses. -/

namespace Catwalk.Service

/-- What a task that gave up a join may still wait for. -/
inductive Await
  | lookup (key : ListingKey)
  | flight (flight : Nat)
  | slot

/-- The flight an activity leads, whether it is inside the query gate, what it
may wait for after which join, its `current_epoch()` call, and the epoch a
listing is keyed with. -/
structure View where
  leads : Option Nat
  inGate : Bool
  awaits : Option (Nat × Await)
  call : Epoch.Call
  keyed : Option (Option String)

def Stage.inGate : Stage → Bool
  | .catalog | .read _ | .release _ => true
  | _ => false

def Place.leads : Place → Option Nat
  | .caching caller => caller.leads
  | .query flight _ => flight
  | _ => none

def Place.inGate : Place → Bool
  | .query _ stage => stage.inGate
  | _ => false

def Place.awaits (key : ListingKey) : Place → Option Await
  | .caching .get | .caching .lookup => some (.lookup key)
  | .caching (.follow flight) => some (.flight flight)
  | .query flight .derive | .query flight .gate => flight.map fun _ => .slot
  | _ => none

/-- The keying read has been taken. -/
def Place.isKeyed : Place → Bool
  | .queued | .keying | .cancelled => false
  | _ => true

/-- The epoch in the key of a listing. -/
def Task.keyed (task : Task) : Option (Option String) :=
  if task.place.isKeyed then some task.epoch else none

def RollupPlace.inGate : RollupPlace → Bool
  | .scanCatalog | .scan _ | .seedCatalog _ _ | .seed _ _ _ | .release _ => true
  | _ => false

def Task.view (task : Task) (call : Epoch.Call) : View where
  leads := task.place.leads
  inGate := task.place.inGate
  awaits := task.timedOut.bind fun worker =>
    (task.place.awaits task.key).map fun await => (worker, await)
  call := call
  keyed := task.keyed

def Activity.view (call : Epoch.Call) : Activity → View
  | .listing task => task.view call
  | .rollup task => ⟨none, task.place.inGate, none, call, none⟩

def State.view (state : State) (id : Nat) : View :=
  match state.activity id with
  | some activity => activity.view (state.epochs.calls id)
  | none => ⟨none, false, none, state.epochs.calls id, none⟩

/-- The activity asks for a slot of the query gate. -/
def Activity.atGate : Activity → Bool
  | .listing task =>
      match task.place with
      | .query _ .gate => true
      | _ => false
  | .rollup task =>
      match task.place with
      | .gate => true
      | _ => false

/-- A listing is keyed once, with what its call has returned. -/
def View.Keys (before after : View) : Prop :=
  after.keyed = before.keyed ∨
    before.keyed = none ∧ ∃ epoch, before.call = .returned epoch ∧
      after.keyed = some epoch

/-- Nothing new is led, held or waited for, and no epoch is read. -/
structure View.Settles (before after : View) : Prop where
  leads : after.leads = before.leads
  inGate : after.inGate = before.inGate
  awaits : after.awaits = none ∨ after.awaits = before.awaits
  call : after.call = before.call ∨ after.call = .idle
  keys : before.Keys after

theorem View.Settles.refl (view : View) : view.Settles view :=
  ⟨rfl, rfl, .inr rfl, .inl rfl, .inl rfl⟩

/-- `_epoch` keeps its history, unless it is dropped. -/
structure KeepsEpoch (epochs after : Epoch.State Nat) : Prop where
  epoch : after.epoch = epochs.epoch ∨ after.epoch = none
  held : epochs.held <:+ after.held
  recorded : epochs.held.head? = some epochs.epoch →
    after.held.head? = some after.epoch

theorem KeepsEpoch.of_same {epochs after : Epoch.State Nat}
    (epoch : after.epoch = epochs.epoch) (held : after.held = epochs.held) :
    KeepsEpoch epochs after :=
  ⟨.inl epoch, held ▸ List.suffix_rfl, fun recorded => by rw [held, epoch, recorded]⟩

theorem KeepsEpoch.trans {first second third : Epoch.State Nat}
    (former : KeepsEpoch first second) (latter : KeepsEpoch second third) :
    KeepsEpoch first third where
  epoch := latter.epoch.elim (fun same => same ▸ former.epoch) .inr
  held := former.held.trans latter.held
  recorded recorded := latter.recorded (former.recorded recorded)

structure SameFlights (state after : State) : Prop where
  inflight : after.listings.inflight = state.listings.inflight
  futures : after.listings.futures = state.listings.futures
  nextFuture : after.listings.nextFuture = state.listings.nextFuture

theorem SameFlights.of_listings {state after : State}
    (same : after.listings = state.listings) : SameFlights state after := by
  constructor <;> rw [same]

/-- A step that touches no flight and not the gate. -/
structure Quiet (state after : State) : Prop where
  flights : SameFlights state after
  gate : after.gate = state.gate
  epochs : KeepsEpoch state.epochs after.epochs
  view : ∀ id, (state.view id).Settles (after.view id)

/-- Only the view of one activity changes. -/
structure Turns (state after : State) (id : Nat) (view : View) : Prop where
  others : ∀ other, other ≠ id → after.view other = state.view other
  self : after.view id = view

/-- The effects a step may have. -/
inductive Stepped (setting : Setting) (state : State) : Label → State → Prop
  | epoch {label epochs} (permitted : state.permits label = true)
      (read : Epoch.step setting.cfg.epochs setting.newestAt state.epochs label =
        some epochs) :
      Stepped setting state (.epoch label) { state with epochs := epochs }
  | quiet {label after} (reads : ∀ read, label ≠ .epoch read)
      (quiet : Quiet state after)
      (responses : after.responses = state.responses) :
      Stepped setting state label after
  | report {id task value fromCache epoch after}
      (found : state.task id = some task)
      (place : task.place = .reporting value fromCache)
      (answered : state.epochs.calls id = .returned epoch)
      (flights : SameFlights state after) (gate : after.gate = state.gate)
      (epochs : KeepsEpoch state.epochs after.epochs)
      (turns : Turns state after id { state.view id with
        call := .idle })
      (responses : after.responses =
        ⟨task.key, epoch, fromCache, value⟩ :: state.responses) :
      Stepped setting state (.advance id) after
  | caching {id task caller moved}
      (found : state.task id = some task)
      (place : task.place = .caching caller)
      (steps : state.listings.getOrCompute state.now task.key caller =
        some moved) :
      Stepped setting state (.advance id)
        ({ state with listings := moved.2 }.moveTo id task
          (task.cachingAt moved.1))
  | enter {id activity middle after}
      (found : state.activity id = some activity)
      (atGate : activity.atGate = true)
      (acquired : state.acquire setting.cfg id = some middle)
      (flights : SameFlights state after) (gate : after.gate = middle.gate)
      (epochs : after.epochs = state.epochs)
      (before : (state.view id).inGate = false)
      (turns : Turns state after id { state.view id with
        inGate := true
        awaits := none })
      (responses : after.responses = state.responses) :
      Stepped setting state (.advance id) after
  | leave {id after} (flights : SameFlights state after)
      (gate : after.gate = state.gate.erase id)
      (epochs : after.epochs = state.epochs)
      (turns : Turns state after id { state.view id with
        inGate := false
        awaits := none })
      (responses : after.responses = state.responses) :
      Stepped setting state (.advance id) after
  | timeout {id task future}
      (found : state.task id = some task)
      (place : task.place = .join future) :
      Stepped setting state (.timeout id)
        (state.enterCache id task (some future))

variable {setting : Setting} {state after : State}

theorem State.view_of_activity {id : Nat} {activity : Activity}
    (found : state.activity id = some activity) :
    state.view id = activity.view (state.epochs.calls id) := by
  rw [State.view, found]

theorem State.view_of_task {id : Nat} {task : Task}
    (found : state.task id = some task) :
    state.view id = task.view (state.epochs.calls id) :=
  State.view_of_activity (State.task_eq_some.mp found)

theorem State.setActivity_view {id : Nat} {old : Activity}
    (found : state.activity id = some old) (other : Nat) (new : Activity) :
    (state.setActivity id new).view other =
      if other = id then new.view (state.epochs.calls id)
      else state.view other := by
  unfold State.view
  rw [State.setActivity_activity found]
  rcases eq_or_ne other id with rfl | differs
  · simp [State.setActivity]
  · simp [differs, State.setActivity]

theorem State.epoch_view (state : State) (epochs : Epoch.State Nat) (id : Nat) :
    { state with epochs := epochs }.view id =
      { state.view id with call := epochs.calls id } := by
  have same : State.activity { state with epochs := epochs } id =
      state.activity id := rfl
  unfold State.view
  rw [same]
  rcases state.activity id with _ | _ | _ <;> rfl

theorem State.activity_of_tasks (tasks : after.tasks = state.tasks) (id : Nat) :
    after.activity id = state.activity id := by
  unfold State.activity
  rw [tasks]

theorem State.task_of_tasks (tasks : after.tasks = state.tasks) (id : Nat) :
    after.task id = state.task id := by
  unfold State.task
  rw [State.activity_of_tasks tasks]

theorem step_advance {id : Nat} {task : Task}
    (found : state.task id = some task) :
    step setting state (.advance id) = task.advance setting state id := by
  simp [step, State.task_eq_some.mp found]

theorem State.task_of_rollup {id : Nat} {task : RollupTask}
    (found : state.activity id = some (.rollup task)) :
    state.task id = none := by
  unfold State.task
  rw [found]

theorem View.Keys.trans {first second third : View}
    (call : second.call = first.call ∨ second.call = .idle)
    (former : first.Keys second) (latter : second.Keys third) :
    first.Keys third := by
  rcases latter with same | ⟨unkeyed, epoch, answered, keyed⟩
  · exact former.imp same.trans fun ⟨unkeyed, epoch, answered, keyed⟩ =>
      ⟨unkeyed, epoch, answered, same.trans keyed⟩
  · have answered' : first.call = .returned epoch := by
      rcases call with same | idle
      · exact same.symm.trans answered
      · rw [idle] at answered
        cases answered
    rcases former with same | ⟨_, other, _, keyed'⟩
    · exact .inr ⟨same.symm.trans unkeyed, epoch, answered', keyed⟩
    · rw [unkeyed] at keyed'
      cases keyed'

theorem View.Settles.trans {first second third : View}
    (former : first.Settles second) (latter : second.Settles third) :
    first.Settles third where
  leads := latter.leads.trans former.leads
  inGate := latter.inGate.trans former.inGate
  awaits := by
    rcases latter.awaits with none | same
    · exact .inl none
    · rw [same]
      exact former.awaits
  call := latter.call.elim (fun same => same ▸ former.call) .inr
  keys := former.keys.trans former.call latter.keys

theorem View.Settles.of_unread {before after : View}
    (leads : after.leads = before.leads) (inGate : after.inGate = before.inGate)
    (awaits : after.awaits = none ∨ after.awaits = before.awaits)
    (call : after.call = before.call) (keyed : after.keyed = before.keyed) :
    before.Settles after where
  leads := leads
  inGate := inGate
  awaits := awaits
  call := .inl call
  keys := .inl keyed

theorem View.Settles.of_taken {before after : View}
    (leads : after.leads = before.leads) (inGate : after.inGate = before.inGate)
    (awaits : after.awaits = none) (call : after.call = .idle)
    (keys : before.Keys after) : before.Settles after where
  leads := leads
  inGate := inGate
  awaits := .inl awaits
  call := .inr call
  keys := keys

/-- A task that waits for nothing it gave a join up for. -/
theorem Task.view_eq {task : Task} (call : Epoch.Call)
    (awaits : task.place.awaits task.key = none ∨ task.timedOut = none) :
    task.view call =
      ⟨task.place.leads, task.place.inGate, none, call, task.keyed⟩ := by
  unfold Task.view
  rcases awaits with none | none
  · simp [none]
  · simp [none]

theorem Quiet.of_calls (flights : SameFlights state after)
    (gate : after.gate = state.gate) (tasks : after.tasks = state.tasks)
    (calls : after.epochs.calls = state.epochs.calls)
    (epochs : KeepsEpoch state.epochs after.epochs) : Quiet state after := by
  refine ⟨flights, gate, epochs, fun id => ?_⟩
  unfold State.view
  rw [State.activity_of_tasks tasks, calls]
  exact .refl _

theorem Quiet.of_same (flights : SameFlights state after)
    (gate : after.gate = state.gate) (tasks : after.tasks = state.tasks)
    (epochs : after.epochs = state.epochs) : Quiet state after :=
  .of_calls flights gate tasks (congrArg Epoch.State.calls epochs)
    (epochs ▸ .of_same rfl rfl)

theorem Quiet.refl (state : State) : Quiet state state :=
  .of_same (.of_listings rfl) rfl rfl rfl

theorem Quiet.trans {middle : State} (former : Quiet state middle)
    (latter : Quiet middle after) : Quiet state after where
  flights :=
    { inflight := latter.flights.inflight.trans former.flights.inflight
      futures := latter.flights.futures.trans former.flights.futures
      nextFuture := latter.flights.nextFuture.trans former.flights.nextFuture }
  gate := latter.gate.trans former.gate
  epochs := former.epochs.trans latter.epochs
  view id := (former.view id).trans (latter.view id)

theorem Quiet.setActivity {id : Nat} {old new : Activity}
    (found : state.activity id = some old)
    (settles : (old.view (state.epochs.calls id)).Settles
      (new.view (state.epochs.calls id))) :
    Quiet state (state.setActivity id new) := by
  refine ⟨.of_listings rfl, rfl, .of_same rfl rfl, fun other => ?_⟩
  rw [State.setActivity_view found]
  split
  next same =>
    rw [same, State.view_of_activity found]
    exact settles
  next => exact .refl _

/-- A listing task moves on without a flight of its own, the gate, the epoch or
a new wait. -/
theorem Quiet.setTask {id : Nat} {task new : Task} {old : Place}
    (quiet : Quiet state after) (tasks : after.tasks = state.tasks)
    (found : state.task id = some task) (place : task.place = old)
    (leads : new.place.leads = old.leads)
    (inGate : new.place.inGate = old.inGate)
    (awaits : new.place.awaits new.key = none ∨ new.timedOut = none)
    (keyed : new.place.isKeyed = old.isKeyed) (epoch : new.epoch = task.epoch) :
    Quiet state (after.setTask id new) := by
  subst place
  rw [← State.task_of_tasks tasks] at found
  refine quiet.trans (.setActivity (State.task_eq_some.mp found) ?_)
  have settled := Task.view_eq (after.epochs.calls id) awaits
  refine .of_unread leads inGate (.inl (congrArg View.awaits settled)) rfl ?_
  simp only [Activity.view, Task.view, Task.keyed, keyed, epoch]

theorem Quiet.moveTo {id : Nat} {task : Task} {old new : Place}
    (quiet : Quiet state after) (tasks : after.tasks = state.tasks)
    (found : state.task id = some task) (place : task.place = old)
    (leads : new.leads = old.leads) (inGate : new.inGate = old.inGate)
    (awaits : new.awaits task.key = none) (keyed : new.isKeyed = old.isKeyed) :
    Quiet state (after.moveTo id task new) :=
  quiet.setTask tasks found place leads inGate (.inl awaits) keyed rfl

theorem Quiet.move {id : Nat} {task : Task} {old new : Place}
    (found : state.task id = some task) (place : task.place = old)
    (leads : new.leads = old.leads) (inGate : new.inGate = old.inGate)
    (awaits : new.awaits task.key = none) (keyed : new.isKeyed = old.isKeyed) :
    Quiet state (state.moveTo id task new) :=
  (Quiet.refl state).moveTo rfl found place leads inGate awaits keyed

theorem Quiet.moveRollup {id : Nat} {task new : RollupTask} {old : RollupPlace}
    (quiet : Quiet state after) (tasks : after.tasks = state.tasks)
    (found : state.activity id = some (.rollup task))
    (place : task.place = old) (inGate : new.place.inGate = old.inGate) :
    Quiet state (after.setActivity id (.rollup new)) := by
  subst place
  rw [← State.activity_of_tasks tasks] at found
  exact quiet.trans (.setActivity found (.of_unread rfl inGate (.inl rfl) rfl
    rfl))

theorem Quiet.add {activity : Activity}
    (idle : ∀ call, View.Settles ⟨none, false, none, call, none⟩
      (activity.view call)) :
    Quiet state (state.add activity) := by
  refine ⟨.of_listings rfl, rfl, .of_same rfl rfl, fun other => ?_⟩
  unfold State.view
  rw [State.add_activity]
  by_cases newest : other = state.tasks.length
  · have missing : state.activity other = none :=
      List.getElem?_eq_none newest.ge
    rw [if_pos newest, missing]
    exact idle _
  · rw [if_neg newest]
    exact .refl _

/-- What taking an answered `current_epoch()` call changes. -/
structure TookEpoch (state : State) (id : Nat) (epoch : Option String)
    (after : State) : Prop where
  answered : state.epochs.calls id = .returned epoch
  calls : after.epochs.calls = Function.update state.epochs.calls id .idle
  listings : after.listings = state.listings
  gate : after.gate = state.gate
  epochs : KeepsEpoch state.epochs after.epochs
  tasks : after.tasks = state.tasks
  responses : after.responses = state.responses

theorem TookEpoch.of_takeEpoch {id : Nat} {epoch : Option String}
    (took : state.takeEpoch id = some (epoch, after)) :
    TookEpoch state id epoch after := by
  unfold State.takeEpoch at took
  split at took
  next answered =>
    cases took
    exact ⟨answered, rfl, rfl, rfl, .of_same rfl rfl, rfl, rfl⟩
  · cases took

theorem TookEpoch.turns {id : Nat} {epoch : Option String} {old new : Activity}
    (took : TookEpoch state id epoch after)
    (found : state.activity id = some old) :
    Turns state (after.setActivity id new) id (new.view .idle) := by
  have known : after.activity id = some old := by
    rw [State.activity_of_tasks took.tasks, found]
  constructor
  · intro other differ
    rw [State.setActivity_view known, if_neg differ]
    unfold State.view
    rw [State.activity_of_tasks took.tasks, took.calls,
      Function.update_of_ne differ]
  · rw [State.setActivity_view known, if_pos rfl, took.calls,
      Function.update_self]

theorem TookEpoch.quiet {id : Nat} {epoch : Option String} {old new : Activity}
    (took : TookEpoch state id epoch after)
    (found : state.activity id = some old)
    (settles : (old.view (state.epochs.calls id)).Settles (new.view .idle)) :
    Quiet state (after.setActivity id new) := by
  have turns : Turns state (after.setActivity id new) id (new.view .idle) :=
    took.turns found
  refine ⟨.of_listings took.listings, took.gate, took.epochs, fun other => ?_⟩
  by_cases same : other = id
  · rw [same, turns.self, State.view_of_activity found]
    exact settles
  · rw [turns.others other same]
    exact .refl _

theorem Quiet.returned {id : Nat} {task : Task} {old : Place} {value : Cached}
    {fromCache : Bool} (found : state.task id = some task)
    (place : task.place = old) (leads : old.leads = none)
    (inGate : old.inGate = false) (keyed : old.isKeyed = true) :
    Quiet state (task.returned setting state id value fromCache) ∧
      (task.returned setting state id value fromCache).responses =
        state.responses := by
  have ended : Quiet state (state.moveTo id task .ended) :=
    .move found place leads.symm inGate.symm rfl keyed.symm
  unfold Task.returned
  split
  · split
    · exact ⟨.move found place leads.symm inGate.symm rfl keyed.symm, rfl⟩
    · exact ⟨.move found place leads.symm inGate.symm rfl keyed.symm, rfl⟩
  · exact ⟨ended.trans (.of_same (.of_listings rfl) rfl rfl rfl), rfl⟩
  · exact ⟨ended, rfl⟩
  · exact ⟨ended, rfl⟩

theorem Quiet.raised {id : Nat} {task : Task} {old : Place} {error : String}
    (found : state.task id = some task) (place : task.place = old)
    (leads : old.leads = none) (inGate : old.inGate = false)
    (keyed : old.isKeyed = true) :
    Quiet state (task.raised state id error) ∧
      (task.raised state id error).responses = state.responses := by
  unfold Task.raised
  split
  · have ended : Quiet state (state.moveTo id task .ended) :=
    .move found place leads.symm inGate.symm rfl keyed.symm
    exact ⟨ended.trans (.of_same (.of_listings rfl) rfl rfl rfl), rfl⟩
  all_goals exact ⟨.move found place leads.symm inGate.symm rfl keyed.symm, rfl⟩

theorem Quiet.cancelPrefetch {id : Nat} {task : Task} {future : Nat}
    (found : state.task id = some task) (place : task.place = .cancel future)
    (stepped : task.cancelPrefetch state id future = some after) :
    Quiet state after ∧ after.responses = state.responses := by
  obtain ⟨other, foundOther, rfl⟩ := Option.map_eq_some_iff.mp stepped
  split
  next queued =>
    have different : id ≠ future := by
      rintro rfl
      rw [found, Option.some.injEq] at foundOther
      rw [← foundOther, place] at queued
      cases queued
    have cancelled : Quiet state (state.moveTo future other .cancelled) :=
      .move foundOther queued rfl rfl rfl rfl
    have known : (state.moveTo future other .cancelled).task id = some task := by
      rw [State.task_eq_some] at found ⊢
      exact (State.setActivity_activity (State.task_eq_some.mp foundOther) _
        _).trans ((if_neg different).trans found)
    exact ⟨cancelled.trans (.move known place rfl rfl rfl rfl), rfl⟩
  all_goals exact ⟨.move found place rfl rfl rfl rfl, rfl⟩

theorem Quiet.submitPrefetch (state : State) (child : Text) :
    Quiet state (Task.submitPrefetch state child) ∧
      (Task.submitPrefetch state child).responses = state.responses ∧
      ∀ id task, state.task id = some task →
        (Task.submitPrefetch state child).task id = some task := by
  unfold Task.submitPrefetch
  split
  · exact ⟨.refl state, rfl, fun _ _ found => found⟩
  · have added : Quiet state (state.add (.listing
        ⟨.prefetch, child, .all, [], none, none, .queued⟩)) :=
      .add fun _ => .of_unread rfl rfl (.inl rfl) rfl rfl
    refine ⟨added.trans (.of_same (.of_listings rfl) rfl rfl rfl), rfl, ?_⟩
    intro id task found
    have known := State.task_eq_some.mp found
    refine State.task_eq_some.mpr ?_
    have inside : id < state.tasks.length :=
      (List.getElem?_eq_some_iff.mp known).1
    exact (State.add_activity ..).trans ((if_neg inside.ne).trans known)

theorem Quiet.setListings {listings : SharedCache ListingKey Cached String}
    (inflight : listings.inflight = state.listings.inflight)
    (futures : listings.futures = state.listings.futures)
    (nextFuture : listings.nextFuture = state.listings.nextFuture) :
    Quiet state { state with listings := listings } :=
  .of_same ⟨inflight, futures, nextFuture⟩ rfl rfl rfl

theorem Quiet.advancePrefetching {id : Nat} {task : Task} {value : Cached}
    {fromCache : Bool} {epoch : Option String} {names : List Text}
    (found : state.task id = some task)
    (place : task.place = .prefetching value fromCache epoch names) :
    Quiet state
        (task.advancePrefetching state id value fromCache epoch names) ∧
      (task.advancePrefetching state id value fromCache epoch
        names).responses = state.responses := by
  cases names with
  | nil =>
      exact ⟨.move found place rfl rfl rfl rfl, rfl⟩
  | cons name names =>
      have looked : Quiet state { state with
          listings := (state.listings.get state.now
            ⟨epoch, task.path ++ name ++ ['/'], .all, []⟩).2 } :=
        .setListings rfl rfl rfl
      refine ⟨looked.moveTo rfl found place ?_ ?_ ?_ ?_, rfl⟩ <;>
        split <;> rfl

theorem Quiet.queried {id : Nat} {task : Task} {flight : Option Nat}
    {old : Place} {outcome : Except String (Cached × Nat)}
    (quiet : Quiet state after) (tasks : after.tasks = state.tasks)
    (found : state.task id = some task) (place : task.place = old)
    (leads : old.leads = flight) (inGate : old.inGate = false)
    (keyed : old.isKeyed = true) :
    Quiet state (task.queried after id flight outcome) := by
  refine quiet.moveTo tasks found place ?_ ?_ ?_ ?_
  · rw [leads]
    cases flight <;> cases outcome <;> rfl
  · rw [inGate]
    cases flight <;> cases outcome <;> rfl
  · cases flight <;> cases outcome <;> rfl
  · rw [keyed]
    cases flight <;> cases outcome <;> rfl

theorem Turns.of_setActivity {id : Nat} {middle : State} {old new : Activity}
    (tasks : middle.tasks = state.tasks)
    (calls : middle.epochs.calls = state.epochs.calls)
    (found : state.activity id = some old) :
    Turns state (middle.setActivity id new) id
      (new.view (state.epochs.calls id)) := by
  have known : middle.activity id = some old := by
    rw [State.activity_of_tasks tasks, found]
  constructor
  · intro other differ
    rw [State.setActivity_view known, if_neg differ]
    unfold State.view
    rw [State.activity_of_tasks tasks, calls]
  · rw [State.setActivity_view known, if_pos rfl, calls]

theorem State.acquire_same {id : Nat}
    (acquired : state.acquire setting.cfg id = some after) :
    after.listings = state.listings ∧ after.tasks = state.tasks ∧
      after.epochs = state.epochs ∧ after.responses = state.responses := by
  unfold State.acquire at acquired
  split at acquired
  · cases acquired
    exact ⟨rfl, rfl, rfl, rfl⟩
  · split at acquired <;> cases acquired
    exact ⟨rfl, rfl, rfl, rfl⟩

theorem Stepped.of_acquire {id : Nat} {middle : State} {old new : Activity}
    (found : state.activity id = some old) (atGate : old.atGate = true)
    (acquired : state.acquire setting.cfg id = some middle)
    (before : ∀ call, (old.view call).inGate = false)
    (view : ∀ call, new.view call = { old.view call with
      inGate := true
      awaits := none }) :
    Stepped setting state (.advance id) (middle.setActivity id new) := by
  obtain ⟨listings, tasks, epochs, responses⟩ := State.acquire_same acquired
  refine .enter found atGate acquired (.of_listings listings) rfl epochs ?_ ?_
    responses
  · rw [State.view_of_activity found, before]
  · rw [State.view_of_activity found, ← view]
    exact .of_setActivity tasks (congrArg _ epochs) found

theorem Stepped.of_leave {id : Nat} {old new : Activity}
    (found : state.activity id = some old)
    (view : ∀ call, new.view call = { old.view call with
      inGate := false
      awaits := none }) :
    Stepped setting state (.advance id)
      ((state.leaveGate id).setActivity id new) := by
  refine .leave (.of_listings rfl) rfl rfl ?_ rfl
  rw [State.view_of_activity found, ← view]
  exact .of_setActivity rfl rfl found

theorem Stepped.advanceQuery {id : Nat} {task : Task} {flight : Option Nat}
    {stage : Stage} (found : state.task id = some task)
    (place : task.place = .query flight stage)
    (stepped : task.advanceQuery setting state id flight stage = some after) :
    Stepped setting state (.advance id) after := by
  have known := State.task_eq_some.mp found
  have view : ∀ call inGate, { task.view call with
      inGate := inGate
      awaits := none } = ⟨flight, inGate, none, call, some task.epoch⟩ := by
    intro call inGate
    rw [Task.view, Task.keyed, place]
    rfl
  unfold Task.advanceQuery at stepped
  split at stepped
  next =>
    have looked : Quiet state { state with
        listings := (state.listings.get state.now task.fullKey).2 } :=
      .setListings rfl rfl rfl
    generalize state.listings.get state.now task.fullKey = got
      at looked stepped
    obtain ⟨full, listings⟩ := got
    have gated : Quiet state ({ state with listings := listings }.moveTo id task
        (.query flight .gate)) := by
      refine looked.trans (.setActivity known ?_)
      refine .of_unread (congrArg Place.leads place.symm : _)
        (congrArg Place.inGate place.symm : _) ?_ rfl ?_
      · simp only [Activity.view, Task.view, place]
        exact .inr rfl
      · simp only [Activity.view, Task.view, Task.keyed, place]
        rfl
    cases full with
    | none =>
        cases stepped
        exact .quiet (by simp) gated rfl
    | some full =>
        simp only at stepped
        split at stepped <;> cases stepped
        · exact .quiet (by simp) gated rfl
        · exact .quiet (by simp) (looked.queried rfl found place rfl rfl rfl) rfl
  next =>
    obtain ⟨middle, acquired, rfl⟩ := Option.map_eq_some_iff.mp stepped
    refine .of_acquire known (by simp [Activity.atGate, place]) acquired ?_ ?_
    · exact fun call => (congrArg Place.inGate place : _)
    · intro call
      simp only [Activity.view, view]
      exact Task.view_eq call (.inl rfl)
  next outcome =>
    cases stepped
    refine .of_leave known fun call => ?_
    simp only [Activity.view, view]
    cases flight <;> cases outcome <;> exact Task.view_eq call (.inl rfl)
  all_goals cases stepped

theorem Stepped.advance {id : Nat} {task : Task}
    (found : state.task id = some task)
    (stepped : task.advance setting state id = some after) :
    Stepped setting state (.advance id) after := by
  have known := State.task_eq_some.mp found
  have quiet : Quiet state after ∧ after.responses = state.responses →
      Stepped setting state (.advance id) after :=
    fun both => .quiet (by simp) both.1 both.2
  unfold Task.advance at stepped
  split at stepped
  next place =>
    obtain ⟨⟨epoch, middle⟩, taking, rfl⟩ := Option.map_eq_some_iff.mp stepped
    have took := TookEpoch.of_takeEpoch taking
    refine quiet ⟨took.quiet known (.of_taken ?_ ?_ ?_ rfl ?_), took.responses⟩
    case refine_4 =>
      refine .inr ⟨?_, epoch, took.answered, ?_⟩
      · simp only [Activity.view, Task.view, Task.keyed, place]
        rfl
      · simp only [Activity.view, Task.view, Task.keyed]
        cases task.kind <;> rfl
    all_goals
      simp only [Activity.view, Task.view, place]
      cases task.kind <;> rfl
  next place =>
    split at stepped <;> cases stepped
    · exact quiet ⟨(Quiet.refl state).setTask rfl found place rfl rfl (.inr rfl) rfl rfl, rfl⟩
    · exact quiet ⟨.move found place rfl rfl rfl rfl,
        rfl⟩
  next future place => exact quiet (Quiet.cancelPrefetch found place stepped)
  next place =>
    cases stepped
    have popped : Quiet state { state with
        prefetches := Function.update state.prefetches task.path none } :=
      .of_same (.of_listings rfl) rfl rfl rfl
    exact quiet ⟨popped.setTask rfl found place rfl rfl (.inr rfl) rfl rfl, rfl⟩
  next future place =>
    obtain ⟨other, _, stepped⟩ := Option.bind_eq_some_iff.mp stepped
    split at stepped <;> cases stepped
    exact quiet ⟨(Quiet.refl state).setTask rfl found place rfl rfl (.inr rfl) rfl rfl, rfl⟩
  next caller place =>
    unfold Task.advanceCaching at stepped
    split at stepped
    · cases stepped
      exact quiet (Quiet.returned found place rfl rfl rfl)
    · cases stepped
      exact quiet (Quiet.raised found place rfl rfl rfl)
    · obtain ⟨moved, steps, rfl⟩ := Option.map_eq_some_iff.mp stepped
      exact .caching found place steps
  next flight stage place => exact .advanceQuery found place stepped
  next place =>
    have looked : Quiet state { state with
        listings := (state.listings.expiresIn state.now task.key).2 } :=
      .setListings rfl rfl rfl
    generalize state.listings.expiresIn state.now task.key = expiry
      at looked stepped
    obtain ⟨remaining, listings⟩ := expiry
    have queries : Quiet state ({ state with listings := listings }.moveTo id
        task (.query none .gate)) :=
      looked.moveTo rfl found place rfl rfl rfl rfl
    simp only at stepped
    split at stepped
    · split at stepped <;> cases stepped
      · exact quiet ⟨looked.moveTo rfl found place rfl rfl rfl rfl, rfl⟩
      · exact quiet ⟨queries, rfl⟩
    · cases stepped
      exact quiet ⟨queries, rfl⟩
  next place =>
    have looked : Quiet state { state with
        listings := (state.listings.get state.now task.key).2 } :=
      .setListings rfl rfl rfl
    generalize state.listings.get state.now task.key = peeked
      at looked stepped
    obtain ⟨peeked, listings⟩ := peeked
    cases peeked <;> cases stepped <;>
      exact quiet ⟨looked.moveTo rfl found place rfl rfl rfl rfl, rfl⟩
  next value nbytes place =>
    cases stepped
    have stored : Quiet state { state with
        listings :=
          state.listings.put state.now task.key (some value) nbytes } :=
      .setListings rfl rfl rfl
    exact quiet ⟨stored.moveTo rfl found place rfl rfl rfl rfl, rfl⟩
  next value fromCache place =>
    obtain ⟨⟨epoch, middle⟩, taking, rfl⟩ := Option.map_eq_some_iff.mp stepped
    have took := TookEpoch.of_takeEpoch taking
    refine quiet ⟨took.quiet known (.of_taken ?_ ?_ ?_ rfl (.inl ?_)),
      took.responses⟩
    · exact (congrArg Place.leads place.symm : _)
    · exact (congrArg Place.inGate place.symm : _)
    · exact congrArg View.awaits (Task.view_eq .idle (.inl rfl))
    · simp only [Activity.view, Task.view, Task.keyed, place]
      rfl
  next value fromCache epoch names place =>
    cases stepped
    exact quiet (Quiet.advancePrefetching found place)
  next value fromCache epoch child names place =>
    cases stepped
    obtain ⟨submitted, responses, kept⟩ := Quiet.submitPrefetch state child
    exact quiet ⟨submitted.trans (.move (kept id task found)
      place rfl rfl rfl rfl), responses⟩
  next value fromCache place =>
    obtain ⟨⟨epoch, middle⟩, taking, rfl⟩ := Option.map_eq_some_iff.mp stepped
    have took := TookEpoch.of_takeEpoch taking
    refine .report found place took.answered (.of_listings took.listings)
      took.gate took.epochs ?_ (congrArg _ took.responses)
    have turns : Turns state (middle.moveTo id task .ended) id
        (Task.view { task with place := .ended } .idle) := took.turns known
    refine ⟨turns.others, turns.self.trans ?_⟩
    have view := Task.view_eq (state.epochs.calls id) (.inl (by rw [place]; rfl) :
      task.place.awaits task.key = none ∨ task.timedOut = none)
    have view' : Task.view { task with place := .ended } .idle =
        ⟨none, false, none, .idle, some task.epoch⟩ :=
      Task.view_eq _ (.inl rfl)
    rw [State.view_of_task found, view, view', Task.keyed, place]
    rfl
  all_goals cases stepped

theorem Stepped.advanceRollup {id : Nat} {task : RollupTask}
    (found : state.activity id = some (.rollup task))
    (stepped : task.advance setting state id = some after) :
    Stepped setting state (.advance id) after := by
  unfold RollupTask.advance at stepped
  split at stepped
  next place =>
    obtain ⟨⟨epoch, middle⟩, taking, rfl⟩ := Option.map_eq_some_iff.mp stepped
    have took := TookEpoch.of_takeEpoch taking
    refine .quiet (by simp) (took.quiet found (.of_taken rfl ?_ rfl rfl
      (.inl rfl))) took.responses
    exact (congrArg RollupPlace.inGate place.symm : _)
  next place =>
    obtain ⟨middle, acquired, rfl⟩ := Option.map_eq_some_iff.mp stepped
    refine .of_acquire found (by simp [Activity.atGate, place]) acquired ?_ ?_
    · exact fun _ => (congrArg RollupPlace.inGate place : _)
    · intro call
      simp only [Activity.view, place]
      rfl
  next outcome place =>
    simp only at stepped
    split at stepped <;> cases stepped
    all_goals
      refine .of_leave found fun call => ?_
      simp only [Activity.view, place]
      rfl
  next value place =>
    cases stepped
    have stored : Quiet state { state with
        rollups := state.rollups.put state.now
          (task.epoch, normalizePrefix task.path, task.depth) (some value)
          (setting.deepSize value.result) } :=
      .of_same (.of_listings rfl) rfl rfl rfl
    exact .quiet (by simp) (stored.moveRollup rfl found place rfl) rfl
  · cases stepped

theorem dropEpoch_calls {epochs : Epoch.State Nat} {name : String}
    (dropped : Epoch.step setting.cfg.epochs setting.newestAt state.epochs
      (.dropEpoch name) = some epochs) : epochs.calls = state.epochs.calls := by
  simp only [Epoch.step] at dropped
  split at dropped <;> cases dropped <;> rfl

theorem KeepsEpoch.of_drop {epochs : Epoch.State Nat} {name : String}
    (dropped : Epoch.step setting.cfg.epochs setting.newestAt state.epochs
      (.dropEpoch name) = some epochs) : KeepsEpoch state.epochs epochs := by
  simp only [Epoch.step] at dropped
  split at dropped <;> cases dropped
  · exact ⟨.inr rfl, List.suffix_cons _ _, fun _ => rfl⟩
  · exact .of_same rfl rfl

theorem Quiet.catalog {epoch : Option String} {usable : Bool} {source : Source}
    (chosen : state.catalog setting epoch usable = some (source, after)) :
    Quiet state after ∧ after.responses = state.responses ∧
      after.tasks = state.tasks := by
  unfold State.catalog at chosen
  split at chosen
  · cases chosen
    exact ⟨.refl _, rfl, rfl⟩
  · split at chosen
    · cases chosen
      exact ⟨.refl _, rfl, rfl⟩
    · obtain ⟨epochs, dropped, same⟩ := Option.map_eq_some_iff.mp chosen
      cases same
      exact ⟨.of_calls (.of_listings rfl) rfl rfl (dropEpoch_calls dropped)
        (.of_drop dropped), rfl, rfl⟩

theorem Quiet.stepCatalog {id : Nat} {usable : Bool}
    (stepped : stepCatalog setting state id usable = some after) :
    Quiet state after ∧ after.responses = state.responses := by
  obtain ⟨activity, found, stepped⟩ := Option.bind_eq_some_iff.mp stepped
  cases activity with
  | listing task =>
      simp only at stepped
      split at stepped
      next flight place =>
        obtain ⟨⟨source, middle⟩, chosen, rfl⟩ :=
          Option.map_eq_some_iff.mp stepped
        obtain ⟨quiet, responses, tasks⟩ := Quiet.catalog chosen
        have running := State.task_eq_some.mpr found
        exact ⟨quiet.moveTo tasks running place rfl rfl rfl rfl, responses⟩
      · cases stepped
  | rollup task =>
      simp only at stepped
      split at stepped
      next place =>
        obtain ⟨⟨source, middle⟩, chosen, rfl⟩ :=
          Option.map_eq_some_iff.mp stepped
        obtain ⟨quiet, responses, tasks⟩ := Quiet.catalog chosen
        exact ⟨quiet.moveRollup tasks found place rfl, responses⟩
      next scan reader place =>
        obtain ⟨⟨source, middle⟩, chosen, rfl⟩ :=
          Option.map_eq_some_iff.mp stepped
        obtain ⟨quiet, responses, tasks⟩ := Quiet.catalog chosen
        exact ⟨quiet.moveRollup tasks found place rfl, responses⟩
      · cases stepped

theorem Quiet.stepFail {id : Nat} {error : String}
    (stepped : stepFail state id error = some after) :
    Quiet state after ∧ after.responses = state.responses := by
  obtain ⟨activity, found, stepped⟩ := Option.bind_eq_some_iff.mp stepped
  cases activity with
  | listing task =>
      simp only at stepped
      split at stepped
      case h_3 => cases stepped
      all_goals
        next place =>
          cases stepped
          exact ⟨.move (State.task_eq_some.mpr found) place rfl rfl rfl rfl,
            rfl⟩
  | rollup task =>
      simp only at stepped
      split at stepped
      case h_5 => cases stepped
      all_goals
        next place =>
          cases stepped
          exact ⟨(Quiet.refl state).moveRollup rfl found place rfl, rfl⟩

theorem step_cases {label : Label}
    (stepped : step setting state label = some after) :
    Stepped setting state label after := by
  cases label with
  | epoch label =>
      simp only [step] at stepped
      split at stepped
      next permitted =>
        obtain ⟨epochs, read, rfl⟩ := Option.map_eq_some_iff.mp stepped
        exact .epoch permitted read
      next => cases stepped
  | list kind path type name =>
      simp only [step] at stepped
      split at stepped <;> cases stepped <;>
        exact .quiet (by simp) (.add fun _ =>
          .of_unread rfl rfl (.inl rfl) rfl rfl) rfl
  | warm path minTtl =>
      cases stepped
      exact .quiet (by simp) (.add fun _ => .of_unread rfl rfl (.inl rfl) rfl rfl) rfl
  | rollup path depth =>
      simp only [step] at stepped
      split at stepped <;> cases stepped
      · exact .quiet (by simp) (.refl state) rfl
      · exact .quiet (by simp) (.add fun _ =>
          .of_unread rfl rfl (.inl rfl) rfl rfl) rfl
  | cached epoch path depth =>
      cases stepped
      exact .quiet (by simp) (.of_same (.of_listings rfl) rfl rfl rfl) rfl
  | take =>
      simp only [step, State.takePrefetch] at stepped
      split at stepped
      · cases stepped
      next future rest pool =>
        split at stepped
        next free =>
          obtain ⟨task, found, stepped⟩ := Option.bind_eq_some_iff.mp stepped
          split at stepped <;> cases stepped
          next place =>
            have moved : Quiet state (state.moveTo future task .keying) :=
              .move found place rfl rfl rfl rfl
            exact .quiet (by simp)
              (moved.trans (.of_same (.of_listings rfl) rfl rfl rfl)) rfl
          next place =>
            exact .quiet (by simp) (.of_same (.of_listings rfl) rfl rfl rfl) rfl
        next busy => cases stepped
  | forget id =>
      obtain ⟨task, _, stepped⟩ := Option.bind_eq_some_iff.mp stepped
      split at stepped <;> cases stepped
      exact .quiet (by simp) (.of_same (.of_listings rfl) rfl rfl rfl) rfl
  | advance id =>
      obtain ⟨activity, found, stepped⟩ := Option.bind_eq_some_iff.mp stepped
      cases activity with
      | listing task => exact .advance (State.task_eq_some.mpr found) stepped
      | rollup task => exact .advanceRollup found stepped
  | timeout id =>
      obtain ⟨task, found, stepped⟩ := Option.bind_eq_some_iff.mp stepped
      split at stepped
      next future place =>
        obtain ⟨other, _, stepped⟩ := Option.bind_eq_some_iff.mp stepped
        split at stepped <;> cases stepped
        exact .timeout found place
      · cases stepped
  | catalog id usable =>
      obtain ⟨quiet, responses⟩ := Quiet.stepCatalog stepped
      exact .quiet (by simp) quiet responses
  | rows id batches elapsedS =>
      obtain ⟨task, found, stepped⟩ := Option.bind_eq_some_iff.mp stepped
      split at stepped
      next flight source place =>
        cases stepped
        exact .quiet (by simp)
          (.move found place rfl rfl rfl rfl) rfl
      · cases stepped
  | retry id =>
      obtain ⟨task, found, stepped⟩ := Option.bind_eq_some_iff.mp stepped
      split at stepped
      next flight source place =>
        split at stepped <;> cases stepped
        exact .quiet (by simp)
          (.move found place rfl rfl rfl rfl) rfl
      · cases stepped
  | fail id error =>
      obtain ⟨quiet, responses⟩ := Quiet.stepFail stepped
      exact .quiet (by simp) quiet responses
  | scanned id reader =>
      obtain ⟨task, source, found, place, rfl⟩ := step_scanned stepped
      unfold RollupTask.scanned
      split <;>
        exact .quiet (by simp)
          ((Quiet.refl state).moveRollup rfl found place rfl) rfl
  | seeded id childDirs computedAt elapsedS =>
      obtain ⟨task, scan, seed, reader, found, place, rfl⟩ :=
        step_seeded stepped
      unfold RollupTask.seeded
      split <;>
        exact .quiet (by simp)
          ((Quiet.refl state).moveRollup rfl found place rfl) rfl

end Catwalk.Service
