import Catwalk.Service.Landing

/-! A request that gave up the join of a prefetch, and its answer. -/

namespace Catwalk.Service

/-- `get_or_compute` is not over. -/
def Place.inCache : Place → Bool
  | .caching _ | .query (some _) _ => true
  | _ => false

/-- The flight the task follows, or would follow now. -/
def Task.follows (state : State) (task : Task) : Option Nat :=
  match task.place with
  | .caching .get | .caching .lookup => state.listings.inflight task.key
  | .caching (.follow flight) => some flight
  | _ => none

def State.FlightFailed (state : State) (flight : Nat) : Prop :=
  (∃ key error,
    state.listings.futures flight = some ⟨key, .exception error⟩) ∨
  ∃ leader other, state.task leader = some other ∧
    other.place.leads = some flight ∧ other.place.failing = true

/-- The query the task depends on has failed. -/
def State.QueryFailed (state : State) (task : Task) : Prop :=
  task.place.failing = true ∨
    ∃ flight, task.follows state = some flight ∧ state.FlightFailed flight

/-- Without a further step of the worker, the request can have its listing, or
if `failed` an error. -/
def Answerable (setting : Setting) (worker id : Nat) (failed : Prop)
    (state : State) : Prop :=
  ∃ final ended, Without setting worker state final ∧
    final.task id = some ended ∧
    ((∃ value fromCache,
      ended.place = .caching (.returned (some value) fromCache)) ∨
    failed ∧ ∃ error, ended.place = .caching (.raised error))

/-- The flight is over, or led by somebody else than the worker. -/
structure Manned (worker : Nat) (state : State) (flight : Nat) : Prop where
  carried : ∃ key outcome,
    state.listings.futures flight = some ⟨key, outcome⟩ ∧
      ∀ value, outcome = .result value → value.isSome = true
  led : ∀ key, state.listings.futures flight = some ⟨key, .pending⟩ →
    ∃ leader other, state.task leader = some other ∧
      other.place.leads = some flight ∧ other.place.Carries ∧ leader ≠ worker

variable {setting : Setting} {worker id flight : Nat} {state : State}

theorem Answerable.of_reached {after : State} {failed failed' : Prop}
    (reached : Without setting worker state after) (fails : failed → failed')
    (answerable : Answerable setting worker id failed after) :
    Answerable setting worker id failed' state := by
  obtain ⟨final, ended, later, found, answered⟩ := answerable
  exact ⟨final, ended, reached.trans later, found,
    answered.imp_right fun ⟨failed, raised⟩ => ⟨fails failed, raised⟩⟩

theorem answers_flown {task : Task} (key : ListingKey) {failed : Prop}
    (outcome : Except String Cached) (spared : id ≠ worker)
    (found : state.task id = some task)
    (place : task.place = .caching (.follow flight))
    (future : state.listings.futures flight = some ⟨key, flown outcome⟩)
    (fails : ∀ error, outcome = .error error → failed) :
    Answerable setting worker id failed state := by
  cases outcome with
  | ok value =>
      have stepped : step setting state (.advance id) = some
          (state.moveTo id task (.caching (.returned (some value) true))) := by
        rw [step_advance found, Task.advance, place]
        simp [Task.advanceCaching, SharedCache.getOrCompute, future, flown,
          Task.cachingAt]
      exact ⟨_, _, .step stepped spared, State.moved_task rfl found _,
        .inl ⟨value, true, rfl⟩⟩
  | error error =>
      have stepped : step setting state (.advance id) = some
          (state.moveTo id task (.caching (.raised error))) := by
        rw [step_advance found, Task.advance, place]
        simp [Task.advanceCaching, SharedCache.getOrCompute, future, flown,
          Task.cachingAt]
      exact ⟨_, _, .step stepped spared, State.moved_task rfl found _,
        .inr ⟨fails error rfl, error, rfl⟩⟩

theorem answers_follow {task : Task} (spared : id ≠ worker)
    (left : SlotLeft setting.cfg worker state)
    (manned : Manned worker state flight) (found : state.task id = some task)
    (place : task.place = .caching (.follow flight)) :
    Answerable setting worker id (state.FlightFailed flight) state := by
  obtain ⟨key, outcome, future, valued⟩ := manned.carried
  cases outcome with
  | result value =>
      obtain ⟨value, rfl⟩ := Option.isSome_iff_exists.mp (valued value rfl)
      exact answers_flown key (.ok value) spared found place future (by simp)
  | exception error =>
      exact answers_flown key (.error error) spared found place future
        fun _ _ => .inl ⟨key, error, future⟩
  | pending =>
      obtain ⟨leader, other, known, leads, carries, apart⟩ :=
        manned.led key future
      have differ : id ≠ leader := by
        rintro rfl
        cases found.symm.trans known
        rw [place] at leads
        cases leads
      have outside : (state.view id).inGate = false := by
        rw [State.view_of_task found, Task.view, place]
        rfl
      obtain ⟨final, _, key, outcome, reached, _, _, landed, fails, kept⟩ :=
        lands_of_leading apart (fun _ _ => left) known leads carries (fun _ => outside)
          fun failing => failing
      have same : final.task id = some task := by
        rw [State.task_eq_some, kept differ]
        exact State.task_eq_some.mp found
      refine .of_reached reached (fun failed => failed)
        (answers_flown key outcome spared same place landed ?_)
      rintro error rfl
      rcases fails with failing | ⟨value, same⟩
      · exact .inr ⟨leader, other, known, leads, failing⟩
      · cases same

theorem SlotLeft.moveTo {cfg : Config} {middle : State} {task : Task}
    {new : Place} (left : SlotLeft cfg worker state)
    (tasks : middle.tasks = state.tasks)
    (calls : middle.epochs.calls = state.epochs.calls)
    (gate : middle.gate = state.gate) (found : state.task id = some task)
    (inGate : new.inGate = task.place.inGate) :
    SlotLeft cfg worker (middle.moveTo id task new) := by
  have turns : Turns state (middle.moveTo id task new) id _ :=
    .of_setActivity tasks calls (State.task_eq_some.mp found)
  have same := turns.inGate (by
    rw [State.view_of_task found]
    exact inGate)
  intro slots gated
  obtain ⟨some_, held, single⟩ := left slots gated
  refine ⟨some_, held.of_same gate same, fun one => ?_⟩
  rw [same]
  exact single one

theorem State.task_moveTo_of_leads {middle : State} {task other : Task}
    {new : Place} {leader : Nat} (tasks : middle.tasks = state.tasks)
    (found : state.task id = some task) (leads : task.place.leads = none)
    (known : state.task leader = some other)
    (led : other.place.leads = some flight) :
    (middle.moveTo id task new).task leader = some other := by
  have differ : leader ≠ id := by
    rintro rfl
    cases found.symm.trans known
    rw [leads] at led
    cases led
  rw [State.task_eq_some] at known ⊢
  exact (State.moveTo_task tasks found new leader).trans
    ((if_neg differ).trans known)

theorem Manned.moveTo {middle : State} {task : Task} {new : Place}
    (manned : Manned worker state flight) (tasks : middle.tasks = state.tasks)
    (futures : middle.listings.futures = state.listings.futures)
    (found : state.task id = some task) (leads : task.place.leads = none) :
    Manned worker (middle.moveTo id task new) flight where
  carried := by
    obtain ⟨key, outcome, future, valued⟩ := manned.carried
    exact ⟨key, outcome, (congrFun futures flight).trans future, valued⟩
  led key pending := by
    obtain ⟨leader, other, known, led, rest⟩ :=
      manned.led key ((congrFun futures flight).symm.trans pending)
    exact ⟨leader, other,
      State.task_moveTo_of_leads tasks found leads known led, led, rest⟩

theorem State.FlightFailed.of_moveTo {middle : State} {task : Task}
    {new : Place} (failed : (middle.moveTo id task new).FlightFailed flight)
    (tasks : middle.tasks = state.tasks)
    (futures : middle.listings.futures = state.listings.futures)
    (found : state.task id = some task) (leads : new.leads = none) :
    state.FlightFailed flight := by
  rcases failed with ⟨key, error, future⟩ | ⟨leader, other, known, led, failing⟩
  · exact .inl ⟨key, error, (congrFun futures flight).symm.trans future⟩
  · refine .inr ⟨leader, other, ?_, led, failing⟩
    rw [State.task_eq_some] at known ⊢
    rw [State.moveTo_task tasks found] at known
    split at known
    · cases known
      rw [leads] at led
      cases led
    · exact known

theorem answers_lookup {task : Task} (spared : id ≠ worker)
    (left : SlotLeft setting.cfg worker state)
    (manned : ∀ flight, state.listings.inflight task.key = some flight →
      Manned worker state flight)
    (found : state.task id = some task)
    (place : task.place = .caching .lookup) :
    Answerable setting worker id (∃ flight,
      state.listings.inflight task.key = some flight ∧
        state.FlightFailed flight) state := by
  cases registered : state.listings.inflight task.key with
  | none =>
      have stepped : step setting state (.advance id) = some ({ state with
          listings := state.listings.register task.key }.moveTo id task
            (task.computing state.listings.nextFuture)) := by
        rw [step_advance found, Task.advance, place]
        simp [Task.advanceCaching, SharedCache.getOrCompute, registered,
          Task.cachingAt]
      have computing : (task.computing state.listings.nextFuture).leads =
            some state.listings.nextFuture ∧
          (task.computing state.listings.nextFuture).Carries ∧
          (task.computing state.listings.nextFuture).inGate = false ∧
          (task.computing state.listings.nextFuture).failing = false := by
        unfold Task.computing
        split <;> exact ⟨rfl, trivial, rfl, rfl⟩
      obtain ⟨leads, carries, inGate, fails⟩ := computing
      have lands : Lands setting worker id state.listings.nextFuture id false
          ({ state with
            listings := state.listings.register task.key }.moveTo id task
              (task.computing state.listings.nextFuture)) := by
        refine lands_of_leading spared (fun _ _ => ?_)
          (State.moved_task rfl found _) leads carries (absurd rfl)
          (by simp [fails])
        exact left.moveTo rfl rfl rfl found (by rw [inGate, place]; rfl)
      obtain ⟨final, ended, key, outcome, reached, landed, landing, _, ok, _⟩ :=
        lands
      refine ⟨final, ended, .trans (.step stepped spared) reached, landed, ?_⟩
      rcases ok with impossible | ⟨value, rfl⟩
      · cases impossible
      · exact .inl ⟨value, false, landing⟩
  | some flight =>
      have stepped : step setting state (.advance id) = some ({ state with
          listings := state.listings.coalesce }.moveTo id task
            (.caching (.follow flight))) := by
        rw [step_advance found, Task.advance, place]
        simp [Task.advanceCaching, SharedCache.getOrCompute, registered,
          Task.cachingAt]
      have leads : task.place.leads = none := by rw [place]; rfl
      refine .of_reached (.step stepped spared) (fun failed => ⟨flight, rfl, ?_⟩)
        (answers_follow spared
          (left.moveTo rfl rfl rfl found (by rw [place]; rfl))
          ((manned flight registered).moveTo rfl rfl found leads)
          (State.moved_task rfl found _) rfl)
      exact failed.of_moveTo rfl rfl found rfl

theorem answers_get {task : Task} (spared : id ≠ worker)
    (left : SlotLeft setting.cfg worker state)
    (manned : ∀ flight, state.listings.inflight task.key = some flight →
      Manned worker state flight)
    (found : state.task id = some task) (place : task.place = .caching .get) :
    Answerable setting worker id (∃ flight,
      state.listings.inflight task.key = some flight ∧
        state.FlightFailed flight) state := by
  have advanced : step setting state (.advance id) =
      task.advanceCaching setting state id .get := by
    rw [step_advance found, Task.advance, place]
  have leads : task.place.leads = none := by rw [place]; rfl
  have inflight : (state.listings.get state.now task.key).2.inflight =
    state.listings.inflight := rfl
  have futures : (state.listings.get state.now task.key).2.futures =
    state.listings.futures := rfl
  simp only [Task.advanceCaching, SharedCache.getOrCompute] at advanced
  generalize state.listings.get state.now task.key = got
    at advanced inflight futures
  obtain ⟨hit, listings⟩ := got
  cases hit with
  | some value =>
      exact ⟨_, _, .step advanced spared, State.moved_task rfl found _,
        .inl ⟨value, true, rfl⟩⟩
  | none =>
      have stepped : step setting state (.advance id) =
          some ({ state with listings := listings }.moveTo id task
            (.caching .lookup)) := advanced
      have slot : SlotLeft setting.cfg worker
          ({ state with listings := listings }.moveTo id task
            (.caching .lookup)) :=
        left.moveTo rfl rfl rfl found (by rw [place]; rfl)
      refine .of_reached (.step stepped spared) ?_
        (answers_lookup spared slot ?_ (State.moved_task rfl found _) rfl)
      · rintro ⟨flight, registered, failed⟩
        exact ⟨flight, inflight ▸ registered,
          failed.of_moveTo rfl futures found rfl⟩
      · intro flight registered
        exact (manned flight (inflight ▸ registered)).moveTo rfl futures found
          leads

theorem Place.Holds.carries {key : ListingKey} {place : Place}
    (holds : place.Holds valued state.listings key) : place.Carries := by
  cases place with
  | caching caller =>
      cases caller with
      | compute flight => exact holds
      | put | unregister | publish => exact holds.2
      | returned value fromCache => exact holds
      | _ => trivial
  | _ => trivial

theorem manned_of_unled {key : ListingKey}
    (orderly : Orderly setting.cfg state) (holds : state.Holds valued)
    (names : state.listings.Names flight key)
    (unled : (state.view worker).leads ≠ some flight) :
    Manned worker state flight where
  carried := by
    obtain ⟨outcome, future⟩ := names
    refine ⟨key, outcome, future, ?_⟩
    rintro value rfl
    exact holds.listings.flown flight key value future
  led key pending := by
    obtain ⟨leader, leads⟩ := orderly.led flight key pending
    obtain ⟨task, found, led⟩ := State.view_leads leads
    refine ⟨leader, task, found, led, (holds.task found).carries, ?_⟩
    rintro rfl
    exact unled leads

/-- While a request that gave up its join waits, a slot is left for it. -/
theorem slotLeft_of_awaits {await : Await} (slots : setting.cfg.queryThreads ≠ some 0)
    (orderly : Orderly setting.cfg state)
    (waits : (state.view id).awaits = some (worker, await)) :
    SlotLeft setting.cfg worker state := by
  intro slots' gated
  refine ⟨?_, orderly.gate slots' gated, ?_⟩
  · rcases Nat.eq_zero_or_pos slots' with rfl | some_
    · exact absurd gated slots
    · exact some_
  · rintro rfl
    exact orderly.slot gated id worker await waits

theorem State.awaits_of_gaveUp {task : Task} {await : Await}
    (found : state.task id = some task) (gaveUp : task.timedOut = some worker)
    (awaits : task.place.awaits task.key = some await) :
    (state.view id).awaits = some (worker, await) := by
  rw [State.view_of_task found, Task.view]
  simp [gaveUp, awaits]

theorem answerable_of_leading {task : Task} (spared : id ≠ worker)
    (found : state.task id = some task) (leads : task.place.leads = some flight)
    (carries : task.place.Carries)
    (slot : ∀ led,
      task.place = .query led .derive ∨ task.place = .query led .gate →
      SlotLeft setting.cfg worker state) :
    Answerable setting worker id (state.QueryFailed task) state := by
  obtain ⟨final, ended, key, outcome, reached, landed, landing, _, fails, _⟩ :=
    lands_of_leading spared slot found leads carries (absurd rfl)
      fun failing => failing
  refine ⟨final, ended, reached, landed, ?_⟩
  cases outcome with
  | ok value => exact .inl ⟨value, false, landing⟩
  | error error =>
      rcases fails with failing | ⟨value, same⟩
      · exact .inr ⟨.inl failing, error, landing⟩
      · cases same

/-- A request that gave up its join, on its way to a flight. -/
theorem answerable_of_asking {task : Task}
    (slots : setting.cfg.queryThreads ≠ some 0)
    (orderly : Orderly setting.cfg state) (holds : state.Holds valued)
    (spared : id ≠ worker) (found : state.task id = some task)
    (gaveUp : task.timedOut = some worker)
    (asks : task.place = .caching .get ∨ task.place = .caching .lookup) :
    Answerable setting worker id (state.QueryFailed task) state := by
  have follows : task.follows state = state.listings.inflight task.key := by
    unfold Task.follows
    rcases asks with place | place <;> rw [place]
  have awaits : (state.view id).awaits = some (worker, .lookup task.key) := by
    apply State.awaits_of_gaveUp found gaveUp
    rcases asks with place | place
    · rw [place]
      rfl
    · rw [place]
      rfl
  have left := slotLeft_of_awaits slots orderly awaits
  have manned : ∀ flight, state.listings.inflight task.key = some flight →
      Manned worker state flight := by
    intro flight registered
    apply manned_of_unled orderly holds
      (holds.listings.registered _ flight registered)
    exact orderly.lookup id worker _ awaits flight registered
  have fails : (∃ flight, state.listings.inflight task.key = some flight ∧
      state.FlightFailed flight) → state.QueryFailed task := by
    intro failed
    obtain ⟨flight, registered, failed⟩ := failed
    exact .inr ⟨flight, follows.trans registered, failed⟩
  rcases asks with place | place
  · exact .of_reached .refl fails (answers_get spared left manned found place)
  · exact .of_reached .refl fails
      (answers_lookup spared left manned found place)

/-- A request that gave up its join, and follows a flight now. -/
theorem answerable_of_following {task : Task}
    (slots : setting.cfg.queryThreads ≠ some 0)
    (orderly : Orderly setting.cfg state) (holds : state.Holds valued)
    (spared : id ≠ worker) (found : state.task id = some task)
    (gaveUp : task.timedOut = some worker)
    (place : task.place = .caching (.follow flight)) :
    Answerable setting worker id (state.QueryFailed task) state := by
  have awaits : (state.view id).awaits = some (worker, .flight flight) :=
    State.awaits_of_gaveUp found gaveUp (by rw [place]; rfl)
  have names := holds.task found
  rw [place] at names
  have manned := manned_of_unled orderly holds names
    (orderly.follow id worker flight awaits)
  have left := slotLeft_of_awaits slots orderly awaits
  refine .of_reached .refl ?_ (answers_follow spared left manned found place)
  exact fun failed => .inr ⟨flight, by rw [Task.follows, place], failed⟩

/-- In a run that keeps requests and given up prefetches apart, a request that
left the join of a prefetch by the timeout never waits for a computation of that
prefetch, and has its answer without a further step of it. -/
theorem givenUp_join_is_over (setting : Setting)
    (slots : setting.cfg.queryThreads ≠ some 0) {state : State}
    (reachable : (system setting).Reachable (StaysApart setting.cfg) state)
    {id worker : Nat} {task other : Task} (found : state.task id = some task)
    (interactive : task.kind = .page ∨ task.kind = .table)
    (known : state.task worker = some other) (prefetch : other.kind = .prefetch)
    (gaveUp : task.timedOut = some worker) :
    (∀ flight, task.place = .caching (.follow flight) →
      other.place.leads ≠ some flight) ∧
    (task.place.inCache = true →
      Answerable setting worker id (state.QueryFailed task) state) := by
  have holds := holds_of_reachable (valued_kept setting)
    (reachable.mono fun _ _ _ => trivial)
  have orderly := orderly_of_reachable reachable
  have spared : id ≠ worker := by
    intro same
    subst same
    cases found.symm.trans known
    rw [prefetch] at interactive
    rcases interactive with page | table
    · cases page
    · cases table
  have carries := (holds.task found).carries
  constructor
  · intro flight place
    have leading : (state.view worker).leads = other.place.leads := by
      rw [State.view_of_task known]
      rfl
    rw [← leading]
    apply orderly.follow id worker flight
    exact State.awaits_of_gaveUp found gaveUp (by rw [place]; rfl)
  · intro inCache
    cases place : task.place with
    | caching caller =>
        cases caller with
        | get =>
            exact answerable_of_asking slots orderly holds spared found gaveUp
              (.inl place)
        | lookup =>
            exact answerable_of_asking slots orderly holds spared found gaveUp
              (.inr place)
        | follow flight =>
            exact answerable_of_following slots orderly holds spared found
              gaveUp place
        | compute flight =>
            rw [place] at carries
            exact carries.elim
        | returned value fromCache =>
            rw [place] at carries
            obtain ⟨value, rfl⟩ := Option.isSome_iff_exists.mp carries
            exact ⟨state, task, .refl, found, .inl ⟨value, fromCache, place⟩⟩
        | raised error =>
            exact ⟨state, task, .refl, found,
              .inr ⟨.inl (by rw [place]; rfl), error, place⟩⟩
        | _ =>
            exact answerable_of_leading spared found (by rw [place]; rfl) carries
              (by simp [place])
    | query led stage =>
        cases led with
        | none =>
            rw [place] at inCache
            cases inCache
        | some flight =>
            refine answerable_of_leading spared found (by rw [place]; rfl)
              carries ?_
            intro led atStage
            rcases atStage with atStage | atStage
            all_goals
              cases place.symm.trans atStage
              exact slotLeft_of_awaits slots orderly
                (State.awaits_of_gaveUp found gaveUp (by rw [place]; rfl))
    | _ =>
        rw [place] at inCache
        cases inCache

/-! A page of one child directory, whose prefetch hangs before or in its query
when the child is listed. -/

def opening : List Label :=
  .list .page ['a'] .all [] :: polling 0 ++ List.replicate 5 (.advance 0) ++
    [.catalog 0 true, .rows 0 [[sampleRow 'd' "DIR"]] 0] ++
    List.replicate 5 (.advance 0) ++ reading 0 ++ List.replicate 3 (.advance 0) ++
    [.take]

/-- The child is listed, up to the join of its prefetch. -/
def clicking : List Label :=
  .list .page ['a', '/', 'd'] .all [] :: reading 2 ++
    List.replicate 3 (.advance 2)

def hungInQuery : List Label :=
  opening ++ reading 1 ++ List.replicate 3 (.advance 1) ++ clicking ++
    [.timeout 2] ++ List.replicate 2 (.advance 2)

def hungInEpoch : List Label := opening ++ clicking ++ [.timeout 2]

/-- Who a task is, the join it gave up, the flight it follows or leads. -/
structure Ties where
  kind : Kind
  timedOut : Option Nat
  follows : Option Nat
  leads : Option Nat
  deriving DecidableEq

def State.ties (state : State) (id : Nat) : Option Ties :=
  (state.task id).map fun task => {
    kind := task.kind
    timedOut := task.timedOut
    follows :=
      match task.place with
      | .caching (.follow flight) => some flight
      | _ => none
    leads := task.place.leads }

theorem State.ties_eq_some {state : State} {id : Nat} {ties : Ties}
    (tied : state.ties id = some ties) :
    ∃ task, state.task id = some task ∧ task.kind = ties.kind ∧
      task.timedOut = ties.timedOut ∧ task.place.leads = ties.leads ∧
      ∀ flight, ties.follows = some flight →
        task.place = .caching (.follow flight) := by
  obtain ⟨task, found, shown⟩ := Option.map_eq_some_iff.mp tied
  cases shown
  refine ⟨task, found, rfl, rfl, rfl, fun flight follows => ?_⟩
  split at follows <;> cases follows
  assumption

theorem hungPrefetch_blocks_request :
    Initial sampleStart ∧ ∃ final task other,
      (system sampleSetting).run sampleStart hungInQuery = some final ∧
      final.task 2 = some task ∧ task.kind = .page ∧ task.timedOut = some 1 ∧
      final.task 1 = some other ∧ other.kind = .prefetch ∧
      task.place = .caching (.follow 1) ∧ other.place.leads = some 1 := by
  have tied : ((system sampleSetting).run sampleStart hungInQuery).map
      (fun state => (state.ties 2, state.ties 1)) =
        some (some ⟨.page, some 1, some 1, none⟩,
          some ⟨.prefetch, none, none, some 1⟩) := by decide +kernel
  obtain ⟨final, ran, tied⟩ := Option.map_eq_some_iff.mp tied
  obtain ⟨request, prefetch⟩ := Prod.mk.inj tied
  obtain ⟨task, found, page, timedOut, _, follows⟩ := State.ties_eq_some request
  obtain ⟨other, known, kind, _, leads, _⟩ := State.ties_eq_some prefetch
  exact ⟨sampleStart_initial, final, task, other, ran, found, page, timedOut,
    known, kind, follows 1 rfl, leads⟩

theorem hungInEpoch_staysApart :
    (system sampleSetting).Meets (StaysApart sampleSetting.cfg) sampleStart
      hungInEpoch := by
  have looked : ((system sampleSetting).run sampleStart
      (opening ++ clicking)).map (fun state =>
        (state.task 2).map fun task => state.listings.inflight task.key) =
          some (some none) := by decide +kernel
  refine .append (staysApart_of_joined sampleStart_initial ?_) ?_
  · intro label member id same
    subst same
    simp [opening, clicking, polling, reading] at member
  · intro middle ran
    refine ⟨?_, fun _ _ => trivial⟩
    intro task worker found place
    rw [ran, Option.map_some, found, Option.map_some] at looked
    constructor
    · intro flight registered
      rw [registered] at looked
      cases looked
    · intro single
      cases single

theorem hungInEpoch_answered :
    ∃ final task, (system sampleSetting).run sampleStart hungInEpoch = some final ∧
      final.task 2 = some task ∧ task.timedOut = some 1 ∧
      Answerable sampleSetting 1 2 (final.QueryFailed task) final := by
  have tied : ((system sampleSetting).run sampleStart hungInEpoch).map
      (fun state => (state.ties 2, state.ties 1)) =
        some (some ⟨.page, some 1, none, none⟩,
          some ⟨.prefetch, none, none, none⟩) := by decide +kernel
  have asking : ((system sampleSetting).run sampleStart hungInEpoch).bind
      (fun state => (state.task 2).map fun task => task.place.inCache) =
        some true := by decide +kernel
  obtain ⟨final, ran, tied⟩ := Option.map_eq_some_iff.mp tied
  obtain ⟨request, prefetch⟩ := Prod.mk.inj tied
  obtain ⟨task, found, page, timedOut, _, _⟩ := State.ties_eq_some request
  obtain ⟨other, known, kind, _, _, _⟩ := State.ties_eq_some prefetch
  rw [ran, Option.bind_some, found, Option.map_some] at asking
  exact ⟨final, task, ran, found, timedOut,
    (givenUp_join_is_over sampleSetting (by decide)
      (.of_run (.start sampleStart_initial) hungInEpoch_staysApart ran) found
      (.inl page) known kind timedOut).2 (Option.some.inj asking)⟩

end Catwalk.Service
