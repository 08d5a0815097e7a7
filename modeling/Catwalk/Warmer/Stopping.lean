import Catwalk.Warmer.Lifecycle

/-! What `stop` leaves behind: whoever stops the warmer waits for its thread and
for every listing it began, and is never left waiting. -/

namespace Catwalk.CacheWarmer

variable {cfg : WarmerConfig} {state after : State}

/-- The place belongs to a pass on the executor, whose futures it holds. -/
def Place.Fits (index : Nat) (pool : Executor) : Place → Prop
  | .level walk => walk.pool = index ∧ walk.own = false
  | .submitting walk _ _ futures | .collecting walk _ futures _ =>
      (walk.pool = index ∧ walk.own = false) ∧
        ∀ future ∈ futures, future < pool.futures.length
  | .closing _ _ => False
  | .checking | .entering | .waiting | .ended => True

/-- The steps of the scheduler thread to its end once the event is set. -/
def Place.left : Place → Nat
  | .ended => 0
  | .checking => 1
  | .waiting => 2
  | .level _ | .closing _ _ => 3
  | .entering => 4
  | .collecting _ _ futures _ => 4 + futures.length
  | .submitting _ _ rest futures => 5 + 4 * rest.length + futures.length

def Caller.left : Caller → Nat
  | .joining _ => 5
  | .shutting _ => 4
  | .draining _ _ => 3
  | .rejoining _ => 2
  | .releasing => 1
  | .idle | .clearing | .building | .spawning => 0

namespace State

/-- `stop` is under way. -/
def Stopping (state : State) : Prop := 0 < state.caller.left

/-- `stop` returned, or there was no `start`. -/
def Stopped (state : State) : Prop :=
  state.caller = .idle ∧ state.thread = none

instance (state : State) : Decidable state.Stopped :=
  inferInstanceAs (Decidable (_ ∧ _))

/-- No thread is in `_loop`, and no listing waits for a worker or has one. -/
structure Silent (state : State) : Prop where
  loops : ∀ place ∈ state.loops, place = .ended
  pools : ∀ pool ∈ state.pools, pool.Quiet

/-- A property of the executor in `_pool`. -/
def Current (state : State) (holds : Nat → Executor → Prop) : Prop :=
  ∀ index pool, state.pool = some index → state.pools[index]? = some pool →
    holds index pool

/-- The steps to the end of `stop`. -/
def left (state : State) : Nat :=
  state.caller.left + (state.loops.map Place.left).sum +
    (state.pools.map FuturePool.owed).sum

/-- The listings that run, over all executors. -/
def executing (state : State) : Nat :=
  (state.pools.map FuturePool.executing).sum

end State

def Caller.Fits (state : State) : Caller → Prop
  | .idle => state.thread = none → state.pool = none
  | .clearing | .building => state.thread = none ∧ state.pool = none
  | .spawning => state.thread = none ∧ state.pool.isSome
  | .joining thread | .shutting thread =>
      thread = state.thread ∧ state.isSet = true ∧
        (state.thread = none → state.pool = none)
  | .draining thread index =>
      thread = state.thread ∧ state.isSet = true ∧ state.pool = some index ∧
        state.thread.isSome ∧
        state.Current fun _ pool => pool.shut = true ∧ pool.waiting = 0
  | .rejoining thread =>
      thread = state.thread ∧ state.isSet = true ∧
        (state.thread = none → state.pool = none) ∧
        state.Current fun _ pool => pool.shut = true ∧ pool.Quiet
  | .releasing =>
      state.isSet = true ∧ state.joined state.thread = true ∧
        (state.thread = none → state.pool = none) ∧
        state.Current fun _ pool => pool.shut = true ∧ pool.Quiet

/-- Only the thread in `_thread` is alive and only the executor in `_pool` has
work, and there is none without a thread. -/
structure Sound (cfg : WarmerConfig) (state : State) : Prop where
  alive : ∀ id place, state.loops[id]? = some place → place ≠ .ended →
    state.thread = some id
  started : ∀ id, state.thread = some id → id < state.loops.length
  held : ∀ id, state.thread = some id → ∃ index, state.pool = some index
  present : ∀ index, state.pool = some index → index < state.pools.length
  fits : ∀ (id : Nat) (place : Place), state.loops[id]? = some place →
    state.Current fun index pool => place.Fits index pool
  others : ∀ index pool, state.pools[index]? = some pool →
    state.pool ≠ some index → pool.Quiet
  calm : state.thread = none → ∀ pool ∈ state.pools, pool.Quiet
  bounded : ∀ pool ∈ state.pools, pool.executing ≤ cfg.threads
  caller : state.caller.Fits state

/-- What a step does to an executor; after its shutdown nothing waits anew. -/
structure Calms (pool after : Executor) : Prop where
  extended : pool.Extends after
  waiting : pool.shut = true → after.waiting ≤ pool.waiting
  executing : pool.shut = true → pool.waiting = 0 →
    after.executing ≤ pool.executing

theorem Calms.refl (pool : Executor) : Calms pool pool :=
  ⟨.refl pool, fun _ => Nat.le_refl _, fun _ _ => Nat.le_refl _⟩

theorem Calms.quiet {pool after : Executor} (calms : Calms pool after)
    (shut : pool.shut = true) (quiet : pool.Quiet) :
    after.shut = true ∧ after.Quiet := by
  refine ⟨calms.extended.shut shut, ?_, ?_⟩
  · exact Nat.le_zero.mp (quiet.1 ▸ calms.waiting shut)
  · exact Nat.le_zero.mp (quiet.2 ▸ calms.executing shut quiet.1)

theorem Place.Fits.mono {index : Nat} {pool after : Executor} {place : Place}
    (fits : place.Fits index pool) (extended : pool.Extends after) :
    place.Fits index after := by
  have longer := extended.length_le
  cases place with
  | submitting | collecting =>
      exact ⟨fits.1, fun future member =>
        Nat.lt_of_lt_of_le (fits.2 future member) longer⟩
  | closing => exact fits
  | level => exact fits
  | checking | entering | waiting | ended => trivial

/-- A step of the live thread, which may submit to or cancel on its executor. -/
structure LoopMove (state after : State) (id : Nat) (place : Place) : Prop where
  moved : ∃ index pool later next lastPass,
    state.pool = some index ∧ state.pools[index]? = some pool ∧
    after = { state with
      loops := state.loops.set id next
      pools := state.pools.set index later
      lastPass := lastPass } ∧
    Calms pool later ∧ later.executing = pool.executing ∧
    next.Fits index later ∧
    (state.isSet = true → next.left + later.owed < place.left + pool.owed)

section Moves

variable {id index : Nat} {pool later : Executor} {place next : Place}

/-- A step that leaves the executor alone. -/
theorem LoopMove.of_goto (held : state.pool = some index)
    (found : state.pools[index]? = some pool) (fits : next.Fits index pool)
    (fewer : state.isSet = true → next.left < place.left) :
    LoopMove state (state.goto id next) id place := by
  refine ⟨index, pool, pool, next, state.lastPass, held, found, ?_, .refl pool,
    rfl, fits, fun isSet => ?_⟩
  · obtain ⟨inside, isPool⟩ := List.getElem?_eq_some_iff.mp found
    have same : state.pools.set index pool = state.pools := by
      rw [← isPool, List.set_getElem_self]
    rw [same]
    rfl
  · exact Nat.add_lt_add_right (fewer isSet) _

/-- The end of a pass, after a step on its executor. -/
theorem LoopMove.of_settle (held : state.pool = some index)
    (found : state.pools[index]? = some pool) (calms : Calms pool later)
    (executing : later.executing = pool.executing)
    (owed : later.owed ≤ pool.owed) (id : Nat) (further : 2 < place.left)
    (walk : Walk) (completed : Bool) :
    LoopMove state ((state.setPool index later).settle id walk completed) id
      place := by
  refine ⟨index, pool, later, .waiting,
    if completed then some ⟨walk.visited, walk.batches⟩ else state.lastPass,
    held, found, ?_, calms, executing, trivial, fun _ => ?_⟩
  · cases completed <;> rfl
  · exact Nat.add_lt_add_of_lt_of_le further owed

theorem submit_calms {path : Text} (submitted : pool.submit path = some later) :
    Calms pool later where
  extended := FuturePool.submit_extends submitted
  waiting := by
    intro shut
    have still := (FuturePool.submit_eq_some submitted).1
    rw [shut] at still
    cases still
  executing := fun _ _ => (FuturePool.submit_counts submitted).2.le

theorem cancelEach_calms (indices : List Nat) :
    Calms pool (pool.cancelEach indices) where
  extended := FuturePool.cancelEach_extends indices
  waiting := fun _ => (FuturePool.cancelEach_counts indices).1
  executing := fun _ _ => (FuturePool.cancelEach_counts indices).2.le

theorem owed_cancelEach (indices : List Nat) :
    (pool.cancelEach indices).owed ≤ pool.owed := by
  have counts := pool.cancelEach_counts indices
  unfold FuturePool.owed
  omega

theorem Sound.current (sound : Sound cfg state)
    (found : state.loops[id]? = some place) (alive : place ≠ .ended) :
    ∃ index pool, state.pool = some index ∧
      state.pools[index]? = some pool ∧ place.Fits index pool := by
  have isThread := sound.alive id place found alive
  obtain ⟨index, held⟩ := sound.held id isThread
  have present := List.getElem?_eq_getElem (sound.present index held)
  exact ⟨index, _, held, present, sound.fits id place found index _ held present⟩

/-- The locals of a pass name the executor in `_pool`, so the pass never makes
one of its own. -/
theorem Sound.loop_move (sound : Sound cfg state)
    (found : state.loops[id]? = some place)
    (stepped : loopStep cfg state id place = some after) :
    LoopMove state after id place := by
  have alive : place ≠ .ended := by
    rintro rfl
    cases stepped
  obtain ⟨index, pool, held, present, fits⟩ := sound.current found alive
  cases place with
  | checking =>
      cases stepped
      refine .of_goto held present ?_ fun isSet => ?_
      · cases state.isSet <;> trivial
      · rw [isSet]
        exact Nat.zero_lt_one
  | entering =>
      simp only [loopStep, held] at stepped
      cases stepped
      exact .of_goto held present ⟨rfl, rfl⟩ fun _ => by simp [Place.left]
  | level walk =>
      obtain ⟨rfl, notOwn⟩ := fits
      have leaves : ∀ completed, state.leave id walk completed =
          some (state.settle id walk completed) := by
        intro completed
        rw [State.leave, notOwn]
        rfl
      have same : state.setPool walk.pool pool = state := by
        obtain ⟨inside, isPool⟩ := List.getElem?_eq_some_iff.mp present
        rw [State.setPool, ← isPool, List.set_getElem_self]
      have settled : ∀ completed,
          LoopMove state (state.settle id walk completed) id (.level walk) := by
        intro completed
        have further : 2 < (Place.level walk).left := by simp [Place.left]
        have move := LoopMove.of_settle held present (.refl pool) rfl le_rfl
          id further walk completed
        rwa [same] at move
      simp only [loopStep, leaves] at stepped
      split at stepped
      next => exact Option.some.inj stepped ▸ settled true
      next more =>
          split at stepped
          next => exact Option.some.inj stepped ▸ settled true
          next =>
              cases stepped
              refine .of_goto held present ⟨⟨rfl, notOwn⟩, by simp⟩ ?_
              intro isSet
              exact absurd (.inr (.inr isSet)) more
  | submitting walk batch rest futures =>
      obtain ⟨⟨rfl, notOwn⟩, inside⟩ := fits
      cases rest with
      | nil =>
          cases stepped
          refine .of_goto held present ⟨⟨rfl, notOwn⟩, inside⟩ fun _ => ?_
          simp only [Place.left, List.length_nil]
          omega
      | cons path rest =>
          simp only [loopStep, present, Option.bind_some] at stepped
          split at stepped
          next later submitted =>
              have counts := FuturePool.submit_counts submitted
              have longer := (FuturePool.submit_extends submitted).length_le
              obtain ⟨_, isLater⟩ := FuturePool.submit_eq_some submitted
              cases stepped
              refine ⟨walk.pool, pool, later, _, state.lastPass, held, present,
                rfl, submit_calms submitted, counts.2, ⟨⟨rfl, notOwn⟩, ?_⟩,
                fun _ => ?_⟩
              · intro future member
                rw [isLater, List.length_append, List.length_singleton]
                rcases List.mem_append.mp member with before | new
                · exact Nat.lt_succ_of_lt (inside future before)
                · rw [List.mem_singleton.mp new]
                  exact Nat.lt_succ_self _
              · simp only [Place.left, FuturePool.owed, List.length_cons,
                  List.length_append, List.length_nil]
                omega
          next refused =>
              have left : state.leave id walk false =
                  some (state.settle id walk false) := by
                rw [State.leave, notOwn]
                rfl
              rw [left] at stepped
              cases stepped
              exact .of_goto held present trivial fun _ => by
                simp only [Place.left]
                omega
  | collecting walk batch futures childrenPerDir =>
      obtain ⟨⟨rfl, notOwn⟩, inside⟩ := fits
      cases futures with
      | nil =>
          cases stepped
          exact .of_goto held present ⟨rfl, notOwn⟩ fun _ => by simp [Place.left]
      | cons future rest =>
          simp only [loopStep, present, Option.bind_some] at stepped
          obtain ⟨entry, atFuture, stepped⟩ := Option.bind_eq_some_iff.mp stepped
          split at stepped
          next names done =>
              cases stepped
              refine .of_goto held present ⟨⟨rfl, notOwn⟩, ?_⟩ fun _ => ?_
              · exact fun other member =>
                  inside other (List.mem_cons_of_mem _ member)
              · simp [Place.left]
          next cancelled =>
              rw [State.leave, notOwn] at stepped
              cases stepped
              exact .of_settle held present (cancelEach_calms rest)
                (FuturePool.cancelEach_counts rest).2 (owed_cancelEach rest) id
                (by simp only [Place.left]; omega) walk false
          next => cases stepped
          next => cases stepped
  | closing => exact fits.elim
  | waiting =>
      simp only [loopStep] at stepped
      split at stepped
      next =>
          cases stepped
          exact .of_goto held present trivial fun _ => by simp [Place.left]
      next => cases stepped
  | ended => exact absurd rfl alive

end Moves

section Preservation

variable {id index : Nat} {pool later : Executor} {place next : Place}

theorem State.Current.setPool {holds : Nat → Executor → Prop}
    (current : state.Current holds) (held : state.pool = some index)
    (found : state.pools[index]? = some pool)
    (kept : holds index pool → holds index later) :
    (state.setPool index later).Current holds := by
  intro other entry isPool present
  have same : index = other := Option.some.inj (held.symm.trans isPool)
  subst same
  have inside := (List.getElem?_eq_some_iff.mp found).1
  simp only [State.setPool, List.getElem?_set_self inside] at present
  cases present
  exact kept (current index pool held found)

/-- The executor in `_pool` changes while it has work or a thread. -/
theorem Sound.repool (sound : Sound cfg state)
    (held : state.pool = some index) (found : state.pools[index]? = some pool)
    (calms : Calms pool later) (executing : later.executing ≤ cfg.threads)
    (busy : state.thread = none → ¬ pool.Quiet) :
    Sound cfg (state.setPool index later) where
  alive := sound.alive
  started := sound.started
  held := sound.held
  present := by
    intro other isPool
    rw [State.setPool, List.length_set]
    exact sound.present other isPool
  fits := by
    intro id place atId
    exact (sound.fits id place atId).setPool held found fun fits =>
      fits.mono calms.extended
  others := by
    intro other entry atOther isOther
    have differ : index ≠ other := by
      rintro rfl
      exact isOther held
    simp only [State.setPool, List.getElem?_set_ne differ] at atOther
    exact sound.others other entry atOther isOther
  calm := by
    intro noThread
    exact absurd (sound.calm noThread pool (List.mem_of_getElem? found))
      (busy noThread)
  bounded := by
    intro entry member
    rcases List.mem_or_eq_of_mem_set member with before | rfl
    · exact sound.bounded entry before
    · exact executing
  caller := by
    have fits := sound.caller
    change state.caller.Fits (state.setPool index later)
    cases isCaller : state.caller with
    | draining thread drained =>
        rw [isCaller] at fits
        obtain ⟨same, isSet, isPool, alive, current⟩ := fits
        refine ⟨same, isSet, isPool, alive, current.setPool held found ?_⟩
        intro ⟨shut, idle⟩
        exact ⟨calms.extended.shut shut,
          Nat.le_zero.mp (idle ▸ calms.waiting shut)⟩
    | rejoining thread =>
        rw [isCaller] at fits
        obtain ⟨same, isSet, release, current⟩ := fits
        refine ⟨same, isSet, release, current.setPool held found ?_⟩
        exact fun quiet => calms.quiet quiet.1 quiet.2
    | releasing =>
        rw [isCaller] at fits
        obtain ⟨isSet, joined, release, current⟩ := fits
        refine ⟨isSet, joined, release, current.setPool held found ?_⟩
        exact fun quiet => calms.quiet quiet.1 quiet.2
    | idle | clearing | building | spawning | joining | shutting =>
        rw [isCaller] at fits
        exact fits

/-- The live thread goes on. -/
theorem Sound.relocate (sound : Sound cfg state)
    (found : state.loops[id]? = some place) (alive : place ≠ .ended)
    (fits : state.Current fun index pool => next.Fits index pool) :
    Sound cfg (state.goto id next) where
  alive := by
    intro other there atOther notEnded
    by_cases same : id = other
    · subst same
      exact sound.alive id place found alive
    · simp only [State.goto, List.getElem?_set_ne same] at atOther
      exact sound.alive other there atOther notEnded
  started := by
    intro other isThread
    rw [State.goto, List.length_set]
    exact sound.started other isThread
  held := sound.held
  present := sound.present
  fits := by
    intro other there atOther
    by_cases same : id = other
    · subst same
      have inside := (List.getElem?_eq_some_iff.mp found).1
      simp only [State.goto, List.getElem?_set_self inside] at atOther
      cases atOther
      exact fits
    · simp only [State.goto, List.getElem?_set_ne same] at atOther
      exact sound.fits other there atOther
  others := sound.others
  calm := sound.calm
  bounded := sound.bounded
  caller := by
    have before := sound.caller
    change state.caller.Fits (state.goto id next)
    cases isCaller : state.caller with
    | releasing =>
        rw [isCaller] at before
        have joined := before.2.1
        rw [sound.alive id place found alive] at joined
        simp only [State.joined, found, decide_eq_true_eq] at joined
        exact absurd (Option.some.inj joined) alive
    | idle | clearing | building | spawning | joining | shutting | draining
    | rejoining =>
        rw [isCaller] at before
        exact before

theorem Sound.of_lastPass (sound : Sound cfg state) (lastPass : Option Pass) :
    Sound cfg { state with lastPass := lastPass } :=
  ⟨sound.alive, sound.started, sound.held, sound.present, sound.fits,
    sound.others, sound.calm, sound.bounded, sound.caller⟩

theorem Sound.loop_step (sound : Sound cfg state)
    (stepped : lifecycleStep cfg state (.loop id) = some after) :
    Sound cfg after := by
  obtain ⟨place, found, stepped⟩ := Option.bind_eq_some_iff.mp stepped
  have alive : place ≠ .ended := by
    rintro rfl
    cases stepped
  obtain ⟨index, pool, later, next, lastPass, held, present, rfl, calms,
    executing, fits, -⟩ := (sound.loop_move found stepped).moved
  have isThread := sound.alive id place found alive
  have repooled := sound.repool held present calms
    (executing ▸ sound.bounded pool (List.mem_of_getElem? present))
    (fun noThread => by simp [noThread] at isThread)
  have there : (state.setPool index later).Current fun index pool =>
      next.Fits index pool := by
    intro other entry isPool atOther
    have same : index = other := Option.some.inj (held.symm.trans isPool)
    subst same
    have inside := (List.getElem?_eq_some_iff.mp present).1
    simp only [State.setPool, List.getElem?_set_self inside] at atOther
    cases atOther
    exact fits
  exact (repooled.relocate found alive there).of_lastPass lastPass

theorem Sound.wake_step (sound : Sound cfg state)
    (stepped : lifecycleStep cfg state (.wake id) = some after) :
    Sound cfg after := by
  simp only [lifecycleStep] at stepped
  split at stepped
  next found =>
      cases stepped
      exact sound.relocate found (by simp) fun _ _ _ _ => trivial
  next => cases stepped

/-- A worker of an executor that has work is one of the executor in `_pool`. -/
theorem Sound.worker_step (sound : Sound cfg state)
    (found : state.pools[index]? = some pool) (working : ¬ pool.Quiet)
    (calms : Calms pool later) (executing : later.executing ≤ cfg.threads) :
    Sound cfg (state.setPool index later) := by
  have held : state.pool = some index := by
    by_contra isOther
    exact working (sound.others index pool found isOther)
  exact sound.repool held found calms executing fun _ => working

theorem Sound.take_step (sound : Sound cfg state)
    (stepped : lifecycleStep cfg state (.take index) = some after) :
    Sound cfg after := by
  obtain ⟨pool, found, stepped⟩ := Option.bind_eq_some_iff.mp stepped
  obtain ⟨later, taken, rfl⟩ := Option.map_eq_some_iff.mp stepped
  have counts := FuturePool.take_counts taken
  have free := (FuturePool.take_eq_some taken).1
  refine sound.worker_step found ?_ ⟨FuturePool.take_extends taken, ?_, ?_⟩ ?_
  · intro quiet
    simp [quiet.1] at counts
  · exact fun _ => Nat.le.intro counts.1
  · intro _ idle
    simp [idle] at counts
  · rw [counts.2]
    exact free

theorem Sound.finish_step (sound : Sound cfg state) {future : Nat}
    {names : List Text}
    (stepped : lifecycleStep cfg state (.finish index future names) = some after) :
    Sound cfg after := by
  obtain ⟨pool, found, stepped⟩ := Option.bind_eq_some_iff.mp stepped
  obtain ⟨later, finished, rfl⟩ := Option.map_eq_some_iff.mp stepped
  have counts := FuturePool.finish_counts finished
  refine sound.worker_step found ?_ ⟨FuturePool.finish_extends finished, ?_, ?_⟩
    ?_
  · intro quiet
    simp [quiet.2] at counts
  · exact fun _ => counts.1.le
  · exact fun _ _ => Nat.le.intro counts.2
  · exact (Nat.le.intro counts.2).trans
      (sound.bounded pool (List.mem_of_getElem? found))

/-- A step of the caller that moves nothing but the caller and the event. -/
theorem Sound.of_caller (sound : Sound cfg state) {isSet : Bool} {caller : Caller}
    (fits : caller.Fits { state with isSet := isSet, caller := caller }) :
    Sound cfg { state with isSet := isSet, caller := caller } :=
  ⟨sound.alive, sound.started, sound.held, sound.present, sound.fits,
    sound.others, sound.calm, sound.bounded, fits⟩

theorem Sound.ended (sound : Sound cfg state) (noThread : state.thread = none)
    (found : state.loops[id]? = some place) : place = .ended := by
  by_contra alive
  have isThread := sound.alive id place found alive
  rw [noThread] at isThread
  cases isThread

/-- `self._pool = ThreadPoolExecutor(…)` -/
theorem Sound.build (sound : Sound cfg state) (noThread : state.thread = none) :
    Sound cfg { state with
      pools := state.pools ++ [FuturePool.fresh]
      pool := some state.pools.length
      caller := .spawning } where
  alive := sound.alive
  started := sound.started
  held := fun _ _ => ⟨_, rfl⟩
  present := by
    intro index isPool
    cases isPool
    simp
  fits := by
    intro id place found _ _ _ _
    rw [sound.ended noThread found]
    trivial
  others := by
    intro index pool found _
    rcases List.mem_append.mp (List.mem_of_getElem? found) with before | new
    · exact sound.calm noThread pool before
    · rw [List.mem_singleton.mp new]
      exact ⟨rfl, rfl⟩
  calm := by
    intro _ pool member
    rcases List.mem_append.mp member with before | new
    · exact sound.calm noThread pool before
    · rw [List.mem_singleton.mp new]
      exact ⟨rfl, rfl⟩
  bounded := by
    intro pool member
    rcases List.mem_append.mp member with before | new
    · exact sound.bounded pool before
    · rw [List.mem_singleton.mp new]
      exact Nat.zero_le _
  caller := ⟨noThread, rfl⟩

/-- `self._thread.start()` -/
theorem Sound.spawn (sound : Sound cfg state) (noThread : state.thread = none)
    (isPool : state.pool = some index) :
    Sound cfg { state with
      loops := state.loops ++ [.checking]
      thread := some state.loops.length
      caller := .idle } where
  alive := by
    intro id place found alive
    have inside := (List.getElem?_eq_some_iff.mp found).1
    rw [List.length_append, List.length_singleton] at inside
    rcases Nat.lt_succ_iff_lt_or_eq.mp inside with before | rfl
    · rw [List.getElem?_append_left before] at found
      exact absurd (sound.ended noThread found) alive
    · rfl
  started := by
    intro id isThread
    cases isThread
    simp
  held := fun _ _ => ⟨index, isPool⟩
  present := sound.present
  fits := by
    intro id place found
    rcases List.mem_append.mp (List.mem_of_getElem? found) with before | new
    · obtain ⟨other, there⟩ := List.mem_iff_getElem?.mp before
      exact sound.fits other place there
    · rw [List.mem_singleton.mp new]
      exact fun _ _ _ _ => trivial
  others := sound.others
  calm := fun none => by cases none
  bounded := sound.bounded
  caller := fun none => by cases none

/-- `self._pool.shutdown(…)`, up to the wait for its workers -/
theorem Sound.shut (sound : Sound cfg state) {thread : Option Nat}
    (fits : (Caller.shutting thread).Fits state)
    (held : state.pool = some index) (found : state.pools[index]? = some pool) :
    Sound cfg { state.setPool index (pool.shutdown true) with
      caller := .draining thread index } := by
  have counts := pool.shutdown_counts
  have alive : state.thread ≠ none := by
    intro noThread
    have noPool := fits.2.2 noThread
    rw [held] at noPool
    cases noPool
  have executing : (pool.shutdown true).executing ≤ cfg.threads :=
    counts.2 ▸ sound.bounded pool (List.mem_of_getElem? found)
  have calms : Calms pool (pool.shutdown true) :=
    ⟨pool.shutdown_extends true, fun _ => by simp [counts.1],
      fun _ _ => counts.2.le⟩
  have repooled := sound.repool held found calms executing
    fun noThread => absurd noThread alive
  refine repooled.of_caller
    ⟨fits.1, fits.2.1, held, Option.isSome_iff_ne_none.mpr alive, ?_⟩
  intro other entry isPool atOther
  have same : index = other := Option.some.inj (held.symm.trans isPool)
  subst same
  have inside := (List.getElem?_eq_some_iff.mp found).1
  simp only [State.setPool, List.getElem?_set_self inside] at atOther
  cases atOther
  exact ⟨rfl, counts.1⟩

/-- `self._thread = None`, `self._pool = None` -/
theorem Sound.release (sound : Sound cfg state)
    (fits : Caller.releasing.Fits state) :
    Sound cfg { state with thread := none, pool := none, caller := .idle } := by
  obtain ⟨isSet, joined, release, current⟩ := fits
  have quiet : ∀ (index : Nat) (pool : Executor),
      state.pools[index]? = some pool → pool.Quiet := by
    intro index pool found
    by_cases held : state.pool = some index
    · exact (current index pool held found).2
    · exact sound.others index pool found held
  have ended : ∀ (id : Nat) (place : Place),
      state.loops[id]? = some place → place = .ended := by
    intro id place found
    by_contra alive
    rw [sound.alive id place found alive] at joined
    simp only [State.joined, found, decide_eq_true_eq] at joined
    exact alive (Option.some.inj joined)
  exact {
    alive := fun id place found alive => absurd (ended id place found) alive
    started := fun _ isThread => by cases isThread
    held := fun _ isThread => by cases isThread
    present := fun _ isPool => by cases isPool
    fits := fun _ _ _ _ _ isPool => by cases isPool
    others := fun index pool found _ => quiet index pool found
    calm := by
      intro _ pool member
      obtain ⟨index, found⟩ := List.mem_iff_getElem?.mp member
      exact quiet index pool found
    bounded := sound.bounded
    caller := fun _ => rfl }

theorem Sound.caller_step (sound : Sound cfg state)
    (stepped : lifecycleStep cfg state .proceed = some after) :
    Sound cfg after := by
  have fits := sound.caller
  change callerStep state state.caller = some after at stepped
  cases isCaller : state.caller with
  | idle =>
      rw [isCaller] at stepped
      cases stepped
  | clearing =>
      rw [isCaller] at stepped fits
      cases stepped
      exact sound.of_caller fits
  | building =>
      rw [isCaller] at stepped fits
      cases stepped
      exact sound.build fits.1
  | spawning =>
      rw [isCaller] at stepped fits
      cases stepped
      obtain ⟨index, isPool⟩ := Option.isSome_iff_exists.mp fits.2
      exact sound.spawn fits.1 isPool
  | joining thread =>
      rw [isCaller] at stepped fits
      simp only [callerStep] at stepped
      split at stepped
      next =>
          cases stepped
          exact sound.of_caller fits
      next => cases stepped
  | shutting thread =>
      rw [isCaller] at stepped fits
      simp only [callerStep] at stepped
      split at stepped
      next noPool =>
          cases stepped
          refine sound.of_caller
            ⟨fits.1, fits.2.1, fits.2.2, ?_⟩
          intro index pool isPool
          simp [noPool] at isPool
      next index held =>
          obtain ⟨pool, found, rfl⟩ := Option.map_eq_some_iff.mp stepped
          exact sound.shut fits held found
  | draining thread index =>
      rw [isCaller] at stepped fits
      obtain ⟨pool, found, stepped⟩ := Option.bind_eq_some_iff.mp stepped
      obtain ⟨same, isSet, held, alive, current⟩ := fits
      split at stepped
      next quiet =>
          cases stepped
          refine sound.of_caller ⟨same, isSet, ?_, ?_⟩
          · intro noThread
            exact absurd noThread (Option.isSome_iff_ne_none.mp alive)
          · intro other entry isPool atOther
            have isIndex : index = other :=
              Option.some.inj (held.symm.trans isPool)
            subst isIndex
            have isEntry : pool = entry :=
              Option.some.inj (found.symm.trans atOther)
            subst isEntry
            exact ⟨(current index pool held found).1, quiet⟩
      next => cases stepped
  | rejoining thread =>
      rw [isCaller] at stepped fits
      obtain ⟨rfl, isSet, release, current⟩ := fits
      simp only [callerStep] at stepped
      split at stepped
      next joined =>
          cases stepped
          exact sound.of_caller
            ⟨isSet, joined, release, current⟩
      next => cases stepped
  | releasing =>
      rw [isCaller] at stepped fits
      cases stepped
      exact sound.release fits

theorem Sound.start_step (sound : Sound cfg state)
    (stepped : lifecycleStep cfg state .start = some after) :
    Sound cfg after := by
  have fits := sound.caller
  simp only [lifecycleStep] at stepped
  split at stepped
  next isIdle =>
      rw [isIdle] at fits
      split at stepped
      next starts =>
          cases stepped
          exact sound.of_caller
            ⟨starts.2, fits starts.2⟩
      next =>
          cases stepped
          exact sound
  next => cases stepped

theorem Sound.stop_step (sound : Sound cfg state)
    (stepped : lifecycleStep cfg state .stop = some after) :
    Sound cfg after := by
  have fits := sound.caller
  simp only [lifecycleStep] at stepped
  split at stepped
  next isIdle =>
      rw [isIdle] at fits
      cases stepped
      exact sound.of_caller ⟨rfl, rfl, fits⟩
  next => cases stepped

theorem Sound.timeout_step (sound : Sound cfg state)
    (stepped : lifecycleStep cfg state .timeout = some after) :
    Sound cfg after := by
  have fits := sound.caller
  simp only [lifecycleStep] at stepped
  split at stepped
  next thread isJoining =>
      rw [isJoining] at fits
      cases stepped
      exact sound.of_caller fits
  next => cases stepped

theorem Sound.step {label : Label} (sound : Sound cfg state)
    (stepped : (lifecycle cfg).step state label = some after) :
    Sound cfg after := by
  cases label with
  | start => exact sound.start_step stepped
  | stop => exact sound.stop_step stepped
  | proceed => exact sound.caller_step stepped
  | timeout => exact sound.timeout_step stepped
  | loop id => exact sound.loop_step stepped
  | wake id => exact sound.wake_step stepped
  | take index => exact sound.take_step stepped
  | finish index future names => exact sound.finish_step stepped

theorem sound_initial : Sound cfg .initial where
  alive := fun _ _ found => by cases found
  started := fun _ isThread => by cases isThread
  held := fun _ isThread => by cases isThread
  present := fun _ isPool => by cases isPool
  fits := fun _ _ found => by cases found
  others := fun _ _ found => by cases found
  calm := fun _ _ member => by cases member
  bounded := fun _ member => by cases member
  caller := fun _ => rfl

theorem sound_of_reachable {allowed : State → Label → Prop}
    (reachable : (lifecycle cfg).Reachable allowed state) : Sound cfg state :=
  reachable.invariant (fun _ initial => initial ▸ sound_initial)
    fun _ _ _ _ sound _ stepped => sound.step stepped

end Preservation

section Counting

variable {id index : Nat} {pool later : Executor} {place next : Place}

theorem left_repool (found : state.pools[index]? = some pool)
    (later : Executor) :
    (state.setPool index later).left + pool.owed = state.left + later.owed := by
  have sums := Updates.sum_map_set FuturePool.owed found later
  simp only [State.left, State.setPool] at sums ⊢
  omega

theorem left_relocate (found : state.loops[id]? = some place) (next : Place) :
    (state.goto id next).left + place.left = state.left + next.left := by
  have sums := Updates.sum_map_set Place.left found next
  simp only [State.left, State.goto] at sums ⊢
  omega

theorem Sound.executing_le (sound : Sound cfg state) :
    state.executing ≤ cfg.threads := by
  cases held : state.pool with
  | none =>
      have idle : state.executing = 0 := by
        apply List.sum_eq_zero
        intro count member
        obtain ⟨pool, inside, rfl⟩ := List.mem_map.mp member
        obtain ⟨other, found⟩ := List.mem_iff_getElem?.mp inside
        exact (sound.others other pool found (by simp [held])).2
      exact idle ▸ Nat.zero_le _
  | some index =>
      have found := List.getElem?_eq_getElem (sound.present index held)
      have sums := Updates.sum_map_set FuturePool.executing found .fresh
      have rest : ((state.pools.set index .fresh).map
          FuturePool.executing).sum = 0 := by
        apply List.sum_eq_zero
        intro count member
        obtain ⟨pool, inside, rfl⟩ := List.mem_map.mp member
        obtain ⟨other, atOther⟩ := List.mem_iff_getElem?.mp inside
        by_cases same : index = other
        · subst same
          rw [List.getElem?_set_self (sound.present index held)] at atOther
          cases atOther
          rfl
        · rw [List.getElem?_set_ne same] at atOther
          refine (sound.others other pool atOther ?_).2
          rw [held]
          exact fun isOther => same (Option.some.inj isOther)
      rw [rest, FuturePool.fresh_executing, Nat.zero_add, Nat.add_zero] at sums
      rw [State.executing, ← sums]
      exact sound.bounded _ (List.getElem_mem _)

theorem Sound.silent (sound : Sound cfg state) (stopped : state.Stopped) :
    state.Silent where
  loops := by
    intro place member
    obtain ⟨id, found⟩ := List.mem_iff_getElem?.mp member
    exact sound.ended stopped.2 found
  pools := sound.calm stopped.2

theorem Sound.isSet (sound : Sound cfg state) (stopping : state.Stopping) :
    state.isSet = true := by
  have fits := sound.caller
  unfold State.Stopping at stopping
  cases isCaller : state.caller with
  | joining | shutting =>
      rw [isCaller] at fits
      exact fits.2.1
  | draining | rejoining =>
      rw [isCaller] at fits
      exact fits.2.1
  | releasing =>
      rw [isCaller] at fits
      exact fits.1
  | idle | clearing | building | spawning =>
      rw [isCaller] at stopping
      cases stopping

/-- What is left of `stop` falls with the steps of every thread. -/
theorem Sound.left_step {label : Label} (sound : Sound cfg state)
    (stopping : state.Stopping)
    (stepped : (lifecycle cfg).step state label = some after) :
    (after.Stopping ∨ after.Stopped) ∧ after.left < state.left := by
  have isSet := sound.isSet stopping
  have notIdle : state.caller ≠ .idle := by
    intro isIdle
    rw [State.Stopping, isIdle] at stopping
    cases stopping
  cases label with
  | start | stop =>
      simp only [lifecycle, lifecycleStep, if_neg notIdle] at stepped
      cases stepped
  | proceed =>
      change callerStep state state.caller = some after at stepped
      cases isCaller : state.caller with
      | idle => exact absurd isCaller notIdle
      | clearing | building | spawning =>
          rw [State.Stopping, isCaller] at stopping
          cases stopping
      | joining thread =>
          rw [isCaller] at stepped
          simp only [callerStep] at stepped
          split at stepped
          next =>
              cases stepped
              exact ⟨.inl (by simp [State.Stopping, Caller.left]),
                by simp [State.left, isCaller, Caller.left]⟩
          next => cases stepped
      | shutting thread =>
          rw [isCaller] at stepped
          simp only [callerStep] at stepped
          split at stepped
          next =>
              cases stepped
              exact ⟨.inl (by simp [State.Stopping, Caller.left]),
                by simp [State.left, isCaller, Caller.left]⟩
          next index held =>
              obtain ⟨pool, found, rfl⟩ := Option.map_eq_some_iff.mp stepped
              have counts := pool.shutdown_counts
              have sums := Updates.sum_map_set FuturePool.owed found
                (pool.shutdown true)
              refine ⟨.inl (by simp [State.Stopping, Caller.left]), ?_⟩
              simp only [State.left, State.setPool, isCaller, Caller.left,
                FuturePool.owed] at sums ⊢
              omega
      | draining thread index =>
          rw [isCaller] at stepped
          obtain ⟨pool, found, stepped⟩ := Option.bind_eq_some_iff.mp stepped
          split at stepped
          next =>
              cases stepped
              exact ⟨.inl (by simp [State.Stopping, Caller.left]),
                by simp [State.left, isCaller, Caller.left]⟩
          next => cases stepped
      | rejoining thread =>
          rw [isCaller] at stepped
          simp only [callerStep] at stepped
          split at stepped
          next =>
              cases stepped
              exact ⟨.inl (by simp [State.Stopping, Caller.left]),
                by simp [State.left, isCaller, Caller.left]⟩
          next => cases stepped
      | releasing =>
          rw [isCaller] at stepped
          cases stepped
          exact ⟨.inr ⟨rfl, rfl⟩, by simp [State.left, isCaller, Caller.left]⟩
  | timeout =>
      simp only [lifecycle, lifecycleStep] at stepped
      split at stepped
      next thread isJoining =>
          cases stepped
          exact ⟨.inl (by simp [State.Stopping, Caller.left]),
            by simp [State.left, isJoining, Caller.left]⟩
      next => cases stepped
  | loop id =>
      obtain ⟨place, found, stepped⟩ := Option.bind_eq_some_iff.mp stepped
      obtain ⟨index, pool, later, next, lastPass, held, present, rfl, -, -, -,
        falls⟩ := (sound.loop_move found stepped).moved
      have loops := Updates.sum_map_set Place.left found next
      have pools := Updates.sum_map_set FuturePool.owed present later
      have fewer := falls isSet
      refine ⟨.inl stopping, ?_⟩
      simp only [State.left]
      omega
  | wake id =>
      simp only [lifecycle, lifecycleStep] at stepped
      split at stepped
      next found =>
          cases stepped
          have sums := left_relocate found .checking
          simp only [Place.left] at sums
          exact ⟨.inl stopping, by omega⟩
      next => cases stepped
  | take index =>
      obtain ⟨pool, found, stepped⟩ := Option.bind_eq_some_iff.mp stepped
      obtain ⟨later, taken, rfl⟩ := Option.map_eq_some_iff.mp stepped
      have counts := FuturePool.take_counts taken
      have sums := left_repool found later
      simp only [FuturePool.owed] at sums
      exact ⟨.inl stopping, by omega⟩
  | finish index future names =>
      obtain ⟨pool, found, stepped⟩ := Option.bind_eq_some_iff.mp stepped
      obtain ⟨later, finished, rfl⟩ := Option.map_eq_some_iff.mp stepped
      have counts := FuturePool.finish_counts finished
      have sums := left_repool found later
      simp only [FuturePool.owed] at sums
      exact ⟨.inl stopping, by omega⟩

/-- A thread on an executor that was shut down and drained is never blocked once
the event is set. -/
theorem Sound.loop_free (sound : Sound cfg state)
    (isSet : state.isSet = true) (found : state.loops[id]? = some place)
    (alive : place ≠ .ended)
    (current : state.Current fun _ pool => pool.shut = true ∧ pool.Quiet) :
    (loopStep cfg state id place).isSome := by
  obtain ⟨index, pool, held, present, fits⟩ := sound.current found alive
  obtain ⟨shut, quiet⟩ := current index pool held present
  cases place with
  | checking => rfl
  | entering =>
      simp only [loopStep, held]
      rfl
  | level walk =>
      obtain ⟨_, notOwn⟩ := fits
      simp [loopStep, State.leave, notOwn, isSet]
  | submitting walk batch rest futures =>
      obtain ⟨⟨rfl, notOwn⟩, _⟩ := fits
      cases rest with
      | nil => rfl
      | cons path rest =>
          have refused := (FuturePool.submit_eq_none path).mpr shut
          simp [loopStep, present, refused, State.leave, notOwn]
  | collecting walk batch futures childrenPerDir =>
      obtain ⟨⟨rfl, notOwn⟩, inside⟩ := fits
      cases futures with
      | nil => rfl
      | cons future rest =>
          have atFuture := List.getElem?_eq_getElem
            (inside future List.mem_cons_self)
          have member := List.getElem_mem (inside future List.mem_cons_self)
          have notWaiting := List.countP_eq_zero.mp quiet.1 _ member
          have notExecuting := List.countP_eq_zero.mp quiet.2 _ member
          rw [Future.isWaiting_iff] at notWaiting
          rw [Future.isExecuting_iff] at notExecuting
          simp only [loopStep, present, Option.bind_some, atFuture]
          split
          next => rfl
          next => simp [State.leave, notOwn]
          next waits => exact absurd waits notWaiting
          next executes => exact absurd executes notExecuting
  | closing => exact fits.elim
  | waiting => simp [loopStep, isSet]
  | ended => exact absurd rfl alive

theorem Sound.free (sound : Sound cfg state) (stopping : state.Stopping) :
    ∃ label, ((lifecycle cfg).step state label).isSome := by
  have fits := sound.caller
  have isSet := sound.isSet stopping
  cases isCaller : state.caller with
  | idle | clearing | building | spawning =>
      rw [State.Stopping, isCaller] at stopping
      cases stopping
  | joining thread =>
      refine ⟨.timeout, ?_⟩
      simp [lifecycle, lifecycleStep, isCaller]
  | shutting thread =>
      refine ⟨.proceed, ?_⟩
      change (callerStep state state.caller).isSome
      rw [isCaller]
      cases held : state.pool with
      | none => simp [callerStep, held]
      | some index =>
          have present := List.getElem?_eq_getElem (sound.present index held)
          simp [callerStep, held, present]
  | draining thread index =>
      rw [isCaller] at fits
      obtain ⟨-, -, held, -, current⟩ := fits
      have inside := sound.present index held
      have present := List.getElem?_eq_getElem inside
      obtain ⟨-, idle⟩ := current index _ held present
      rcases Nat.eq_zero_or_pos state.pools[index].executing with none | some
      · refine ⟨.proceed, ?_⟩
        change (callerStep state state.caller).isSome
        rw [isCaller]
        simp [callerStep, present, FuturePool.Quiet, idle, none]
      · obtain ⟨future, finishes⟩ := FuturePool.finish_isSome some []
        refine ⟨.finish index future [], ?_⟩
        simp [lifecycle, lifecycleStep, present, finishes]
  | rejoining thread =>
      rw [isCaller] at fits
      obtain ⟨rfl, -, -, current⟩ := fits
      have proceeds : state.joined state.thread = true →
          ∃ label, ((lifecycle cfg).step state label).isSome := by
        intro joined
        refine ⟨.proceed, ?_⟩
        change (callerStep state state.caller).isSome
        rw [isCaller]
        simp [callerStep, joined]
      cases isThread : state.thread with
      | none => exact proceeds (by rw [isThread]; rfl)
      | some id =>
          have found := List.getElem?_eq_getElem (sound.started id isThread)
          have inside := sound.started id isThread
          by_cases alive : state.loops[id] = .ended
          · refine proceeds ?_
            rw [isThread, State.joined, found, alive]
            rfl
          · refine ⟨.loop id, ?_⟩
            change (state.loops[id]?.bind (loopStep cfg state id)).isSome
            rw [found]
            exact sound.loop_free isSet found alive current
  | releasing =>
      refine ⟨.proceed, ?_⟩
      change (callerStep state state.caller).isSome
      rw [isCaller]
      rfl

end Counting

def sampleWarmer : WarmerConfig where
  warmPaths := ["/a".toList]
  warmDepth := 1
  warmMaxDirs := 5
  warmThreads := 2

/-- `start` and a pass up to its first batch. -/
def opening : List Label :=
  [.start, .proceed, .proceed, .proceed, .loop 0, .loop 0, .loop 0, .loop 0]

/-- `stop` while the listing runs, longer than its first join waits. -/
def interrupted : List Label :=
  [.take 0, .stop, .timeout, .proceed, .finish 0 0 [], .proceed, .loop 0,
    .loop 0, .loop 0, .loop 0, .loop 0, .loop 0, .proceed, .proceed]

/-- Whatever the threads do, at most `threads` listings run, over all starts;
and once `stop` returned no thread is left and none of their listings. -/
theorem stopped_silent (cfg : WarmerConfig) (state : State)
    (reachable : (lifecycle cfg).Reachable StepSystem.AnyStep state) :
    state.executing ≤ cfg.threads ∧ (state.Stopped → state.Silent) := by
  have sound := sound_of_reachable reachable
  exact ⟨sound.executing_le, sound.silent⟩

theorem interrupted_silent :
    ∃ final, (lifecycle sampleWarmer).run .initial (opening ++ interrupted) =
      some final ∧ final.lastPass = some ⟨1, [["/a/".toList]]⟩ ∧
      final.Silent := by
  have ran : ((lifecycle sampleWarmer).run .initial
      (opening ++ interrupted)).isSome := by decide +kernel
  have stopped : ∀ final ∈ (lifecycle sampleWarmer).run .initial
      (opening ++ interrupted),
      final.lastPass = some ⟨1, [["/a/".toList]]⟩ ∧ final.Stopped := by
    decide +kernel
  obtain ⟨final, ran⟩ := Option.isSome_iff_exists.mp ran
  obtain ⟨recorded, stopped⟩ := stopped final ran
  refine ⟨final, ran, recorded, (stopped_silent sampleWarmer final ?_).2 stopped⟩
  exact .of_run (.start rfl) (StepSystem.Meets.any _ _ _) ran

/-- `stop` comes to its end in a bounded number of steps of all threads, in
whatever order they take them, and none of them is stuck before. -/
theorem stop_completes (cfg : WarmerConfig) (state : State)
    (reachable : (lifecycle cfg).Reachable StepSystem.AnyStep state)
    (stopping : state.Stopping) :
    (lifecycle cfg).Completes State.Stopped state state.left := by
  have stops : ∀ state, Sound cfg state ∧ (state.Stopping ∨ state.Stopped) →
      ¬ state.Stopped → state.Stopping := by
    intro state holds short
    exact holds.2.resolve_right short
  apply @StepSystem.Completes.of_measure _ _ (lifecycle cfg) State.Stopped
    (fun state => Sound cfg state ∧ (state.Stopping ∨ state.Stopped))
  · intro state label after holds short stepped
    have falls := holds.1.left_step (stops state holds short) stepped
    exact ⟨⟨holds.1.step stepped, falls.1⟩, falls.2⟩
  · intro state holds short
    exact holds.1.free (stops state holds short)
  · exact ⟨sound_of_reachable reachable, .inl stopping⟩

theorem interrupted_completes :
    ∃ middle, (lifecycle sampleWarmer).run .initial (opening ++ [.take 0, .stop]) =
        some middle ∧
      middle.executing = 1 ∧
      (lifecycle sampleWarmer).Completes State.Stopped middle 12 := by
  have ran : ((lifecycle sampleWarmer).run .initial
      (opening ++ [.take 0, .stop])).isSome := by decide +kernel
  have stopping : ∀ middle ∈ (lifecycle sampleWarmer).run .initial
      (opening ++ [.take 0, .stop]),
      middle.executing = 1 ∧ middle.left = 12 ∧ 0 < middle.caller.left := by
    decide +kernel
  obtain ⟨middle, ran⟩ := Option.isSome_iff_exists.mp ran
  obtain ⟨executing, steps, stopping⟩ := stopping middle ran
  have reachable : (lifecycle sampleWarmer).Reachable StepSystem.AnyStep middle :=
    .of_run (.start rfl) (StepSystem.Meets.any _ _ _) ran
  have completes := stop_completes sampleWarmer middle reachable stopping
  exact ⟨middle, ran, executing, steps ▸ completes⟩

end Catwalk.CacheWarmer
