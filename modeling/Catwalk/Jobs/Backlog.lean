import Catwalk.Jobs.Executor

/-! The backlog of the executor against the slots of the manager. -/

namespace Catwalk.Jobs

variable {Key Result : Type}

/-- Items in the queue whose slot was released. -/
def State.spent (state : State Key Result) : Finset Nat :=
  state.queue.toFinset \ state.held

/-- Jobs that hold a slot though their work item is gone. -/
def State.lingering (state : State Key Result) : Finset Nat :=
  state.held \ (state.queue.toFinset ∪ state.pool.executing)

/-- The work items, waiting or executing, are as many as the slots allow. -/
def State.Bounded (cfg : Config) (state : State Key Result) : Prop :=
  state.pool.backlog ≤ cfg.maxWorkers + cfg.maxQueue

/-- A submit finds fewer released items in the queue than free slots. -/
def State.Timely [DecidableEq Key] (cfg : Config) (state : State Key Result)
    (label : Label Key Result) : Prop :=
  state.Admits cfg label →
    state.spent.card < state.slots + state.lingering.card

instance [DecidableEq Key] (cfg : Config) (state : State Key Result)
    (label : Label Key Result) : Decidable (state.Timely cfg label) :=
  inferInstanceAs (Decidable (state.Admits cfg label → _))

variable [DecidableEq Key] {cfg : Config} {state after : State Key Result}

/-- The items of the executor and the holders of its slots. -/
structure Accounted (cfg : Config) (state : State Key Result) : Prop
    extends Counted cfg state, Pooled state

theorem Accounted.step {label : Label Key Result}
    (accounted : Accounted cfg state)
    (stepped : Jobs.step cfg state label = some after) :
    Accounted cfg after where
  toCounted := accounted.toCounted.step stepped
  sound := (accounted.toPooled.step stepped).sound

omit [DecidableEq Key] in
theorem accounted_of_initial (initial : Initial cfg state) :
    Accounted cfg state where
  toCounted := counted_of_initial initial
  sound := (pooled_of_initial initial).sound

omit [DecidableEq Key] in
theorem Ruled.executing_subset (ruled : Ruled state) :
    state.pool.executing ⊆ state.held := by
  intro id executes
  obtain ⟨known, stage⟩ := WorkPool.mem_within.mp executes
  rw [State.mem_known ruled.fresh] at known
  obtain ⟨job, found⟩ := Option.isSome_iff_exists.mp known
  rw [State.stage_of_found found] at stage
  rw [State.mem_held ruled.fresh, State.freed_of_found found,
    Option.some.injEq, decide_eq_false_iff_not]
  intro done
  have phased := ruled.phased found
  unfold Job.Phased at phased
  rw [Job.running_of_stage stage, done] at phased
  cases phased.2

omit [DecidableEq Key] in
theorem Accounted.bounded_iff (accounted : Accounted cfg state) :
    state.Bounded cfg ↔
      state.spent.card ≤ state.slots + state.lingering.card := by
  have balance := accounted.balance
  have counts := accounted.sound.backlog_add state.held
    accounted.executing_subset
  unfold State.Bounded State.spent State.lingering
  have queue : state.pool.queue = state.queue := rfl
  rw [queue] at counts
  omega

/-- An admitted job keeps the backlog in bounds exactly if it is timely. -/
theorem Accounted.bounded_step {label : Label Key Result}
    (accounted : Accounted cfg state) (bounded : state.Bounded cfg)
    (stepped : Jobs.step cfg state label = some after) :
    after.Bounded cfg ↔ state.Timely cfg label := by
  by_cases admits : state.Admits cfg label
  · obtain ⟨key, rfl⟩ := admits.is_submit
    obtain ⟨unknown, same⟩ := accounted.toRuled.pool_submit admits stepped
    have longer := WorkPool.backlog_submit unknown
    have balance := accounted.balance
    have counts := accounted.sound.backlog_add state.held
      accounted.executing_subset
    have queue : state.pool.queue = state.queue := rfl
    rw [queue] at counts
    unfold State.Bounded State.Timely State.spent State.lingering
    rw [same, longer]
    constructor
    · intro fits _
      omega
    · intro timely
      have fits := timely admits
      omega
  · have step := accounted.toRuled.pool_step admits stepped
    have shorter := step.backlog_le accounted.sound
    constructor
    · intro _ admitted
      exact absurd admitted admits
    · intro _
      exact shorter.trans bounded

/-- The backlog stays in bounds throughout a run exactly if each admitted
submit finds fewer released items in the queue than free slots. -/
theorem backlog_bounded_iff (cfg : Config) (start final : State Key Result)
    (schedule : List (Label Key Result)) (initial : Initial cfg start)
    (ran : (system cfg).run start schedule = some final) :
    (system cfg).Throughout (State.Bounded cfg) start schedule ↔
      (system cfg).Meets (State.Timely cfg) start schedule := by
  have accounted := accounted_of_initial initial
  have bounded : start.Bounded cfg := by
    have empty : start.queue.toFinset \ start.held = ∅ := by
      rw [initial.queue]
      exact Finset.empty_sdiff _
    rw [accounted.bounded_iff, State.spent, empty]
    exact Nat.zero_le _
  have kept : ∀ (state : State Key Result) label after,
      Accounted cfg state →
      (system cfg).step state label = some after → Accounted cfg after :=
    fun _ _ _ accounted stepped => accounted.step stepped
  apply StepSystem.throughout_iff_meets kept ?_ accounted bounded ran
  intro state label after accounted bounded stepped
  exact accounted.bounded_step bounded stepped

/-- The item of the cancelled job is still queued when the next job comes. -/
def releasedSchedule : List (Label Bool Unit) :=
  [.submit true false, .cancel 0 0, .endCancel 0] ++
    List.replicate 6 (.callback 0) ++ [.submit false false]

theorem releasedSchedule_bounded :
    ((system sampleConfig).run sampleStart releasedSchedule).map
        (fun final => (final.queue, final.spent, final.slots)) =
      some ([0, 1], {0}, 1) ∧
    (system sampleConfig).Throughout (State.Bounded sampleConfig) sampleStart
      releasedSchedule := by
  have completes : ((system sampleConfig).run sampleStart
      releasedSchedule).isSome := by decide
  obtain ⟨final, ran⟩ := Option.isSome_iff_exists.mp completes
  exact ⟨by decide, (backlog_bounded_iff sampleConfig sampleStart final _
    sampleStart_initial ran).mpr (by decide)⟩

/-- The worker is busy; the queued job is cancelled and another one submitted. -/
def overflowSchedule : List (Label Bool Unit) :=
  [.submit true false, .take, .submit false false, .cancel 1 1, .endCancel 1] ++
    List.replicate 6 (.callback 1) ++ [.submit false false]

theorem overflowSchedule_exceeds :
    ¬ ∀ (cfg : Config) (start final : State Bool Unit)
      (schedule : List (Label Bool Unit)), Initial cfg start →
      (system cfg).run start schedule = some final →
      final.pool.backlog ≤ cfg.maxWorkers + cfg.maxQueue := by
  intro bounded
  have overflows : ((system sampleConfig).run sampleStart
      overflowSchedule).map (·.pool.backlog) = some 3 := by decide
  obtain ⟨final, ran, backlog⟩ := Option.map_eq_some_iff.mp overflows
  have fits := bounded sampleConfig sampleStart final overflowSchedule
    sampleStart_initial ran
  rw [backlog] at fits
  exact absurd fits (by decide)

end Catwalk.Jobs
