import Catwalk.Theory.WorkPool
import Catwalk.Jobs.Slots

/-! The executor: its FIFO of work items, its workers and their futures. -/

namespace Catwalk.Jobs

variable {Key Result : Type}

def Job.stage (job : Job Key Result) : WorkPool.Stage :=
  match job.future, job.run with
  | .pending, _ => .waiting
  | .running, _ => .executing
  | .cancelled, _ => .cancelled
  | .finished, .ended => .ended
  | .finished, _ => .returning

/-- The executor of the manager, with a work item for each job. -/
def State.pool (state : State Key Result) : WorkPool Nat where
  known := (Finset.range state.nextJob).filter fun id =>
    (state.heap id).isSome
  queue := state.queue
  busy := state.busy
  stage := fun id => (state.heap id).elim .ended Job.stage

theorem State.mem_known {state : State Key Result} (fresh : Fresh state)
    {id : Nat} : id ∈ state.pool.known ↔ (state.heap id).isSome := by
  rw [State.pool, Finset.mem_filter]
  constructor
  · exact And.right
  · intro found
    refine ⟨?_, found⟩
    rw [Finset.mem_range]
    by_contra later
    rw [fresh id (Nat.le_of_not_lt later)] at found
    cases found

theorem State.pool_grow {state after : State Key Result} (fresh : Fresh state)
    (heap : after.heap = state.heap) (queue : after.queue = state.queue)
    (busy : after.busy = state.busy) (grows : state.nextJob ≤ after.nextJob) :
    after.pool = state.pool := by
  unfold State.pool
  rw [heap, queue, busy]
  congr 1
  ext id
  simp only [Finset.mem_filter, Finset.mem_range]
  constructor
  · rintro ⟨_, found⟩
    have known := (State.mem_known fresh).mpr found
    simpa [State.pool] using known
  · rintro ⟨older, found⟩
    exact ⟨older.trans_le grows, found⟩

theorem State.stage_of_found {state : State Key Result} {id : Nat}
    {job : Job Key Result} (found : state.heap id = some job) :
    state.pool.stage id = job.stage := by
  simp only [State.pool, found, Option.elim_some]

theorem State.pool_setJob {state : State Key Result} {id : Nat}
    {job job' : Job Key Result} (found : state.heap id = some job) :
    (state.setJob id job').pool = state.pool.move id job'.stage := by
  unfold State.pool WorkPool.move
  congr 1
  · apply Finset.filter_congr
    intro other _
    rw [State.setJob_heap]
    split
    next same => simp [same, found]
    next => rfl
  · funext other
    rw [State.setJob_heap, Function.update_apply]
    split
    · rfl
    · rfl

theorem State.pool_setJob_same {state : State Key Result} {id : Nat}
    {job job' : Job Key Result} (found : state.heap id = some job)
    (same : job'.stage = job.stage) :
    (state.setJob id job').pool = state.pool := by
  rw [State.pool_setJob found, same, ← State.stage_of_found found]
  unfold WorkPool.move
  rw [Function.update_eq_self]

theorem Job.stage_congr {job job' : Job Key Result}
    (future : job'.future = job.future) (run : job'.run = job.run) :
    job'.stage = job.stage := by
  unfold Job.stage
  rw [future, run]

theorem Job.stage_of_pending {job : Job Key Result}
    (pending : job.future = .pending) : job.stage = .waiting := by
  unfold Job.stage
  rw [pending]

theorem Job.stage_of_running {job : Job Key Result}
    (running : job.future = .running) : job.stage = .executing := by
  unfold Job.stage
  rw [running]

theorem Job.stage_of_cancelled {job : Job Key Result}
    (cancelled : job.future = .cancelled) : job.stage = .cancelled := by
  unfold Job.stage
  rw [cancelled]

theorem Job.pending_of_stage {job : Job Key Result}
    (waiting : job.stage = .waiting) : job.future = .pending := by
  unfold Job.stage at waiting
  split at waiting
  next pending => exact pending
  all_goals cases waiting

theorem Job.running_of_stage {job : Job Key Result}
    (executing : job.stage = .executing) : job.future = .running := by
  unfold Job.stage at executing
  split at executing
  next => cases executing
  next running => exact running
  all_goals cases executing

theorem Job.cancelFuture_stage {job : Job Key Result}
    (pending : job.future = .pending) :
    job.cancelFuture.stage = .cancelled := by
  apply Job.stage_of_cancelled
  unfold Job.cancelFuture
  rw [if_pos pending]

theorem Job.cancelFuture_of_not_pending {job : Job Key Result}
    (notPending : job.future ≠ .pending) : job.cancelFuture = job :=
  if_neg notPending

/-- Inside `run`, a job keeps its stage until its future ends. -/
theorem Job.work_stage {now : Int} {job job' : Job Key Result}
    (phased : job.Phased) (changed : job.work now = some job') :
    job'.stage = job.stage ∨
      job.stage = .executing ∧ job'.stage = .returning := by
  have running := (phased.of_executing (Job.work_executing changed)).1
  rw [Job.stage_of_running running]
  unfold Job.work at changed
  split at changed
  all_goals cases changed
  case h_11 => exact .inr ⟨rfl, rfl⟩
  all_goals exact .inl (Job.stage_of_running running)

theorem Job.Computes.stage {job job' : Job Key Result} (phased : job.Phased)
    (computes : job.Computes job') : job'.stage = job.stage := by
  obtain ⟨refused, computing⟩ := computes.computing
  have executing : job.run.Executing := by
    rw [computing]
    trivial
  have running := (phased.of_executing executing).1
  rw [Job.stage_of_running running]
  exact Job.stage_of_running (computes.future.trans running)

theorem Job.Phased.of_returning {job : Job Key Result} (phased : job.Phased)
    (returning : job.run = .returning) : job.future = .finished := by
  unfold Job.Phased at phased
  rw [returning] at phased
  split at phased
  · cases phased.1
  · exact phased.1.elim
  · cases phased.1
  next finished => exact finished

variable [DecidableEq Key] {cfg : Config} {state after : State Key Result}

theorem JobStep.stage {label : Label Key Result} {id : Nat}
    {job job' : Job Key Result}
    (changed : JobStep cfg state label id job job') (phased : job.Phased)
    (own : label.Own) :
    job'.stage = job.stage ∨
      job.stage = .executing ∧ job'.stage = .returning ∨
      job.stage = .waiting ∧ job'.stage = .cancelled := by
  cases changed with
  | same => exact .inl rfl
  | release => exact .inl (Job.stage_congr rfl rfl)
  | join | take | idle | doom | closerCancel => exact own.elim
  | leave =>
      left
      unfold Job.leave Job.detach
      simp only
      split <;> split <;> exact Job.stage_congr rfl rfl
  | endCancel changed =>
      unfold Job.endCancel at changed
      split at changed
      · cases changed
      · cases changed
        by_cases pending : job.future = .pending
        · refine .inr (.inr ⟨Job.stage_of_pending pending, ?_⟩)
          exact Job.cancelFuture_stage pending
        · rw [Job.cancelFuture_of_not_pending pending]
          exact .inl (Job.stage_congr rfl rfl)
  | work changed => exact (Job.work_stage phased changed).imp_right .inl
  | progress changed =>
      exact .inl ((Job.Computes.of_progress changed).stage phased)
  | returns changed =>
      exact .inl ((Job.Computes.of_returns changed).stage phased)
  | raises changed => exact .inl ((Job.Computes.of_raises changed).stage phased)
  | raisesCancelled changed =>
      exact .inl ((Job.Computes.of_raisesCancelled changed).stage phased)
  | callback changed =>
      left
      unfold Job.callbackStep at changed
      split at changed <;> cases changed <;> exact Job.stage_congr rfl rfl

/-- The submit puts a new work item into the queue. -/
def State.Admits (cfg : Config) (state : State Key Result) :
    Label Key Result → Prop
  | .submit key false =>
      state.closer = .open ∧ (state.prune cfg).joinable key = none ∧
        state.slots ≠ 0
  | _ => False

instance (label : Label Key Result) : Decidable (state.Admits cfg label) := by
  unfold State.Admits
  split <;> infer_instance

theorem State.Admits.is_submit {label : Label Key Result}
    (admits : state.Admits cfg label) : ∃ key, label = .submit key false := by
  unfold State.Admits at admits
  split at admits
  next key => exact ⟨key, rfl⟩
  next => exact admits.elim

theorem State.submit_of_admits {key : Key}
    (admits : state.Admits cfg (.submit key false)) :
    state.submit cfg key false =
      (.returned state.nextJob state.nextWatcher, { state.prune cfg with
        nextWatcher := state.nextWatcher + 1
        heap := Function.update state.heap state.nextJob
          (some (.new key state.now state.nextWatcher))
        nextJob := state.nextJob + 1
        jobs := (state.prune cfg).jobs ++ [state.nextJob]
        byKey :=
          Function.update (state.prune cfg).byKey key (some state.nextJob)
        slots := state.slots - 1
        queue := state.queue ++ [state.nextJob] }) := by
  obtain ⟨isOpen, notJoinable, free⟩ := admits
  have joins : State.joinable
      { state.prune cfg with nextWatcher := (state.prune cfg).nextWatcher + 1 }
        key = none := notJoinable
  have free' : (state.prune cfg).slots ≠ 0 := free
  unfold State.submit
  rw [if_neg (not_not.mpr isOpen)]
  simp only [joins, if_neg free']
  rfl

theorem State.admits_of_returned {key : Key} {watcher : Nat}
    (fresh : Fresh state) (isOpen : state.closer = .open)
    (free : state.slots ≠ 0)
    (returned :
      (state.submit cfg key false).1 = .returned state.nextJob watcher) :
    state.Admits cfg (.submit key false) := by
  refine ⟨isOpen, ?_, free⟩
  by_contra joinable
  obtain ⟨⟨id, job⟩, joinable⟩ := Option.ne_none_iff_exists'.mp joinable
  have joins : State.joinable
      { state.prune cfg with nextWatcher := (state.prune cfg).nextWatcher + 1 }
        key = some (id, job) := joinable
  unfold State.submit at returned
  rw [if_neg (not_not.mpr isOpen)] at returned
  simp only [joins, SubmitOutcome.returned.injEq] at returned
  have found := (State.joinable_prune rfl rfl joinable).2.1
  rw [returned.1, fresh _ le_rfl] at found
  cases found

theorem Ruled.pool_step {label : Label Key Result} (ruled : Ruled state)
    (quiet : ¬ state.Admits cfg label)
    (stepped : Jobs.step cfg state label = some after) :
    state.pool.Step after.pool := by
  cases step_cases stepped with
  | tick | get | unknown | close | cancelledAll | inactive
  | cancelCallback | drained | drainCallback | join => exact .stutter
  | submit submitted outcomeIs =>
      cases submitted with
      | closed | queueFull => exact .stutter
      | failed =>
          apply WorkPool.Step.stutter.of_eq
          exact State.pool_grow ruled.fresh rfl rfl rfl (Nat.le_succ _)
      | joined isOpen mapped found =>
          apply WorkPool.Step.stutter.of_eq
          exact State.pool_setJob_same found (Job.stage_congr rfl rfl)
      | created isOpen free =>
          have admits :=
            State.admits_of_returned ruled.fresh isOpen free outcomeIs
          exact absurd admits quiet
  | @job _ id job job' own found changed =>
      have moved : (state.setJob id job').pool =
          state.pool.move id job'.stage := State.pool_setJob found
      have before := State.stage_of_found found
      rcases changed.stage (ruled.phased found) own with
        same | ⟨executing, returning⟩ | ⟨waiting, cancelled⟩
      · apply WorkPool.Step.stutter.of_eq
        exact State.pool_setJob_same found same
      · rw [moved, returning]
        apply WorkPool.Step.finish
        · exact (State.mem_known ruled.fresh).mpr (by simp [found])
        · exact before.trans executing
      · rw [moved, cancelled]
        exact .cancel (before.trans waiting)
  | release found releasing =>
      apply WorkPool.Step.stutter.of_eq
      exact State.pool_setJob_same found (Job.stage_congr rfl rfl)
  | @take id rest job queued available found pending =>
      have before := State.stage_of_found found
      have waiting := before.trans (Job.stage_of_pending pending)
      apply (WorkPool.Step.take queued waiting).of_eq
      have moved : (state.setJob id
          { job with future := .running, run := .start }).pool =
          state.pool.move id .executing := State.pool_setJob found
      exact congrArg (fun pool => { pool with
        queue := rest
        busy := state.busy + 1 }) moved
  | @skip id rest job queued available found cancelled =>
      have before := State.stage_of_found found
      apply (WorkPool.Step.skip queued ?_).of_eq rfl
      rw [before, Job.stage_of_cancelled cancelled]
      simp
  | @idle id job found returning done =>
      have finished := (ruled.phased found).of_returning returning
      have before := State.stage_of_found found
      have stage : job.stage = .returning := by
        unfold Job.stage
        rw [finished, returning]
      have ended : ({ job with run := .ended } : Job Key Result).stage =
          .ended := by
        unfold Job.stage
        rw [finished]
      have moved : (state.setJob id { job with run := .ended }).pool =
          state.pool.move id .ended := ended ▸ State.pool_setJob found
      apply (WorkPool.Step.idle ?_ (before.trans stage)).of_eq
      · exact congrArg (fun pool => { pool with busy := state.busy - 1 }) moved
      · exact (State.mem_known ruled.fresh).mpr (by simp [found])
  | doom place member found =>
      apply WorkPool.Step.stutter.of_eq
      exact State.pool_setJob_same found (Job.stage_congr rfl rfl)
  | @cancelFuture id rest job place found =>
      by_cases pending : job.future = .pending
      · have before := State.stage_of_found found
        have waiting := before.trans (Job.stage_of_pending pending)
        apply (WorkPool.Step.cancel waiting).of_eq
        rw [← Job.cancelFuture_stage pending]
        exact State.pool_setJob found
      · apply WorkPool.Step.stutter.of_eq
        apply State.pool_setJob_same found
        rw [Job.cancelFuture_of_not_pending pending]
  | @drain id rest job place queued found =>
      have before := State.stage_of_found found
      by_cases pending : job.future = .pending
      · have waiting := before.trans (Job.stage_of_pending pending)
        have moved : (state.setJob id job.cancelFuture).pool =
            state.pool.move id .cancelled :=
          Job.cancelFuture_stage pending ▸ State.pool_setJob found
        apply (WorkPool.Step.drain queued waiting).of_eq
        exact congrArg (fun pool => { pool with queue := rest }) moved
      · have same : (state.setJob id job.cancelFuture).pool = state.pool := by
          apply State.pool_setJob_same found
          rw [Job.cancelFuture_of_not_pending pending]
        apply (WorkPool.Step.skip queued ?_).of_eq
        · exact congrArg (fun pool => { pool with queue := rest }) same
        · rw [before]
          intro waiting
          exact pending (Job.pending_of_stage waiting)

theorem Ruled.pool_submit {key : Key} (ruled : Ruled state)
    (admits : state.Admits cfg (.submit key false))
    (stepped : Jobs.step cfg state (.submit key false) = some after) :
    state.nextJob ∉ state.pool.known ∧
      after.pool = state.pool.submit state.nextJob := by
  have missing := ruled.fresh _ le_rfl
  refine ⟨?_, ?_⟩
  · rw [State.mem_known ruled.fresh, missing]
    simp
  · simp only [Jobs.step, State.submit_of_admits admits,
      Option.some.injEq] at stepped
    subst stepped
    unfold State.pool WorkPool.submit
    congr 1
    · ext id
      simp only [Finset.mem_filter, Finset.mem_range, Finset.mem_insert,
        Function.update_apply]
      split
      next isNew => simp [isNew]
      next older =>
        have bound : id < state.nextJob + 1 ↔ id < state.nextJob := by omega
        simp [older, bound]
    · funext id
      simp only [Function.update_apply]
      split
      · rfl
      · rfl

/-- The manager's executor is a sound pool. -/
structure Pooled (state : State Key Result) : Prop extends Ruled state where
  sound : state.pool.Sound

omit [DecidableEq Key] in
theorem pooled_of_initial (initial : Initial cfg state) : Pooled state where
  toRuled := ruled_of_initial initial
  sound := by
    have queue : state.pool.queue = [] := initial.queue
    have known : state.pool.known = ∅ := by
      apply Finset.eq_empty_of_forall_notMem
      intro id member
      rw [State.mem_known (ruled_of_initial initial).fresh,
        initial.heap] at member
      cases member
    constructor
    · rw [queue]
      exact List.nodup_nil
    · rw [queue]
      intro id member
      cases member
    · rw [queue]
      intro id member
      cases member
    · rw [known]
      intro id member
      cases member
    · rw [WorkPool.working, WorkPool.within, known, Finset.filter_empty]
      exact initial.busy

theorem Pooled.step {label : Label Key Result} (pooled : Pooled state)
    (stepped : Jobs.step cfg state label = some after) : Pooled after where
  toRuled := pooled.toRuled.step stepped
  sound := by
    by_cases admits : state.Admits cfg label
    · obtain ⟨key, rfl⟩ := State.Admits.is_submit admits
      obtain ⟨unknown, same⟩ := pooled.toRuled.pool_submit admits stepped
      rw [same]
      exact pooled.sound.submit unknown
    · exact pooled.sound.step (pooled.toRuled.pool_step admits stepped)

end Catwalk.Jobs
