import Catwalk.Jobs.Watchers

/-! The life of a job, from its submission to its terminal status. -/

namespace Catwalk.Jobs

variable {Key Result : Type}

def Status.Terminal (status : Status) : Prop := ¬ status.Active

instance (status : Status) : Decidable status.Terminal :=
  inferInstanceAs (Decidable (¬ _))

/-- One write of `status`, or none. -/
def Status.Follows : Status → Status → Prop
  | .queued, after => after = .queued ∨ after = .running ∨ after = .cancelled
  | .running, after => after ≠ .queued
  | before, after => after = before

theorem Status.Follows.refl (status : Status) : status.Follows status := by
  cases status <;> simp [Status.Follows]

theorem Status.Follows.of_terminal {before after : Status}
    (follows : before.Follows after) (terminal : before.Terminal) :
    after = before := by
  cases before with
  | queued => exact absurd (.inl rfl) terminal
  | running => exact absurd (.inr rfl) terminal
  | done => exact follows
  | error => exact follows
  | cancelled => exact follows

/-- How a job ends: with its result, with an error, or with neither when an
exception could not be read. -/
inductive Ending
  | returned
  | failed (final : Status)
  | lost (described : Bool)

namespace Ending

def status : Ending → Status
  | .failed final => final
  | .returned | .lost _ => .done

def hasError : Ending → Bool
  | .returned => false
  | .failed _ => true
  | .lost described => described

def hasResult : Ending → Bool
  | .returned => true
  | .failed _ | .lost _ => false

def Proper : Ending → Prop
  | .failed final => final = .error ∨ final = .cancelled
  | .returned | .lost _ => True

theorem proper_cancelled : (failed .cancelled).Proper := .inr rfl

theorem Proper.terminal {ending : Ending} (proper : ending.Proper) :
    ending.status.Terminal := by
  intro active
  cases ending with
  | returned | lost => rcases active with same | same <;> cases same
  | failed final =>
      rcases proper with rfl | rfl
      · rcases active with same | same <;> cases same
      · rcases active with same | same <;> cases same

theorem not_hasError {ending : Ending} (stored : ending.hasResult = true) :
    ¬ ending.hasError = true := by
  cases ending with
  | returned => exact Bool.false_ne_true
  | failed | lost => cases stored

end Ending

/-- What a client can see of the end of a job. -/
structure Shape where
  status : Status
  finished : Bool
  error : Bool
  result : Bool
  event : Bool

namespace Shape

def waiting : Shape := ⟨.queued, false, false, false, false⟩

def running : Shape := ⟨.running, false, false, false, false⟩

/-- The outcome is written, and on its way into the status. -/
def ending (status : Status) (ending : Ending) (finished event : Bool) : Shape :=
  ⟨status, finished, ending.hasError, ending.hasResult, event⟩

def ended (ending : Ending) : Shape := .ending ending.status ending true true

end Shape

def Job.shape (job : Job Key Result) : Shape :=
  ⟨job.status, job.finished.isSome, job.error.isSome, job.result.isSome,
    job.event⟩

def RunState.Fits (shape : Shape) : RunState Result → Prop
  | .queued | .start | .setRunning => shape = .waiting
  | .firstCheck | .computing _ | .lastCheck _ | .store _ => shape = .running
  | .describe _ => shape = .running
  | .fail _ _ final => (final = .error ∨ final = .cancelled) ∧ shape = .running
  | .finish final => ∃ ending : Ending, ending.Proper ∧
      ending.status = final ∧ shape = .ending .running ending false false
  | .publish final => ∃ ending : Ending, ending.Proper ∧
      ending.status = final ∧ shape = .ending .running ending true false
  | .signal => ∃ ending : Ending, ending.Proper ∧
      shape = .ending ending.status ending true false
  | .complete | .returning | .ended =>
      ∃ ending : Ending, ending.Proper ∧ shape = .ended ending

def CallbackState.Fits (shape : Shape) : CallbackState → Prop
  | .waiting => False
  | .check | .fail => shape = .waiting
  | .finish => shape = .ending .queued (.failed .cancelled) false false
  | .publish => shape = .ending .queued (.failed .cancelled) true false
  | .signal => shape = .ending .cancelled (.failed .cancelled) true false
  | .release | .done => shape = .ended (.failed .cancelled)

/-- The worker writes the outcome, or the callback of a cancelled future. -/
def Job.Shaped (job : Job Key Result) : Prop :=
  if job.future = .cancelled then job.callback.Fits job.shape
  else job.run.Fits job.shape

theorem Job.shape_eq_iff {job : Job Key Result} {shape : Shape} :
    job.shape = shape ↔ job.status = shape.status ∧
      job.finished.isSome = shape.finished ∧ job.error.isSome = shape.error ∧
      job.result.isSome = shape.result ∧ job.event = shape.event := by
  cases shape
  exact iff_of_eq (Shape.mk.injEq ..)

theorem Job.Shaped.of_run {job : Job Key Result}
    (future : job.future ≠ .cancelled) (fits : job.run.Fits job.shape) :
    job.Shaped := by
  rw [Job.Shaped, if_neg future]
  exact fits

theorem Job.Shaped.fits {job : Job Key Result} (shaped : job.Shaped)
    (future : job.future ≠ .cancelled) : job.run.Fits job.shape := by
  rwa [Job.Shaped, if_neg future] at shaped

theorem Job.Shaped.of_callback {job : Job Key Result}
    (future : job.future = .cancelled)
    (fits : job.callback.Fits job.shape) : job.Shaped := by
  rw [Job.Shaped, if_pos future]
  exact fits

theorem Job.work_executing {now : Int} {job after : Job Key Result}
    (changed : job.work now = some after) : job.run.Executing := by
  unfold Job.work at changed
  split at changed <;> simp_all [RunState.Executing]

theorem Job.Phased.not_cancelled_of_work {now : Int} {job after : Job Key Result}
    (phased : job.Phased) (changed : job.work now = some after) :
    job.future ≠ .cancelled := by
  rw [(phased.of_executing (Job.work_executing changed)).1]
  intro same
  cases same

theorem Job.Shaped.work {now : Int} {job after : Job Key Result}
    (phased : job.Phased) (shaped : job.Shaped)
    (changed : job.work now = some after) : after.Shaped := by
  have future := phased.not_cancelled_of_work changed
  have fits := shaped.fits future
  unfold Job.work at changed
  split at changed
  next place =>
    cases changed
    rw [place] at fits
    exact .of_run future fits
  next place =>
    cases changed
    rw [place] at fits
    obtain ⟨_, outcome⟩ := Job.shape_eq_iff.mp fits
    refine .of_run future ?_
    exact Job.shape_eq_iff.mpr ⟨rfl, outcome⟩
  next place =>
    cases changed
    rw [place] at fits
    refine .of_run future ?_
    simp only
    split
    · exact ⟨.inr rfl, fits⟩
    · exact fits
  next place =>
    cases changed
    rw [place] at fits
    refine .of_run future ?_
    simp only
    split
    · exact ⟨.inr rfl, fits⟩
    · exact fits
  next place =>
    cases changed
    rw [place] at fits
    obtain ⟨status, finished, error, _, event⟩ := Job.shape_eq_iff.mp fits
    refine .of_run future ⟨.returned, trivial, rfl, ?_⟩
    exact Job.shape_eq_iff.mpr ⟨status, finished, error, rfl, event⟩
  next place =>
    cases changed
    rw [place] at fits
    obtain ⟨proper, shape⟩ := fits
    obtain ⟨status, finished, _, result, event⟩ := Job.shape_eq_iff.mp shape
    refine .of_run future ⟨.failed _, proper, rfl, ?_⟩
    exact Job.shape_eq_iff.mpr ⟨status, finished, rfl, result, event⟩
  next place =>
    cases changed
    rw [place] at fits
    obtain ⟨status, finished, _, result, event⟩ := Job.shape_eq_iff.mp fits
    refine .of_run future ⟨.lost true, trivial, rfl, ?_⟩
    exact Job.shape_eq_iff.mpr ⟨status, finished, rfl, result, event⟩
  next place =>
    cases changed
    rw [place] at fits
    obtain ⟨ending, proper, final, shape⟩ := fits
    obtain ⟨status, _, outcome⟩ := Job.shape_eq_iff.mp shape
    refine .of_run future ⟨ending, proper, final, ?_⟩
    exact Job.shape_eq_iff.mpr ⟨status, rfl, outcome⟩
  next place =>
    cases changed
    rw [place] at fits
    obtain ⟨ending, proper, rfl, shape⟩ := fits
    obtain ⟨_, outcome⟩ := Job.shape_eq_iff.mp shape
    refine .of_run future ⟨ending, proper, ?_⟩
    exact Job.shape_eq_iff.mpr ⟨rfl, outcome⟩
  next place =>
    cases changed
    rw [place] at fits
    obtain ⟨ending, proper, shape⟩ := fits
    obtain ⟨status, finished, error, result, _⟩ := Job.shape_eq_iff.mp shape
    refine .of_run future ⟨ending, proper, ?_⟩
    exact Job.shape_eq_iff.mpr ⟨status, finished, error, result, rfl⟩
  next place =>
    cases changed
    rw [place] at fits
    refine .of_run ?_ fits
    intro same
    cases same
  · cases changed

theorem Job.Shaped.callbackStep {now : Int} {job after : Job Key Result}
    (phased : job.Phased) (shaped : job.Shaped)
    (changed : job.callbackStep now = some after) : after.Shaped := by
  unfold Job.callbackStep at changed
  by_cases future : job.future = .cancelled
  · have fits : job.callback.Fits job.shape := by
      rwa [Job.Shaped, if_pos future] at shaped
    split at changed
    next place =>
      cases changed
      rw [place] at fits
      obtain ⟨_, _, _, _, event⟩ := Job.shape_eq_iff.mp fits
      refine .of_callback future ?_
      rw [if_pos ⟨future, event⟩]
      exact fits
    next place =>
      cases changed
      rw [place] at fits
      obtain ⟨status, finished, _, result, event⟩ := Job.shape_eq_iff.mp fits
      refine .of_callback future ?_
      exact Job.shape_eq_iff.mpr ⟨status, finished, rfl, result, event⟩
    next place =>
      cases changed
      rw [place] at fits
      obtain ⟨status, _, outcome⟩ := Job.shape_eq_iff.mp fits
      refine .of_callback future ?_
      exact Job.shape_eq_iff.mpr ⟨status, rfl, outcome⟩
    next place =>
      cases changed
      rw [place] at fits
      obtain ⟨_, outcome⟩ := Job.shape_eq_iff.mp fits
      refine .of_callback future ?_
      exact Job.shape_eq_iff.mpr ⟨rfl, outcome⟩
    next place =>
      cases changed
      rw [place] at fits
      obtain ⟨status, finished, error, result, _⟩ := Job.shape_eq_iff.mp fits
      refine .of_callback future ?_
      exact Job.shape_eq_iff.mpr ⟨status, finished, error, result, rfl⟩
    · cases changed
  · have fits := shaped.fits future
    have notCancels : ¬ job.callback.Cancels := fun cancels =>
      future (phased.of_cancels cancels)
    split at changed
    next place =>
      cases changed
      exact .of_run future fits
    next place => exact absurd (place ▸ trivial) notCancels
    next place => exact absurd (place ▸ trivial) notCancels
    next place => exact absurd (place ▸ trivial) notCancels
    next place => exact absurd (place ▸ trivial) notCancels
    · cases changed

theorem Job.Shaped.cancelFuture {job : Job Key Result} (phased : job.Phased)
    (shaped : job.Shaped) : job.cancelFuture.Shaped := by
  unfold Job.cancelFuture
  split
  next pending =>
    have fits := shaped.fits (by simp [pending])
    unfold Job.Phased at phased
    rw [pending] at phased
    rw [phased.1] at fits
    exact .of_callback rfl fits
  · exact shaped

theorem Raised.caught_fits (raised : Raised) {shape : Shape}
    (running : shape = .running) :
    (raised.caught : RunState Result).Fits shape := by
  unfold Raised.caught
  split
  · exact ⟨.inr rfl, running⟩
  · exact ⟨.inl rfl, running⟩
  · exact running
  · exact running
  all_goals exact ⟨.lost false, trivial, rfl, running⟩

/-- The steps of `fn` leave the shape and the future alone. -/
theorem Job.Shaped.computing {job after : Job Key Result} {refused : Bool}
    (phased : job.Phased) (shaped : job.Shaped)
    (place : job.run = .computing refused)
    (future : after.future = job.future) (shape : after.shape = job.shape)
    (fits : job.shape = .running → after.run.Fits job.shape) :
    after.Shaped := by
  have running := (phased.of_executing (by rw [place]; trivial)).1
  have before := shaped.fits (by simp [running])
  rw [place] at before
  refine .of_run (by simp [future, running]) ?_
  rw [shape]
  exact fits before

variable [DecidableEq Key] {cfg : Config} {state after : State Key Result}

theorem JobStep.shaped {label : Label Key Result} {id : Nat}
    {job job' : Job Key Result}
    (changed : JobStep cfg state label id job job') (phased : job.Phased)
    (shaped : job.Shaped) : job'.Shaped := by
  cases changed with
  | same => exact shaped
  | join | doom => exact shaped
  | @leave _ watcher =>
      unfold Job.leave Job.detach
      simp only
      split <;> split <;> exact shaped
  | endCancel changed =>
      unfold Job.endCancel at changed
      split at changed
      · cases changed
      · cases changed
        exact shaped.cancelFuture phased
  | closerCancel => exact shaped.cancelFuture phased
  | work changed => exact shaped.work phased changed
  | progress changed =>
      unfold Job.progress at changed
      split at changed
      next refused place =>
        cases changed
        split
        · exact shaped.computing phased place rfl rfl fun running => running
        · refine shaped.computing phased place rfl rfl fun running => ?_
          rw [place]
          exact running
      · cases changed
  | returns changed =>
      unfold Job.returns at changed
      split at changed
      next refused place =>
        cases changed
        exact shaped.computing phased place rfl rfl fun running => running
      · cases changed
  | @raises _ raised _ _ changed =>
      unfold Job.raises at changed
      split at changed
      next refused place =>
        cases changed
        exact shaped.computing phased place rfl rfl raised.caught_fits
      · cases changed
  | raisesCancelled changed =>
      unfold Job.raisesCancelled at changed
      split at changed
      next place =>
        cases changed
        exact shaped.computing phased place rfl rfl fun running =>
          ⟨.inr rfl, running⟩
      · cases changed
  | callback changed => exact shaped.callbackStep phased changed
  | release releasing =>
      by_cases future : job.future = .cancelled
      · rw [Job.Shaped, if_pos future, releasing] at shaped
        exact .of_callback future shaped
      · exact .of_run future (shaped.fits future)
  | take pending =>
      have fits := shaped.fits (by simp [pending])
      unfold Job.Phased at phased
      rw [pending] at phased
      rw [phased.1] at fits
      refine .of_run ?_ fits
      intro same
      cases same
  | idle returning =>
      have future : job.future ≠ .cancelled := by
        intro cancelled
        unfold Job.Phased at phased
        rw [cancelled, returning] at phased
        cases phased.1
      have fits := shaped.fits future
      rw [returning] at fits
      exact .of_run future fits

/-- How a job may change: its event and its cancellation are for good. -/
structure Job.Advances (job after : Job Key Result) : Prop where
  key : after.key = job.key
  status : job.status.Follows after.status
  finished : after.finished = none → job.finished = none
  event : job.event = true → after.event = true
  cancelRequested : job.cancelRequested = true → after.cancelRequested = true

omit [DecidableEq Key] in
theorem Job.Advances.of_same {job after : Job Key Result}
    (key : after.key = job.key) (status : after.status = job.status)
    (finished : after.finished = job.finished) (event : after.event = job.event)
    (cancelRequested : after.cancelRequested = job.cancelRequested) :
    job.Advances after where
  key := key
  status := by
    rw [status]
    exact .refl _
  finished := by
    rw [finished]
    exact fun unfinished => unfinished
  event := by
    rw [event]
    exact fun isSet => isSet
  cancelRequested := by
    rw [cancelRequested]
    exact fun requested => requested

omit [DecidableEq Key] in
theorem Job.Advances.work {now : Int} {job after : Job Key Result}
    (phased : job.Phased) (shaped : job.Shaped)
    (changed : job.work now = some after) : job.Advances after := by
  have future := phased.not_cancelled_of_work changed
  have fits := shaped.fits future
  unfold Job.work at changed
  split at changed
  next place =>
    cases changed
    exact .of_same rfl rfl rfl rfl rfl
  next place =>
    cases changed
    rw [place] at fits
    have queued : job.status = .queued := (Job.shape_eq_iff.mp fits).1
    refine ⟨rfl, ?_, fun unfinished => unfinished, fun isSet => isSet,
      fun requested => requested⟩
    rw [queued]
    exact .inr (.inl rfl)
  next place =>
    cases changed
    exact .of_same rfl rfl rfl rfl rfl
  next place =>
    cases changed
    exact .of_same rfl rfl rfl rfl rfl
  next place =>
    cases changed
    exact .of_same rfl rfl rfl rfl rfl
  next place =>
    cases changed
    exact .of_same rfl rfl rfl rfl rfl
  next place =>
    cases changed
    exact .of_same rfl rfl rfl rfl rfl
  next place =>
    cases changed
    exact ⟨rfl, .refl _, (fun unfinished => nomatch unfinished),
      fun isSet => isSet, fun requested => requested⟩
  next place =>
    cases changed
    rw [place] at fits
    obtain ⟨ending, proper, rfl, shape⟩ := fits
    have running : job.status = .running := (Job.shape_eq_iff.mp shape).1
    refine ⟨rfl, ?_, fun unfinished => unfinished, fun isSet => isSet,
      fun requested => requested⟩
    rw [running]
    exact fun queued => proper.terminal (.inl queued)
  next place =>
    cases changed
    exact ⟨rfl, .refl _, fun unfinished => unfinished, fun _ => rfl,
      fun requested => requested⟩
  next place =>
    cases changed
    exact .of_same rfl rfl rfl rfl rfl
  · cases changed

omit [DecidableEq Key] in
theorem Job.Advances.callbackStep {now : Int} {job after : Job Key Result}
    (phased : job.Phased) (shaped : job.Shaped)
    (changed : job.callbackStep now = some after) : job.Advances after := by
  unfold Job.callbackStep at changed
  split at changed
  next place =>
    cases changed
    exact .of_same rfl rfl rfl rfl rfl
  next place =>
    cases changed
    exact .of_same rfl rfl rfl rfl rfl
  next place =>
    cases changed
    exact ⟨rfl, .refl _, (fun unfinished => nomatch unfinished),
      fun isSet => isSet, fun requested => requested⟩
  next place =>
    cases changed
    have future : job.future = .cancelled :=
      phased.of_cancels (by rw [place]; trivial)
    rw [Job.Shaped, if_pos future, place] at shaped
    have queued : job.status = .queued := (Job.shape_eq_iff.mp shaped).1
    refine ⟨rfl, ?_, fun unfinished => unfinished, fun isSet => isSet,
      fun requested => requested⟩
    rw [queued]
    exact .inr (.inr rfl)
  next place =>
    cases changed
    exact ⟨rfl, .refl _, fun unfinished => unfinished, fun _ => rfl,
      fun requested => requested⟩
  · cases changed

omit [DecidableEq Key] in
theorem Job.Advances.cancelFuture (job : Job Key Result) :
    job.Advances job.cancelFuture := by
  unfold Job.cancelFuture
  split
  · exact .of_same rfl rfl rfl rfl rfl
  · exact .of_same rfl rfl rfl rfl rfl

omit [DecidableEq Key] in
theorem Job.Advances.leave (job : Job Key Result) (watcher : Nat) :
    job.Advances (job.leave watcher) := by
  unfold Job.leave Job.detach
  simp only
  split
  · exact ⟨rfl, .refl _, fun unfinished => unfinished, fun isSet => isSet,
      fun _ => rfl⟩
  · exact .of_same rfl rfl rfl rfl rfl

omit [DecidableEq Key] in
theorem Job.Computes.advances {job after : Job Key Result}
    (computes : job.Computes after) : job.Advances after := by
  rw [computes.same]
  exact .of_same rfl rfl rfl rfl rfl

theorem JobStep.advances {label : Label Key Result} {id : Nat}
    {job job' : Job Key Result}
    (changed : JobStep cfg state label id job job') (phased : job.Phased)
    (shaped : job.Shaped) : job.Advances job' := by
  cases changed with
  | same | join | release | take | idle => exact .of_same rfl rfl rfl rfl rfl
  | doom => exact ⟨rfl, .refl _, fun unfinished => unfinished, fun isSet => isSet,
      fun _ => rfl⟩
  | leave => exact .leave job _
  | endCancel changed =>
      unfold Job.endCancel at changed
      split at changed
      · cases changed
      · cases changed
        obtain ⟨key, status, finished, event, requested⟩ := Job.Advances.cancelFuture job
        exact ⟨key, status, finished, event, requested⟩
  | closerCancel => exact .cancelFuture job
  | work changed => exact .work phased shaped changed
  | progress changed => exact (Job.Computes.of_progress changed).advances
  | returns changed => exact (Job.Computes.of_returns changed).advances
  | raises changed => exact (Job.Computes.of_raises changed).advances
  | raisesCancelled changed =>
      exact (Job.Computes.of_raisesCancelled changed).advances
  | callback changed => exact .callbackStep phased shaped changed

/-- Every job is safe, and looks as its worker and its callback have it. -/
structure Ruled (state : State Key Result) : Prop extends Guarded True state where
  shaped : ∀ id job, state.heap id = some job → job.Shaped

omit [DecidableEq Key] in
theorem Ruled.phased {id : Nat} {job : Job Key Result} (ruled : Ruled state)
    (found : state.heap id = some job) : job.Phased :=
  (ruled.safe id job found).phased

omit [DecidableEq Key] in
theorem ruled_of_initial (initial : Initial cfg state) : Ruled state where
  fresh := fun id _ => initial.heap id
  safe := by
    intro id job found
    rw [initial.heap] at found
    cases found
  shaped := by
    intro id job found
    rw [initial.heap] at found
    cases found

omit [DecidableEq Key] in
theorem Job.Shaped.new (key : Key) (now : Int) (watcher : Nat) :
    (Job.new key now watcher : Job Key Result).Shaped :=
  .of_run (by simp [Job.new]) rfl

theorem Ruled.step {label : Label Key Result} (ruled : Ruled state)
    (stepped : step cfg state label = some after) : Ruled after where
  toGuarded := ruled.toGuarded.step (.inl trivial) stepped
  shaped := by
    have heap := step_heap (ruled.fresh _ le_rfl) stepped
    intro id job' found'
    rcases heap.origin found' with
      ⟨job, before, changed⟩ | ⟨_, key, _, _, _, rfl, _⟩
    · exact changed.shaped (ruled.phased before) (ruled.shaped id job before)
    · exact .new _ _ _

/-- No step takes back what a client may have seen of a job. -/
theorem Ruled.advances {label : Label Key Result} (ruled : Ruled state)
    (stepped : Jobs.step cfg state label = some after) {id : Nat}
    {job : Job Key Result} (found : state.heap id = some job) :
    ∃ job', after.heap id = some job' ∧ job.Advances job' := by
  have heap := step_heap (ruled.fresh _ le_rfl) stepped
  obtain ⟨job', found', changed⟩ := heap.kept id job found
  exact ⟨job', found',
    changed.advances (ruled.phased found) (ruled.shaped id job found)⟩

theorem Ruled.origin {label : Label Key Result} (ruled : Ruled state)
    (stepped : Jobs.step cfg state label = some after) {id : Nat}
    {job' : Job Key Result} (found' : after.heap id = some job') :
    (∃ job, state.heap id = some job ∧ JobStep cfg state label id job job' ∧
      job.Advances job') ∨
    ∃ key, label = .submit key false ∧ state.closer = .open ∧
      state.heap id = none ∧ id = state.nextJob ∧
      job' = .new key state.now state.nextWatcher := by
  have heap := step_heap (ruled.fresh _ le_rfl) stepped
  rcases heap.origin found' with
    ⟨job, before, changed⟩ | ⟨missing, key, submits, isOpen, newest, isNew, _⟩
  · exact .inl ⟨job, before, changed,
      changed.advances (ruled.phased before) (ruled.shaped id job before)⟩
  · exact .inr ⟨key, submits, isOpen, missing, newest, isNew⟩

omit [DecidableEq Key] in
theorem Job.Advances.active {job after : Job Key Result}
    (advances : job.Advances after) (active : after.status.Active) :
    job.status.Active := by
  by_contra terminal
  rw [advances.status.of_terminal terminal] at active
  exact terminal active

omit [DecidableEq Key] in
theorem Ruled.pending {id : Nat} {job : Job Key Result} (ruled : Ruled state)
    (found : state.heap id = some job) (pending : job.future = .pending) :
    job.status = .queued ∧ job.finished = none := by
  have phased := ruled.phased found
  have fits := (ruled.shaped id job found).fits (by simp [pending])
  unfold Job.Phased at phased
  rw [pending] at phased
  rw [phased.1] at fits
  obtain ⟨status, finished, _⟩ := Job.shape_eq_iff.mp fits
  exact ⟨status, Option.not_isSome_iff_eq_none.mp (by simp [finished,
    Shape.waiting])⟩

omit [DecidableEq Key] in
/-- Only the two last writes of a job are between `finished` and `status`. -/
theorem Ruled.publishing {id : Nat} {job : Job Key Result} (ruled : Ruled state)
    (found : state.heap id = some job) (active : job.status.Active)
    (finished : job.finished ≠ none) :
    (∃ final, job.run = .publish final) ∨ job.future = .cancelled := by
  have isSome := Option.isSome_iff_ne_none.mpr finished
  have unfinished : ∀ {shape : Shape}, shape.finished = false →
      job.shape = shape → False := by
    rintro shape none rfl
    exact absurd (isSome.symm.trans none) (by decide)
  have ended : ∀ {ending : Ending} {event}, ending.Proper →
      job.shape = .ending ending.status ending true event → False := by
    intro ending event proper shape
    have status : job.status = ending.status := (Job.shape_eq_iff.mp shape).1
    exact proper.terminal (status ▸ active)
  by_cases cancelled : job.future = .cancelled
  · exact .inr cancelled
  · have fits := (ruled.shaped id job found).fits cancelled
    cases place : job.run with
    | publish final => exact .inl ⟨final, rfl⟩
    | queued | start | setRunning | firstCheck | computing | lastCheck
    | store | describe =>
        rw [place] at fits
        exact (unfinished rfl fits).elim
    | fail =>
        rw [place] at fits
        exact (unfinished rfl fits.2).elim
    | finish =>
        rw [place] at fits
        obtain ⟨ending, _, _, shape⟩ := fits
        exact (unfinished rfl shape).elim
    | signal | complete | returning | ended =>
        rw [place] at fits
        obtain ⟨ending, proper, shape⟩ := fits
        exact (ended proper shape).elim

end Catwalk.Jobs
