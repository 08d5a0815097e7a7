import Catwalk.Jobs.Heap

/-! Watchers of shared jobs: who can cancel what. -/

namespace Catwalk.Jobs

variable {Key Result : Type}

/-- Inside `run`, between its start and the end of the future. -/
def RunState.Executing : RunState Result → Prop
  | .queued | .returning | .ended => False
  | _ => True

/-- `progress` has raised on request only, and on the way to status `cancelled`
the job was requested to, or `fn` strays. -/
def RunState.Heeds (strays requested : Prop) : RunState Result → Prop
  | .computing refused => refused = true → requested
  | .fail _ _ final | .finish final | .publish final =>
      final = .cancelled → strays ∨ requested
  | _ => True

theorem RunState.Heeds.of_requested {strays requested : Prop}
    (isSet : requested) (run : RunState Result) : run.Heeds strays requested := by
  cases run with
  | computing => exact fun _ => isSet
  | fail | finish | publish => exact fun _ => .inr isSet
  | _ => trivial

/-- Writing the outcome of a cancelled future. -/
def CallbackState.Cancels : CallbackState → Prop
  | .fail | .finish | .publish | .signal => True
  | _ => False

/-- The worker and the callback are where the future allows. -/
def Job.Phased (job : Job Key Result) : Prop :=
  match job.future with
  | .pending => job.run = .queued ∧ job.callback = .waiting
  | .running => job.run.Executing ∧ job.callback = .waiting
  | .cancelled => job.run = .queued ∧ job.callback ≠ .waiting
  | .finished => ¬ job.run.Executing ∧ job.run ≠ .queued ∧
      job.callback ≠ .waiting ∧ ¬ job.callback.Cancels

/-- Without a `close`, and unless `fn` strays into a `JobCancelledError` of its
own, a job is cancelled only when its last watcher left. -/
structure Job.Safe (closing strays : Prop) (job : Job Key Result) : Prop where
  phased : job.Phased
  doomed : job.watchers = ∅ → job.cancelRequested = true
  requested : job.cancelRequested = true → closing ∨ job.watchers = ∅
  calls : job.cancelCalls ≠ 0 → job.cancelRequested = true
  future : job.future = .cancelled → closing ∨ job.cancelRequested = true
  run : job.run.Heeds strays (job.cancelRequested = true)
  status : job.status = .cancelled →
    closing ∨ strays ∨ job.cancelRequested = true

theorem Job.Safe.new (closing strays : Prop) (key : Key) (now : Int)
    (watcher : Nat) :
    (Job.new key now watcher : Job Key Result).Safe closing strays where
  phased := ⟨rfl, rfl⟩
  doomed := fun empty => absurd empty (Finset.singleton_ne_empty _)
  requested := fun requested => nomatch requested
  calls := fun calls => absurd rfl calls
  future := fun cancelled => nomatch cancelled
  run := trivial
  status := fun cancelled => nomatch cancelled

theorem Job.Safe.mono {closing closing' strays : Prop}
    (mono : closing → closing') {job : Job Key Result}
    (safe : job.Safe closing strays) : job.Safe closing' strays where
  phased := safe.phased
  doomed := safe.doomed
  requested := fun requested => (safe.requested requested).imp_left mono
  calls := safe.calls
  future := fun cancelled => (safe.future cancelled).imp_left mono
  run := safe.run
  status := fun cancelled => (safe.status cancelled).imp_left mono

theorem Job.Safe.undisturbed {closing : Prop} {job : Job Key Result}
    {watcher : Nat} (safe : job.Safe closing False) (isOpen : ¬ closing)
    (member : watcher ∈ job.watchers) :
    job.cancelRequested = false ∧ job.future ≠ .cancelled ∧
      job.status ≠ .cancelled := by
  have notRequested : ¬ job.cancelRequested = true := by
    intro requested
    have empty := (safe.requested requested).resolve_left isOpen
    exact absurd member (empty ▸ Finset.notMem_empty watcher)
  exact ⟨Bool.eq_false_of_not_eq_true notRequested,
    fun cancelled =>
      notRequested ((safe.future cancelled).resolve_left isOpen),
    fun cancelled =>
      notRequested (((safe.status cancelled).resolve_left isOpen).resolve_left
        not_false)⟩

theorem Job.Phased.of_executing {job : Job Key Result} (phased : job.Phased)
    (executing : job.run.Executing) :
    job.future = .running ∧ job.callback = .waiting := by
  revert phased
  unfold Job.Phased
  cases future : job.future with
  | pending =>
      rintro ⟨queued, _⟩
      rw [queued] at executing
      exact executing.elim
  | running => exact fun phased => ⟨rfl, phased.2⟩
  | cancelled =>
      rintro ⟨queued, _⟩
      rw [queued] at executing
      exact executing.elim
  | finished => exact fun phased => absurd executing phased.1

theorem Job.Phased.of_cancels {job : Job Key Result} (phased : job.Phased)
    (cancels : job.callback.Cancels) : job.future = .cancelled := by
  revert phased
  unfold Job.Phased
  cases future : job.future with
  | pending | running =>
      rintro ⟨_, waiting⟩
      rw [waiting] at cancels
      exact cancels.elim
  | cancelled => exact fun _ => rfl
  | finished => exact fun phased => absurd cancels phased.2.2.2

/-- A step of `fn` writes the progress and the worker's next step only. -/
structure Job.Computes (job after : Job Key Result) : Prop where
  computing : ∃ refused, job.run = .computing refused
  executing : after.run.Executing
  same : after = { job with
    rowsScanned := after.rowsScanned
    run := after.run }

theorem Job.Computes.future {job after : Job Key Result}
    (computes : job.Computes after) : after.future = job.future := by
  rw [computes.same]

theorem Job.Computes.callback {job after : Job Key Result}
    (computes : job.Computes after) : after.callback = job.callback := by
  rw [computes.same]

theorem Job.Computes.watchers {job after : Job Key Result}
    (computes : job.Computes after) : after.watchers = job.watchers := by
  rw [computes.same]

theorem Job.Computes.cancelRequested {job after : Job Key Result}
    (computes : job.Computes after) :
    after.cancelRequested = job.cancelRequested := by
  rw [computes.same]

theorem Job.Computes.of_progress {rows : Nat} {job after : Job Key Result}
    (changed : job.progress rows = some after) : job.Computes after := by
  unfold Job.progress at changed
  split at changed
  next refused computing =>
    cases changed
    split
    · exact ⟨⟨refused, computing⟩, trivial, rfl⟩
    · exact ⟨⟨refused, computing⟩, computing ▸ trivial, rfl⟩
  · cases changed

theorem Job.Computes.of_returns {result : Result} {job after : Job Key Result}
    (changed : job.returns result = some after) : job.Computes after := by
  unfold Job.returns at changed
  split at changed
  next refused computing =>
    cases changed
    exact ⟨⟨refused, computing⟩, trivial, rfl⟩
  · cases changed

theorem Job.Computes.of_raises {raised : Raised} {job after : Job Key Result}
    (changed : job.raises raised = some after) : job.Computes after := by
  unfold Job.raises at changed
  split at changed
  next refused computing =>
    cases changed
    refine ⟨⟨refused, computing⟩, ?_, rfl⟩
    unfold Raised.caught
    split <;> trivial
  · cases changed

theorem Job.Computes.of_raisesCancelled {job after : Job Key Result}
    (changed : job.raisesCancelled = some after) : job.Computes after := by
  unfold Job.raisesCancelled at changed
  split at changed
  next computing =>
    cases changed
    exact ⟨⟨true, computing⟩, trivial, rfl⟩
  · cases changed

/-- No `JobCancelledError`. -/
def Raised.Relays : Raised → Prop
  | .cancelled _ _ => False
  | .exception _ _ | .base => True

/-- `fn` raises no `JobCancelledError` but that of `progress`. -/
def Label.Relays : Label Key Result → Prop
  | .raises _ raised => raised.Relays
  | _ => True

/-- What a worker inside `run` leaves alone. -/
structure Job.Inside (job after : Job Key Result) : Prop where
  watchers : after.watchers = job.watchers
  cancelRequested : after.cancelRequested = job.cancelRequested
  cancelCalls : after.cancelCalls = job.cancelCalls
  future : after.future = job.future
  callback : after.callback = job.callback

theorem Job.Safe.inside {closing strays : Prop} {job after : Job Key Result}
    (safe : job.Safe closing strays) (same : job.Inside after)
    (executing : job.run.Executing) (executing' : after.run.Executing)
    (run : after.run.Heeds strays (job.cancelRequested = true))
    (status : after.status = .cancelled →
      closing ∨ strays ∨ job.cancelRequested = true) : after.Safe closing strays := by
  obtain ⟨running, waiting⟩ := safe.phased.of_executing executing
  constructor
  · unfold Job.Phased
    rw [same.future, running, same.callback]
    exact ⟨executing', waiting⟩
  · rw [same.watchers, same.cancelRequested]
    exact safe.doomed
  · rw [same.watchers, same.cancelRequested]
    exact safe.requested
  · rw [same.cancelCalls, same.cancelRequested]
    exact safe.calls
  · rw [same.future, same.cancelRequested]
    exact safe.future
  · rw [same.cancelRequested]
    exact run
  · rw [same.cancelRequested]
    exact status

theorem Job.Safe.work {closing strays : Prop} {now : Int} {job after : Job Key Result}
    (safe : job.Safe closing strays) (changed : job.work now = some after) :
    after.Safe closing strays := by
  have run := safe.run
  have executing : ∀ {run}, job.run = run → run.Executing →
      job.run.Executing := fun same executing => same ▸ executing
  unfold Job.work at changed
  split at changed
  next place =>
    cases changed
    exact safe.inside ⟨rfl, rfl, rfl, rfl, rfl⟩ (executing place trivial)
      trivial trivial safe.status
  next place =>
    cases changed
    exact safe.inside ⟨rfl, rfl, rfl, rfl, rfl⟩ (executing place trivial)
      trivial trivial (fun cancelled => nomatch cancelled)
  next place =>
    cases changed
    refine safe.inside ⟨rfl, rfl, rfl, rfl, rfl⟩ (executing place trivial) ?_ ?_
      safe.status
    · simp only
      split <;> trivial
    · simp only
      split
      · next requested => exact fun _ => .inr requested
      · exact fun refused => nomatch refused
  next place =>
    cases changed
    refine safe.inside ⟨rfl, rfl, rfl, rfl, rfl⟩ (executing place trivial) ?_ ?_
      safe.status
    · simp only
      split <;> trivial
    · simp only
      split
      · next requested => exact fun _ => .inr requested
      · trivial
  next place =>
    cases changed
    exact safe.inside ⟨rfl, rfl, rfl, rfl, rfl⟩ (executing place trivial)
      trivial (fun cancelled => nomatch cancelled) safe.status
  next place =>
    cases changed
    rw [place] at run
    exact safe.inside ⟨rfl, rfl, rfl, rfl, rfl⟩ (executing place trivial)
      trivial run safe.status
  next place =>
    cases changed
    exact safe.inside ⟨rfl, rfl, rfl, rfl, rfl⟩ (executing place trivial)
      trivial (fun cancelled => nomatch cancelled) safe.status
  next place =>
    cases changed
    rw [place] at run
    exact safe.inside ⟨rfl, rfl, rfl, rfl, rfl⟩ (executing place trivial)
      trivial run safe.status
  next place =>
    cases changed
    rw [place] at run
    exact safe.inside ⟨rfl, rfl, rfl, rfl, rfl⟩ (executing place trivial)
      trivial trivial (fun cancelled => .inr (run cancelled))
  next place =>
    cases changed
    exact safe.inside ⟨rfl, rfl, rfl, rfl, rfl⟩ (executing place trivial)
      trivial trivial safe.status
  next place =>
    cases changed
    exact
      { phased := ⟨id, by simp, by simp, id⟩
        doomed := safe.doomed
        requested := safe.requested
        calls := safe.calls
        future := fun cancelled => nomatch cancelled
        run := trivial
        status := safe.status }
  · cases changed

theorem Job.Safe.computing {closing strays : Prop} {job after : Job Key Result}
    {refused : Bool} (safe : job.Safe closing strays)
    (computing : job.run = .computing refused) (same : job.Inside after)
    (status : after.status = job.status) (executing : after.run.Executing)
    (run : after.run.Heeds strays (job.cancelRequested = true)) :
    after.Safe closing strays :=
  safe.inside same (computing ▸ trivial) executing run
    (status ▸ safe.status)

theorem Job.Safe.progress {closing strays : Prop} {rows : Nat}
    {job after : Job Key Result} (safe : job.Safe closing strays)
    (changed : job.progress rows = some after) : after.Safe closing strays := by
  have run := safe.run
  unfold Job.progress at changed
  split at changed
  next refused computing =>
    cases changed
    split
    next requested =>
      exact safe.computing computing ⟨rfl, rfl, rfl, rfl, rfl⟩ rfl trivial
        fun _ => requested
    next notRequested =>
      refine safe.computing computing ⟨rfl, rfl, rfl, rfl, rfl⟩ rfl ?_ run
      simp only [computing]
      trivial
  · cases changed

theorem Job.Safe.returns {closing strays : Prop} {result : Result}
    {job after : Job Key Result} (safe : job.Safe closing strays)
    (changed : job.returns result = some after) : after.Safe closing strays := by
  unfold Job.returns at changed
  split at changed
  next refused computing =>
    cases changed
    exact safe.computing computing ⟨rfl, rfl, rfl, rfl, rfl⟩ rfl trivial
      trivial
  · cases changed

theorem Job.Safe.raises {closing strays : Prop} {raised : Raised}
    {job after : Job Key Result} (safe : job.Safe closing strays)
    (relays : strays ∨ raised.Relays) (changed : job.raises raised = some after) :
    after.Safe closing strays := by
  unfold Job.raises at changed
  split at changed
  next refused computing =>
    cases changed
    refine safe.computing computing ⟨rfl, rfl, rfl, rfl, rfl⟩ rfl ?_ ?_
    · unfold Raised.caught
      split <;> trivial
    · unfold Raised.caught
      split
      next => exact fun _ => .inl (relays.resolve_right id)
      all_goals first | trivial | exact fun cancelled => nomatch cancelled
  · cases changed

theorem Job.Safe.raisesCancelled {closing strays : Prop} {job after : Job Key Result}
    (safe : job.Safe closing strays) (changed : job.raisesCancelled = some after) :
    after.Safe closing strays := by
  have run := safe.run
  unfold Job.raisesCancelled at changed
  split at changed
  next computing =>
    cases changed
    rw [computing] at run
    exact safe.computing computing ⟨rfl, rfl, rfl, rfl, rfl⟩ rfl trivial
      fun _ => .inr (run rfl)
  · cases changed

/-- What the callback leaves alone. -/
structure Job.Outside (job after : Job Key Result) : Prop where
  watchers : after.watchers = job.watchers
  cancelRequested : after.cancelRequested = job.cancelRequested
  cancelCalls : after.cancelCalls = job.cancelCalls
  future : after.future = job.future
  run : after.run = job.run

theorem Job.Safe.outside {closing strays : Prop} {job after : Job Key Result}
    (safe : job.Safe closing strays) (same : job.Outside after)
    (begun : job.callback ≠ .waiting) (begun' : after.callback ≠ .waiting)
    (cancels : after.callback.Cancels → job.future = .cancelled)
    (status : after.status = .cancelled →
      closing ∨ strays ∨ job.cancelRequested = true) : after.Safe closing strays := by
  constructor
  · have phased := safe.phased
    unfold Job.Phased at phased ⊢
    rw [same.future, same.run]
    revert phased
    cases future : job.future with
    | pending | running => exact fun phased => absurd phased.2 begun
    | cancelled => exact fun phased => ⟨phased.1, begun'⟩
    | finished =>
        refine fun phased => ⟨phased.1, phased.2.1, begun', fun writing => ?_⟩
        rw [cancels writing] at future
        cases future
  · rw [same.watchers, same.cancelRequested]
    exact safe.doomed
  · rw [same.watchers, same.cancelRequested]
    exact safe.requested
  · rw [same.cancelCalls, same.cancelRequested]
    exact safe.calls
  · rw [same.future, same.cancelRequested]
    exact safe.future
  · rw [same.run, same.cancelRequested]
    exact safe.run
  · rw [same.cancelRequested]
    exact status

theorem Job.Safe.callbackStep {closing strays : Prop} {now : Int}
    {job after : Job Key Result} (safe : job.Safe closing strays)
    (changed : job.callbackStep now = some after) : after.Safe closing strays := by
  have writes : ∀ {callback}, job.callback = callback → callback.Cancels →
      job.future = .cancelled :=
    fun same cancels => safe.phased.of_cancels (same ▸ cancels)
  unfold Job.callbackStep at changed
  split at changed
  next place =>
    cases changed
    refine safe.outside ⟨rfl, rfl, rfl, rfl, rfl⟩ (by simp [place]) ?_ ?_
      safe.status
    · simp only
      split <;> simp
    · simp only
      split
      · next test => exact fun _ => test.1
      · exact False.elim
  next place =>
    cases changed
    exact safe.outside ⟨rfl, rfl, rfl, rfl, rfl⟩ (by simp [place]) (by simp)
      (fun _ => writes place trivial) safe.status
  next place =>
    cases changed
    exact safe.outside ⟨rfl, rfl, rfl, rfl, rfl⟩ (by simp [place]) (by simp)
      (fun _ => writes place trivial) safe.status
  next place =>
    cases changed
    exact safe.outside ⟨rfl, rfl, rfl, rfl, rfl⟩ (by simp [place]) (by simp)
      (fun _ => writes place trivial)
      (fun _ => (safe.future (writes place trivial)).imp_right .inr)
  next place =>
    cases changed
    exact safe.outside ⟨rfl, rfl, rfl, rfl, rfl⟩ (by simp [place]) (by simp)
      False.elim safe.status
  · cases changed

theorem Job.Safe.cancelFuture {closing strays : Prop} {job : Job Key Result}
    (safe : job.Safe closing strays)
    (allowed : closing ∨ job.cancelRequested = true) :
    job.cancelFuture.Safe closing strays := by
  unfold Job.cancelFuture
  split
  next pending =>
    have phased := safe.phased
    unfold Job.Phased at phased
    rw [pending] at phased
    exact
      { phased := ⟨phased.1, by simp⟩
        doomed := safe.doomed
        requested := safe.requested
        calls := safe.calls
        future := fun _ => allowed
        run := safe.run
        status := safe.status }
  · exact safe

theorem Job.Safe.endCancel {closing strays : Prop} {job after : Job Key Result}
    (safe : job.Safe closing strays) (changed : job.endCancel = some after) :
    after.Safe closing strays := by
  unfold Job.endCancel at changed
  split at changed
  · cases changed
  next calls =>
    cases changed
    have requested := safe.calls calls
    have safe := safe.cancelFuture (.inr requested)
    have same : job.cancelFuture.cancelRequested = job.cancelRequested := by
      unfold Job.cancelFuture
      split <;> rfl
    exact
      { phased := safe.phased
        doomed := safe.doomed
        requested := safe.requested
        calls := fun _ => same.trans requested
        future := safe.future
        run := safe.run
        status := safe.status }

theorem Job.Safe.leave {closing strays : Prop} {job : Job Key Result}
    (safe : job.Safe closing strays) (watcher : Nat) :
    (job.leave watcher).Safe closing strays := by
  unfold Job.leave Job.detach
  by_cases last : job.watchers.erase watcher = ∅
  · simp only [if_pos last, if_true]
    exact
      { phased := safe.phased
        doomed := fun _ => rfl
        requested := fun _ => .inr last
        calls := fun _ => rfl
        future := fun _ => .inr rfl
        run := .of_requested rfl _
        status := fun _ => .inr (.inr rfl) }
  · simp only [if_neg last, Bool.false_eq_true, if_false]
    exact
      { phased := safe.phased
        doomed := fun empty => absurd empty last
        requested := fun requested => (safe.requested requested).imp_right
          fun empty => by simp [empty]
        calls := safe.calls
        future := safe.future
        run := safe.run
        status := safe.status }

theorem Job.Safe.take {closing strays : Prop} {job : Job Key Result}
    (safe : job.Safe closing strays) (pending : job.future = .pending) :
    { job with future := .running, run := .start }.Safe closing strays := by
  have phased := safe.phased
  unfold Job.Phased at phased
  rw [pending] at phased
  exact
    { phased := ⟨trivial, phased.2⟩
      doomed := safe.doomed
      requested := safe.requested
      calls := safe.calls
      future := fun cancelled => nomatch cancelled
      run := trivial
      status := safe.status }

theorem Job.Safe.idle {closing strays : Prop} {job : Job Key Result}
    (safe : job.Safe closing strays) (returning : job.run = .returning) :
    { job with run := .ended }.Safe closing strays := by
  have phased : Job.Phased { job with run := .ended } := by
    have phased := safe.phased
    unfold Job.Phased at phased ⊢
    revert phased
    simp only [returning]
    cases job.future with
    | finished => exact fun phased => ⟨id, by simp, phased.2.2⟩
    | pending | cancelled => exact fun phased => nomatch phased.1
    | running => exact fun phased => phased.1.elim
  exact
    { phased := phased
      doomed := safe.doomed
      requested := safe.requested
      calls := safe.calls
      future := safe.future
      run := trivial
      status := safe.status }

variable [DecidableEq Key] {cfg : Config} {state after : State Key Result}
  {strays : Prop}

theorem JobStep.safe {label : Label Key Result} {id : Nat}
    {job job' : Job Key Result} (changed : JobStep cfg state label id job job')
    (relays : strays ∨ label.Relays)
    (safe : job.Safe (state.closer ≠ .open) strays) :
    job'.Safe (state.closer ≠ .open) strays := by
  cases changed with
  | same => exact safe
  | join active notRequested returned =>
      exact
        { phased := safe.phased
          doomed := fun empty => absurd empty (Finset.insert_ne_empty _ _)
          requested := fun requested => by
            rw [notRequested] at requested
            cases requested
          calls := safe.calls
          future := safe.future
          run := safe.run
          status := safe.status }
  | leave active => exact safe.leave _
  | endCancel changed => exact safe.endCancel changed
  | work changed => exact safe.work changed
  | progress changed => exact safe.progress changed
  | returns changed => exact safe.returns changed
  | raises changed => exact safe.raises relays changed
  | raisesCancelled changed => exact safe.raisesCancelled changed
  | callback changed => exact safe.callbackStep changed
  | release releasing =>
      exact safe.outside ⟨rfl, rfl, rfl, rfl, rfl⟩ (by simp [releasing])
        (by simp) False.elim safe.status
  | take pending => exact safe.take pending
  | idle returning done => exact safe.idle returning
  | doom closing active =>
      exact
        { phased := safe.phased
          doomed := fun _ => rfl
          requested := fun _ => .inl closing
          calls := fun _ => rfl
          future := fun _ => .inl closing
          run := .of_requested rfl _
          status := fun _ => .inl closing }
  | closerCancel closing => exact safe.cancelFuture (.inl closing)

/-- Every job of the manager is safe, and ids not given out name no job. -/
structure Guarded (strays : Prop) (state : State Key Result) : Prop where
  fresh : Fresh state
  safe : ∀ id job, state.heap id = some job →
    job.Safe (state.closer ≠ .open) strays

theorem Guarded.step {label : Label Key Result} (guarded : Guarded strays state)
    (relays : strays ∨ label.Relays)
    (stepped : step cfg state label = some after) : Guarded strays after where
  fresh := guarded.fresh.step stepped
  safe := by
    have heap := step_heap (guarded.fresh _ le_rfl) stepped
    have closing := (step_frame stepped).closing
    intro id job stored
    rcases heap.origin stored with
      ⟨old, before, changed⟩ | ⟨_, key, _, _, _, rfl, _⟩
    · exact (changed.safe relays (guarded.safe id old before)).mono closing
    · exact .new _ _ _ _ _

theorem guarded_of_reachable {allowed : State Key Result → Label Key Result → Prop}
    (relays : ∀ state label, allowed state label → strays ∨ label.Relays)
    (reachable : (system cfg).Reachable allowed state) :
    Guarded strays state := by
  refine reachable.invariant ?_ ?_
  · intro start initial
    have empty := Initial.heap initial
    refine ⟨fun id _ => empty id, fun id job stored => ?_⟩
    rw [empty] at stored
    cases stored
  · intro before label next _ guarded permitted stepped
    exact guarded.step (relays before label permitted) stepped

theorem JobStep.watchers {label : Label Key Result} {id : Nat}
    {job job' : Job Key Result}
    (changed : JobStep cfg state label id job job') :
    job'.watchers = job.watchers ∨
      (job'.watchers = insert state.nextWatcher job.watchers ∧
        job.cancelRequested = false ∧ ∃ key fails,
          label = .submit key fails ∧
            (state.submit cfg key fails).1 = .returned id state.nextWatcher) ∨
      ∃ watcher, label = .cancel id watcher ∧
        job'.watchers = job.watchers.erase watcher := by
  have worked : ∀ {now}, job.work now = some job' →
      job'.watchers = job.watchers := by
    intro now changed
    unfold Job.work at changed
    split at changed <;> cases changed <;> rfl
  have cancelled : job.cancelFuture.watchers = job.watchers := by
    unfold Job.cancelFuture
    split <;> rfl
  cases changed with
  | same | release | take | idle | doom => exact .inl rfl
  | closerCancel => exact .inl cancelled
  | join active notRequested returned =>
      exact .inr (.inl ⟨rfl, notRequested, _, _, rfl, returned⟩)
  | @leave _ watcher _ active =>
      refine .inr (.inr ⟨watcher, rfl, ?_⟩)
      unfold Job.leave Job.detach
      simp only
      split <;> rfl
  | endCancel changed =>
      unfold Job.endCancel at changed
      split at changed <;> cases changed
      exact .inl cancelled
  | work changed => exact .inl (worked changed)
  | progress changed => exact .inl (Job.Computes.of_progress changed).watchers
  | returns changed => exact .inl (Job.Computes.of_returns changed).watchers
  | raises changed => exact .inl (Job.Computes.of_raises changed).watchers
  | raisesCancelled changed =>
      exact .inl (Job.Computes.of_raisesCancelled changed).watchers
  | callback changed =>
      unfold Job.callbackStep at changed
      split at changed <;> cases changed <;> exact .inl rfl

/-- Neither `cancel(id, watcher)` nor `close()`. -/
def Label.Spares (id watcher : Nat) : Label Key Result → Prop
  | .cancel target token => ¬ (target = id ∧ token = watcher)
  | .close _ => False
  | _ => True

/-- The watcher is attached to the job of a manager that is not closed. -/
def Watched (id watcher : Nat) (state : State Key Result) : Prop :=
  state.closer = .open ∧
    ∃ job, state.heap id = some job ∧ watcher ∈ job.watchers

theorem Watched.step {id watcher : Nat} {label : Label Key Result}
    (guarded : Guarded strays state) (watched : Watched id watcher state)
    (spares : label.Spares id watcher)
    (stepped : step cfg state label = some after) :
    Watched id watcher after := by
  obtain ⟨isOpen, job, found, member⟩ := watched
  have closed := (step_frame stepped).closed
  refine ⟨?_, ?_⟩
  · by_contra closing
    rcases closed closing with before | ⟨wait, rfl⟩
    · exact before isOpen
    · exact spares
  · obtain ⟨job', found', changed⟩ :=
      (step_heap (guarded.fresh _ le_rfl) stepped).kept id job found
    refine ⟨job', found', ?_⟩
    rcases changed.watchers with same | ⟨joined, _⟩ | ⟨token, rfl, left⟩
    · exact same ▸ member
    · exact joined ▸ Finset.mem_insert_of_mem member
    · have other : watcher ≠ token := fun same => spares ⟨rfl, same.symm⟩
      exact left ▸ Finset.mem_erase.mpr ⟨other, member⟩

/-- Everybody left, and the job is told so. -/
def Abandoned (id : Nat) (state : State Key Result) : Prop :=
  ∃ job, state.heap id = some job ∧ job.watchers = ∅ ∧
    job.cancelRequested = true

omit [DecidableEq Key] in
theorem Abandoned.of_guarded {id : Nat} {job : Job Key Result}
    (guarded : Guarded strays state) (found : state.heap id = some job)
    (detached : job.watchers = ∅) : Abandoned id state :=
  ⟨job, found, detached, (guarded.safe id job found).doomed detached⟩

theorem Abandoned.step {id : Nat} {label : Label Key Result}
    (guarded : Guarded True state) (abandoned : Abandoned id state)
    (stepped : step cfg state label = some after) : Abandoned id after := by
  obtain ⟨job, found, detached, requested⟩ := abandoned
  obtain ⟨job', found', changed⟩ :=
    (step_heap (guarded.fresh _ le_rfl) stepped).kept id job found
  refine .of_guarded (guarded.step (.inl trivial) stepped) found' ?_
  rcases changed.watchers with same | ⟨_, notRequested, _⟩ | ⟨token, _, left⟩
  · rw [same, detached]
  · rw [requested] at notRequested
    cases notRequested
  · rw [left, detached, Finset.erase_empty]

theorem Abandoned.not_returned {id : Nat} (fresh : Fresh state)
    (abandoned : Abandoned id state) (key : Key) (fails : Bool)
    (watcher : Nat) :
    (state.submit cfg key fails).1 ≠ .returned id watcher := by
  obtain ⟨job, found, _, requested⟩ := abandoned
  intro returned
  have outcome := State.submitted cfg state key fails
  rw [returned] at outcome
  generalize (state.submit cfg key fails).2 = next at outcome
  cases outcome with
  | joined _ _ found' _ notRequested =>
      rw [found, Option.some.injEq] at found'
      subst found'
      rw [requested] at notRequested
      cases notRequested
  | created =>
      rw [fresh _ le_rfl] at found
      cases found

theorem Watched.of_returned {key : Key} {fails : Bool} {id watcher : Nat}
    (returned : (state.submit cfg key fails).1 = .returned id watcher) :
    Watched id watcher (state.submit cfg key fails).2 := by
  have outcome := State.submitted cfg state key fails
  rw [returned] at outcome
  generalize (state.submit cfg key fails).2 = next at outcome ⊢
  cases outcome with
  | joined isOpen mapped found active notRequested =>
      exact ⟨isOpen, _, State.setJob_heap.trans (if_pos rfl),
        Finset.mem_insert_self _ _⟩
  | created isOpen free =>
      exact ⟨isOpen, _, Function.update_self _ _ _, Finset.mem_singleton_self _⟩

/-- Where `fn` raises no `JobCancelledError` of its own, a client that neither
cancels nor sees the manager closed keeps its job; a job that everybody left is
doomed and never handed out again. -/
theorem watcher_safety (cfg : Config) (state : State Key Result) :
    ((system cfg).Reachable (fun _ label => label.Relays) state →
      ∀ key fails id watcher schedule final,
      (state.submit cfg key fails).1 = .returned id watcher →
      (∀ label ∈ schedule, label.Spares id watcher ∧ label.Relays) →
      (system cfg).run (state.submit cfg key fails).2 schedule = some final →
      ∃ job, final.heap id = some job ∧ watcher ∈ job.watchers ∧
        job.cancelRequested = false ∧ job.status ≠ .cancelled ∧
        job.future ≠ .cancelled) ∧
    ((system cfg).Reachable StepSystem.AnyStep state →
      ∀ id job schedule final,
      state.heap id = some job → job.watchers = ∅ →
      (system cfg).run state schedule = some final →
      ∃ job', final.heap id = some job' ∧ job'.cancelRequested = true ∧
        ∀ key fails watcher,
          (final.submit cfg key fails).1 ≠ .returned id watcher) := by
  constructor
  · intro reachable key fails id watcher schedule final returned spared ran
    have guarded : Guarded False state :=
      guarded_of_reachable (fun _ _ => .inr) reachable
    have relays : Label.Relays (.submit key fails : Label Key Result) := trivial
    have submitted : Guarded False (state.submit cfg key fails).2 :=
      guarded.step (.inr relays)
        (show step cfg state (.submit key fails) = _ from rfl)
    have kept : ∀ (before : State Key Result) label next,
        Guarded False before ∧ Watched id watcher before →
        label.Spares id watcher ∧ label.Relays →
        step cfg before label = some next →
        Guarded False next ∧ Watched id watcher next :=
      fun _ _ _ holds permitted stepped =>
        ⟨holds.1.step (.inr permitted.2) stepped,
          holds.2.step holds.1 permitted.1 stepped⟩
    obtain ⟨guarded, isOpen, job, found, member⟩ :=
      StepSystem.run_preserves kept (.of_labels spared _) ran
        ⟨submitted, .of_returned returned⟩
    obtain ⟨notRequested, future, status⟩ :=
      (guarded.safe id job found).undisturbed (not_not.mpr isOpen) member
    exact ⟨job, found, member, notRequested, status, future⟩
  · intro reachable id job schedule final found detached ran
    have guarded : Guarded True state :=
      guarded_of_reachable (fun _ _ _ => .inl trivial) reachable
    have kept : ∀ (before : State Key Result) label next,
        Guarded True before ∧ Abandoned id before →
        StepSystem.AnyStep before label → step cfg before label = some next →
        Guarded True next ∧ Abandoned id next :=
      fun _ _ _ holds _ stepped =>
        ⟨holds.1.step (.inl trivial) stepped, holds.2.step holds.1 stepped⟩
    obtain ⟨guarded, abandoned⟩ :=
      StepSystem.run_preserves kept (.any _ _ _) ran
        ⟨guarded, .of_guarded guarded found detached⟩
    have doomed := abandoned
    obtain ⟨job', found', _, requested⟩ := doomed
    exact ⟨job', found', requested, abandoned.not_returned guarded.fresh⟩

def sampleConfig : Config := ⟨1, 1, 300⟩

def sampleStart : State Bool Unit where
  now := 0
  heap := fun _ => none
  nextJob := 0
  nextWatcher := 0
  jobs := []
  byKey := fun _ => none
  slots := 2
  queue := []
  busy := 0
  closer := .open
  closeWait := false

theorem sampleStart_initial : Initial sampleConfig sampleStart :=
  ⟨fun _ => rfl, rfl, fun _ => rfl, rfl, rfl, rfl, rfl⟩

/-- The only client of a first job left it. -/
def sampleState : State Bool Unit :=
  (sampleStart.submit sampleConfig true false).2.cancel 0 0

/-- A second client joins and leaves, its token is replayed, and `fn` raises. -/
def sampleSchedule : List (Label Bool Unit) :=
  [.submit false false, .cancel 1 2, .cancel 1 2, .endCancel 0, .take, .take,
    .work 1, .work 1, .work 1, .raises 1 (.exception (some "lost") (some 502))]

theorem sampleClients_safe :
    ∃ final, (system sampleConfig).run
        (sampleState.submit sampleConfig false false).2 sampleSchedule =
          some final ∧
      (∃ job, final.heap 1 = some job ∧ 1 ∈ job.watchers ∧
        job.cancelRequested = false ∧ job.status ≠ .cancelled ∧
        job.future ≠ .cancelled) ∧
      ∃ job, final.heap 0 = some job ∧ job.cancelRequested = true ∧
        ∀ key fails watcher,
          (final.submit sampleConfig key fails).1 ≠ .returned 0 watcher := by
  have reached : (system sampleConfig).run sampleStart
      [.submit true false, .cancel 0 0] = some sampleState := rfl
  have reachable : (system sampleConfig).Reachable
      (fun _ label => label.Relays) sampleState :=
    .of_run (.start sampleStart_initial)
      (.of_labels (by simp [Label.Relays]) _) reached
  have completes : ((system sampleConfig).run
      (sampleState.submit sampleConfig false false).2 sampleSchedule).isSome :=
    by decide
  obtain ⟨final, ran⟩ := Option.isSome_iff_exists.mp completes
  have safety := watcher_safety sampleConfig sampleState
  have spared : ∀ label ∈ sampleSchedule, label.Spares 1 1 ∧ label.Relays := by
    simp [sampleSchedule, Label.Spares, Label.Relays, Raised.Relays]
  refine ⟨final, ran, ?_, ?_⟩
  · exact safety.1 reachable false false 1 1 sampleSchedule final (by decide)
      spared ran
  · exact safety.2 (reachable.mono fun _ _ _ => trivial) 0 _
      (.submit false false :: sampleSchedule) final rfl (by decide) ran

end Catwalk.Jobs
