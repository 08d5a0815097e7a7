import Catwalk.Jobs.Executor

/-! What `close` leaves behind. -/

namespace Catwalk.Jobs

variable {Key Result : Type}

/-- The end of the job is written, its waiters are woken, its slot is free. -/
structure Job.Settled (job : Job Key Result) : Prop where
  terminal : job.status.Terminal
  finished : job.finished ≠ none
  event : job.event = true
  released : job.callback = .done

/-- The closing thread is inside the callback of the job. -/
def CloserState.Calls (closer : CloserState) (id : Nat) : Prop :=
  (∃ rest, closer = .cancelCallback id rest) ∨ closer = .drainCallback id

/-- The job whose future a client's `cancel` cancels in this step. -/
def State.cancelling (state : State Key Result) :
    Label Key Result → Option Nat
  | .endCancel id =>
      if (state.heap id).any fun job => job.future = .pending then some id
      else none
  | _ => none

/-- The jobs whose future a client's `cancel` cancelled, in order. -/
def clientCancels [DecidableEq Key] (cfg : Config) :
    State Key Result → List (Label Key Result) → List Nat :=
  (system cfg).observations State.cancelling

theorem Job.Settled.of_shape {job : Job Key Result} {ending : Ending}
    (proper : ending.Proper) (shape : job.shape = .ended ending)
    (done : job.callback = .done) : job.Settled := by
  obtain ⟨status, finished, _, _, event⟩ := Job.shape_eq_iff.mp shape
  refine ⟨?_, ?_, event, done⟩
  · rw [status]
    exact proper.terminal
  · exact Option.isSome_iff_ne_none.mp finished

variable [DecidableEq Key] {cfg : Config} {state after : State Key Result}

/-- A future is cancelled out of the pending state, by a `cancel` call or by
the closing thread. -/
theorem JobStep.cancels {label : Label Key Result} {id : Nat}
    {job job' : Job Key Result}
    (changed : JobStep cfg state label id job job') (phased : job.Phased)
    (before : job.future ≠ .cancelled) (cancelled : job'.future = .cancelled) :
    job.future = .pending ∧ (label = .endCancel id ∨ label = .closer) := by
  have pending : job.cancelFuture.future = .cancelled →
      job.future = .pending := by
    intro cancelled
    by_contra notPending
    rw [Job.cancelFuture_of_not_pending notPending] at cancelled
    exact before cancelled
  cases changed with
  | same | join | release | idle | doom => exact absurd cancelled before
  | leave =>
      unfold Job.leave Job.detach at cancelled
      simp only at cancelled
      split at cancelled <;> split at cancelled <;>
        exact absurd cancelled before
  | endCancel changed =>
      unfold Job.endCancel at changed
      split at changed
      · cases changed
      · cases changed
        exact ⟨pending cancelled, .inl rfl⟩
  | closerCancel => exact ⟨pending cancelled, .inr rfl⟩
  | work changed =>
      rcases Job.work_stage phased changed with same | ⟨_, returning⟩
      · have running :=
          (phased.of_executing (Job.work_executing changed)).1
        rw [Job.stage_of_cancelled cancelled,
          Job.stage_of_running running] at same
        cases same
      · rw [Job.stage_of_cancelled cancelled] at returning
        cases returning
  | progress changed =>
      exact absurd ((Job.Computes.of_progress changed).future ▸ cancelled)
        before
  | returns changed =>
      exact absurd ((Job.Computes.of_returns changed).future ▸ cancelled)
        before
  | raises changed =>
      exact absurd ((Job.Computes.of_raises changed).future ▸ cancelled) before
  | raisesCancelled changed =>
      exact absurd
        ((Job.Computes.of_raisesCancelled changed).future ▸ cancelled) before
  | callback changed =>
      unfold Job.callbackStep at changed
      split at changed <;> cases changed <;> exact absurd cancelled before
  | take => cases cancelled

theorem JobStep.ended {label : Label Key Result} {id : Nat}
    {job job' : Job Key Result}
    (changed : JobStep cfg state label id job job')
    (ended : job'.run = .ended) :
    job.run = .ended ∨ job'.callback = .done := by
  cases changed with
  | same | join | release | doom => exact .inl ended
  | leave =>
      unfold Job.leave Job.detach at ended
      simp only at ended
      split at ended <;> split at ended <;> exact .inl ended
  | endCancel changed =>
      unfold Job.endCancel Job.cancelFuture at changed
      split at changed
      · cases changed
      · cases changed
        split at ended <;> exact .inl ended
  | closerCancel =>
      unfold Job.cancelFuture at ended
      split at ended <;> exact .inl ended
  | work changed =>
      unfold Job.work at changed
      split at changed <;> cases changed
      all_goals
        first
          | cases ended
          | split at ended <;> cases ended
  | progress changed =>
      have executing := (Job.Computes.of_progress changed).executing
      rw [ended] at executing
      exact executing.elim
  | returns changed =>
      have executing := (Job.Computes.of_returns changed).executing
      rw [ended] at executing
      exact executing.elim
  | raises changed =>
      have executing := (Job.Computes.of_raises changed).executing
      rw [ended] at executing
      exact executing.elim
  | raisesCancelled changed =>
      have executing := (Job.Computes.of_raisesCancelled changed).executing
      rw [ended] at executing
      exact executing.elim
  | callback changed =>
      unfold Job.callbackStep at changed
      split at changed <;> cases changed <;> exact .inl ended
  | take => cases ended
  | idle returning done => exact .inr done

theorem Ruled.calls_step {label : Label Key Result} {id : Nat}
    {job : Job Key Result} (found : state.heap id = some job)
    (running : job.callback ≠ .done)
    (stepped : Jobs.step cfg state label = some after)
    (calls : state.closer.Calls id) : after.closer.Calls id := by
  have elsewhere : ∀ {closer : CloserState}, state.closer = closer →
      ¬ closer.Calls id → after.closer.Calls id := by
    intro closer place outside
    exact absurd (place ▸ calls) outside
  have ended : ∀ {other : Nat} {job' : Job Key Result}, other = id →
      state.heap other = some job' → job'.callback = .done →
      after.closer.Calls id := by
    rintro other job' rfl found' done
    rw [found, Option.some.injEq] at found'
    exact absurd (found' ▸ done) running
  cases step_cases stepped with
  | tick | get | unknown | skip | job | release | take | idle => exact calls
  | submit submitted =>
      cases submitted with
      | closed | joined | queueFull | failed | created => exact calls
  | close place | cancelledAll place | inactive place | doom place
  | cancelFuture place | drained place | drain place | join place =>
      exact elsewhere place (by simp [CloserState.Calls])
  | cancelCallback place found' done =>
      rw [place] at calls
      simp only [CloserState.Calls, CloserState.cancelCallback.injEq,
        exists_and_left, reduceCtorEq, or_false] at calls
      exact ended calls.1 found' done
  | drainCallback place found' done =>
      rw [place] at calls
      simp only [CloserState.Calls, CloserState.drainCallback.injEq,
        reduceCtorEq, exists_false, false_or] at calls
      exact ended calls found' done

/-- The closing thread runs the callback of a future it cancels. -/
theorem closer_calls {id : Nat} {job job' : Job Key Result}
    (found : state.heap id = some job) (pending : job.future = .pending)
    (stepped : Jobs.step cfg state .closer = some after)
    (found' : after.heap id = some job')
    (cancelled : job'.future = .cancelled) : after.closer.Calls id := by
  have same : state.heap id = some job' → after.closer.Calls id := by
    intro kept
    rw [found, Option.some.injEq] at kept
    subst kept
    rw [pending] at cancelled
    cases cancelled
  cases step_cases stepped with
  | job own => exact own.elim
  | cancelledAll | inactive | cancelCallback | drained | drainCallback
  | join => exact same found'
  | doom place member found'' =>
      rcases State.setJob_eq_some found' with ⟨rfl, rfl⟩ | ⟨_, kept⟩
      · rw [found, Option.some.injEq] at found''
        subst found''
        cases pending.symm.trans cancelled
      · exact same kept
  | @cancelFuture target rest job'' place found'' =>
      rcases State.setJob_eq_some found' with ⟨rfl, rfl⟩ | ⟨_, kept⟩
      · rw [found, Option.some.injEq] at found''
        subst found''
        left
        exact ⟨rest, if_pos pending⟩
      · exact same kept
  | @drain target rest job'' place queued found'' =>
      rcases State.setJob_eq_some found' with ⟨rfl, rfl⟩ | ⟨_, kept⟩
      · rw [found, Option.some.injEq] at found''
        subst found''
        right
        exact if_pos pending
      · exact same kept

/-- Each cancelled future has a thread in its callback, and a manager that is
closed has no work left. -/
structure Attended (past : List Nat) (state : State Key Result) : Prop
    extends Pooled state where
  ended : ∀ id job, state.heap id = some job → job.run = .ended →
    job.callback = .done
  attended : ∀ id job, state.heap id = some job → job.future = .cancelled →
    job.callback ≠ .done → state.closer.Calls id ∨ id ∈ past
  drained : state.closer = .joining ∨ state.closer = .returned →
    state.queue = []
  joined : state.closer = .returned → state.closeWait = true → state.busy = 0

omit [DecidableEq Key] in
theorem attended_of_initial (initial : Initial cfg state) :
    Attended [] state where
  toPooled := pooled_of_initial initial
  ended := by
    intro id job found
    rw [initial.heap] at found
    cases found
  attended := by
    intro id job found
    rw [initial.heap] at found
    cases found
  drained := fun _ => initial.queue
  joined := fun _ _ => initial.busy

theorem Attended.attended_step {past : List Nat} {label : Label Key Result}
    (attended : Attended past state)
    (stepped : Jobs.step cfg state label = some after) {id : Nat}
    {job' : Job Key Result} (found' : after.heap id = some job')
    (cancelled : job'.future = .cancelled) (running : job'.callback ≠ .done) :
    after.closer.Calls id ∨ id ∈ past ++ (state.cancelling label).toList := by
  rcases attended.origin stepped found' with
    ⟨job, found, changed, _⟩ | ⟨_, _, _, _, _, rfl⟩
  · have phased := attended.phased found
    by_cases before : job.future = .cancelled
    · have unended : job.callback ≠ .done :=
        fun done => running (changed.released phased done)
      rcases attended.attended id job found before unended with calls | member
      · exact .inl (Ruled.calls_step found unended stepped calls)
      · exact .inr (List.mem_append_left _ member)
    · obtain ⟨pending, rfl | rfl⟩ := changed.cancels phased before cancelled
      · right
        apply List.mem_append_right
        simp [State.cancelling, found, pending]
      · exact .inl (closer_calls found pending stepped found' cancelled)
  · cases cancelled

theorem Attended.drained_step {past : List Nat} {label : Label Key Result}
    (attended : Attended past state)
    (stepped : Jobs.step cfg state label = some after)
    (closed : after.closer = .joining ∨ after.closer = .returned) :
    after.queue = [] := by
  have drained := attended.drained
  cases step_cases stepped with
  | tick | get | unknown | job | release | idle => exact drained closed
  | submit submitted =>
      cases submitted with
      | closed | joined | queueFull | failed => exact drained closed
      | created isOpen =>
          rcases closed with place | place
          · cases isOpen.symm.trans place
          · cases isOpen.symm.trans place
  | take queued | skip queued =>
      rw [queued] at drained
      cases drained closed
  | close | cancelledAll | inactive | doom | cancelCallback
  | drainCallback => simp at closed
  | cancelFuture | drain =>
      simp only at closed
      split at closed <;> simp at closed
  | drained place empty => exact empty
  | join place => exact drained (.inl place)

theorem Attended.joined_step {past : List Nat} {label : Label Key Result}
    (attended : Attended past state)
    (stepped : Jobs.step cfg state label = some after)
    (returned : after.closer = .returned) (waits : after.closeWait = true) :
    after.busy = 0 := by
  have joined := attended.joined
  have drained := attended.drained
  cases step_cases stepped with
  | tick | get | unknown | job | release | skip => exact joined returned waits
  | submit submitted =>
      cases submitted with
      | closed | joined | queueFull | failed | created =>
          exact joined returned waits
  | take queued =>
      rw [queued] at drained
      cases drained (.inr returned)
  | idle =>
      have none := joined returned waits
      exact (Nat.pred_le state.busy).trans_eq none |> Nat.le_zero.mp
  | close | cancelledAll | inactive | doom | cancelCallback
  | drainCallback => cases returned
  | cancelFuture | drain =>
      simp only at returned
      split at returned <;> cases returned
  | drained place =>
      have waiting : state.closeWait = true := waits
      simp [waiting] at returned
  | join place idle => exact idle

theorem Attended.step {past : List Nat} {label : Label Key Result}
    (attended : Attended past state)
    (stepped : Jobs.step cfg state label = some after) :
    Attended (past ++ (state.cancelling label).toList) after where
  toPooled := attended.toPooled.step stepped
  ended := by
    intro id job' found' ended
    rcases attended.origin stepped found' with
      ⟨job, found, changed, _⟩ | ⟨_, _, _, _, _, rfl⟩
    · rcases changed.ended ended with before | done
      · exact changed.released (attended.phased found)
          (attended.ended id job found before)
      · exact done
    · cases ended
  attended := fun id job found => attended.attended_step stepped found
  drained := attended.drained_step stepped
  joined := attended.joined_step stepped

omit [DecidableEq Key] in
/-- Once `close` has waited for the workers, the jobs are settled but for those
in the callback of a client. -/
theorem Attended.settled {past : List Nat} (attended : Attended past state)
    (returned : state.closer = .returned) (waited : state.closeWait = true)
    {id : Nat} {job : Job Key Result} (found : state.heap id = some job) :
    job.Settled ∨
      id ∈ past ∧ job.future = .cancelled ∧ job.callback ≠ .done := by
  have queue : state.pool.queue = [] := attended.drained (.inr returned)
  have nobody : state.pool.working = ∅ := by
    rw [← Finset.card_eq_zero, ← attended.sound.busy]
    exact attended.joined returned waited
  have known := (State.mem_known attended.fresh).mpr
    (Option.isSome_iff_exists.mpr ⟨job, found⟩)
  have stage := State.stage_of_found found
  have notWorking : ¬ job.stage.Working := by
    intro working
    have member : id ∈ state.pool.working :=
      WorkPool.mem_within.mpr ⟨known, stage ▸ working⟩
    rw [nobody] at member
    cases member
  have shaped := attended.shaped id job found
  cases future : job.future with
  | pending =>
      have waiting := stage.trans (Job.stage_of_pending future)
      have member := attended.sound.waits id known waiting
      rw [queue] at member
      cases member
  | running =>
      rw [Job.stage_of_running future] at notWorking
      exact absurd (.inl rfl) notWorking
  | finished =>
      left
      have ended : job.run = .ended := by
        by_contra working
        have returning : job.stage = .returning := by
          unfold Job.stage
          rw [future]
          split <;> simp_all
        rw [returning] at notWorking
        exact notWorking (.inr rfl)
      have fits := shaped.fits (by simp [future])
      rw [ended] at fits
      obtain ⟨ending, proper, shape⟩ := fits
      exact .of_shape proper shape (attended.ended id job found ended)
  | cancelled =>
      by_cases done : job.callback = .done
      · left
        rw [Job.Shaped, if_pos future, done] at shaped
        exact .of_shape Ending.proper_cancelled shaped done
      · right
        rcases attended.attended id job found future done with calls | member
        · rw [returned] at calls
          simp [CloserState.Calls] at calls
        · exact ⟨member, rfl, done⟩

/-- The steps of the callback of a cancelled future that are still to come. -/
def CallbackState.left : CallbackState → Nat
  | .waiting | .done => 0
  | .release => 1
  | .signal => 2
  | .publish => 3
  | .finish => 4
  | .fail => 5
  | .check => 6

omit [DecidableEq Key] in
theorem Job.callbackStep_isSome {now : Int} {job : Job Key Result}
    (shaped : job.Shaped) (cancelled : job.future = .cancelled)
    (running : 1 < job.callback.left) :
    ∃ job', job.callbackStep now = some job' ∧ job'.future = .cancelled ∧
      job'.callback.left + 1 = job.callback.left := by
  rw [Job.Shaped, if_pos cancelled] at shaped
  cases place : job.callback with
  | waiting | done | release =>
      rw [place] at running
      exact absurd running (by decide)
  | check =>
      rw [place] at shaped
      have silent : job.event = false := (Job.shape_eq_iff.mp shaped).2.2.2.2
      exact ⟨{ job with callback := .fail }, by
        simp [Job.callbackStep, place, cancelled, silent], cancelled, rfl⟩
  | fail | finish | publish | signal =>
      simp only [Job.callbackStep, place]
      exact ⟨_, rfl, cancelled, rfl⟩

theorem Ruled.callback_step (cfg : Config) (ruled : Ruled state) {id : Nat}
    {job : Job Key Result} (found : state.heap id = some job)
    (cancelled : job.future = .cancelled) {left : Nat}
    (steps : job.callback.left = left + 1) :
    ∃ after job', (system cfg).step state (.callback id) = some after ∧
      after.heap id = some job' ∧ job'.future = .cancelled ∧
      job'.callback.left = left := by
  by_cases releasing : job.callback = .release
  · rw [releasing] at steps
    cases steps
    refine ⟨{ state.setJob id { job with callback := .done } with
      slots := min (state.slots + 1) (cfg.maxWorkers + cfg.maxQueue) },
      { job with callback := .done }, ?_, ?_, cancelled, rfl⟩
    · exact (congrArg (Option.bind · _) found).trans (if_pos releasing)
    · exact State.setJob_heap.trans (if_pos rfl)
  · have many : 1 < job.callback.left := by
      cases place : job.callback <;> simp_all [CallbackState.left]
    obtain ⟨job', changed, cancelled', fewer⟩ :=
      Job.callbackStep_isSome (ruled.shaped id job found) cancelled many
    refine ⟨state.setJob id job', job', ?_, ?_, cancelled', by omega⟩
    · refine (congrArg (Option.bind · _) found).trans ?_
      exact (if_neg releasing).trans (congrArg (Option.map _) changed)
    · exact State.setJob_heap.trans (if_pos rfl)

/-- The thread in the callback of a cancelled future gets to its end by
itself. -/
theorem Ruled.callback_settles (cfg : Config) (ruled : Ruled state) {id : Nat}
    {job : Job Key Result} (found : state.heap id = some job)
    (cancelled : job.future = .cancelled) {left : Nat}
    (steps : job.callback.left = left) :
    ∃ after job', (system cfg).run state (List.replicate left (.callback id)) =
        some after ∧ after.heap id = some job' ∧ job'.Settled := by
  induction left generalizing state job with
  | zero =>
      have phased := ruled.phased found
      have shaped := ruled.shaped id job found
      have done : job.callback = .done := by
        unfold Job.Phased at phased
        rw [cancelled] at phased
        cases place : job.callback <;> simp_all [CallbackState.left]
      rw [Job.Shaped, if_pos cancelled, done] at shaped
      exact ⟨state, job, rfl, found,
        .of_shape Ending.proper_cancelled shaped done⟩
  | succ left ih =>
      obtain ⟨next, job', stepped, found', cancelled', steps'⟩ :=
        ruled.callback_step cfg found cancelled steps
      have kept : Ruled next :=
        ruled.step (show Jobs.step cfg state (.callback id) = _ from stepped)
      obtain ⟨after, last, ran, found'', settled⟩ :=
        ih kept found' cancelled' steps'
      exact ⟨after, last, StepSystem.run_cons.mpr ⟨next, stepped, ran⟩,
        found'', settled⟩

/-- After `close` a submit admits nothing. Once a waiting `close` has returned,
every job is settled and its slot released, save one whose future the `cancel`
of a client cancelled, while that call is still in the callback; the callback
settles it without waiting for anybody. -/
theorem shutdown_settles (cfg : Config) (start final : State Key Result)
    (schedule : List (Label Key Result)) (initial : Initial cfg start)
    (ran : (system cfg).run start schedule = some final) :
    (final.closer ≠ .open → ∀ key fails,
      final.submit cfg key fails = (.closed, final)) ∧
    (final.closer = .returned → final.closeWait = true →
      final.slots + final.held.card = cfg.maxWorkers + cfg.maxQueue ∧
      ∀ id job, final.heap id = some job →
        job.Settled ∧ id ∉ final.held ∨
        id ∈ clientCancels cfg start schedule ∧ job.future = .cancelled ∧
          id ∈ final.held ∧
          ∃ steps after job', (system cfg).run final
              (List.replicate steps (.callback id)) = some after ∧
            after.heap id = some job' ∧ job'.Settled) := by
  have attended : Attended (clientCancels cfg start schedule) final :=
    StepSystem.run_observations
      (fun _ _ _ _ attended stepped => attended.step stepped) ran
      (attended_of_initial initial)
  have counted : Counted cfg final := counted_of_reachable
    (.of_run (.start initial) (.any _ _ _) ran)
  refine ⟨?_, ?_⟩
  · intro closing key fails
    exact if_pos closing
  · intro returned waited
    refine ⟨counted.balance, ?_⟩
    intro id job found
    have holding : id ∈ final.held ↔ final.freed id = some false :=
      State.mem_held counted.fresh
    rw [State.freed_of_found found] at holding
    rcases attended.settled returned waited found with
      settled | ⟨member, cancelled, running⟩
    · left
      refine ⟨settled, ?_⟩
      rw [holding, settled.released]
      simp
    · right
      refine ⟨member, cancelled, ?_, ?_⟩
      · rw [holding]
        simp [running]
      · exact ⟨_, attended.callback_settles cfg found cancelled rfl⟩

/-- `close` ends the job that it finds in the queue. -/
def shutdownSchedule : List (Label Bool Unit) :=
  [.submit true false, .close true, .closer, .closer] ++
    List.replicate 6 (.callback 0) ++ List.replicate 5 .closer

theorem shutdownSchedule_settles :
    ∃ final, (system sampleConfig).run sampleStart shutdownSchedule =
        some final ∧
      ∀ id job, final.heap id = some job → job.Settled := by
  have closes : ((system sampleConfig).run sampleStart shutdownSchedule).map
      (fun final => (final.closer, final.closeWait)) =
        some (.returned, true) := by decide
  obtain ⟨final, ran, place⟩ := Option.map_eq_some_iff.mp closes
  obtain ⟨returned, waited⟩ := Prod.mk.inj place
  have shutdown := (shutdown_settles sampleConfig sampleStart final _
    sampleStart_initial ran).2 returned waited
  have nobody : clientCancels sampleConfig sampleStart shutdownSchedule = [] :=
    by decide
  refine ⟨final, ran, ?_⟩
  intro id job found
  rcases shutdown.2 id job found with ⟨settled, _⟩ | ⟨member, _⟩
  · exact settled
  · rw [nobody] at member
    cases member

/-- A client's `cancel` is still in the callback when `close` returns. -/
def lateSchedule : List (Label Bool Unit) :=
  [.submit true false, .cancel 0 0, .endCancel 0, .close true] ++
    List.replicate 6 .closer

theorem lateSchedule_unsettled :
    ¬ ∀ (cfg : Config) (start final : State Bool Unit)
      (schedule : List (Label Bool Unit)), Initial cfg start →
      (system cfg).run start schedule = some final →
      final.closer = .returned → final.closeWait = true →
      ∀ id ∈ final.jobs, ∃ job, final.heap id = some job ∧
        job.status.Terminal ∧ job.finished ≠ none ∧ job.event = true := by
  intro settles
  have late : ((system sampleConfig).run sampleStart lateSchedule).map
      (fun final => (final.closer, final.closeWait, final.jobs,
        (final.heap 0).map (·.event))) =
        some (.returned, true, [0], some false) := by decide
  obtain ⟨final, ran, place⟩ := Option.map_eq_some_iff.mp late
  simp only [Prod.mk.injEq] at place
  obtain ⟨returned, waited, jobs, silent⟩ := place
  obtain ⟨job, found, _, _, event⟩ := settles sampleConfig sampleStart final _
    sampleStart_initial ran returned waited 0 (by simp [jobs])
  rw [found, Option.map_some, event] at silent
  cases silent

end Catwalk.Jobs
