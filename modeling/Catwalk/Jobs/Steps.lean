import Catwalk.Jobs.Manager

/-! Everything a step of the manager can do. -/

namespace Catwalk.Jobs

variable {Key Result : Type} [DecidableEq Key]

/-- Every change of a job, under the step that makes it. -/
inductive JobStep (cfg : Config) (state : State Key Result) :
    Label Key Result → Nat → Job Key Result → Job Key Result → Prop
  | same {label id job} : JobStep cfg state label id job job
  | join {key fails id job} (active : job.status.Active)
      (notRequested : job.cancelRequested = false)
      (returned : (state.submit cfg key fails).1 =
        .returned id state.nextWatcher) :
      JobStep cfg state (.submit key fails) id job
        { job with watchers := insert state.nextWatcher job.watchers }
  | leave {id watcher job} (active : job.status.Active) :
      JobStep cfg state (.cancel id watcher) id job (job.leave watcher)
  | endCancel {id job after} (changed : job.endCancel = some after) :
      JobStep cfg state (.endCancel id) id job after
  | work {id job after} (changed : job.work state.now = some after) :
      JobStep cfg state (.work id) id job after
  | progress {id rows job after} (changed : job.progress rows = some after) :
      JobStep cfg state (.progress id rows) id job after
  | returns {id result job after} (changed : job.returns result = some after) :
      JobStep cfg state (.returns id result) id job after
  | raises {id raised job after} (changed : job.raises raised = some after) :
      JobStep cfg state (.raises id raised) id job after
  | raisesCancelled {id job after}
      (changed : job.raisesCancelled = some after) :
      JobStep cfg state (.raisesCancelled id) id job after
  | callback {id job after} (changed : job.callbackStep state.now = some after) :
      JobStep cfg state (.callback id) id job after
  | release {id job} (releasing : job.callback = .release) :
      JobStep cfg state (.callback id) id job { job with callback := .done }
  | take {id job} (pending : job.future = .pending) :
      JobStep cfg state .take id job
        { job with future := .running, run := .start }
  | idle {id job} (returning : job.run = .returning)
      (done : job.callback = .done) :
      JobStep cfg state (.idle id) id job { job with run := .ended }
  | doom {id job} (closing : state.closer ≠ .open)
      (active : job.status.Active) :
      JobStep cfg state .closer id job { job with cancelRequested := true }
  | closerCancel {id job} (closing : state.closer ≠ .open) :
      JobStep cfg state .closer id job job.cancelFuture

variable {cfg : Config} {state after : State Key Result}

omit [DecidableEq Key] in
theorem State.setJob_heap {id other : Nat} {job : Job Key Result} :
    (state.setJob id job).heap other =
      if other = id then some job else state.heap other := by
  simp [State.setJob, Function.update_apply]

omit [DecidableEq Key] in
theorem State.active_eq_some {id : Nat} {job : Job Key Result} :
    state.active id = some job ↔
      id ∈ state.jobs ∧ state.heap id = some job ∧ job.status.Active := by
  unfold State.active
  by_cases member : id ∈ state.jobs
  · simp [member, Option.filter_eq_some_iff]
  · simp [member]

/-- The ways a submit can end. -/
inductive Submitted (cfg : Config) (state : State Key Result) (key : Key) :
    Bool → SubmitOutcome → State Key Result → Prop
  | closed {fails} (closing : state.closer ≠ .open) :
      Submitted cfg state key fails .closed state
  | joined {fails id job} (isOpen : state.closer = .open)
      (mapped : state.byKey key = some id) (found : state.heap id = some job)
      (active : job.status.Active) (notRequested : job.cancelRequested = false) :
      Submitted cfg state key fails (.returned id state.nextWatcher)
        ({ state.prune cfg with nextWatcher := state.nextWatcher + 1 }.setJob id
          { job with watchers := insert state.nextWatcher job.watchers })
  | queueFull {fails} (isOpen : state.closer = .open) (full : state.slots = 0) :
      Submitted cfg state key fails .queueFull
        { state.prune cfg with nextWatcher := state.nextWatcher + 1 }
  | failed (isOpen : state.closer = .open) (free : state.slots ≠ 0) :
      Submitted cfg state key true .failed { state.prune cfg with
        nextWatcher := state.nextWatcher + 1
        nextJob := state.nextJob + 1
        byKey := Function.update (state.prune cfg).byKey key none }
  | created (isOpen : state.closer = .open) (free : state.slots ≠ 0) :
      Submitted cfg state key false
        (.returned state.nextJob state.nextWatcher) { state.prune cfg with
          nextWatcher := state.nextWatcher + 1
          heap := Function.update state.heap state.nextJob
            (some (.new key state.now state.nextWatcher))
          nextJob := state.nextJob + 1
          jobs := (state.prune cfg).jobs ++ [state.nextJob]
          byKey :=
            Function.update (state.prune cfg).byKey key (some state.nextJob)
          slots := state.slots - 1
          queue := state.queue ++ [state.nextJob] }

theorem State.joinable_prune {key : Key} {id : Nat} {job : Job Key Result}
    {state' : State Key Result} (byKey : state'.byKey = (state.prune cfg).byKey)
    (heap : state'.heap = state.heap)
    (joinable : state'.joinable key = some (id, job)) :
    state.byKey key = some id ∧ state.heap id = some job ∧
      job.status.Active ∧ job.cancelRequested = false := by
  simp only [State.joinable, Option.bind_eq_some_iff, byKey, heap] at joinable
  obtain ⟨mappedId, mapped, foundJob, found, tested⟩ := joinable
  split at tested
  · next test =>
      cases tested
      refine ⟨?_, found, test⟩
      simp only [State.prune] at mapped
      split at mapped
      · cases mapped
      · next original =>
          split at mapped
          · cases mapped
          · rw [original, mapped]
  · cases tested

theorem State.submitted (cfg : Config) (state : State Key Result) (key : Key)
    (fails : Bool) :
    Submitted cfg state key fails (state.submit cfg key fails).1
      (state.submit cfg key fails).2 := by
  unfold State.submit
  by_cases isOpen : state.closer = .open
  · rw [if_neg (not_not.mpr isOpen)]
    simp only
    split
    next id job joinable =>
      obtain ⟨mapped, found, active, notRequested⟩ :=
        State.joinable_prune rfl rfl joinable
      exact .joined isOpen mapped found active notRequested
    next notJoinable =>
      split
      · next full => exact .queueFull isOpen full
      · next free =>
          cases fails with
          | true => exact .failed isOpen free
          | false => exact .created isOpen free
  · rw [if_pos isOpen]
    exact .closed isOpen

/-- A step of one job alone. -/
def Label.Own : Label Key Result → Prop
  | .cancel _ _ | .endCancel _ | .work _ | .progress _ _ | .returns _ _
  | .raises _ _ | .raisesCancelled _ | .callback _ => True
  | _ => False

/-- The ways a step can go, with what it writes. -/
inductive Transition (cfg : Config) (state : State Key Result) :
    Label Key Result → State Key Result → Prop
  | tick {elapsed} :
      Transition cfg state (.tick elapsed)
        { state with now := state.now + elapsed }
  | submit {key fails outcome after}
      (submitted : Submitted cfg state key fails outcome after)
      (outcomeIs : (state.submit cfg key fails).1 = outcome) :
      Transition cfg state (.submit key fails) after
  | get {id} : Transition cfg state (.get id) (state.prune cfg)
  | unknown {id watcher} : Transition cfg state (.cancel id watcher) state
  | job {label id job job'} (own : label.Own)
      (found : state.heap id = some job)
      (changed : JobStep cfg state label id job job')
      (unreleased : job'.callback = .done → job.callback = .done) :
      Transition cfg state label (state.setJob id job')
  | release {id job} (found : state.heap id = some job)
      (releasing : job.callback = .release) :
      Transition cfg state (.callback id)
        { state.setJob id { job with callback := .done } with
          slots := min (state.slots + 1) (cfg.maxWorkers + cfg.maxQueue) }
  | take {id rest job} (queued : state.queue = id :: rest)
      (available : state.busy < cfg.maxWorkers)
      (found : state.heap id = some job) (pending : job.future = .pending) :
      Transition cfg state .take
        { state.setJob id { job with future := .running, run := .start } with
          queue := rest
          busy := state.busy + 1 }
  | skip {id rest job} (queued : state.queue = id :: rest)
      (available : state.busy < cfg.maxWorkers)
      (found : state.heap id = some job) (cancelled : job.future = .cancelled) :
      Transition cfg state .take { state with queue := rest }
  | idle {id job} (found : state.heap id = some job)
      (returning : job.run = .returning) (done : job.callback = .done) :
      Transition cfg state (.idle id)
        { state.setJob id { job with run := .ended } with
          busy := state.busy - 1 }
  | close {wait} (isOpen : state.closer = .open) :
      Transition cfg state (.close wait) { state with
        closer := .cancelling
          (state.jobs.filter fun id => (state.active id).isSome)
        closeWait := wait }
  | cancelledAll (place : state.closer = .cancelling []) :
      Transition cfg state .closer { state with closer := .draining }
  | inactive {id rest} (place : state.closer = .cancelling (id :: rest))
      (inactive : state.active id = none) :
      Transition cfg state .closer { state with closer := .cancelling rest }
  | doom {id rest job} (place : state.closer = .cancelling (id :: rest))
      (member : id ∈ state.jobs) (found : state.heap id = some job)
      (active : job.status.Active) :
      Transition cfg state .closer
        { state.setJob id { job with cancelRequested := true } with
          closer := .cancelFuture id rest }
  | cancelFuture {id rest job} (place : state.closer = .cancelFuture id rest)
      (found : state.heap id = some job) :
      Transition cfg state .closer { state.setJob id job.cancelFuture with
        closer := if job.future = .pending then .cancelCallback id rest
          else .cancelling rest }
  | cancelCallback {id rest job}
      (place : state.closer = .cancelCallback id rest)
      (found : state.heap id = some job) (done : job.callback = .done) :
      Transition cfg state .closer { state with closer := .cancelling rest }
  | drained (place : state.closer = .draining) (queue : state.queue = []) :
      Transition cfg state .closer { state with
        closer := if state.closeWait then .joining else .returned }
  | drain {id rest job} (place : state.closer = .draining)
      (queued : state.queue = id :: rest) (found : state.heap id = some job) :
      Transition cfg state .closer { state.setJob id job.cancelFuture with
        queue := rest
        closer := if job.future = .pending then .drainCallback id
          else .draining }
  | drainCallback {id job} (place : state.closer = .drainCallback id)
      (found : state.heap id = some job) (done : job.callback = .done) :
      Transition cfg state .closer { state with closer := .draining }
  | join (place : state.closer = .joining) (idle : state.busy = 0) :
      Transition cfg state .closer { state with closer := .returned }

theorem closerStep_cases (stepped : state.closerStep = some after) :
    Transition cfg state .closer after := by
  unfold State.closerStep at stepped
  split at stepped
  · cases stepped
  · cases stepped
  next place =>
    cases stepped
    exact .cancelledAll place
  next id rest place =>
    split at stepped
    next inactive =>
      cases stepped
      exact .inactive place inactive
    next job active =>
      cases stepped
      obtain ⟨member, found, active⟩ := State.active_eq_some.mp active
      exact .doom place member found active
  next id rest place =>
    obtain ⟨job, found, rfl⟩ := Option.map_eq_some_iff.mp stepped
    exact .cancelFuture place found
  next id rest place =>
    obtain ⟨job, found, stepped⟩ := Option.bind_eq_some_iff.mp stepped
    split at stepped <;> cases stepped
    next done => exact .cancelCallback place found done
  next place =>
    split at stepped
    next empty =>
      cases stepped
      exact .drained place empty
    next id rest queued =>
      obtain ⟨job, found, rfl⟩ := Option.map_eq_some_iff.mp stepped
      exact .drain place queued found
  next id place =>
    obtain ⟨job, found, stepped⟩ := Option.bind_eq_some_iff.mp stepped
    split at stepped <;> cases stepped
    next done => exact .drainCallback place found done
  next place =>
    split at stepped <;> cases stepped
    next idle => exact .join place idle

theorem Transition.of_modify {label : Label Key Result} {id : Nat}
    {change : Job Key Result → Option (Job Key Result)} (own : label.Own)
    (permitted : ∀ job job', change job = some job' →
      JobStep cfg state label id job job' ∧
        (job'.callback = .done → job.callback = .done))
    (modified : state.modify id change = some after) :
    Transition cfg state label after := by
  obtain ⟨job, found, modified⟩ := Option.bind_eq_some_iff.mp modified
  obtain ⟨job', changed, rfl⟩ := Option.map_eq_some_iff.mp modified
  obtain ⟨step, unreleased⟩ := permitted job job' changed
  exact .job own found step unreleased

omit [DecidableEq Key] in
theorem Job.endCancel_unreleased {job job' : Job Key Result}
    (changed : job.endCancel = some job') (done : job'.callback = .done) :
    job.callback = .done := by
  unfold Job.endCancel at changed
  split at changed
  · cases changed
  · cases changed
    unfold Job.cancelFuture at done
    split at done
    · cases done
    · exact done

omit [DecidableEq Key] in
theorem Job.work_unreleased {now : Int} {job job' : Job Key Result}
    (changed : job.work now = some job') (done : job'.callback = .done) :
    job.callback = .done := by
  unfold Job.work at changed
  split at changed <;> cases changed <;> first | exact done | cases done

omit [DecidableEq Key] in
theorem Job.callbackStep_unreleased {now : Int} {job job' : Job Key Result}
    (changed : job.callbackStep now = some job') : job'.callback ≠ .done := by
  intro done
  unfold Job.callbackStep at changed
  split at changed
  · cases changed
    simp only at done
    split at done <;> cases done
  all_goals
    cases changed
    try cases done

theorem step_cases {label : Label Key Result}
    (stepped : step cfg state label = some after) :
    Transition cfg state label after := by
  cases label with
  | tick elapsed =>
      cases stepped
      exact .tick
  | submit key fails =>
      cases stepped
      exact .submit (State.submitted cfg state key fails) rfl
  | get id =>
      cases stepped
      exact .get
  | cancel id watcher =>
      cases stepped
      unfold State.cancel
      split
      · exact .unknown
      next job active =>
        obtain ⟨_, found, active⟩ := State.active_eq_some.mp active
        refine .job trivial found (.leave active) ?_
        unfold Job.leave Job.detach
        simp only
        split <;> split <;> exact fun done => done
  | endCancel id =>
      exact .of_modify trivial (fun _ _ changed =>
        ⟨.endCancel changed, Job.endCancel_unreleased changed⟩) stepped
  | take =>
      simp only [step, State.take] at stepped
      split at stepped
      · cases stepped
      next id rest queued =>
        split at stepped
        next available =>
          obtain ⟨job, found, stepped⟩ := Option.bind_eq_some_iff.mp stepped
          split at stepped <;> cases stepped
          next pending => exact .take queued available found pending
          next cancelled => exact .skip queued available found cancelled
        · cases stepped
  | work id =>
      exact .of_modify trivial (fun _ _ changed =>
        ⟨.work changed, Job.work_unreleased changed⟩) stepped
  | progress id rows =>
      refine .of_modify trivial (fun job job' changed =>
        ⟨.progress changed, ?_⟩) stepped
      unfold Job.progress at changed
      split at changed <;> cases changed
      split <;> exact fun done => done
  | returns id result =>
      refine .of_modify trivial (fun job job' changed =>
        ⟨.returns changed, ?_⟩) stepped
      unfold Job.returns at changed
      split at changed <;> cases changed
      exact fun done => done
  | raises id raised =>
      refine .of_modify trivial (fun job job' changed =>
        ⟨.raises changed, ?_⟩) stepped
      unfold Job.raises at changed
      split at changed <;> cases changed
      exact fun done => done
  | raisesCancelled id =>
      refine .of_modify trivial (fun job job' changed =>
        ⟨.raisesCancelled changed, ?_⟩) stepped
      unfold Job.raisesCancelled at changed
      split at changed <;> cases changed
      exact fun done => done
  | callback id =>
      simp only [step, State.callback] at stepped
      obtain ⟨job, found, stepped⟩ := Option.bind_eq_some_iff.mp stepped
      split at stepped
      next releasing =>
        cases stepped
        exact .release found releasing
      next =>
        obtain ⟨job', changed, rfl⟩ := Option.map_eq_some_iff.mp stepped
        exact .job trivial found (.callback changed) fun done =>
          absurd done (Job.callbackStep_unreleased changed)
  | idle id =>
      simp only [step, State.idle] at stepped
      obtain ⟨job, found, stepped⟩ := Option.bind_eq_some_iff.mp stepped
      split at stepped <;> cases stepped
      next returning done => exact .idle found returning done
  | close wait =>
      simp only [step, State.close] at stepped
      split at stepped <;> cases stepped
      next isOpen => exact .close isOpen
  | closer => exact closerStep_cases stepped

end Catwalk.Jobs
