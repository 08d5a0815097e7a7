import Catwalk.Jobs.Outcome

/-! Cancellation reaches every job that `close` finds. -/

namespace Catwalk.Jobs

variable {Key Result : Type} [DecidableEq Key] {cfg : Config}
  {state after : State Key Result}

/-- The jobs that `close` still has to cancel. -/
def CloserState.remaining : CloserState → List Nat
  | .cancelling remaining | .cancelFuture _ remaining
  | .cancelCallback _ remaining => remaining
  | _ => []

/-- A future is cancelled for a job that was told so, and `close` tells all. -/
structure Told (state : State Key Result) : Prop extends Listed state where
  told : ∀ id job, state.heap id = some job → job.future = .cancelled →
    job.cancelRequested = true
  target : ∀ id remaining job, state.closer = .cancelFuture id remaining →
    state.heap id = some job → job.cancelRequested = true
  doomed : state.closer ≠ .open → ∀ id job, state.heap id = some job →
    job.status.Active → job.finished = none →
    job.cancelRequested = true ∨ id ∈ state.closer.remaining

omit [DecidableEq Key] in
theorem told_of_initial (initial : Initial cfg state) : Told state where
  toListed := listed_of_initial initial
  told := by
    intro id job found
    rw [initial.heap] at found
    cases found
  target := by
    intro id remaining job place
    rw [initial.closer] at place
    cases place
  doomed := by
    intro closing
    exact absurd initial.closer closing

omit [DecidableEq Key] in
theorem State.setJob_eq_some {id other : Nat} {job job' : Job Key Result}
    (found : (state.setJob id job).heap other = some job') :
    other = id ∧ job' = job ∨ other ≠ id ∧ state.heap other = some job' := by
  rw [State.setJob_heap] at found
  split at found
  next same =>
    cases found
    exact .inl ⟨same, rfl⟩
  next differ => exact .inr ⟨differ, found⟩

omit [DecidableEq Key] in
theorem Job.Computes.told {job after : Job Key Result}
    (computes : job.Computes after)
    (told : job.future = .cancelled → job.cancelRequested = true) :
    after.future = .cancelled → after.cancelRequested = true := by
  rw [computes.future, computes.cancelRequested]
  exact told

theorem JobStep.told {label : Label Key Result} {id : Nat}
    {job job' : Job Key Result}
    (changed : JobStep cfg state label id job job') (own : label.Own)
    (calls : job.cancelCalls ≠ 0 → job.cancelRequested = true)
    (told : job.future = .cancelled → job.cancelRequested = true) :
    job'.future = .cancelled → job'.cancelRequested = true := by
  cases changed with
  | same | release => exact told
  | join | take | idle | doom | closerCancel => exact own.elim
  | leave =>
      unfold Job.leave Job.detach
      simp only
      split
      · exact fun _ => rfl
      · exact told
  | endCancel changed =>
      unfold Job.endCancel at changed
      split at changed
      · cases changed
      next called =>
        cases changed
        intro _
        exact (Job.cancelFuture_run job).2.trans (calls called)
  | work changed =>
      unfold Job.work at changed
      split at changed <;> cases changed <;>
        first
          | exact told
          | exact fun cancelled => nomatch cancelled
  | progress changed => exact (Job.Computes.of_progress changed).told told
  | returns changed => exact (Job.Computes.of_returns changed).told told
  | raises changed => exact (Job.Computes.of_raises changed).told told
  | raisesCancelled changed =>
      exact (Job.Computes.of_raisesCancelled changed).told told
  | callback changed =>
      unfold Job.callbackStep at changed
      split at changed <;> cases changed <;> exact told

theorem Told.told_step (told : Told state) {label : Label Key Result}
    (stepped : Jobs.step cfg state label = some after) {id : Nat}
    {job' : Job Key Result} (found' : after.heap id = some job')
    (cancelled : job'.future = .cancelled) : job'.cancelRequested = true := by
  cases step_cases stepped with
  | tick | get | unknown | skip | close | cancelledAll | inactive
  | cancelCallback | drained | drainCallback | join =>
      exact told.told id job' found' cancelled
  | submit submitted =>
      cases submitted with
      | closed | queueFull | failed => exact told.told id job' found' cancelled
      | joined isOpen mapped found =>
          have before := told.told _ _ found
          rcases State.setJob_eq_some found' with ⟨rfl, rfl⟩ | ⟨_, found'⟩
          · exact before cancelled
          · exact told.told id job' found' cancelled
      | created =>
          rcases eq_or_ne id state.nextJob with rfl | differs
          · simp only [Function.update_self, Option.some.injEq] at found'
            subst found'
            cases cancelled
          · simp only [Function.update_of_ne differs] at found'
            exact told.told id job' found' cancelled
  | job own found changed =>
      rcases State.setJob_eq_some found' with ⟨rfl, rfl⟩ | ⟨_, found'⟩
      · exact changed.told own (told.safe id _ found).calls
          (told.told id _ found) cancelled
      · exact told.told id job' found' cancelled
  | release found =>
      have before := told.told _ _ found
      rcases State.setJob_eq_some found' with ⟨rfl, rfl⟩ | ⟨_, found'⟩
      · exact before cancelled
      · exact told.told id job' found' cancelled
  | take queued available found =>
      rcases State.setJob_eq_some found' with ⟨rfl, rfl⟩ | ⟨_, found'⟩
      · cases cancelled
      · exact told.told id job' found' cancelled
  | idle found =>
      have before := told.told _ _ found
      rcases State.setJob_eq_some found' with ⟨rfl, rfl⟩ | ⟨_, found'⟩
      · exact before cancelled
      · exact told.told id job' found' cancelled
  | doom place member found =>
      rcases State.setJob_eq_some found' with ⟨rfl, rfl⟩ | ⟨_, found'⟩
      · rfl
      · exact told.told id job' found' cancelled
  | cancelFuture place found =>
      rcases State.setJob_eq_some found' with ⟨rfl, rfl⟩ | ⟨_, found'⟩
      · exact (Job.cancelFuture_run _).2.trans
          (told.target id _ _ place found)
      · exact told.told id job' found' cancelled
  | @drain target rest job place queued found =>
      rcases State.setJob_eq_some found' with ⟨rfl, rfl⟩ | ⟨_, found'⟩
      · refine (Job.cancelFuture_run job).2.trans ?_
        by_cases pending : job.future = .pending
        · obtain ⟨status, unfinished⟩ := told.pending found pending
          have closing : state.closer ≠ .open := by simp [place]
          refine (told.doomed closing id job found (.inl status)
            unfinished).resolve_right ?_
          rw [place]
          exact List.not_mem_nil
        · unfold Job.cancelFuture at cancelled
          rw [if_neg pending] at cancelled
          exact told.told id job found cancelled
      · exact told.told id job' found' cancelled

theorem Told.target_same (told : Told state) {label : Label Key Result}
    (stepped : Jobs.step cfg state label = some after) {id : Nat}
    {remaining : List Nat} {job' : Job Key Result}
    (place : state.closer = .cancelFuture id remaining)
    (found' : after.heap id = some job') : job'.cancelRequested = true := by
  rcases told.origin stepped found' with
    ⟨job, found, _, advances⟩ | ⟨_, _, isOpen, _⟩
  · exact advances.cancelRequested (told.target id remaining job place found)
  · rw [place] at isOpen
    cases isOpen

/-- The jobs told and to be told after a step of a manager that closes. -/
theorem Told.doomed_step (told : Told state) {label : Label Key Result}
    (stepped : Jobs.step cfg state label = some after)
    (closing : state.closer ≠ .open)
    (shrinks : ∀ id job, state.heap id = some job → job.status.Active →
      job.finished = none → id ∈ state.closer.remaining →
      (∀ job', after.heap id = some job' → job'.cancelRequested = true) ∨
        id ∈ after.closer.remaining) :
    ∀ id job, after.heap id = some job → job.status.Active →
      job.finished = none →
      job.cancelRequested = true ∨ id ∈ after.closer.remaining := by
  intro id job' found' active unfinished
  rcases told.origin stepped found' with
    ⟨job, found, changed, advances⟩ | ⟨_, _, isOpen, _⟩
  · have active := advances.active active
    have unfinished := advances.finished unfinished
    rcases told.doomed closing id job found active unfinished with
      requested | waits
    · exact .inl (advances.cancelRequested requested)
    · exact (shrinks id job found active unfinished waits).imp_left
        fun requested => requested job' found'
  · exact absurd isOpen closing

omit [DecidableEq Key] in
theorem Told.doomed_close (told : Told state) (id : Nat)
    (job : Job Key Result) (found : state.heap id = some job)
    (active : job.status.Active) (unfinished : job.finished = none) :
    id ∈ state.jobs.filter fun id => (state.active id).isSome := by
  have member := told.member id job found unfinished
  refine List.mem_filter.mpr ⟨member, ?_⟩
  rw [State.active_eq_some.mpr ⟨member, found, active⟩]
  rfl

theorem Told.target_step (told : Told state) {label : Label Key Result}
    (stepped : Jobs.step cfg state label = some after) {id : Nat}
    {remaining : List Nat} {job' : Job Key Result}
    (place' : after.closer = .cancelFuture id remaining)
    (found' : after.heap id = some job') : job'.cancelRequested = true := by
  cases step_cases stepped with
  | tick | get | unknown | skip | job | release | take | idle =>
      exact told.target_same stepped place' found'
  | submit submitted =>
      cases submitted with
      | closed | joined | queueFull | failed | created =>
          exact told.target_same stepped place' found'
  | doom place member found =>
      cases place'
      rcases State.setJob_eq_some found' with ⟨_, rfl⟩ | ⟨differ, _⟩
      · rfl
      · exact absurd rfl differ
  | close | cancelledAll | inactive | cancelCallback | drainCallback | join =>
      cases place'
  | cancelFuture | drained | drain =>
      simp only at place'
      split at place' <;> cases place'

theorem Told.step {label : Label Key Result} (told : Told state)
    (stepped : Jobs.step cfg state label = some after) : Told after := by
  refine ⟨told.toListed.step stepped, fun id job found cancelled =>
    told.told_step stepped found cancelled, fun id remaining job place found =>
      told.target_step stepped place found, ?_⟩
  intro closing
  have same : state.closer = after.closer → ∀ id job,
      after.heap id = some job → job.status.Active → job.finished = none →
      job.cancelRequested = true ∨ id ∈ after.closer.remaining := by
    intro same
    apply told.doomed_step stepped (same ▸ closing)
    intro id job _ _ _ waits
    exact .inr (same ▸ waits)
  cases step_cases stepped with
  | tick | get | unknown | skip | job | release | take | idle => exact same rfl
  | submit submitted =>
      cases submitted with
      | closed | joined | queueFull | failed | created => exact same rfl
  | close isOpen =>
      intro id job found active unfinished
      exact .inr (told.doomed_close id job found active unfinished)
  | cancelledAll place =>
      apply told.doomed_step stepped (by simp [place])
      intro id job _ _ _ waits
      rw [place] at waits
      cases waits
  | inactive place inactive =>
      apply told.doomed_step stepped (by simp [place])
      intro id job found active unfinished waits
      rw [place] at waits
      rcases List.mem_cons.mp waits with rfl | later
      · have member := told.member id job found unfinished
        rw [State.active_eq_some.mpr ⟨member, found, active⟩] at inactive
        cases inactive
      · exact .inr later
  | doom place member found =>
      apply told.doomed_step stepped (by simp [place])
      intro id job _ _ _ waits
      rw [place] at waits
      rcases List.mem_cons.mp waits with rfl | later
      · left
        intro job' found'
        rcases State.setJob_eq_some found' with ⟨_, rfl⟩ | ⟨differ, _⟩
        · rfl
        · exact absurd rfl differ
      · exact .inr later
  | @cancelFuture target rest job place found =>
      apply told.doomed_step stepped (by simp [place])
      intro id job _ _ _ waits
      rw [place] at waits
      right
      simp only
      split <;> exact waits
  | cancelCallback place =>
      apply told.doomed_step stepped (by simp [place])
      intro id job _ _ _ waits
      rw [place] at waits
      exact .inr waits
  | drained place =>
      apply told.doomed_step stepped (by simp [place])
      intro id job _ _ _ waits
      rw [place] at waits
      cases waits
  | drain place =>
      apply told.doomed_step stepped (by simp [place])
      intro id job _ _ _ waits
      rw [place] at waits
      cases waits
  | drainCallback place =>
      apply told.doomed_step stepped (by simp [place])
      intro id job _ _ _ waits
      rw [place] at waits
      cases waits
  | join place =>
      apply told.doomed_step stepped (by simp [place])
      intro id job _ _ _ waits
      rw [place] at waits
      cases waits

end Catwalk.Jobs
