import Catwalk.Jobs.Steps

/-! What a step of the manager does to its jobs, and what it leaves alone. -/

namespace Catwalk.Jobs

variable {Key Result : Type} [DecidableEq Key] {cfg : Config}
  {state after : State Key Result}

/-- What a step does to the heap: it changes each job in one of the listed
ways, loses none, and creates one for an admitted submit only. -/
structure HeapStep (cfg : Config) (state : State Key Result)
    (label : Label Key Result) (after : State Key Result) : Prop where
  kept : ∀ id job, state.heap id = some job →
    ∃ job', after.heap id = some job' ∧ JobStep cfg state label id job job'
  created : ∀ id job, state.heap id = none → after.heap id = some job →
    ∃ key, label = .submit key false ∧ state.closer = .open ∧
      id = state.nextJob ∧ job = .new key state.now state.nextWatcher ∧
      (state.submit cfg key false).1 = .returned id state.nextWatcher

theorem HeapStep.of_update {label : Label Key Result} {id : Nat}
    {old new : Job Key Result} (found : state.heap id = some old)
    (changed : JobStep cfg state label id old new)
    (heap : ∀ other, after.heap other =
      if other = id then some new else state.heap other) :
    HeapStep cfg state label after := by
  constructor
  · intro other job stored
    rcases eq_or_ne other id with rfl | differs
    · rw [found, Option.some.injEq] at stored
      subst stored
      exact ⟨new, by rw [heap, if_pos rfl], changed⟩
    · exact ⟨job, by rw [heap, if_neg differs, stored], .same⟩
  · intro other job missing stored
    rw [heap] at stored
    split at stored
    · next same =>
        rw [same, found] at missing
        cases missing
    · rw [missing] at stored
      cases stored

/-- A job after a step was there before, or was just admitted. -/
theorem HeapStep.origin {label : Label Key Result} {id : Nat}
    {job' : Job Key Result} (heap : HeapStep cfg state label after)
    (found' : after.heap id = some job') :
    (∃ job, state.heap id = some job ∧ JobStep cfg state label id job job') ∨
    state.heap id = none ∧ ∃ key, label = .submit key false ∧
      state.closer = .open ∧ id = state.nextJob ∧
      job' = .new key state.now state.nextWatcher ∧
      (state.submit cfg key false).1 = .returned id state.nextWatcher := by
  cases before : state.heap id with
  | none => exact .inr ⟨rfl, heap.created id job' before found'⟩
  | some job =>
      obtain ⟨kept, found, changed⟩ := heap.kept id job before
      rw [found', Option.some.injEq] at found
      subst found
      exact .inl ⟨job, rfl, changed⟩

theorem HeapStep.of_same {label : Label Key Result}
    (heap : after.heap = state.heap) : HeapStep cfg state label after := by
  constructor
  · intro id job stored
    exact ⟨job, by rw [heap, stored], .same⟩
  · intro id job missing stored
    rw [heap, missing] at stored
    cases stored

theorem step_heap {label : Label Key Result}
    (fresh : state.heap state.nextJob = none)
    (stepped : step cfg state label = some after) :
    HeapStep cfg state label after := by
  cases step_cases stepped with
  | tick | get | unknown | skip | close | cancelledAll | inactive
  | cancelCallback | drained | drainCallback | join => exact .of_same rfl
  | submit submitted outcomeIs =>
      cases submitted with
      | closed | queueFull | failed => exact .of_same rfl
      | joined isOpen mapped found active notRequested =>
          exact .of_update found (.join active notRequested outcomeIs)
            fun _ => State.setJob_heap
      | created isOpen free =>
          constructor
          · intro id job stored
            have older : id ≠ state.nextJob := by
              rintro rfl
              rw [fresh] at stored
              cases stored
            refine ⟨job, ?_, .same⟩
            simp [Function.update_of_ne older, stored]
          · intro id job missing stored
            rcases eq_or_ne id state.nextJob with rfl | differs
            · simp only [Function.update_self, Option.some.injEq] at stored
              exact ⟨_, rfl, isOpen, rfl, stored.symm, outcomeIs⟩
            · simp only [Function.update_of_ne differs, missing] at stored
              cases stored
  | job own found changed =>
      exact .of_update found changed fun _ => State.setJob_heap
  | release found releasing =>
      exact .of_update found (.release releasing) fun _ => State.setJob_heap
  | take queued available found pending =>
      exact .of_update found (.take pending) fun _ => State.setJob_heap
  | idle found returning done =>
      exact .of_update found (.idle returning done) fun _ => State.setJob_heap
  | doom place member found active =>
      have closing : state.closer ≠ .open := by simp [place]
      exact .of_update found (.doom closing active) fun _ => State.setJob_heap
  | cancelFuture place found =>
      have closing : state.closer ≠ .open := by simp [place]
      exact .of_update found (.closerCancel closing) fun _ => State.setJob_heap
  | drain place queued found =>
      have closing : state.closer ≠ .open := by simp [place]
      exact .of_update found (.closerCancel closing) fun _ => State.setJob_heap

/-- Time and job numbers grow, and only `close` ends the open phase, for
good. -/
structure StepFrame (state : State Key Result) (label : Label Key Result)
    (after : State Key Result) : Prop where
  now : state.now ≤ after.now
  nextJob : state.nextJob ≤ after.nextJob
  closing : state.closer ≠ .open → after.closer ≠ .open
  closed : after.closer ≠ .open →
    state.closer ≠ .open ∨ ∃ wait, label = .close wait

omit [DecidableEq Key] in
theorem StepFrame.of_same {label : Label Key Result}
    (now : after.now = state.now) (nextJob : after.nextJob = state.nextJob)
    (closer : after.closer = state.closer) : StepFrame state label after :=
  ⟨now.ge, nextJob.ge, closer.symm ▸ id, closer.symm ▸ .inl⟩

omit [DecidableEq Key] in
theorem StepFrame.of_closing {label : Label Key Result}
    (now : after.now = state.now) (nextJob : after.nextJob = state.nextJob)
    (closing : state.closer ≠ .open) (closing' : after.closer ≠ .open) :
    StepFrame state label after :=
  ⟨now.ge, nextJob.ge, fun _ => closing', fun _ => .inl closing⟩

theorem step_frame {label : Label Key Result}
    (stepped : step cfg state label = some after) :
    StepFrame state label after := by
  cases step_cases stepped with
  | tick =>
      exact ⟨Int.le_add_of_nonneg_right (Int.natCast_nonneg _), le_rfl, id,
        .inl⟩
  | submit submitted outcomeIs =>
      cases submitted with
      | closed | joined | queueFull => exact .of_same rfl rfl rfl
      | failed | created => exact ⟨le_rfl, Nat.le_succ _, id, .inl⟩
  | get | unknown | skip | job | release | take | idle =>
      exact .of_same rfl rfl rfl
  | close isOpen =>
      exact ⟨le_rfl, le_rfl, fun _ => by simp, fun _ => .inr ⟨_, rfl⟩⟩
  | cancelledAll place | inactive place | doom place | cancelCallback place
  | drainCallback place | join place =>
      exact .of_closing rfl rfl (by simp [place]) (by simp)
  | cancelFuture place | drain place | drained place =>
      refine .of_closing rfl rfl (by simp [place]) ?_
      simp only
      split <;> simp

theorem step_watchers {label : Label Key Result}
    (stepped : step cfg state label = some after) :
    state.nextWatcher ≤ after.nextWatcher := by
  cases step_cases stepped with
  | submit submitted =>
      cases submitted with
      | closed => exact le_rfl
      | joined | queueFull | failed | created => exact Nat.le_succ _
  | tick | get | unknown | skip | job | release | take | idle | close
  | cancelledAll | inactive | doom | cancelFuture | cancelCallback | drained
  | drain | drainCallback | join => exact le_rfl

theorem State.submit_returned {key : Key} {fails : Bool} {id watcher : Nat}
    (returned : (state.submit cfg key fails).1 = .returned id watcher) :
    watcher = state.nextWatcher ∧
      (state.submit cfg key fails).2.nextWatcher = state.nextWatcher + 1 := by
  have outcome := State.submitted cfg state key fails
  rw [returned] at outcome
  generalize (state.submit cfg key fails).2 = next at outcome ⊢
  cases outcome with
  | joined | created => exact ⟨rfl, rfl⟩

/-- Ids that were not given out yet name no job. -/
def Fresh (state : State Key Result) : Prop :=
  ∀ id, state.nextJob ≤ id → state.heap id = none

theorem Fresh.step {label : Label Key Result} (fresh : Fresh state)
    (stepped : step cfg state label = some after) : Fresh after := by
  have heap := step_heap (fresh _ le_rfl) stepped
  have grows := (step_frame stepped).nextJob
  intro id later
  by_contra stored
  obtain ⟨job, stored⟩ := Option.ne_none_iff_exists'.mp stored
  have missing := fresh id (grows.trans later)
  obtain ⟨key, rfl, isOpen, newest, _, returned⟩ :=
    heap.created id job missing stored
  cases stepped
  have outcome := State.submitted cfg state key false
  rw [returned] at outcome
  generalize (state.submit cfg key false).2 = next at outcome later
  cases outcome with
  | joined isOpen mapped found active notRequested =>
      rw [missing] at found
      cases found
  | created isOpen free => exact absurd later (Nat.not_succ_le_self _)

/-- The result is on its way to the job's clients. -/
def Job.Carries (job : Job Key Result) (result : Result) : Prop :=
  job.run = .lastCheck result ∨ job.run = .store result ∨
    job.result = some result

omit [DecidableEq Key] in
theorem Job.not_carries_new (key : Key) (now : Int) (watcher : Nat)
    (result : Result) : ¬ (Job.new key now watcher).Carries result := by
  intro carries
  rcases carries with place | place | stored
  · cases place
  · cases place
  · cases stored

omit [DecidableEq Key] in
theorem Job.Carries.work {now : Int} {result : Result}
    {job job' : Job Key Result} (changed : job.work now = some job')
    (carries : job'.Carries result) : job.Carries result := by
  unfold Job.Carries at carries ⊢
  unfold Job.work at changed
  split at changed <;> cases changed
  all_goals grind [cancelledError]

/-- An exception carries no result. -/
theorem Raised.caught_ne (raised : Raised) (result : Result) :
    raised.caught ≠ .lastCheck result ∧ raised.caught ≠ .store result := by
  unfold Raised.caught
  split <;> simp

theorem JobStep.carries {label : Label Key Result} {id : Nat}
    {job job' : Job Key Result} {result : Result}
    (changed : JobStep cfg state label id job job')
    (carries : job'.Carries result) :
    job.Carries result ∨ label = .returns id result := by
  cases changed with
  | same => exact .inl carries
  | join | release | doom => exact .inl carries
  | leave =>
      unfold Job.leave Job.detach at carries
      simp only at carries
      split at carries <;> split at carries <;> exact .inl carries
  | endCancel changed =>
      unfold Job.endCancel Job.cancelFuture at changed
      split at changed <;> cases changed
      split at carries <;> exact .inl carries
  | closerCancel =>
      unfold Job.cancelFuture at carries
      split at carries <;> exact .inl carries
  | work changed => exact .inl (carries.work changed)
  | progress changed =>
      unfold Job.progress at changed
      split at changed <;> cases changed
      unfold Job.Carries at carries ⊢
      grind
  | @returns id returned _ _ changed =>
      unfold Job.returns at changed
      split at changed <;> cases changed
      rcases carries with same | same | same
      · cases same
        exact .inr rfl
      · cases same
      · exact .inl (.inr (.inr same))
  | @raises _ raised _ _ changed =>
      unfold Job.raises at changed
      split at changed <;> cases changed
      rcases carries with place | place | stored
      · exact absurd place (raised.caught_ne result).1
      · exact absurd place (raised.caught_ne result).2
      · exact .inl (.inr (.inr stored))
  | raisesCancelled changed =>
      unfold Job.raisesCancelled at changed
      split at changed <;> cases changed
      exact .inl (.inr (.inr (by
        simpa [Job.Carries, Job.cancelledError] using carries)))
  | callback changed =>
      unfold Job.callbackStep at changed
      split at changed <;> cases changed <;> exact .inl carries
  | take | idle =>
      exact .inl (.inr (.inr (by simpa [Job.Carries] using carries)))

end Catwalk.Jobs
