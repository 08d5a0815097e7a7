import Catwalk.Jobs.Lifecycle

/-! What comes out of a job, and who can find it. -/

namespace Catwalk.Jobs

variable {Key Result : Type} [DecidableEq Key] {cfg : Config}
  {state after : State Key Result}

/-- A job that is not finished is still in the table. -/
structure Listed (state : State Key Result) : Prop extends Ruled state where
  member : ∀ id job, state.heap id = some job → job.finished = none →
    id ∈ state.jobs

omit [DecidableEq Key] in
theorem listed_of_initial (initial : Initial cfg state) : Listed state where
  toRuled := ruled_of_initial initial
  member := by
    intro id job found
    rw [initial.heap] at found
    cases found

omit [DecidableEq Key] in
theorem State.not_stale {id : Nat} {job : Job Key Result}
    (found : state.heap id = some job) (unfinished : job.finished = none) :
    ¬ state.Stale cfg id := by
  rintro ⟨other, found', finished, isFinished, _⟩
  rw [Option.mem_def, found, Option.some.injEq] at found'
  rw [Option.mem_def, ← found', unfinished] at isFinished
  cases isFinished

theorem step_jobs {label : Label Key Result}
    (stepped : step cfg state label = some after) {id : Nat}
    (member : id ∈ state.jobs) (fresh : ¬ state.Stale cfg id) :
    id ∈ after.jobs := by
  have kept : id ∈ (state.prune cfg).jobs :=
    List.mem_filter.mpr ⟨member, decide_eq_true fresh⟩
  cases step_cases stepped with
  | submit submitted outcomeIs =>
      cases submitted with
      | closed => exact member
      | joined | queueFull | failed => exact kept
      | created => exact List.mem_append_left _ kept
  | get => exact kept
  | _ => exact member

theorem Listed.step {label : Label Key Result} (listed : Listed state)
    (stepped : Jobs.step cfg state label = some after) : Listed after := by
  have ruled := listed.toRuled
  refine ⟨ruled.step stepped, ?_⟩
  intro id job' found' unfinished
  have heap := step_heap (ruled.fresh _ le_rfl) stepped
  rcases heap.origin found' with
    ⟨job, before, changed⟩ | ⟨missing, key, rfl, _, newest, _, returned⟩
  · have advances := changed.advances (ruled.phased before)
      (ruled.shaped id job before)
    have unfinished := advances.finished unfinished
    exact step_jobs stepped (listed.member id job before unfinished)
      (State.not_stale before unfinished)
  · cases stepped
    have outcome := State.submitted cfg state key false
    rw [returned] at outcome
    generalize (state.submit cfg key false).2 = next at outcome ⊢
    cases outcome with
    | joined _ _ found =>
        rw [missing] at found
        cases found
    | created => exact List.mem_append_right _ List.mem_cons_self

theorem Listed.get {id : Nat} {job : Job Key Result} (listed : Listed state)
    (found : state.heap id = some job) (unfinished : job.finished = none) :
    (state.get cfg id).1 = some job := by
  have kept : id ∈ (state.prune cfg).jobs :=
    List.mem_filter.mpr ⟨listed.member id job found unfinished,
      decide_eq_true (State.not_stale found unfinished)⟩
  simp only [State.get]
  rw [if_pos kept]
  exact found

/-- `fn` is running, or its return value waits for the last check. -/
def RunState.Invoked : RunState Result → Prop
  | .computing _ | .lastCheck _ | .store _ => True
  | _ => False

/-- `fn` returned or raised, or is never called. -/
def RunState.Left : RunState Result → Prop
  | .queued | .start | .setRunning | .firstCheck | .computing _ => False
  | _ => True

omit [DecidableEq Key] in
theorem Job.Computes.invoked {job after : Job Key Result}
    (computes : job.Computes after) : job.run.Invoked := by
  obtain ⟨_, place⟩ := computes.computing
  rw [place]
  trivial

omit [DecidableEq Key] in
theorem Job.Computes.not_left {job after : Job Key Result}
    (computes : job.Computes after) : ¬ job.run.Left := by
  obtain ⟨_, place⟩ := computes.computing
  rw [place]
  exact id

omit [DecidableEq Key] in
theorem Job.Computes.event {job after : Job Key Result}
    (computes : job.Computes after) : after.event = job.event := by
  rw [computes.same]

/-- Told to stop while `fn` is not running. -/
def Job.Stopped (job : Job Key Result) : Prop :=
  job.cancelRequested = true ∧ ¬ job.run.Invoked

omit [DecidableEq Key] in
theorem Job.Stopped.work {now : Int} {job after : Job Key Result}
    (stopped : job.Stopped) (changed : job.work now = some after) :
    after.Stopped := by
  obtain ⟨requested, outside⟩ := stopped
  unfold Job.work at changed
  split at changed
  next => cases changed; exact ⟨requested, id⟩
  next => cases changed; exact ⟨requested, id⟩
  next =>
    cases changed
    refine ⟨requested, ?_⟩
    simp only [if_pos requested]
    exact id
  next place => exact absurd (by rw [place]; trivial) outside
  next place => exact absurd (by rw [place]; trivial) outside
  next => cases changed; exact ⟨requested, id⟩
  next => cases changed; exact ⟨requested, id⟩
  next => cases changed; exact ⟨requested, id⟩
  next => cases changed; exact ⟨requested, id⟩
  next => cases changed; exact ⟨requested, id⟩
  next => cases changed; exact ⟨requested, id⟩
  · cases changed

omit [DecidableEq Key] in
theorem Job.cancelFuture_run (job : Job Key Result) :
    job.cancelFuture.run = job.run ∧
      job.cancelFuture.cancelRequested = job.cancelRequested := by
  unfold Job.cancelFuture
  split
  · exact ⟨rfl, rfl⟩
  · exact ⟨rfl, rfl⟩

theorem JobStep.stopped {label : Label Key Result} {id : Nat}
    {job job' : Job Key Result}
    (changed : JobStep cfg state label id job job') (stopped : job.Stopped) :
    job'.Stopped := by
  have requested := stopped.1
  have outside := stopped.2
  cases changed with
  | same | join | release => exact stopped
  | doom => exact ⟨rfl, outside⟩
  | take | idle => exact ⟨requested, fun invoked => invoked⟩
  | leave =>
      unfold Job.leave Job.detach
      simp only
      split
      · exact ⟨rfl, outside⟩
      · exact stopped
  | endCancel changed =>
      unfold Job.endCancel at changed
      split at changed
      · cases changed
      · cases changed
        obtain ⟨run, cancel⟩ := Job.cancelFuture_run job
        exact ⟨cancel.trans requested, run.symm ▸ outside⟩
  | closerCancel =>
      obtain ⟨run, cancel⟩ := Job.cancelFuture_run job
      exact ⟨cancel.trans requested, run.symm ▸ outside⟩
  | work changed => exact stopped.work changed
  | progress changed =>
      exact absurd (Job.Computes.of_progress changed).invoked outside
  | returns changed =>
      exact absurd (Job.Computes.of_returns changed).invoked outside
  | raises changed =>
      exact absurd (Job.Computes.of_raises changed).invoked outside
  | raisesCancelled changed =>
      exact absurd (Job.Computes.of_raisesCancelled changed).invoked outside
  | callback changed =>
      unfold Job.callbackStep at changed
      split at changed <;> cases changed <;> exact stopped

/-- Both `str(e)` and `e.status_code` can be read, so `run` gets to
`final_status`. -/
def Raised.Legible : Raised → Prop
  | .cancelled text status | .exception text status =>
      text.isSome ∧ status.isSome
  | .base => False

instance (raised : Raised) : Decidable raised.Legible :=
  match raised with
  | .cancelled text status | .exception text status =>
      inferInstanceAs (Decidable (text.isSome ∧ status.isSome))
  | .base => inferInstanceAs (Decidable False)

/-- The status is "done", or will be. -/
def RunState.Claims : RunState Result → Prop
  | .describe _ => True
  | .finish final | .publish final => final = .done
  | _ => False

/-- No result goes with the status "done". -/
def Job.Lost (job : Job Key Result) : Prop :=
  job.result = none ∧ (job.status = .done ∨ job.run.Claims)

theorem Raised.Legible.caught {raised : Raised} (legible : raised.Legible) :
    ¬ (raised.caught : RunState Result).Claims := by
  unfold Raised.Legible at legible
  unfold Raised.caught
  split
  · exact id
  · exact id
  · exact absurd legible.2 (by decide)
  · exact absurd legible.2 (by decide)
  · exact absurd legible.1 (by decide)
  · exact absurd legible.1 (by decide)
  · exact legible.elim

theorem Raised.caught_left (raised : Raised) :
    (raised.caught : RunState Result).Left := by
  unfold Raised.caught
  split <;> trivial

omit [DecidableEq Key] in
theorem Job.not_lost_new (key : Key) (now : Int) (watcher : Nat) :
    ¬ (Job.new key now watcher : Job Key Result).Lost := by
  rintro ⟨_, done | claims⟩
  · cases done
  · exact claims

omit [DecidableEq Key] in
theorem Job.Lost.work {now : Int} {job after : Job Key Result}
    (fits : job.run.Fits job.shape) (changed : job.work now = some after)
    (lost : after.Lost) : job.Lost := by
  obtain ⟨noResult, claims⟩ := lost
  unfold Job.work at changed
  split at changed
  next => cases changed; exact ⟨noResult, .inl (claims.resolve_right id)⟩
  next =>
    cases changed
    rcases claims with done | claims
    · cases done
    · exact claims.elim
  next =>
    cases changed
    refine ⟨noResult, .inl (claims.resolve_right ?_)⟩
    simp only
    split <;> exact id
  next =>
    cases changed
    refine ⟨noResult, .inl (claims.resolve_right ?_)⟩
    simp only
    split <;> exact id
  next => cases changed; cases noResult
  next place =>
    cases changed
    rw [place] at fits
    refine ⟨noResult, .inl (claims.resolve_right ?_)⟩
    intro done
    rcases fits.1 with same | same
    · cases same.symm.trans done
    · cases same.symm.trans done
  next place => cases changed; exact ⟨noResult, .inr (by rw [place]; trivial)⟩
  next place =>
    cases changed
    exact ⟨noResult, claims.imp id fun done => by rw [place]; exact done⟩
  next place =>
    cases changed
    refine ⟨noResult, .inr ?_⟩
    rw [place]
    exact claims.resolve_right id
  next => cases changed; exact ⟨noResult, .inl (claims.resolve_right id)⟩
  next => cases changed; exact ⟨noResult, .inl (claims.resolve_right id)⟩
  · cases changed

omit [DecidableEq Key] in
theorem Job.cancelFuture_lost {job : Job Key Result}
    (lost : job.cancelFuture.Lost) : job.Lost := by
  unfold Job.cancelFuture at lost
  split at lost
  · exact lost
  · exact lost

theorem JobStep.lost {label : Label Key Result} {id : Nat}
    {job job' : Job Key Result}
    (changed : JobStep cfg state label id job job') (phased : job.Phased)
    (shaped : job.Shaped) (lost : job'.Lost) :
    job.Lost ∨ ∃ raised : Raised, label = .raises id raised ∧
      ¬ raised.Legible := by
  cases changed with
  | same | join | release | doom => exact .inl lost
  | leave =>
      unfold Job.leave Job.detach at lost
      simp only at lost
      split at lost <;> split at lost <;> exact .inl lost
  | take | idle => exact .inl ⟨lost.1, .inl (lost.2.resolve_right fun claims => claims)⟩
  | endCancel changed =>
      unfold Job.endCancel at changed
      split at changed
      · cases changed
      · cases changed
        exact .inl (Job.cancelFuture_lost lost)
  | closerCancel => exact .inl (Job.cancelFuture_lost lost)
  | work changed =>
      exact .inl (lost.work
        (shaped.fits (phased.not_cancelled_of_work changed)) changed)
  | progress changed =>
      unfold Job.progress at changed
      split at changed
      · cases changed
        split at lost
        · exact .inl ⟨lost.1, .inl (lost.2.resolve_right fun claims => claims)⟩
        · exact .inl lost
      · cases changed
  | returns changed =>
      unfold Job.returns at changed
      split at changed
      · cases changed
        exact .inl ⟨lost.1, .inl (lost.2.resolve_right fun claims => claims)⟩
      · cases changed
  | @raises _ raised _ _ changed =>
      unfold Job.raises at changed
      split at changed
      · cases changed
        by_cases legible : raised.Legible
        · exact .inl ⟨lost.1, .inl (lost.2.resolve_right legible.caught)⟩
        · exact .inr ⟨raised, rfl, legible⟩
      · cases changed
  | raisesCancelled changed =>
      unfold Job.raisesCancelled at changed
      split at changed
      · cases changed
        exact .inl ⟨lost.1, .inl (lost.2.resolve_right fun claims => claims)⟩
      · cases changed
  | callback changed =>
      unfold Job.callbackStep at changed
      split at changed
      case h_4 =>
        cases changed
        refine .inl ⟨lost.1, .inr (lost.2.resolve_left ?_)⟩
        intro done
        cases done
      all_goals
        cases changed
        try exact .inl lost

/-- The labels of a run and the results its jobs hold. -/
structure Recorded (past : List (Label Key Result))
    (state : State Key Result) : Prop extends Ruled state where
  known : ∀ id result, .returns id result ∈ past →
    ∃ job, state.heap id = some job ∧ job.run.Left
  carried : ∀ id job result, state.heap id = some job →
    job.Carries result → .returns id result ∈ past
  only : ∀ id job result other, state.heap id = some job →
    job.Carries result → .returns id other ∈ past → other = result
  raised : ∀ id raised, .raises id raised ∈ past →
    ∃ job, state.heap id = some job ∧ job.run.Left ∧
      ∀ result, ¬ job.Carries result
  lost : ∀ id job, state.heap id = some job → job.Lost →
    ∃ raised : Raised, .raises id raised ∈ past ∧ ¬ raised.Legible

omit [DecidableEq Key] in
theorem recorded_of_initial (initial : Initial cfg state) :
    Recorded [] state where
  toRuled := ruled_of_initial initial
  known := by
    intro id result member
    cases member
  carried := by
    intro id job result found
    rw [initial.heap] at found
    cases found
  only := by
    intro id job result other found
    rw [initial.heap] at found
    cases found
  raised := by
    intro id raised member
    cases member
  lost := by
    intro id job found
    rw [initial.heap] at found
    cases found

theorem JobStep.left {label : Label Key Result} {id : Nat}
    {job job' : Job Key Result}
    (changed : JobStep cfg state label id job job') (phased : job.Phased)
    (left : job.run.Left) : job'.run.Left := by
  cases changed with
  | same | join | release | doom => exact left
  | leave =>
      unfold Job.leave Job.detach
      simp only
      split <;> split <;> exact left
  | take pending =>
      unfold Job.Phased at phased
      rw [pending] at phased
      rw [phased.1] at left
      exact left.elim
  | idle => trivial
  | endCancel changed =>
      unfold Job.endCancel at changed
      split at changed
      · cases changed
      · cases changed
        exact (Job.cancelFuture_run job).1.symm ▸ left
  | closerCancel => exact (Job.cancelFuture_run job).1.symm ▸ left
  | work changed =>
      unfold Job.work at changed
      split at changed
      next place => rw [place] at left; exact left.elim
      next place => rw [place] at left; exact left.elim
      next place => rw [place] at left; exact left.elim
      next =>
        cases changed
        simp only
        split <;> trivial
      next => cases changed; trivial
      next => cases changed; trivial
      next => cases changed; trivial
      next => cases changed; trivial
      next => cases changed; trivial
      next => cases changed; trivial
      next => cases changed; trivial
      · cases changed
  | progress changed =>
      exact absurd left (Job.Computes.of_progress changed).not_left
  | returns changed =>
      exact absurd left (Job.Computes.of_returns changed).not_left
  | raises changed =>
      exact absurd left (Job.Computes.of_raises changed).not_left
  | raisesCancelled changed =>
      exact absurd left (Job.Computes.of_raisesCancelled changed).not_left
  | callback changed =>
      unfold Job.callbackStep at changed
      split at changed <;> cases changed <;> exact left

omit [DecidableEq Key] in
theorem State.modify_eq_some {id : Nat}
    {change : Job Key Result → Option (Job Key Result)} :
    state.modify id change = some after ↔
      ∃ job job', state.heap id = some job ∧ change job = some job' ∧
        state.setJob id job' = after := by
  simp only [State.modify, Option.bind_eq_some_iff, Option.map_eq_some_iff]
  constructor
  · rintro ⟨job, found, job', changed, same⟩
    exact ⟨job, job', found, changed, same⟩
  · rintro ⟨job, job', found, changed, same⟩
    exact ⟨job, found, job', changed, same⟩

theorem step_raises {id : Nat} {raised : Raised}
    (stepped : step cfg state (.raises id raised) = some after) :
    ∃ job refused, state.heap id = some job ∧
      job.run = .computing refused ∧
      after = state.setJob id { job with run := raised.caught } := by
  obtain ⟨job, job', found, changed, same⟩ := State.modify_eq_some.mp stepped
  unfold Job.raises at changed
  split at changed
  next refused place =>
    cases changed
    exact ⟨job, refused, found, place, same.symm⟩
  · cases changed

theorem step_returns {id : Nat} {result : Result}
    (stepped : step cfg state (.returns id result) = some after) :
    ∃ job refused, state.heap id = some job ∧
      job.run = .computing refused ∧
      after = state.setJob id { job with run := .lastCheck result } := by
  obtain ⟨job, job', found, changed, same⟩ := State.modify_eq_some.mp stepped
  unfold Job.returns at changed
  split at changed
  next refused place =>
    cases changed
    exact ⟨job, refused, found, place, same.symm⟩
  · cases changed

omit [DecidableEq Key] in
theorem Ruled.no_result {id : Nat} {job : Job Key Result} {refused : Bool}
    (ruled : Ruled state) (found : state.heap id = some job)
    (computing : job.run = .computing refused) (result : Result) :
    ¬ job.Carries result := by
  have running := ((ruled.phased found).of_executing (by
    rw [computing]
    trivial)).1
  have fits := (ruled.shaped id job found).fits (by simp [running])
  rw [computing] at fits
  obtain ⟨_, _, _, noResult, _⟩ := Job.shape_eq_iff.mp fits
  rintro (place | place | stored)
  · rw [computing] at place
    cases place
  · rw [computing] at place
    cases place
  · rw [stored] at noResult
    cases noResult

theorem Recorded.step {past : List (Label Key Result)}
    {label : Label Key Result} (recorded : Recorded past state)
    (stepped : Jobs.step cfg state label = some after) :
    Recorded (past ++ [label]) after := by
  have ruled := recorded.toRuled
  have heap := step_heap (ruled.fresh _ le_rfl) stepped
  refine ⟨ruled.step stepped, ?_, ?_, ?_, ?_, ?_⟩
  · intro id result member
    rcases List.mem_append.mp member with earlier | last
    · obtain ⟨job, found, left⟩ := recorded.known id result earlier
      obtain ⟨job', found', changed⟩ := heap.kept id job found
      exact ⟨job', found', changed.left (ruled.phased found) left⟩
    · rw [List.mem_singleton] at last
      subst last
      obtain ⟨job, refused, found, computing, rfl⟩ := step_returns stepped
      exact ⟨_, State.setJob_heap.trans (if_pos rfl), trivial⟩
  · intro id job' result found' carries
    rcases heap.origin found' with
      ⟨job, before, changed⟩ | ⟨_, key, _, _, _, rfl, _⟩
    · rcases changed.carries carries with earlier | rfl
      · exact List.mem_append_left _
          (recorded.carried id job result before earlier)
      · exact List.mem_append_right _ List.mem_cons_self
    · exact absurd carries (Job.not_carries_new _ _ _ result)
  · intro id job' result other found' carries member
    rcases heap.origin found' with
      ⟨job, before, changed⟩ | ⟨_, key, _, _, _, rfl, _⟩
    · rcases changed.carries carries with earlier | rfl
      · rcases List.mem_append.mp member with returned | last
        · exact recorded.only id job result other before earlier returned
        · rw [List.mem_singleton] at last
          subst last
          obtain ⟨job'', refused, found, computing, _⟩ :=
            step_returns stepped
          rw [before, Option.some.injEq] at found
          subst found
          exact absurd earlier (ruled.no_result before computing result)
      · rcases List.mem_append.mp member with returned | last
        · obtain ⟨job'', refused, found, computing, _⟩ :=
            step_returns stepped
          obtain ⟨known, found'', left⟩ := recorded.known id other returned
          rw [found, Option.some.injEq] at found''
          subst found''
          rw [computing] at left
          exact left.elim
        · rw [List.mem_singleton] at last
          cases last
          rfl
    · exact absurd carries (Job.not_carries_new _ _ _ result)
  · intro id raised member
    rcases List.mem_append.mp member with earlier | last
    · obtain ⟨job, found, left, none⟩ := recorded.raised id raised earlier
      obtain ⟨job', found', changed⟩ := heap.kept id job found
      refine ⟨job', found', changed.left (ruled.phased found) left, ?_⟩
      intro result carries
      rcases changed.carries carries with before | rfl
      · exact none result before
      · obtain ⟨computes, refused, found'', computing, _⟩ :=
          step_returns stepped
        rw [found, Option.some.injEq] at found''
        subst found''
        rw [computing] at left
        exact left.elim
    · rw [List.mem_singleton] at last
      subst last
      obtain ⟨job, refused, found, computing, rfl⟩ := step_raises stepped
      refine ⟨_, State.setJob_heap.trans (if_pos rfl), raised.caught_left, ?_⟩
      rintro result (place | place | stored)
      · exact (raised.caught_ne result).1 place
      · exact (raised.caught_ne result).2 place
      · exact ruled.no_result found computing result (.inr (.inr stored))
  · intro id job' found' lost
    rcases heap.origin found' with
      ⟨job, before, changed⟩ | ⟨_, key, _, _, _, rfl, _⟩
    · rcases changed.lost (ruled.phased before) (ruled.shaped id job before)
        lost with earlier | ⟨raised, rfl, illegible⟩
      · obtain ⟨raised, member, illegible⟩ :=
          recorded.lost id job before earlier
        exact ⟨raised, List.mem_append_left _ member, illegible⟩
      · exact ⟨raised, List.mem_append_right _ List.mem_cons_self, illegible⟩
    · exact absurd lost (Job.not_lost_new _ _ _)

/-- The step sets the event of the job. -/
def State.Signals (state : State Key Result) (id : Nat) :
    Label Key Result → Prop
  | .work target =>
      target = id ∧ ∃ job, state.heap id = some job ∧ job.run = .signal
  | .callback target =>
      target = id ∧ ∃ job, state.heap id = some job ∧ job.callback = .signal
  | _ => False

theorem JobStep.event {label : Label Key Result} {id : Nat}
    {job job' : Job Key Result}
    (changed : JobStep cfg state label id job job')
    (found : state.heap id = some job) :
    job'.event = job.event ∨ state.Signals id label := by
  cases changed with
  | same | join | release | take | idle | doom => exact .inl rfl
  | leave =>
      unfold Job.leave Job.detach
      simp only
      split <;> split <;> exact .inl rfl
  | endCancel changed =>
      unfold Job.endCancel Job.cancelFuture at changed
      split at changed
      · cases changed
      · cases changed
        split <;> exact .inl rfl
  | closerCancel =>
      unfold Job.cancelFuture
      split <;> exact .inl rfl
  | work changed =>
      unfold Job.work at changed
      split at changed
      case h_10 place => exact .inr ⟨rfl, job, found, place⟩
      all_goals
        cases changed
        try exact .inl rfl
  | progress changed => exact .inl (Job.Computes.of_progress changed).event
  | returns changed => exact .inl (Job.Computes.of_returns changed).event
  | raises changed => exact .inl (Job.Computes.of_raises changed).event
  | raisesCancelled changed =>
      exact .inl (Job.Computes.of_raisesCancelled changed).event
  | callback changed =>
      unfold Job.callbackStep at changed
      split at changed
      case h_5 place => exact .inr ⟨rfl, job, found, place⟩
      all_goals
        cases changed
        try exact .inl rfl

omit [DecidableEq Key] in
theorem Ruled.unsignalled {id : Nat} {job : Job Key Result}
    {label : Label Key Result} (ruled : Ruled state)
    (found : state.heap id = some job) (signals : state.Signals id label) :
    job.event = false ∧ job.status.Terminal ∧ job.finished ≠ none := by
  have shaped := ruled.shaped id job found
  have settled : ∀ ending : Ending, ending.Proper →
      job.shape = .ending ending.status ending true false →
      job.event = false ∧ job.status.Terminal ∧ job.finished ≠ none := by
    intro ending proper shape
    obtain ⟨status, finished, _, _, event⟩ := Job.shape_eq_iff.mp shape
    have status : job.status = ending.status := status
    refine ⟨event, status ▸ proper.terminal, ?_⟩
    intro unfinished
    rw [unfinished] at finished
    cases finished
  cases label with
  | work target =>
      obtain ⟨rfl, other, found', place⟩ := signals
      rw [found, Option.some.injEq] at found'
      subst found'
      have running := ((ruled.phased found).of_executing (by
        rw [place]
        trivial)).1
      have fits := shaped.fits (by simp [running])
      rw [place] at fits
      obtain ⟨ending, proper, shape⟩ := fits
      exact settled ending proper shape
  | callback target =>
      obtain ⟨rfl, other, found', place⟩ := signals
      rw [found, Option.some.injEq] at found'
      subst found'
      have future := (ruled.phased found).of_cancels (by
        rw [place]
        trivial)
      rw [Job.Shaped, if_pos future, place] at shaped
      exact settled (.failed .cancelled) Ending.proper_cancelled shaped
  | _ => exact signals.elim

theorem step_signals {id : Nat} {label : Label Key Result}
    (stepped : step cfg state label = some after)
    (signals : state.Signals id label) :
    ∃ job, after.heap id = some job ∧ job.event = true := by
  cases label with
  | work target =>
      obtain ⟨rfl, job, found, place⟩ := signals
      obtain ⟨other, job', found', changed, rfl⟩ :=
        State.modify_eq_some.mp stepped
      rw [found, Option.some.injEq] at found'
      subst found'
      rw [Job.work, place] at changed
      cases changed
      exact ⟨_, State.setJob_heap.trans (if_pos rfl), rfl⟩
  | callback target =>
      obtain ⟨rfl, job, found, place⟩ := signals
      have signalling : job.callback ≠ .release := by simp [place]
      simp only [step, State.callback, found, Option.bind_some,
        if_neg signalling] at stepped
      rw [Job.callbackStep, place] at stepped
      cases stepped
      exact ⟨_, State.setJob_heap.trans (if_pos rfl), rfl⟩
  | _ => exact signals.elim

/-- What a job may show, given what `fn` returned and whether everything it
raised can be read. -/
structure Job.Presents (returned : Result → Prop) (legible : Prop)
    (job : Job Key Result) : Prop where
  event : job.event = true → job.status.Terminal ∧ job.finished ≠ none
  done : job.status = .done →
    ((job.error = none ∧ ∃ result, job.result = some result ∧
      ∀ other, returned other ↔ other = result) ↔ legible)
  failed : job.status = .error ∨ job.status = .cancelled →
    job.error ≠ none ∧ job.result = none

omit [DecidableEq Key] in
/-- A status ends with the outcome that is written already. -/
theorem Ruled.outcome {id : Nat} {job : Job Key Result} (ruled : Ruled state)
    (found : state.heap id = some job) :
    job.status.Active ∧ job.event = false ∨
      ∃ (ending : Ending) (event : Bool), ending.Proper ∧
        job.shape = .ending ending.status ending true event := by
  have active : ∀ {shape : Shape}, shape.status.Active → shape.event = false →
      job.shape = shape → job.status.Active ∧ job.event = false := by
    rintro shape active unset rfl
    exact ⟨active, unset⟩
  have queued : Status.queued.Active := .inl rfl
  have running : Status.running.Active := .inr rfl
  have shaped := ruled.shaped id job found
  unfold Job.Shaped at shaped
  split at shaped
  · cases place : job.callback with
    | waiting =>
        rw [place] at shaped
        exact shaped.elim
    | check | fail | finish | publish =>
        rw [place] at shaped
        exact .inl (active queued rfl shaped)
    | signal | release | done =>
        rw [place] at shaped
        exact .inr ⟨.failed .cancelled, _, Ending.proper_cancelled, shaped⟩
  · cases place : job.run with
    | queued | start | setRunning =>
        rw [place] at shaped
        exact .inl (active queued rfl shaped)
    | firstCheck | computing | lastCheck | store | describe =>
        rw [place] at shaped
        exact .inl (active running rfl shaped)
    | fail =>
        rw [place] at shaped
        exact .inl (active running rfl shaped.2)
    | finish | publish =>
        rw [place] at shaped
        obtain ⟨_, _, _, shape⟩ := shaped
        exact .inl (active running rfl shape)
    | signal | complete | returning | ended =>
        rw [place] at shaped
        obtain ⟨ending, proper, shape⟩ := shaped
        exact .inr ⟨ending, _, proper, shape⟩

omit [DecidableEq Key] in
/-- A job that is done shows its result, if everything `fn` raised can be
read. -/
theorem Recorded.done_iff {past : List (Label Key Result)} {id : Nat}
    {job : Job Key Result} (recorded : Recorded past state)
    (found : state.heap id = some job) (done : job.status = .done)
    (noError : job.result.isSome → job.error = none) :
    (job.error = none ∧ ∃ result, job.result = some result ∧
        ∀ other, .returns id other ∈ past ↔ other = result) ↔
      ∀ raised, .raises id raised ∈ past → raised.Legible := by
  constructor
  · rintro ⟨_, result, stored, _⟩ raised member
    obtain ⟨other, found', _, none⟩ := recorded.raised id raised member
    rw [found, Option.some.injEq] at found'
    subst found'
    exact absurd (.inr (.inr stored)) (none result)
  · intro legible
    rcases same : job.result with _ | result
    · obtain ⟨raised, member, illegible⟩ :=
        recorded.lost id job found ⟨same, .inl done⟩
      exact absurd (legible raised member) illegible
    · refine ⟨noError (by rw [same]; rfl), result, rfl, ?_⟩
      intro other
      constructor
      · exact recorded.only id job result other found (.inr (.inr same))
      · rintro rfl
        exact recorded.carried id job other found (.inr (.inr same))

omit [DecidableEq Key] in
theorem Recorded.presents {past : List (Label Key Result)} {id : Nat}
    {job : Job Key Result} (recorded : Recorded past state)
    (found : state.heap id = some job) :
    job.Presents (fun result => .returns id result ∈ past)
      (∀ raised, .raises id raised ∈ past → raised.Legible) := by
  rcases recorded.outcome found with ⟨active, unset⟩ | ⟨ending, _, proper, shape⟩
  · refine ⟨?_, ?_, ?_⟩
    · intro isSet
      rw [unset] at isSet
      cases isSet
    · intro done
      rw [done] at active
      exact absurd active (by decide)
    · rintro (failed | failed)
      · rw [failed] at active
        exact absurd active (by decide)
      · rw [failed] at active
        exact absurd active (by decide)
  · obtain ⟨status, finished, error, result, _⟩ := Job.shape_eq_iff.mp shape
    have status : job.status = ending.status := status
    have error : job.error.isSome = ending.hasError := error
    have result : job.result.isSome = ending.hasResult := result
    refine ⟨?_, ?_, ?_⟩
    · intro _
      refine ⟨status ▸ proper.terminal, ?_⟩
      intro unfinished
      rw [unfinished] at finished
      cases finished
    · intro done
      refine recorded.done_iff found done ?_
      intro stored
      refine Option.not_isSome_iff_eq_none.mp ?_
      rw [error]
      exact Ending.not_hasError (result.symm.trans stored)
    · intro failed
      have isFailed : ∃ final, ending = .failed final := by
        cases ending with
        | failed final => exact ⟨final, rfl⟩
        | returned | lost =>
            rw [status] at failed
            rcases failed with same | same <;> cases same
      obtain ⟨final, rfl⟩ := isFailed
      exact ⟨Option.isSome_iff_ne_none.mp error,
        Option.not_isSome_iff_eq_none.mp (by rw [result]; exact Bool.false_ne_true)⟩

/-- Everything a later state keeps of a job. -/
structure Job.Keeps (job later : Job Key Result) : Prop where
  terminal : job.status.Terminal → later.status = job.status
  event : job.event = true → later.event = true
  stopped : job.Stopped → later.Stopped

theorem Ruled.run_keeps (ruled : Ruled state) {schedule : List (Label Key Result)}
    {final : State Key Result}
    (ran : (system cfg).run state schedule = some final) {id : Nat}
    {job : Job Key Result} (found : state.heap id = some job) :
    ∃ job', final.heap id = some job' ∧ job.Keeps job' := by
  have kept : ∀ (before : State Key Result) label next,
      (Ruled before ∧ ∃ job', before.heap id = some job' ∧ job.Keeps job') →
      StepSystem.AnyStep before label → Jobs.step cfg before label = some next →
      Ruled next ∧ ∃ job', next.heap id = some job' ∧ job.Keeps job' := by
    rintro before label next ⟨ruled, job', found', keeps⟩ _ stepped
    refine ⟨ruled.step stepped, ?_⟩
    obtain ⟨later, foundLater, changed⟩ :=
      (step_heap (ruled.fresh _ le_rfl) stepped).kept id job' found'
    have advances :=
      changed.advances (ruled.phased found') (ruled.shaped id job' found')
    refine ⟨later, foundLater, ?_, ?_, ?_⟩
    · intro terminal
      have same := keeps.terminal terminal
      rw [← same] at terminal
      exact (advances.status.of_terminal terminal).trans same
    · intro isSet
      exact advances.event (keeps.event isSet)
    · intro stopped
      exact changed.stopped (keeps.stopped stopped)
  have keeps : job.Keeps job :=
    ⟨fun _ => rfl, fun isSet => isSet, fun stopped => stopped⟩
  obtain ⟨_, later⟩ := StepSystem.run_preserves kept (.any _ _ _) ran
    ⟨ruled, job, found, keeps⟩
  exact later

/-- Every job moves from `queued` to one terminal status and is known until it
has finished; what was written before its status is the outcome, and a job that
is done has one just when everything `fn` raised can be read. -/
theorem job_lifecycle (cfg : Config) (start state : State Key Result)
    (schedule : List (Label Key Result)) (initial : Initial cfg start)
    (ran : (system cfg).run start schedule = some state) :
    (∀ id job, state.heap id = some job →
      job.Presents (fun result => .returns id result ∈ schedule)
        (∀ raised, .raises id raised ∈ schedule → raised.Legible)) ∧
    (∀ label after, step cfg state label = some after →
      (∀ id job, state.heap id = some job → ∃ job', after.heap id = some job' ∧
        job.status.Follows job'.status ∧
        (job'.event = job.event ∨ state.Signals id label) ∧
        (state.Signals id label → job.event = false ∧ job'.event = true)) ∧
      ∀ id job', state.heap id = none → after.heap id = some job' →
        job'.status = .queued) ∧
    (∀ id job later final, state.heap id = some job →
      (system cfg).run state later = some final →
      ∃ job', final.heap id = some job' ∧
        (job.status.Terminal → job'.status = job.status) ∧
        (job.event = true → job'.event = true) ∧
        (job.cancelRequested = true → ¬ job.run.Invoked →
          ¬ job'.run.Invoked)) ∧
    ∀ key fails id watcher later final,
      (state.submit cfg key fails).1 = .returned id watcher →
      (system cfg).run (state.submit cfg key fails).2 later = some final →
      ∃ job, final.heap id = some job ∧
        (job.finished = none → (final.get cfg id).1 = some job) := by
  have kept : ∀ (before : State Key Result) label next, Listed before →
      StepSystem.AnyStep before label → step cfg before label = some next →
      Listed next :=
    fun _ _ _ listed _ stepped => listed.step stepped
  have listed : Listed state := StepSystem.run_preserves kept (.any _ _ _) ran
    (listed_of_initial initial)
  have recorded : Recorded schedule state := StepSystem.run_history
    (fun _ _ _ _ recorded _ stepped => recorded.step stepped) (.any _ _ _) ran
    (recorded_of_initial initial)
  have ruled := listed.toRuled
  refine ⟨fun id job found => recorded.presents found, ?_, ?_, ?_⟩
  · intro label after stepped
    have heap := step_heap (ruled.fresh _ le_rfl) stepped
    refine ⟨?_, ?_⟩
    · intro id job found
      obtain ⟨job', found', changed⟩ := heap.kept id job found
      refine ⟨job', found', (changed.advances (ruled.phased found)
        (ruled.shaped id job found)).status, changed.event found, ?_⟩
      intro signals
      obtain ⟨other, found'', isSet⟩ := step_signals stepped signals
      rw [found', Option.some.injEq] at found''
      subst found''
      exact ⟨(ruled.unsignalled found signals).1, isSet⟩
    · intro id job' missing found'
      obtain ⟨_, _, _, _, rfl, _⟩ := heap.created id job' missing found'
      rfl
  · intro id job later final found ranOn
    obtain ⟨job', found', keeps⟩ := ruled.run_keeps ranOn found
    exact ⟨job', found', keeps.terminal, keeps.event,
      fun requested outside => (keeps.stopped ⟨requested, outside⟩).2⟩
  · intro key fails id watcher later final returned ranOn
    have submitted := kept state (.submit key fails) _ listed trivial rfl
    obtain ⟨_, job, found, _⟩ : Watched id watcher _ :=
      .of_returned returned
    obtain ⟨job', found', _⟩ := submitted.run_keeps ranOn found
    have listed' : Listed final :=
      StepSystem.run_preserves kept (.any _ _ _) ranOn submitted
    exact ⟨job', found', listed'.get found'⟩

/-- The first job returns, the second one is cancelled in the queue, and `fn` of
the third one raises. -/
def lifecycleSchedule : List (Label Bool Unit) :=
  [.submit true false, .take, .submit false false, .cancel 1 1, .work 0,
    .work 0, .work 0, .returns 0 (), .endCancel 1] ++
    List.replicate 6 (.callback 1) ++ [.tick 2] ++ List.replicate 6 (.work 0) ++
    [.callback 0, .callback 0, .idle 0, .take, .submit true false, .take,
      .work 2, .work 2, .work 2, .tick 3,
      .raises 2 (.exception (some "no such table") (some 502))] ++
    List.replicate 4 (.work 2)

theorem lifecycleSchedule_presents :
    ∃ state, (system sampleConfig).run sampleStart lifecycleSchedule =
        some state ∧
      ((state.heap 0).map fun job => (job.status, job.result, job.error,
        job.finished, job.event)) = some (.done, some (), none, some 2, true) ∧
      ((state.heap 1).map fun job => (job.status, job.result, job.error,
        job.finished, job.event)) =
          some (.cancelled, none, some "rollup cancelled", some 0, true) ∧
      ((state.heap 2).map fun job => (job.status, job.result, job.error,
        job.finished, job.event)) =
          some (.error, none, some "no such table", some 5, true) ∧
      ∀ id job, state.heap id = some job →
        job.Presents (fun result => .returns id result ∈ lifecycleSchedule)
          (∀ raised, .raises id raised ∈ lifecycleSchedule →
            raised.Legible) := by
  have completes : ((system sampleConfig).run sampleStart
      lifecycleSchedule).isSome := by decide
  obtain ⟨state, ran⟩ := Option.isSome_iff_exists.mp completes
  have presents :=
    (job_lifecycle sampleConfig sampleStart state _ sampleStart_initial ran).1
  cases ran
  exact ⟨_, rfl, rfl, rfl, rfl, presents⟩

/-- `fn` raises an exception whose text cannot be read. -/
def unreadableSchedule : List (Label Bool Unit) :=
  [.submit true false, .take, .work 0, .work 0, .work 0,
    .raises 0 (.exception none none), .work 0, .work 0, .work 0]

theorem unreadableSchedule_loses :
    ¬ ∀ (cfg : Config) (start state : State Bool Unit)
      (schedule : List (Label Bool Unit)), Initial cfg start →
      (system cfg).run start schedule = some state →
      ∀ id job, state.heap id = some job → job.status = .done →
        job.error = none ∧ ∃ result, job.result = some result ∧
          ∀ other, .returns id other ∈ schedule ↔ other = result := by
  intro shows
  have loses : ((system sampleConfig).run sampleStart
      unreadableSchedule).bind (fun state => (state.heap 0).map fun job =>
        (job.status, job.result, job.event)) = some (.done, none, true) := by
    decide
  obtain ⟨state, ran, shown⟩ := Option.bind_eq_some_iff.mp loses
  obtain ⟨job, found, shown⟩ := Option.map_eq_some_iff.mp shown
  obtain ⟨done, shown⟩ := Prod.mk.inj shown
  obtain ⟨noResult, _⟩ := Prod.mk.inj shown
  obtain ⟨_, result, stored, _⟩ := shows sampleConfig sampleStart state
    unreadableSchedule sampleStart_initial ran 0 job found done
  rw [noResult] at stored
  cases stored

end Catwalk.Jobs
