import Catwalk.Jobs.Closing

/-! One scan per key: the job that a submit of the key joins. -/

namespace Catwalk.Jobs

variable {Key Result : Type} [DecidableEq Key] {cfg : Config}
  {state after : State Key Result}

/-- What `submit` requires of a job it joins. -/
def Job.Joinable (job : Job Key Result) : Prop :=
  job.status.Active ∧ job.cancelRequested = false

/-- No worker has stalled for the retention between the last two writes. -/
def State.Prompt (cfg : Config) (state : State Key Result) : Prop :=
  ∀ id job final finished, state.heap id = some job →
    job.run = .publish final → job.finished = some finished →
    state.now - finished < cfg.retention

/-- Every joinable job is the one its key leads to. -/
structure Linked (state : State Key Result) : Prop extends Told state where
  linked : ∀ id job, state.heap id = some job → job.Joinable →
    state.byKey job.key = some id ∧ id ∈ state.jobs

omit [DecidableEq Key] in
theorem linked_of_initial (initial : Initial cfg state) : Linked state where
  toTold := told_of_initial initial
  linked := by
    intro id job found
    rw [initial.heap] at found
    cases found

omit [DecidableEq Key] in
theorem Job.Advances.joinable {job after : Job Key Result}
    (advances : job.Advances after) (joinable : after.Joinable) :
    job.Joinable := by
  refine ⟨advances.active joinable.1, ?_⟩
  by_contra requested
  rw [Bool.not_eq_false] at requested
  have still := advances.cancelRequested requested
  rw [joinable.2] at still
  cases still

omit [DecidableEq Key] in
theorem Told.not_stale (told : Told state) (prompt : state.Prompt cfg)
    {id : Nat} {job : Job Key Result} (found : state.heap id = some job)
    (joinable : job.Joinable) : ¬ state.Stale cfg id := by
  rintro ⟨other, found', finished, isFinished, stale⟩
  rw [Option.mem_def, found, Option.some.injEq] at found'
  subst found'
  rw [Option.mem_def] at isFinished
  rcases told.publishing found joinable.1 (by simp [isFinished]) with
    ⟨final, place⟩ | cancelled
  · have early := prompt id job final finished found place isFinished
    omega
  · have requested := told.told id job found cancelled
    rw [joinable.2] at requested
    cases requested

theorem Linked.prune (linked : Linked state) (prompt : state.Prompt cfg)
    {id : Nat} {job : Job Key Result} (found : state.heap id = some job)
    (joinable : job.Joinable) :
    (state.prune cfg).byKey job.key = some id ∧ id ∈ (state.prune cfg).jobs := by
  obtain ⟨mapped, member⟩ := linked.linked id job found joinable
  have fresh := linked.toTold.not_stale prompt found joinable
  refine ⟨?_, List.mem_filter.mpr ⟨member, decide_eq_true fresh⟩⟩
  simp only [State.prune, mapped]
  rw [if_neg fun stale => fresh stale.2.1]

theorem Linked.submit (linked : Linked state) (prompt : state.Prompt cfg)
    (isOpen : state.closer = .open) {id : Nat} {job : Job Key Result}
    (found : state.heap id = some job) (joinable : job.Joinable)
    (fails : Bool) :
    state.submit cfg job.key fails =
      (.returned id state.nextWatcher,
        { state.prune cfg with nextWatcher := state.nextWatcher + 1 }.setJob id
          { job with watchers := insert state.nextWatcher job.watchers }) := by
  have mapped := (linked.prune prompt found joinable).1
  have joins : State.joinable
      { state.prune cfg with nextWatcher := (state.prune cfg).nextWatcher + 1 }
        job.key = some (id, job) := by
    have found' : (state.prune cfg).heap id = some job := found
    simp only [State.joinable, mapped, found', Option.bind_some]
    exact if_pos joinable
  unfold State.submit
  rw [if_neg (not_not.mpr isOpen)]
  simp only [joins]
  rfl

theorem Linked.submitted (linked : Linked state) (prompt : state.Prompt cfg)
    {key : Key} {fails : Bool} {outcome : SubmitOutcome}
    (submitted : Submitted cfg state key fails outcome after)
    (outcomeIs : (state.submit cfg key fails).1 = outcome) {id : Nat}
    {job : Job Key Result} (found : state.heap id = some job)
    (joinable : job.Joinable) :
    after.byKey job.key = some id ∧ id ∈ after.jobs := by
  have pruned := linked.prune prompt found joinable
  have joins : state.closer = .open → job.key = key →
      outcome = .returned id state.nextWatcher := by
    rintro isOpen rfl
    rw [← outcomeIs, linked.submit prompt isOpen found joinable]
  cases submitted with
  | closed => exact linked.linked id job found joinable
  | joined | queueFull => exact pruned
  | failed isOpen =>
      have other : job.key ≠ key := fun same => nomatch joins isOpen same
      exact ⟨(Function.update_of_ne other _ _).trans pruned.1, pruned.2⟩
  | created isOpen =>
      have other : job.key ≠ key := by
        intro same
        have newest : state.nextJob = id :=
          (SubmitOutcome.returned.inj (joins isOpen same)).1
        rw [← newest, linked.fresh _ le_rfl] at found
        cases found
      exact ⟨(Function.update_of_ne other _ _).trans pruned.1,
        List.mem_append_left _ pruned.2⟩

theorem Linked.step {label : Label Key Result} (linked : Linked state)
    (prompt : state.Prompt cfg)
    (stepped : Jobs.step cfg state label = some after) : Linked after := by
  refine ⟨linked.toTold.step stepped, ?_⟩
  intro id job' found' joinable'
  rcases linked.origin stepped found' with
    ⟨job, found, _, advances⟩ | ⟨key, rfl, _, missing, rfl, rfl⟩
  · have joinable := advances.joinable joinable'
    have link := linked.linked id job found joinable
    rw [advances.key]
    cases step_cases stepped with
    | submit submitted outcomeIs =>
        exact linked.submitted prompt submitted outcomeIs found joinable
    | get => exact linked.prune prompt found joinable
    | _ => exact link
  · cases step_cases stepped with
    | submit submitted =>
        cases submitted with
        | closed | queueFull =>
            rw [show state.heap state.nextJob = _ from found'] at missing
            cases missing
        | joined isOpen mapped found =>
            rcases State.setJob_eq_some found' with ⟨same, _⟩ | ⟨_, found'⟩
            · rw [same, found] at missing
              cases missing
            · rw [show state.heap state.nextJob = _ from found'] at missing
              cases missing
        | created =>
            exact ⟨Function.update_self _ _ _,
              List.mem_append_right _ List.mem_cons_self⟩
    | job own => exact own.elim

theorem linked_of_reachable
    (reachable : (system cfg).Reachable (fun state _ => state.Prompt cfg)
      state) : Linked state := by
  refine reachable.invariant ?_ ?_
  · intro start initial
    exact linked_of_initial initial
  · intro before label next _ linked prompt stepped
    exact linked.step prompt stepped

/-- While no worker stalls between its last two writes, each key has at most
one joinable job; its key leads to it, a submit joins it, and no submit or
prune unlinks it. -/
theorem submits_deduplicated (cfg : Config) (state : State Key Result)
    (reachable : (system cfg).Reachable (fun state _ => state.Prompt cfg)
      state) :
    (∀ id job, state.heap id = some job → job.Joinable →
      state.byKey job.key = some id ∧ id ∈ state.jobs ∧
        ∀ other job', state.heap other = some job' → job'.Joinable →
          job'.key = job.key → other = id) ∧
    (state.Prompt cfg → ∀ id job, state.heap id = some job → job.Joinable →
      (state.prune cfg).byKey job.key = some id ∧
      (∀ key fails, (state.submit cfg key fails).2.byKey job.key = some id) ∧
      (state.closer = .open → ∀ fails,
        (state.submit cfg job.key fails).1 =
          .returned id state.nextWatcher)) := by
  have linked := linked_of_reachable reachable
  refine ⟨?_, ?_⟩
  · intro id job found joinable
    obtain ⟨mapped, member⟩ := linked.linked id job found joinable
    refine ⟨mapped, member, ?_⟩
    intro other job' found' joinable' same
    obtain ⟨mapped', _⟩ := linked.linked other job' found' joinable'
    rw [same, mapped, Option.some.injEq] at mapped'
    exact mapped'.symm
  · intro prompt id job found joinable
    refine ⟨(linked.prune prompt found joinable).1, ?_, ?_⟩
    · intro key fails
      exact (linked.submitted prompt (State.submitted cfg state key fails) rfl
        found joinable).1
    · intro isOpen fails
      rw [linked.submit prompt isOpen found joinable]

/-- One job in the queue. -/
def queuedState : State Bool Unit :=
  (sampleStart.submit sampleConfig true false).2

theorem queuedState_joins :
    (queuedState.submit sampleConfig true false).1 = .returned 0 1 := by
  have promptStart : sampleStart.Prompt sampleConfig := by
    intro id job final finished found
    cases found
  have stepped : (system sampleConfig).step sampleStart (.submit true false) =
      some queuedState := rfl
  have reachable : (system sampleConfig).Reachable
      (fun state _ => state.Prompt sampleConfig) queuedState :=
    .next (.start sampleStart_initial) promptStart stepped
  have prompt : queuedState.Prompt sampleConfig := by
    intro id job final finished found place
    have added : (sampleStart.setJob 0 (.new true 0 0)).heap id = some job :=
      found
    rcases State.setJob_eq_some added with ⟨_, rfl⟩ | ⟨_, missing⟩
    · cases place
    · cases missing
  exact ((submits_deduplicated sampleConfig queuedState reachable).2 prompt 0 _
    rfl ⟨.inl rfl, rfl⟩).2.2 rfl false

end Catwalk.Jobs
