import Catwalk.Jobs.Outcome

/-! Watchers that hold their job no longer, and jobs that have ended. -/

namespace Catwalk.Jobs

variable {Key Result : Type} [DecidableEq Key] {cfg : Config}
  {state after : State Key Result} {id watcher : Nat}

/-- The job does not wait for this watcher. -/
def Detached (state : State Key Result) (id watcher : Nat) : Prop :=
  ∀ job, state.heap id = some job →
    watcher ∉ job.watchers ∨ job.status.Terminal ∨ id ∉ state.jobs

def Known (state : State Key Result) (id : Nat) : Prop :=
  ∃ job, state.heap id = some job

def Ended (state : State Key Result) (id : Nat) : Prop :=
  ∃ job, state.heap id = some job ∧ job.status.Terminal

omit [DecidableEq Key] in
theorem Ended.not_active {job : Job Key Result} (ended : Ended state id)
    (found : state.heap id = some job) : ¬ job.status.Active := by
  obtain ⟨other, stored, terminal⟩ := ended
  cases stored.symm.trans found
  exact terminal

theorem Known.step {label : Label Key Result} (ruled : Ruled state)
    (known : Known state id) (stepped : step cfg state label = some after) :
    Known after id := by
  obtain ⟨job, found⟩ := known
  obtain ⟨job', found', _⟩ := ruled.advances stepped found
  exact ⟨job', found'⟩

theorem Ended.step {label : Label Key Result} (ruled : Ruled state)
    (ended : Ended state id) (stepped : step cfg state label = some after) :
    Ended after id := by
  obtain ⟨job, found, terminal⟩ := ended
  obtain ⟨job', found', advances⟩ := ruled.advances stepped found
  refine ⟨job', found', ?_⟩
  rw [advances.status.of_terminal terminal]
  exact terminal

omit [DecidableEq Key] in
theorem Ruled.ended_of_event {job : Job Key Result} (ruled : Ruled state)
    (found : state.heap id = some job) (event : job.event = true) :
    Ended state id := by
  rcases ruled.outcome found with ⟨_, unset⟩ | ⟨ending, _, proper, shape⟩
  · rw [event] at unset
    cases unset
  · refine ⟨job, found, ?_⟩
    have status : job.status = ending.status := (Job.shape_eq_iff.mp shape).1
    rw [status]
    exact proper.terminal

theorem step_pruned {label : Label Key Result}
    (known : Known state id) (ruled : Ruled state)
    (pruned : id ∉ state.jobs) (stepped : step cfg state label = some after) :
    id ∉ after.jobs := by
  have older : id ≠ state.nextJob := by
    intro same
    obtain ⟨job, found⟩ := known
    rw [same, ruled.fresh _ le_rfl] at found
    cases found
  have gone : id ∉ (state.prune cfg).jobs := by
    intro member
    exact pruned (List.mem_filter.mp member).1
  cases step_cases stepped with
  | submit submitted outcomeIs =>
      cases submitted with
      | closed => exact pruned
      | joined | queueFull | failed => exact gone
      | created =>
          intro member
          rcases List.mem_append.mp member with member | member
          · exact gone member
          · exact older (List.mem_singleton.mp member)
  | get => exact gone
  | _ => exact pruned

/-- Whoever watches an active job did so before, or was just let in. -/
theorem Ruled.watching {label : Label Key Result} (ruled : Ruled state)
    (stepped : Jobs.step cfg state label = some after) {job' : Job Key Result}
    (found' : after.heap id = some job') (active : job'.status.Active)
    (member : watcher ∈ job'.watchers) :
    (∃ job, state.heap id = some job ∧ job.status.Active ∧
      watcher ∈ job.watchers) ∨
    watcher = state.nextWatcher ∧ ∃ key fails, label = .submit key fails ∧
      (state.submit cfg key fails).1 = .returned id watcher := by
  have heap := step_heap (ruled.fresh _ le_rfl) stepped
  rcases heap.origin found' with
    ⟨job, before, changed⟩ | ⟨_, key, submits, _, _, rfl, returned⟩
  · have wasActive := (changed.advances (ruled.phased before)
      (ruled.shaped id job before)).active active
    rcases changed.watchers with same |
      ⟨joined, _, key, fails, submits, returned⟩ | ⟨token, _, left⟩
    · rw [same] at member
      exact .inl ⟨job, before, wasActive, member⟩
    · rw [joined] at member
      rcases Finset.mem_insert.mp member with rfl | member
      · exact .inr ⟨rfl, key, fails, submits, returned⟩
      · exact .inl ⟨job, before, wasActive, member⟩
    · rw [left] at member
      exact .inl ⟨job, before, wasActive, Finset.mem_of_mem_erase member⟩
  · cases Finset.mem_singleton.mp member
    exact .inr ⟨rfl, key, false, submits, returned⟩

theorem Detached.step {label : Label Key Result} (ruled : Ruled state)
    (known : Known state id) (issued : watcher < state.nextWatcher)
    (detached : Detached state id watcher)
    (stepped : step cfg state label = some after) :
    Detached after id watcher := by
  intro job' found'
  by_cases active : job'.status.Active
  · by_cases member : watcher ∈ job'.watchers
    · rcases ruled.watching stepped found' active member with
        ⟨job, found, wasActive, wasMember⟩ | ⟨fresh, _⟩
      · rcases detached job found with left | terminal | pruned
        · exact absurd wasMember left
        · exact absurd wasActive terminal
        · exact .inr (.inr (step_pruned known ruled pruned stepped))
      · exact absurd fresh issued.ne
    · exact .inl member
  · exact .inr (.inl active)

omit [DecidableEq Key] in
/-- `cancel` lets its watcher go, if it finds the job. -/
theorem Detached.cancel (state : State Key Result) (id watcher : Nat) :
    Detached (state.cancel id watcher) id watcher := by
  intro job' found'
  unfold State.cancel at found' ⊢
  cases isActive : state.active id with
  | none =>
      simp only [isActive] at found' ⊢
      by_cases member : id ∈ state.jobs
      · refine .inr (.inl ?_)
        intro active
        have found := State.active_eq_some.mpr ⟨member, found', active⟩
        exact nomatch isActive.symm.trans found
      · exact .inr (.inr member)
  | some job =>
      simp only [isActive, State.setJob_heap, if_pos, Option.some.injEq] at found'
      subst found'
      refine .inl ?_
      unfold Job.leave Job.detach
      simp only
      split <;> exact Finset.notMem_erase _ _

omit [DecidableEq Key] in
/-- An active job that nobody asked to cancel has a watcher that was not let
go, or was pruned while its worker was between its last two writes. -/
theorem Listed.undetached (listed : Listed state) {job : Job Key Result}
    (found : state.heap id = some job)
    (notRequested : job.cancelRequested = false) (active : job.status.Active) :
    ∃ watcher ∈ job.watchers, Detached state id watcher →
      job.finished ≠ none ∧ id ∉ state.jobs := by
  have watched : job.watchers.Nonempty := by
    rw [Finset.nonempty_iff_ne_empty]
    intro nobody
    have requested := (listed.safe id job found).doomed nobody
    rw [notRequested] at requested
    cases requested
  obtain ⟨watcher, member⟩ := watched
  refine ⟨watcher, member, ?_⟩
  intro detached
  rcases detached job found with left | terminal | pruned
  · exact absurd member left
  · exact absurd active terminal
  · refine ⟨?_, pruned⟩
    intro unfinished
    exact pruned (listed.member id job found unfinished)

end Catwalk.Jobs
