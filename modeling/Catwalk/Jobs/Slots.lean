import Catwalk.Jobs.Closing
import Mathlib.Data.Finset.Card

/-! The slots of the queue: taken by `submit`, released by the callbacks. -/

namespace Catwalk.Jobs

variable {Key Result : Type}

/-- Whether the callback of an admitted job has run to its end. -/
def State.freed (state : State Key Result) (id : Nat) : Option Bool :=
  (state.heap id).map fun job => decide (job.callback = .done)

/-- The admitted jobs whose callback has not run to its end. -/
def State.held (state : State Key Result) : Finset Nat :=
  (Finset.range state.nextJob).filter fun id => state.freed id = some false

/-- The jobs that are queued or running. -/
def State.unended (state : State Key Result) : Finset Nat :=
  (Finset.range state.nextJob).filter fun id =>
    (state.heap id).any fun job => job.status.Active

/-- The job whose callback calls `_slots.release()` in this step. -/
def State.releasing (state : State Key Result) :
    Label Key Result → Option Nat
  | .callback id =>
      if (state.heap id).any fun job => job.callback = .release then some id
      else none
  | _ => none

/-- The releases of a run, in order. -/
def releases [DecidableEq Key] (cfg : Config) :
    State Key Result → List (Label Key Result) → List Nat :=
  (system cfg).observations State.releasing

theorem State.freed_of_missing {state : State Key Result} {id : Nat}
    (missing : state.heap id = none) : state.freed id = none := by
  rw [State.freed, missing]
  rfl

theorem State.freed_of_found {state : State Key Result} {id : Nat}
    {job : Job Key Result} (found : state.heap id = some job) :
    state.freed id = some (decide (job.callback = .done)) := by
  rw [State.freed, found]
  rfl

theorem State.freed_setJob {state : State Key Result} (id : Nat)
    (job : Job Key Result) :
    (state.setJob id job).freed = Function.update state.freed id
      (some (decide (job.callback = .done))) := by
  funext other
  rw [State.freed, State.setJob_heap, Function.update_apply]
  split
  · rfl
  · rfl

theorem State.freed_setJob_same {state : State Key Result} {id : Nat}
    {job job' : Job Key Result} (found : state.heap id = some job)
    (same : job'.callback = .done ↔ job.callback = .done) :
    (state.setJob id job').freed = state.freed := by
  rw [State.freed_setJob]
  apply Function.update_eq_self_iff.mpr
  rw [State.freed_of_found found, Option.some.injEq, decide_eq_decide]
  exact same

theorem State.mem_held {state : State Key Result} (fresh : Fresh state)
    {id : Nat} : id ∈ state.held ↔ state.freed id = some false := by
  rw [State.held, Finset.mem_filter]
  constructor
  · exact And.right
  · intro holding
    refine ⟨?_, holding⟩
    rw [Finset.mem_range]
    by_contra later
    rw [State.freed_of_missing (fresh id (Nat.le_of_not_lt later))] at holding
    cases holding

variable [DecidableEq Key] {cfg : Config} {state after : State Key Result}

omit [DecidableEq Key] in
theorem Job.Phased.not_done_of_pending {job : Job Key Result}
    (phased : job.Phased) (pending : job.future = .pending) :
    job.callback ≠ .done := by
  intro done
  unfold Job.Phased at phased
  rw [pending, done] at phased
  cases phased.2

omit [DecidableEq Key] in
theorem Job.Phased.cancelFuture_done {job : Job Key Result}
    (phased : job.Phased) :
    job.cancelFuture.callback = .done ↔ job.callback = .done := by
  unfold Job.cancelFuture
  split
  next pending =>
    constructor
    · intro done
      cases done
    · intro done
      exact absurd done (phased.not_done_of_pending pending)
  next => rfl

theorem JobStep.released {label : Label Key Result} {id : Nat}
    {job job' : Job Key Result}
    (changed : JobStep cfg state label id job job') (phased : job.Phased)
    (done : job.callback = .done) : job'.callback = .done := by
  cases changed with
  | same | join | take | idle | doom => exact done
  | release => rfl
  | leave =>
      unfold Job.leave Job.detach
      simp only
      split <;> split <;> exact done
  | endCancel changed =>
      unfold Job.endCancel at changed
      split at changed <;> cases changed
      exact phased.cancelFuture_done.mpr done
  | closerCancel => exact phased.cancelFuture_done.mpr done
  | work changed =>
      have executing := Job.work_executing changed
      rw [(phased.of_executing executing).2] at done
      cases done
  | progress changed => exact (Job.Computes.of_progress changed).callback ▸ done
  | returns changed => exact (Job.Computes.of_returns changed).callback ▸ done
  | raises changed => exact (Job.Computes.of_raises changed).callback ▸ done
  | raisesCancelled changed =>
      exact (Job.Computes.of_raisesCancelled changed).callback ▸ done
  | callback changed =>
      rw [Job.callbackStep, done] at changed
      cases changed

omit [DecidableEq Key] in
theorem State.releasing_eq_some {label : Label Key Result} {id : Nat} :
    state.releasing label = some id ↔ label = .callback id ∧
      ∃ job, state.heap id = some job ∧ job.callback = .release := by
  unfold State.releasing
  split
  next other =>
    simp only [Option.ite_none_right_eq_some, Option.any_eq_true,
      decide_eq_true_eq, Option.some.injEq, Label.callback.injEq]
    constructor
    · rintro ⟨found, rfl⟩
      exact ⟨rfl, found⟩
    · rintro ⟨rfl, found⟩
      exact ⟨found, rfl⟩
  next isOther =>
    constructor
    · intro released
      cases released
    · rintro ⟨rfl, _⟩
      exact absurd rfl (isOther id)

/-- What a step does to the slots and to the callbacks. -/
inductive SlotStep (cfg : Config) (state : State Key Result)
    (label : Label Key Result) (after : State Key Result) : Prop
  | same (slots : after.slots = state.slots)
      (nextJob : state.nextJob ≤ after.nextJob)
      (freed : after.freed = state.freed)
      (silent : state.releasing label = none)
  | acquire (slots : after.slots + 1 = state.slots)
      (nextJob : after.nextJob = state.nextJob + 1)
      (freed :
        after.freed = Function.update state.freed state.nextJob (some false))
      (silent : state.releasing label = none)
  | release (id : Nat)
      (slots : after.slots =
        min (state.slots + 1) (cfg.maxWorkers + cfg.maxQueue))
      (nextJob : after.nextJob = state.nextJob)
      (holding : state.freed id = some false)
      (freed : after.freed = Function.update state.freed id (some true))
      (released : state.releasing label = some id)

theorem Ruled.slots {label : Label Key Result} (ruled : Ruled state)
    (stepped : Jobs.step cfg state label = some after) :
    SlotStep cfg state label after := by
  have grows := (step_frame stepped).nextJob
  cases silent : state.releasing label with
  | some id =>
      obtain ⟨rfl, job, found, releasing⟩ :=
        State.releasing_eq_some.mp silent
      have holding : state.freed id = some false := by
        rw [State.freed_of_found found, releasing]
        rfl
      simp only [Jobs.step, State.callback, found, Option.bind_some,
        if_pos releasing, Option.some.injEq] at stepped
      subst stepped
      exact .release id rfl rfl holding (State.freed_setJob _ _) silent
  | none =>
      cases step_cases stepped with
      | tick | get | unknown | skip | close | cancelledAll | inactive
      | cancelCallback | drained | drainCallback | join =>
          exact .same rfl grows rfl silent
      | submit submitted =>
          cases submitted with
          | closed | queueFull | failed => exact .same rfl grows rfl silent
          | joined isOpen mapped found =>
              refine .same rfl grows ?_ silent
              exact State.freed_setJob_same found Iff.rfl
          | created isOpen free =>
              have slots := Nat.succ_pred_eq_of_ne_zero free
              refine .acquire slots rfl ?_ silent
              exact State.freed_setJob state.nextJob (.new _ _ _)
      | job own found changed unreleased =>
          have freed := State.freed_setJob_same found
            ⟨unreleased, changed.released (ruled.phased found)⟩
          exact .same rfl grows freed silent
      | release found releasing =>
          have released := State.releasing_eq_some.mpr
            ⟨rfl, _, found, releasing⟩
          rw [silent] at released
          cases released
      | take queued available found =>
          refine .same rfl grows ?_ silent
          exact State.freed_setJob_same found Iff.rfl
      | idle found =>
          refine .same rfl grows ?_ silent
          exact State.freed_setJob_same found Iff.rfl
      | doom place member found =>
          refine .same rfl grows ?_ silent
          exact State.freed_setJob_same found Iff.rfl
      | cancelFuture place found =>
          have freed := State.freed_setJob_same found
            (ruled.phased found).cancelFuture_done
          exact .same rfl grows freed silent
      | drain place queued found =>
          have freed := State.freed_setJob_same found
            (ruled.phased found).cancelFuture_done
          exact .same rfl grows freed silent

/-- Each admitted job whose callback has not run holds one slot. -/
structure Counted (cfg : Config) (state : State Key Result) : Prop
    extends Ruled state where
  balance : state.slots + state.held.card = cfg.maxWorkers + cfg.maxQueue

omit [DecidableEq Key] in
theorem counted_of_initial (initial : Initial cfg state) :
    Counted cfg state where
  toRuled := ruled_of_initial initial
  balance := by
    have empty : state.held = ∅ := by
      apply Finset.eq_empty_of_forall_notMem
      intro id holding
      rw [State.mem_held (ruled_of_initial initial).fresh,
        State.freed_of_missing (initial.heap id)] at holding
      cases holding
    rw [empty, initial.slots]
    rfl

theorem Counted.step {label : Label Key Result} (counted : Counted cfg state)
    (stepped : Jobs.step cfg state label = some after) :
    Counted cfg after where
  toRuled := counted.toRuled.step stepped
  balance := by
    have balance := counted.balance
    have fresh := counted.fresh
    have fresh' := fresh.step stepped
    cases counted.toRuled.slots stepped with
    | same slots nextJob freed =>
        have same : after.held = state.held := by
          ext id
          rw [State.mem_held fresh', State.mem_held fresh, freed]
        rw [slots, same, balance]
    | acquire slots nextJob freed =>
        have newest : state.nextJob ∉ state.held := by
          rw [State.mem_held fresh,
            State.freed_of_missing (fresh _ le_rfl)]
          intro holding
          cases holding
        have held : after.held = insert state.nextJob state.held := by
          ext id
          rw [State.mem_held fresh', Finset.mem_insert, State.mem_held fresh,
            freed, Function.update_apply]
          split
          next isNew => simp [isNew]
          next older => simp [older]
        rw [held, Finset.card_insert_of_notMem newest]
        omega
    | release id slots nextJob holding freed =>
        have member := (State.mem_held fresh).mpr holding
        have held : after.held = state.held.erase id := by
          ext other
          rw [State.mem_held fresh', Finset.mem_erase, State.mem_held fresh,
            freed, Function.update_apply]
          split
          next isTarget => simp [isTarget]
          next isOther => simp [isOther]
        have positive := Finset.card_pos.mpr ⟨id, member⟩
        rw [held, Finset.card_erase_of_mem member, slots]
        omega

theorem counted_of_reachable
    (reachable : (system cfg).Reachable StepSystem.AnyStep state) :
    Counted cfg state := by
  refine reachable.invariant ?_ ?_
  · intro start initial
    exact counted_of_initial initial
  · intro before label next _ counted _ stepped
    exact counted.step stepped

omit [DecidableEq Key] in
theorem Counted.not_full (counted : Counted cfg state)
    {id : Nat} (holding : state.freed id = some false) :
    state.slots < cfg.maxWorkers + cfg.maxQueue := by
  have member := (State.mem_held counted.fresh).mpr holding
  have positive := Finset.card_pos.mpr ⟨id, member⟩
  have balance := counted.balance
  omega

/-- Exactly the jobs whose callback has ended released, each one once. -/
structure Released (past : List Nat) (state : State Key Result) : Prop
    extends Ruled state where
  nodup : past.Nodup
  freed : ∀ id, id ∈ past ↔ state.freed id = some true

omit [DecidableEq Key] in
theorem released_of_initial (initial : Initial cfg state) :
    Released [] state where
  toRuled := ruled_of_initial initial
  nodup := List.nodup_nil
  freed := by
    intro id
    rw [State.freed_of_missing (initial.heap id)]
    simp

theorem Released.step {past : List Nat} {label : Label Key Result}
    (released : Released past state)
    (stepped : Jobs.step cfg state label = some after) :
    Released (past ++ (state.releasing label).toList) after := by
  have ruled := released.toRuled.step stepped
  have nodup := released.nodup
  have past_freed := released.freed
  cases released.toRuled.slots stepped with
  | same slots nextJob freed silent =>
      rw [silent, Option.toList_none, List.append_nil]
      exact ⟨ruled, nodup, freed ▸ past_freed⟩
  | acquire slots nextJob freed silent =>
      rw [silent, Option.toList_none, List.append_nil]
      refine ⟨ruled, nodup, ?_⟩
      intro id
      rw [past_freed, freed, Function.update_apply]
      split
      next isNew =>
        rw [isNew, State.freed_of_missing (released.fresh _ le_rfl)]
        simp
      next => rfl
  | release id slots nextJob holding freed releasing =>
      have unreleased : id ∉ past := by
        intro member
        rw [past_freed, holding] at member
        cases member
      rw [releasing, Option.toList_some]
      refine ⟨ruled, ?_, ?_⟩
      · apply List.Nodup.append nodup (List.nodup_singleton id)
        intro other member isTarget
        rw [List.mem_singleton] at isTarget
        exact unreleased (isTarget ▸ member)
      · intro other
        rw [List.mem_append, List.mem_singleton, past_freed, freed,
          Function.update_apply]
        split
        next isTarget => simp [isTarget]
        next differ => simp [differ]

omit [DecidableEq Key] in
theorem Ruled.freed_of_active (ruled : Ruled state) {id : Nat}
    {job : Job Key Result} (found : state.heap id = some job)
    (active : job.status.Active) : state.freed id = some false := by
  rw [State.freed_of_found found, Option.some.injEq, decide_eq_false_iff_not]
  intro done
  have phased := ruled.phased found
  have shaped := ruled.shaped id job found
  have ended : ∀ {ending : Ending}, ending.Proper →
      job.shape = .ended ending → False := by
    intro ending proper shape
    have status : job.status = ending.status := (Job.shape_eq_iff.mp shape).1
    exact proper.terminal (status ▸ active)
  unfold Job.Phased at phased
  cases future : job.future with
  | pending | running =>
      rw [future, done] at phased
      cases phased.2
  | cancelled =>
      rw [Job.Shaped, if_pos future, done] at shaped
      exact ended Ending.proper_cancelled shaped
  | finished =>
      have fits := shaped.fits (by simp [future])
      rw [future] at phased
      obtain ⟨notExecuting, notQueued, _⟩ := phased
      cases place : job.run with
      | queued => exact notQueued place
      | returning | ended =>
          rw [place] at fits
          obtain ⟨ending, proper, shape⟩ := fits
          exact ended proper shape
      | _ =>
          rw [place] at notExecuting
          exact notExecuting trivial

omit [DecidableEq Key] in
theorem Ruled.unended_subset (ruled : Ruled state) :
    state.unended ⊆ state.held := by
  intro id member
  rw [State.unended, Finset.mem_filter, Option.any_eq_true] at member
  obtain ⟨_, job, found, active⟩ := member
  rw [State.mem_held ruled.fresh]
  exact ruled.freed_of_active found (of_decide_eq_true active)

/-- The accounts of the slots: free slots and jobs whose callback has still to
run add up, a callback releases once and into a semaphore that is not full, and
so no more jobs are queued or running than there are slots. -/
theorem slots_accounted (cfg : Config) (start final : State Key Result)
    (schedule : List (Label Key Result)) (initial : Initial cfg start)
    (ran : (system cfg).run start schedule = some final) :
    final.slots + final.held.card = cfg.maxWorkers + cfg.maxQueue ∧
    final.unended.card ≤ cfg.maxWorkers + cfg.maxQueue ∧
    (releases cfg start schedule).Nodup ∧
    (∀ id, id ∈ releases cfg start schedule ↔
      ∃ job, final.heap id = some job ∧ job.callback = .done) ∧
    (∀ label id after, final.releasing label = some id →
      step cfg final label = some after →
      final.slots < cfg.maxWorkers + cfg.maxQueue ∧
        after.slots = final.slots + 1) := by
  have counted : Counted cfg final := counted_of_reachable
    (.of_run (.start initial) (.any _ _ _) ran)
  have balance := counted.balance
  have released : Released (releases cfg start schedule) final :=
    StepSystem.run_observations
      (fun _ _ _ _ released stepped => released.step stepped) ran
      (released_of_initial initial)
  refine ⟨balance, ?_, released.nodup, ?_, ?_⟩
  · have fewer := Finset.card_le_card counted.unended_subset
    omega
  · intro id
    rw [released.freed, State.freed, Option.map_eq_some_iff]
    simp only [decide_eq_true_eq]
  · intro label id after releasing stepped
    have room : ∀ {other}, final.freed other = some false →
        final.slots < cfg.maxWorkers + cfg.maxQueue := counted.not_full
    cases counted.toRuled.slots stepped with
    | same slots nextJob freed silent | acquire slots nextJob freed silent =>
        rw [silent] at releasing
        cases releasing
    | release other slots nextJob holding freed released =>
        have free := room holding
        refine ⟨free, ?_⟩
        rw [slots]
        exact Nat.min_eq_left free

/-- A queued job is cancelled, and its callback runs in the client. -/
def releaseSchedule : List (Label Bool Unit) :=
  [.submit true false, .cancel 0 0, .endCancel 0] ++
    List.replicate 6 (.callback 0)

theorem releaseSchedule_accounted :
    ∃ final, (system sampleConfig).run sampleStart releaseSchedule =
        some final ∧
      final.slots + final.held.card = 2 ∧
      releases sampleConfig sampleStart releaseSchedule = [0] := by
  have completes : ((system sampleConfig).run sampleStart
      releaseSchedule).isSome := by decide
  obtain ⟨final, ran⟩ := Option.isSome_iff_exists.mp completes
  have accounts := slots_accounted sampleConfig sampleStart final _
    sampleStart_initial ran
  exact ⟨final, ran, accounts.1, by decide⟩

end Catwalk.Jobs
