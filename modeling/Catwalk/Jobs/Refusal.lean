import Catwalk.Jobs.Slots

/-! When `submit` raises `JobQueueFullError`. -/

namespace Catwalk.Jobs

variable {Key Result : Type}

/-- The jobs that have ended and whose callback has not yet returned the slot. -/
def State.unreturned (state : State Key Result) : Finset Nat :=
  state.held \ state.unended

variable [DecidableEq Key] {cfg : Config} {state : State Key Result}

/-- As many jobs are queued or running as the manager takes. -/
def State.Full (cfg : Config) (state : State Key Result) : Prop :=
  state.unended.card = cfg.maxWorkers + cfg.maxQueue

/-- A submit that is refused finds the manager full. -/
def FullWhenRefused (cfg : Config) (state : State Key Result)
    (label : Label Key Result) : Prop :=
  ∀ key fails, label = .submit key fails →
    (state.submit cfg key fails).1 = .queueFull → state.Full cfg

/-- A submit that has no job to join and no slot to take comes when every job
that has ended has returned its slot. -/
def SettledWhenTaken (cfg : Config) (state : State Key Result)
    (label : Label Key Result) : Prop :=
  ∀ key fails, label = .submit key fails →
    state.closer = .open → (state.prune cfg).joinable key = none →
    state.slots = 0 → state.unreturned = ∅

instance (label : Label Key Result) :
    Decidable (SettledWhenTaken cfg state label) :=
  match label with
  | .submit key _ =>
      decidable_of_iff (state.closer = .open →
        (state.prune cfg).joinable key = none → state.slots = 0 →
        state.unreturned = ∅) <| by
          constructor
          · intro settled _ _ same
            cases same
            exact settled
          · intro settled
            exact settled key _ rfl
  | .tick _ | .get _ | .cancel _ _ | .endCancel _ | .take | .work _
  | .progress _ _ | .returns _ _ | .raises _ _ | .raisesCancelled _
  | .callback _ | .idle _ | .close _ | .closer =>
      .isTrue fun _ _ same => nomatch same

theorem State.submit_queueFull_iff {key : Key} {fails : Bool} :
    (state.submit cfg key fails).1 = .queueFull ↔
      state.closer = .open ∧ (state.prune cfg).joinable key = none ∧
        state.slots = 0 := by
  unfold State.submit
  by_cases isOpen : state.closer = .open
  · rw [if_neg (not_not.mpr isOpen)]
    simp only
    split
    next id job joins =>
      have joins : (state.prune cfg).joinable key = some (id, job) := joins
      simp [joins]
    next joins =>
      have joins : (state.prune cfg).joinable key = none := joins
      have slots : (state.prune cfg).slots = state.slots := rfl
      by_cases full : state.slots = 0
      · simp [isOpen, joins, slots, full]
      · cases fails <;> simp [slots, full]
  · rw [if_pos isOpen]
    simp [isOpen]

omit [DecidableEq Key] in
theorem Counted.card_unreturned (counted : Counted cfg state) :
    state.slots + state.unended.card + state.unreturned.card =
      cfg.maxWorkers + cfg.maxQueue := by
  have balance := counted.balance
  have inside := counted.unended_subset
  have split := Finset.card_sdiff_add_card_eq_card inside
  unfold State.unreturned
  omega

omit [DecidableEq Key] in
theorem Counted.full_iff (counted : Counted cfg state)
    (taken : state.slots = 0) :
    state.Full cfg ↔ state.unreturned = ∅ := by
  have accounts := counted.card_unreturned
  rw [State.Full, ← Finset.card_eq_zero]
  omega

theorem Counted.fullWhenRefused_iff (counted : Counted cfg state)
    (label : Label Key Result) :
    FullWhenRefused cfg state label ↔ SettledWhenTaken cfg state label := by
  constructor
  · intro full key fails submits isOpen joinsNone taken
    apply (counted.full_iff taken).mp
    apply full key fails submits
    exact State.submit_queueFull_iff.mpr ⟨isOpen, joinsNone, taken⟩
  · intro settled key fails submits refused
    obtain ⟨isOpen, joinsNone, taken⟩ := State.submit_queueFull_iff.mp refused
    apply (counted.full_iff taken).mpr
    exact settled key fails submits isOpen joinsNone taken

theorem Counted.joinable_eq_none (counted : Counted cfg state)
    (quiet : state.unended = ∅) (key : Key) :
    (state.prune cfg).joinable key = none := by
  apply Option.eq_none_iff_forall_ne_some.mpr
  intro found joins
  obtain ⟨id, job⟩ := found
  obtain ⟨_, found, active, _⟩ := State.joinable_prune rfl rfl joins
  have known : id < state.nextJob := by
    by_contra later
    rw [counted.fresh id (Nat.le_of_not_lt later)] at found
    cases found
  have member : id ∈ state.unended := by
    rw [State.unended, Finset.mem_filter, Finset.mem_range, found]
    exact ⟨known, by simpa using active⟩
  rw [quiet] at member
  exact absurd member (Finset.notMem_empty id)

/-- In a run, refused submits find the manager full exactly when no submit
comes between the end of a job and the return of its slot, unless it can join a
job or take another slot.  While no job is active, a submit is refused exactly
when jobs that have ended hold all the slots. -/
theorem refusals_full_iff (cfg : Config) (start final : State Key Result)
    (schedule : List (Label Key Result)) (initial : Initial cfg start)
    (ran : (system cfg).run start schedule = some final) :
    ((system cfg).Meets (FullWhenRefused cfg) start schedule ↔
      (system cfg).Meets (SettledWhenTaken cfg) start schedule) ∧
    (final.unended = ∅ → ∀ key fails,
      ((final.submit cfg key fails).1 = .queueFull ↔
        final.closer = .open ∧
          final.unreturned.card = cfg.maxWorkers + cfg.maxQueue)) := by
  have preserved : ∀ state label after, Counted cfg state →
      (system cfg).step state label = some after →
      Counted cfg (after : State Key Result) :=
    fun _ _ _ counted stepped => counted.step stepped
  have started := counted_of_initial initial
  refine ⟨⟨?_, ?_⟩, ?_⟩
  · apply StepSystem.Meets.of_invariant
      (fun state label after counted _ => preserved state label after counted)
      (fun state label counted => (counted.fullWhenRefused_iff label).mp)
      started
  · apply StepSystem.Meets.of_invariant
      (fun state label after counted _ => preserved state label after counted)
      (fun state label counted => (counted.fullWhenRefused_iff label).mpr)
      started
  · intro quiet key fails
    have counted : Counted cfg final := counted_of_reachable
      (.of_run (.start initial) (.any _ _ _) ran)
    have accounts := counted.card_unreturned
    have joins := counted.joinable_eq_none quiet key
    rw [quiet, Finset.card_empty] at accounts
    rw [State.submit_queueFull_iff, joins]
    constructor
    · intro refused
      obtain ⟨isOpen, _, taken⟩ := refused
      exact ⟨isOpen, by omega⟩
    · intro held
      obtain ⟨isOpen, held⟩ := held
      exact ⟨isOpen, rfl, by omega⟩

/-- A worker and no queue, so that the only job fills the manager. -/
def singleConfig : Config := ⟨1, 0, 300⟩

def singleStart : State Bool Unit := { sampleStart with slots := 1 }

theorem singleStart_initial : Initial singleConfig singleStart :=
  ⟨fun _ => rfl, rfl, fun _ => rfl, rfl, rfl, rfl, rfl⟩

/-- The only job, up to the moment when its event is set. -/
def finishedSchedule : List (Label Bool Unit) :=
  [.submit true false, .take, .work 0, .work 0, .work 0, .returns 0 ()] ++
    List.replicate 5 (.work 0)

/-- A second client is refused while the job runs, and served once its slot has
come back. -/
def servedSchedule : List (Label Bool Unit) :=
  [.submit true false, .submit false false, .take, .work 0, .work 0, .work 0,
    .returns 0 ()] ++ List.replicate 6 (.work 0) ++
    [.callback 0, .callback 0, .submit false false]

theorem servedSchedule_settled :
    ((system singleConfig).run singleStart servedSchedule).map
        (fun final => (final.nextWatcher, final.unended)) = some (3, {1}) ∧
    (system singleConfig).Meets (FullWhenRefused singleConfig) singleStart
      servedSchedule := by
  have completes : ((system singleConfig).run singleStart
      servedSchedule).isSome := by decide
  obtain ⟨final, ran⟩ := Option.isSome_iff_exists.mp completes
  exact ⟨by decide, (refusals_full_iff singleConfig singleStart final _
    singleStart_initial ran).1.mpr (by decide)⟩

/-- A client that has seen the only job finish is refused. -/
theorem finishedSchedule_refused :
    ¬ ∀ (cfg : Config) (start final : State Bool Unit)
      (schedule : List (Label Bool Unit)), Initial cfg start →
      (system cfg).run start schedule = some final →
      ∀ key fails, (final.submit cfg key fails).1 = .queueFull →
        final.Full cfg := by
  intro full
  have completes : ((system singleConfig).run singleStart
      finishedSchedule).map (fun final =>
        ((final.submit singleConfig false false).1,
          (final.heap 0).map fun job => (job.status, job.event),
          final.unended)) =
        some (.queueFull, some (.done, true), ∅) := by decide
  obtain ⟨final, ran, found⟩ := Option.map_eq_some_iff.mp completes
  obtain ⟨refused, found⟩ := Prod.mk.inj found
  obtain ⟨_, quiet⟩ := Prod.mk.inj found
  have fills := full singleConfig singleStart final finishedSchedule
    singleStart_initial ran false false refused
  rw [State.Full, quiet] at fills
  exact absurd fills (by decide)

end Catwalk.Jobs
