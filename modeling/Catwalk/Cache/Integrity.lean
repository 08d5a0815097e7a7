import Catwalk.Cache.SingleFlight

/-! The table of flights agrees with its leaders, whatever their order. -/

namespace Catwalk

/-- The flight a caller has in the table: a leader before its removal. -/
def Caller.registered : Caller Value Error → Option Nat
  | .compute flight | .put flight _ _ | .unregister flight _
  | .unregisterFailed flight _ => some flight
  | _ => none

theorem Caller.leads_of_registered {caller : Caller Value Error}
    {flight : Nat} (registered : caller.registered = some flight) :
    caller.leads = some flight := by
  cases caller with
  | compute | put | unregister | unregisterFailed => exact registered
  | _ => cases registered

/-- What a future is set to. -/
def Outcome.of : Except Error (Option Value) → Outcome Value Error
  | .ok value => .result value
  | .error error => .exception error

theorem Outcome.of_ne_pending (answer : Except Error (Option Value)) :
    Outcome.of answer ≠ .pending := by
  cases answer <;> simp [Outcome.of]

/-- How a call ends that passes on the outcome of its flight. -/
def Caller.answered (fromCache : Bool) :
    Except Error (Option Value) → Caller Value Error
  | .ok value => .returned value fromCache
  | .error error => .raised error

theorem Caller.answered_ended (fromCache : Bool)
    (answer : Except Error (Option Value)) :
    (Caller.answered fromCache answer).Ended := by
  cases answer <;> trivial

/-- A leader on the way from `compute()` to the completion of its flight. -/
def Caller.Carries (flight : Nat) (answer : Except Error (Option Value)) :
    Caller Value Error → Prop
  | .put led value _ | .unregister led value | .publish led value =>
      led = flight ∧ answer = .ok value
  | .unregisterFailed led error | .publishFailed led error =>
      led = flight ∧ answer = .error error
  | _ => False

theorem Caller.Carries.not_ended {caller : Caller Value Error} {flight : Nat}
    {answer : Except Error (Option Value)}
    (carries : caller.Carries flight answer) : ¬ caller.Ended := by
  intro ended
  cases caller with
  | returned | raised => exact carries
  | _ => exact ended

namespace SharedCache

variable {Key Value Error : Type} [DecidableEq Key]

/-- Nothing changed in the table and in the futures. -/
structure SameFlights (shared after : SharedCache Key Value Error) : Prop where
  inflight : after.inflight = shared.inflight
  futures : after.futures = shared.futures
  nextFuture : after.nextFuture = shared.nextFuture

/-- What a step of a caller does to the table and to the futures. -/
inductive FlightMove (shared after : SharedCache Key Value Error) (key : Key)
    (caller next : Caller Value Error) : Prop
  | quiet (same : SameFlights shared after)
      (leads : next.leads = caller.leads)
      (registered : next.registered = caller.registered)
      (unfollowing : ∀ flight, next ≠ .follow flight)
  | lead (looks : caller = .lookup) (absent : shared.inflight key = none)
      (computes : next = .compute shared.nextFuture)
      (registers : after = shared.register key)
  | join (flight : Nat) (looks : caller = .lookup)
      (found : shared.inflight key = some flight)
      (follows : next = .follow flight) (same : SameFlights shared after)
  | remove (flight : Nat) (registered : caller.registered = some flight)
      (leads : next.leads = some flight) (removed : next.registered = none)
      (removes : after = shared.unregister key)
  | complete (flight : Nat) (outcome : Outcome Value Error)
      (leads : caller.leads = some flight)
      (removed : caller.registered = none) (ended : next.Ended)
      (decided : outcome ≠ .pending)
      (completes : after = shared.complete key flight outcome)

theorem getOrCompute_move {shared after : SharedCache Key Value Error}
    {now : Int} {key : Key} {caller next : Caller Value Error}
    (moved : shared.getOrCompute now key caller = some (next, after)) :
    FlightMove shared after key caller next := by
  cases caller with
  | get =>
      simp only [getOrCompute] at moved
      split at moved
      all_goals
        next got =>
          cases moved
          have same : after = (shared.get now key).2 := by rw [got]
          subst same
          exact .quiet ⟨rfl, rfl, rfl⟩ rfl rfl (by simp)
  | lookup =>
      simp only [getOrCompute] at moved
      split at moved
      next absent =>
        cases moved
        exact .lead rfl absent rfl rfl
      next flight found =>
        cases moved
        exact .join flight rfl found rfl ⟨rfl, rfl, rfl⟩
  | follow flight =>
      simp only [getOrCompute] at moved
      split at moved
      · cases moved
        exact .quiet ⟨rfl, rfl, rfl⟩ rfl rfl (by simp)
      · cases moved
        exact .quiet ⟨rfl, rfl, rfl⟩ rfl rfl (by simp)
      · cases moved
  | put flight value nbytes =>
      cases moved
      exact .quiet ⟨rfl, rfl, rfl⟩ rfl rfl (by simp)
  | unregister flight value =>
      cases moved
      exact .remove flight rfl rfl rfl rfl
  | publish flight value =>
      cases moved
      exact .complete flight (.result value) rfl rfl trivial (by simp) rfl
  | unregisterFailed flight error =>
      cases moved
      exact .remove flight rfl rfl rfl rfl
  | publishFailed flight error =>
      cases moved
      exact .complete flight (.exception error) rfl rfl trivial (by simp) rfl
  | compute | returned | raised => cases moved

/-- A leader keeps its answer up to its publication. -/
theorem carries_advance {shared after : SharedCache Key Value Error}
    {now : Int} {key : Key} {caller next : Caller Value Error} {flight : Nat}
    {answer : Except Error (Option Value)}
    (carries : caller.Carries flight answer)
    (moved : shared.getOrCompute now key caller = some (next, after)) :
    next.Carries flight answer ∨
      caller.leads = some flight ∧ next = .answered false answer ∧
        after = shared.complete key flight (.of answer) := by
  cases caller with
  | put led value nbytes =>
      cases moved
      exact .inl carries
  | unregister led value =>
      cases moved
      exact .inl carries
  | unregisterFailed led error =>
      cases moved
      exact .inl carries
  | publish led value =>
      obtain ⟨rfl, rfl⟩ := carries
      cases moved
      exact .inr ⟨rfl, rfl, rfl⟩
  | publishFailed led error =>
      obtain ⟨rfl, rfl⟩ := carries
      cases moved
      exact .inr ⟨rfl, rfl, rfl⟩
  | _ => exact carries.elim

theorem computed_move {shared : SharedCache Key Value Error} {key : Key}
    {caller next : Caller Value Error}
    {outcome : Except Error (Option Value × Nat)}
    (ends : computed caller outcome = some next) :
    FlightMove shared shared key caller next := by
  unfold computed at ends
  split at ends
  · cases ends
    exact .quiet ⟨rfl, rfl, rfl⟩ rfl rfl (by simp)
  · cases ends
    exact .quiet ⟨rfl, rfl, rfl⟩ rfl rfl (by simp)
  · cases ends

end SharedCache

namespace SingleFlight

variable {Thread Key Value Error : Type} [DecidableEq Thread] [DecidableEq Key]
  {key : Thread → Key}

/-- The flights of the table are those of the leaders that have not removed
theirs; a follower's flight is complete or has a leader. -/
structure Integrity (key : Thread → Key)
    (shared : SharedCache Key Value Error)
    (callers : Thread → Caller Value Error) : Prop where
  led : ∀ thread flight, (callers thread).leads = some flight →
    flight < shared.nextFuture ∧
      shared.futures flight = some ⟨key thread, .pending⟩
  sole : ∀ thread other flight, (callers thread).leads = some flight →
    (callers other).leads = some flight → other = thread
  registered : ∀ thread flight, (callers thread).registered = some flight →
    shared.inflight (key thread) = some flight
  table : ∀ k flight, shared.inflight k = some flight →
    ∃ thread, key thread = k ∧ (callers thread).registered = some flight
  joined : ∀ thread flight, callers thread = .follow flight →
    flight < shared.nextFuture ∧
      ∃ outcome, shared.futures flight = some ⟨key thread, outcome⟩
  attended : ∀ thread flight, callers thread = .follow flight →
    shared.futures flight = some ⟨key thread, .pending⟩ →
      ∃ leader, (callers leader).leads = some flight

variable {shared after : SharedCache Key Value Error}
  {callers : Thread → Caller Value Error} {thread : Thread}
  {next : Caller Value Error}

omit [DecidableEq Thread] [DecidableEq Key] in
theorem Integrity.flying (integrity : Integrity key shared callers) {k : Key}
    {flight : Nat} (found : shared.inflight k = some flight) :
    flight < shared.nextFuture ∧
      shared.futures flight = some ⟨k, .pending⟩ ∧
      ∃ leader, (callers leader).leads = some flight := by
  obtain ⟨leader, rfl, registered⟩ := integrity.table k flight found
  have leads := Caller.leads_of_registered registered
  obtain ⟨bound, pending⟩ := integrity.led leader flight leads
  exact ⟨bound, pending, leader, leads⟩

omit [DecidableEq Key] in
/-- A caller leads what it led, and follows at most a registered flight. -/
theorem Integrity.still (integrity : Integrity key shared callers)
    (same : shared.SameFlights after)
    (leads : next.leads = (callers thread).leads)
    (registered : next.registered = (callers thread).registered)
    (follows : ∀ flight, next = .follow flight →
      shared.inflight (key thread) = some flight) :
    Integrity key after (Function.update callers thread next) := by
  have leads' : ∀ other, (Function.update callers thread next other).leads =
      (callers other).leads := by
    intro other
    rw [Function.update_apply]
    split
    next isThread => rw [isThread, leads]
    next => rfl
  have registered' : ∀ other,
      (Function.update callers thread next other).registered =
        (callers other).registered := by
    intro other
    rw [Function.update_apply]
    split
    next isThread => rw [isThread, registered]
    next => rfl
  obtain ⟨inflight, futures, nextFuture⟩ := same
  constructor
  · intro other flight found
    rw [leads'] at found
    rw [futures, nextFuture]
    exact integrity.led other flight found
  · intro first second flight found found'
    rw [leads'] at found found'
    exact integrity.sole first second flight found found'
  · intro other flight found
    rw [registered'] at found
    rw [inflight]
    exact integrity.registered other flight found
  · intro k flight found
    rw [inflight] at found
    obtain ⟨other, isKey, found⟩ := integrity.table k flight found
    exact ⟨other, isKey, (registered' other).trans found⟩
  · intro other flight found
    rw [futures, nextFuture]
    rw [Function.update_apply] at found
    split at found
    next isThread =>
      subst isThread
      obtain ⟨bound, pending, _⟩ := integrity.flying (follows flight found)
      exact ⟨bound, _, pending⟩
    next => exact integrity.joined other flight found
  · intro other flight found pending
    rw [futures] at pending
    rw [Function.update_apply] at found
    split at found
    next isThread =>
      obtain ⟨_, _, leader, leading⟩ :=
        integrity.flying (follows flight found)
      exact ⟨leader, (leads' leader).trans leading⟩
    next =>
      obtain ⟨leader, leading⟩ :=
        integrity.attended other flight found pending
      exact ⟨leader, (leads' leader).trans leading⟩

theorem Integrity.lead (integrity : Integrity key shared callers)
    (looks : callers thread = .lookup)
    (absent : shared.inflight (key thread) = none) :
    Integrity key (shared.register (key thread))
      (Function.update callers thread (.compute shared.nextFuture)) := by
  have older : ∀ {other flight}, (callers other).leads = some flight →
      other ≠ thread ∧ flight ≠ shared.nextFuture := by
    intro other flight found
    refine ⟨?_, (integrity.led other flight found).1.ne⟩
    rintro rfl
    rw [looks] at found
    cases found
  constructor
  · intro other flight found
    rw [Function.update_apply] at found
    split at found
    next isThread =>
      cases found
      exact ⟨Nat.lt_succ_self _, isThread ▸ Function.update_self ..⟩
    next =>
      obtain ⟨bound, pending⟩ := integrity.led other flight found
      refine ⟨Nat.lt_succ_of_lt bound, ?_⟩
      exact (Function.update_of_ne bound.ne _ _).trans pending
  · intro first second flight found found'
    rw [Function.update_apply] at found found'
    split at found
    next isThread =>
      cases found
      split at found'
      next isThread' => exact isThread'.trans isThread.symm
      next => exact absurd rfl (older found').2
    next =>
      split at found'
      next =>
        cases found'
        exact absurd rfl (older found).2
      next => exact integrity.sole first second flight found found'
  · intro other flight found
    rw [Function.update_apply] at found
    split at found
    next isThread =>
      cases found
      rw [isThread]
      exact Function.update_self ..
    next =>
      have before := integrity.registered other flight found
      have differ : key other ≠ key thread := by
        intro same
        rw [same, absent] at before
        cases before
      exact (Function.update_of_ne differ _ _).trans before
  · intro k flight found
    simp only [SharedCache.register, Function.update_apply] at found
    split at found
    next isKey =>
      cases found
      exact ⟨thread, isKey.symm, by rw [Function.update_self]; rfl⟩
    next =>
      obtain ⟨other, isKey, before⟩ := integrity.table k flight found
      have differ := (older (Caller.leads_of_registered before)).1
      exact ⟨other, isKey, by rwa [Function.update_of_ne differ]⟩
  · intro other flight found
    rw [Function.update_apply] at found
    split at found
    next => cases found
    next =>
      obtain ⟨bound, outcome, known⟩ := integrity.joined other flight found
      refine ⟨Nat.lt_succ_of_lt bound, outcome, ?_⟩
      exact (Function.update_of_ne bound.ne _ _).trans known
  · intro other flight found pending
    rw [Function.update_apply] at found
    split at found
    next => cases found
    next =>
      have bound := (integrity.joined other flight found).1
      have pending' : shared.futures flight = some ⟨key other, .pending⟩ :=
        (Function.update_of_ne bound.ne _ _).symm.trans pending
      obtain ⟨leader, leading⟩ :=
        integrity.attended other flight found pending'
      refine ⟨leader, ?_⟩
      rwa [Function.update_of_ne (older leading).1]

theorem Integrity.remove (integrity : Integrity key shared callers)
    {flight : Nat} (registered : (callers thread).registered = some flight)
    (leads : next.leads = some flight) (removed : next.registered = none) :
    Integrity key (shared.unregister (key thread))
      (Function.update callers thread next) := by
  have leading := Caller.leads_of_registered registered
  have leads' : ∀ other, (Function.update callers thread next other).leads =
      (callers other).leads := by
    intro other
    rw [Function.update_apply]
    split
    next isThread => rw [isThread, leads, leading]
    next => rfl
  have follows : ∀ other flight,
      Function.update callers thread next other = .follow flight →
        callers other = .follow flight := by
    intro other flight follows
    rw [Function.update_apply] at follows
    split at follows
    next =>
      rw [follows] at leads
      cases leads
    next => exact follows
  constructor
  · intro other flight found
    rw [leads'] at found
    exact integrity.led other flight found
  · intro first second flight found found'
    rw [leads'] at found found'
    exact integrity.sole first second flight found found'
  · intro other flight' found
    rw [Function.update_apply] at found
    split at found
    next =>
      rw [removed] at found
      cases found
    next isOther =>
      have before := integrity.registered other flight' found
      have differ : key other ≠ key thread := by
        intro same
        rw [same, integrity.registered thread flight registered] at before
        cases before
        exact isOther (integrity.sole thread other flight leading
          (Caller.leads_of_registered found))
      exact (Function.update_of_ne differ _ _).trans before
  · intro k flight' found
    simp only [SharedCache.unregister, Function.update_apply] at found
    split at found
    next => cases found
    next differ =>
      obtain ⟨other, isKey, before⟩ := integrity.table k flight' found
      have isOther : other ≠ thread := by
        rintro rfl
        exact differ isKey.symm
      exact ⟨other, isKey, by rwa [Function.update_of_ne isOther]⟩
  · intro other flight found
    exact integrity.joined other flight (follows other flight found)
  · intro other flight found pending
    obtain ⟨leader, leading⟩ :=
      integrity.attended other flight (follows other flight found) pending
    exact ⟨leader, (leads' leader).trans leading⟩

omit [DecidableEq Key] in
theorem Integrity.complete (integrity : Integrity key shared callers)
    {flight : Nat} {outcome : Outcome Value Error}
    (leads : (callers thread).leads = some flight)
    (removed : (callers thread).registered = none) (ended : next.Ended)
    (decided : outcome ≠ .pending) :
    Integrity key (shared.complete (key thread) flight outcome)
      (Function.update callers thread next) := by
  have idle : next.leads = none ∧ next.registered = none ∧
      ∀ flight, next ≠ .follow flight := by
    cases next with
    | returned | raised => exact ⟨rfl, rfl, by simp⟩
    | _ => exact ended.elim
  have others : ∀ {other flight'},
      (Function.update callers thread next other).leads = some flight' →
        (callers other).leads = some flight' ∧ flight' ≠ flight := by
    intro other flight' found
    rw [Function.update_apply] at found
    split at found
    next =>
      rw [idle.1] at found
      cases found
    next isOther =>
      refine ⟨found, ?_⟩
      rintro rfl
      exact isOther (integrity.sole thread other flight' leads found)
  have follows : ∀ {other flight'},
      Function.update callers thread next other = .follow flight' →
        callers other = .follow flight' := by
    intro other flight' follows
    rw [Function.update_apply] at follows
    split at follows
    next => exact absurd follows (idle.2.2 flight')
    next => exact follows
  constructor
  · intro other flight' found
    obtain ⟨before, differ⟩ := others found
    obtain ⟨bound, pending⟩ := integrity.led other flight' before
    exact ⟨bound, (Function.update_of_ne differ _ _).trans pending⟩
  · intro first second flight' found found'
    exact integrity.sole first second flight' (others found).1
      (others found').1
  · intro other flight' found
    rw [Function.update_apply] at found
    split at found
    next =>
      rw [idle.2.1] at found
      cases found
    next => exact integrity.registered other flight' found
  · intro k flight' found
    obtain ⟨other, isKey, before⟩ := integrity.table k flight' found
    have isOther : other ≠ thread := by
      rintro rfl
      rw [removed] at before
      cases before
    exact ⟨other, isKey, by rwa [Function.update_of_ne isOther]⟩
  · intro other flight' found
    obtain ⟨bound, before, known⟩ :=
      integrity.joined other flight' (follows found)
    refine ⟨bound, ?_⟩
    simp only [SharedCache.complete, Function.update_apply]
    split
    next same =>
      subst same
      rw [(integrity.led thread flight' leads).2, Option.some.injEq,
        Flight.mk.injEq] at known
      exact ⟨outcome, known.1 ▸ rfl⟩
    next => exact ⟨before, known⟩
  · intro other flight' found pending
    simp only [SharedCache.complete, Function.update_apply] at pending
    split at pending
    next =>
      rw [Option.some.injEq, Flight.mk.injEq] at pending
      exact absurd pending.2 decided
    next differ =>
      obtain ⟨leader, leading⟩ :=
        integrity.attended other flight' (follows found) pending
      have isOther : leader ≠ thread := by
        rintro rfl
        rw [leads, Option.some.injEq] at leading
        exact differ leading.symm
      exact ⟨leader, by rwa [Function.update_of_ne isOther]⟩

theorem Integrity.move (integrity : Integrity key shared callers)
    (move : shared.FlightMove after (key thread) (callers thread) next) :
    Integrity key after (Function.update callers thread next) := by
  cases move with
  | quiet same leads registered unfollowing =>
      apply integrity.still same leads registered
      intro flight follows
      exact absurd follows (unfollowing flight)
  | lead looks absent computes registers =>
      rw [computes, registers]
      exact integrity.lead looks absent
  | join flight looks found follows same =>
      apply integrity.still same
      · rw [looks, follows]
        rfl
      · rw [looks, follows]
        rfl
      · intro flight' follows'
        rw [follows, Caller.follow.injEq] at follows'
        exact follows' ▸ found
  | remove flight registered leads removed removes =>
      rw [removes]
      exact integrity.remove registered leads removed
  | complete flight outcome leads removed ended decided completes =>
      rw [completes]
      exact integrity.complete leads removed ended decided

variable {state after final : State Thread Key Value Error}
  {label : Label Thread Key Value Error}

def State.Integral (key : Thread → Key) (state : State Thread Key Value Error) :
    Prop :=
  Integrity key state.shared state.callers

/-- A step moves one caller, or leaves all callers and flights alone. -/
inductive Moved (key : Thread → Key) (state after : State Thread Key Value Error)
    (label : Label Thread Key Value Error) : Prop
  | none (same : state.shared.SameFlights after.shared)
      (callers : after.callers = state.callers)
  | caller (thread : Thread) (next : Caller Value Error)
      (advances : label = .advance thread ∨
        (∃ outcome, label = .compute thread outcome) ∧
          state.shared.SameFlights after.shared)
      (move : state.shared.FlightMove after.shared (key thread)
        (state.callers thread) next)
      (callers : after.callers = Function.update state.callers thread next)

omit [DecidableEq Thread] in
theorem Operation.apply_flights (now : Int)
    (shared : SharedCache Key Value Error) (operation : Operation Key Value) :
    shared.SameFlights (operation.apply now shared) := by
  cases operation <;> exact ⟨rfl, rfl, rfl⟩

theorem step_moved (stepped : step key state label = some after) :
    Moved key state after label := by
  cases label with
  | tick elapsed =>
      cases stepped
      exact .none ⟨rfl, rfl, rfl⟩ rfl
  | advance thread =>
      obtain ⟨⟨next, shared⟩, moved, rfl⟩ := Option.map_eq_some_iff.mp stepped
      exact .caller thread next (.inl rfl)
        (SharedCache.getOrCompute_move moved) rfl
  | compute thread outcome =>
      obtain ⟨next, ends, rfl⟩ := Option.map_eq_some_iff.mp stepped
      exact .caller thread next (.inr ⟨⟨outcome, rfl⟩, rfl, rfl, rfl⟩)
        (SharedCache.computed_move ends) rfl
  | other operation =>
      cases stepped
      exact .none (Operation.apply_flights _ _ operation) rfl

omit [DecidableEq Thread] [DecidableEq Key] in
theorem Integrity.congr (integrity : Integrity key shared callers)
    (same : shared.SameFlights after.shared) :
    Integrity key after.shared callers := by
  obtain ⟨inflight, futures, nextFuture⟩ := same
  constructor
  · rw [futures, nextFuture]
    exact integrity.led
  · exact integrity.sole
  · rw [inflight]
    exact integrity.registered
  · rw [inflight]
    exact integrity.table
  · rw [futures, nextFuture]
    exact integrity.joined
  · rw [futures]
    exact integrity.attended

theorem State.Integral.step (integral : state.Integral key)
    (stepped : SingleFlight.step key state label = some after) :
    after.Integral key := by
  unfold State.Integral at integral ⊢
  cases step_moved stepped with
  | none same callers =>
      rw [callers]
      exact integral.congr same
  | caller thread next advances move callers =>
      rw [callers]
      exact integral.move move

theorem integral_of_reachable
    (reachable : (system key).Reachable StepSystem.AnyStep state) :
    state.Integral key := by
  refine reachable.invariant ?_ ?_
  · rintro start ⟨unregistered, atGet, _⟩
    constructor
    · intro thread flight leads
      rw [atGet] at leads
      cases leads
    · intro thread other flight leads
      rw [atGet] at leads
      cases leads
    · intro thread flight registered
      rw [atGet] at registered
      cases registered
    · intro k flight found
      rw [unregistered] at found
      cases found
    · intro thread flight follows
      rw [atGet] at follows
      cases follows
    · intro thread flight follows
      rw [atGet] at follows
      cases follows
  · intro before label next _ integral _ stepped
    exact integral.step stepped

/-- The future of the flight is decided. -/
structure Decided (key : Key) (flight : Nat) (outcome : Outcome Value Error)
    (shared : SharedCache Key Value Error) : Prop where
  known : flight < shared.nextFuture
  future : shared.futures flight = some ⟨key, outcome⟩
  decided : outcome ≠ .pending

/-- A decided future is never written again. -/
theorem Decided.step {k : Key} {flight : Nat} {outcome : Outcome Value Error}
    (decided : Decided k flight outcome state.shared)
    (integral : state.Integral key)
    (stepped : SingleFlight.step key state label = some after) :
    Decided k flight outcome after.shared := by
  obtain ⟨known, future, notPending⟩ := decided
  have of_same : state.shared.SameFlights after.shared →
      Decided k flight outcome after.shared := by
    rintro ⟨_, futures, nextFuture⟩
    exact ⟨nextFuture ▸ known, futures ▸ future, notPending⟩
  cases step_moved stepped with
  | none same callers => exact of_same same
  | caller thread next advances move callers =>
      cases move with
      | quiet same => exact of_same same
      | join _ _ _ _ same => exact of_same same
      | lead looks absent computes registers =>
          rw [registers]
          refine ⟨Nat.lt_succ_of_lt known, ?_, notPending⟩
          exact (Function.update_of_ne known.ne _ _).trans future
      | remove _ _ _ _ removes =>
          rw [removes]
          exact ⟨known, future, notPending⟩
      | complete led _ leads _ _ _ completes =>
          rw [completes]
          have differ : flight ≠ led := by
            rintro rfl
            rw [(integral.led thread flight leads).2, Option.some.injEq,
              Flight.mk.injEq] at future
            exact notPending future.2.symm
          refine ⟨known, ?_, notPending⟩
          exact (Function.update_of_ne differ _ _).trans future

theorem step_others {thread : Thread}
    (stepped : SingleFlight.step key state label = some after)
    (notAdvance : label ≠ .advance thread)
    (notCompute : ∀ outcome, label ≠ .compute thread outcome) :
    after.callers thread = state.callers thread := by
  cases step_moved stepped with
  | none same callers => rw [callers]
  | caller other next advances move callers =>
      rw [callers]
      apply Function.update_of_ne
      rintro rfl
      rcases advances with advance | ⟨⟨outcome, compute⟩, _⟩
      · exact notAdvance advance
      · exact notCompute outcome compute

theorem step_advance {thread : Thread}
    (stepped : SingleFlight.step key state (.advance thread) = some after) :
    state.shared.getOrCompute state.now (key thread)
      (state.callers thread) =
        some (after.callers thread, after.shared) := by
  obtain ⟨⟨next, shared⟩, moved, rfl⟩ := Option.map_eq_some_iff.mp stepped
  rw [moved]
  simp only [Function.update_self]

theorem step_ended {thread : Thread}
    (stepped : SingleFlight.step key state label = some after)
    (ended : (state.callers thread).Ended) :
    after.callers thread = state.callers thread := by
  have stuck : state.shared.getOrCompute state.now (key thread)
      (state.callers thread) = none := by
    cases place : state.callers thread with
    | returned | raised => rfl
    | _ =>
        rw [place] at ended
        exact ended.elim
  apply step_others stepped
  · rintro rfl
    simp only [SingleFlight.step, stuck, Option.map_none] at stepped
    cases stepped
  · rintro outcome rfl
    cases place : state.callers thread with
    | returned | raised =>
        simp only [SingleFlight.step, place, SharedCache.computed,
          Option.map_none] at stepped
        cases stepped
    | _ =>
        rw [place] at ended
        exact ended.elim

/-- A follower of the flight, up to the end of its call. -/
def Following (key : Thread → Key) (thread : Thread) (flight : Nat)
    (state : State Thread Key Value Error) : Prop :=
  state.callers thread = .follow flight ∨
    ∃ answer, Decided (key thread) flight (.of answer) state.shared ∧
      state.callers thread = .answered true answer

theorem Following.step {thread : Thread} {flight : Nat}
    (following : Following key thread flight state)
    (integral : state.Integral key)
    (stepped : SingleFlight.step key state label = some after) :
    Following key thread flight after := by
  rcases following with follows | ⟨answer, decided, answered⟩
  · rcases eq_or_ne label (.advance thread) with rfl | differs
    · right
      obtain ⟨known, outcome, future⟩ :=
        integral.joined thread flight follows
      simp only [SingleFlight.step, follows, SharedCache.getOrCompute,
        future] at stepped
      cases outcome with
      | pending => cases stepped
      | result value =>
          cases stepped
          refine ⟨.ok value, ⟨known, future, Outcome.of_ne_pending _⟩, ?_⟩
          exact Function.update_self ..
      | exception error =>
          cases stepped
          refine ⟨.error error, ⟨known, future, Outcome.of_ne_pending _⟩, ?_⟩
          exact Function.update_self ..
    · left
      rw [step_others stepped differs, follows]
      rintro outcome rfl
      simp only [SingleFlight.step, follows, SharedCache.computed,
        Option.map_none] at stepped
      cases stepped
  · right
    have ended : (state.callers thread).Ended := by
      rw [answered]
      exact Caller.answered_ended true answer
    exact ⟨answer, decided.step integral stepped,
      (step_ended stepped ended).trans answered⟩

/-- The leader of the flight after `compute()`, up to the end of its call. -/
def Leading (key : Thread → Key) (thread : Thread) (flight : Nat)
    (answer : Except Error (Option Value))
    (state : State Thread Key Value Error) : Prop :=
  (state.callers thread).Carries flight answer ∨
    Decided (key thread) flight (.of answer) state.shared ∧
      state.callers thread = .answered false answer

theorem Leading.step {thread : Thread} {flight : Nat}
    {answer : Except Error (Option Value)}
    (leading : Leading key thread flight answer state)
    (integral : state.Integral key)
    (stepped : SingleFlight.step key state label = some after) :
    Leading key thread flight answer after := by
  rcases leading with carries | ⟨decided, answered⟩
  · have notCompute : ∀ outcome, label ≠ .compute thread outcome := by
      rintro outcome rfl
      cases place : state.callers thread with
      | compute =>
          rw [place] at carries
          exact carries
      | _ =>
          simp only [SingleFlight.step, place, SharedCache.computed,
            Option.map_none] at stepped
          cases stepped
    rcases eq_or_ne label (.advance thread) with rfl | differs
    · rcases SharedCache.carries_advance carries (step_advance stepped) with
        carries' | ⟨leads, answered, completes⟩
      · exact .inl carries'
      · right
        have known := (integral.led thread flight leads).1
        rw [completes]
        refine ⟨⟨known, ?_, Outcome.of_ne_pending answer⟩, answered⟩
        exact Function.update_self ..
    · left
      rw [step_others stepped differs notCompute]
      exact carries
  · right
    have ended : (state.callers thread).Ended := by
      rw [answered]
      exact Caller.answered_ended false answer
    exact ⟨decided.step integral stepped,
      (step_ended stepped ended).trans answered⟩

theorem Leading.of_compute {thread : Thread} {flight : Nat}
    {outcome : Except Error (Option Value × Nat)}
    (computes : state.callers thread = .compute flight)
    (stepped :
      SingleFlight.step key state (.compute thread outcome) = some after) :
    Leading key thread flight (outcome.map Prod.fst) after := by
  left
  obtain ⟨next, ends, rfl⟩ := Option.map_eq_some_iff.mp stepped
  rw [computes] at ends
  simp only [Function.update_self]
  cases outcome with
  | ok answer =>
      cases ends
      exact ⟨rfl, rfl⟩
  | error error =>
      cases ends
      exact ⟨rfl, rfl⟩

theorem run_keeps {Holds : State Thread Key Value Error → Prop}
    {schedule : List (Label Thread Key Value Error)}
    (preserved : ∀ state label after, State.Integral key state → Holds state →
      SingleFlight.step key state label = some after → Holds after)
    (integral : state.Integral key) (holds : Holds state)
    (ran : (system key).run state schedule = some final) :
    final.Integral key ∧ Holds final := by
  let Both : State Thread Key Value Error → Prop :=
    fun state => state.Integral key ∧ Holds state
  have kept : ∀ before label after, Both before →
      StepSystem.AnyStep before label →
      (system key).step before label = some after → Both after := by
    rintro before label after ⟨integral, holds⟩ _ stepped
    exact ⟨integral.step stepped,
      preserved before label after integral holds stepped⟩
  have both : Both final :=
    StepSystem.run_preserves kept (.any _ _ _) ran ⟨integral, holds⟩
  exact both

omit [DecidableEq Thread] [DecidableEq Key] in
theorem State.Integral.alone (integral : state.Integral key)
    {thread other : Thread} {flight flight' : Nat}
    (registered : (state.callers thread).registered = some flight)
    (registered' : (state.callers other).registered = some flight')
    (same : key other = key thread) : other = thread := by
  have table := integral.registered thread flight registered
  have table' := integral.registered other flight' registered'
  rw [same, table, Option.some.injEq] at table'
  subst table'
  exact integral.sole thread other flight
    (Caller.leads_of_registered registered)
    (Caller.leads_of_registered registered')

omit [DecidableEq Thread] [DecidableEq Key] in
theorem State.Integral.table_iff (integral : state.Integral key) (k : Key) :
    (state.shared.inflight k).isSome ↔ ∃! thread, key thread = k ∧
      (state.callers thread).registered.isSome := by
  constructor
  · intro found
    obtain ⟨flight, found⟩ := Option.isSome_iff_exists.mp found
    obtain ⟨thread, isKey, registered⟩ := integral.table k flight found
    refine ⟨thread, ⟨isKey, by simp [registered]⟩, ?_⟩
    rintro other ⟨isKey', registered'⟩
    obtain ⟨flight', registered'⟩ := Option.isSome_iff_exists.mp registered'
    exact integral.alone registered registered' (isKey'.trans isKey.symm)
  · rintro ⟨thread, ⟨rfl, registered⟩, _⟩
    obtain ⟨flight, registered⟩ := Option.isSome_iff_exists.mp registered
    rw [integral.registered thread flight registered]
    rfl

/-- A flight leaves the table by a step of its own leader. -/
theorem State.Integral.removed (integral : state.Integral key) {k : Key}
    {flight : Nat} (found : state.shared.inflight k = some flight)
    (stepped : SingleFlight.step key state label = some after)
    (gone : after.shared.inflight k ≠ some flight) :
    ∃ thread, label = .advance thread ∧ key thread = k ∧
      (state.callers thread).registered = some flight := by
  cases step_moved stepped with
  | none same callers => exact absurd (same.inflight ▸ found) gone
  | caller thread next advances move callers =>
      cases move with
      | quiet same => exact absurd (same.inflight ▸ found) gone
      | join _ _ _ _ same => exact absurd (same.inflight ▸ found) gone
      | lead looks absent computes registers =>
          rw [registers] at gone
          have differ : k ≠ key thread := by
            rintro rfl
            rw [absent] at found
            cases found
          exact absurd ((Function.update_of_ne differ _ _).trans found) gone
      | remove removed registered leads cleared removes =>
          have isKey : k = key thread := by
            by_contra differ
            rw [removes] at gone
            exact gone ((Function.update_of_ne differ _ _).trans found)
          have table := integral.registered thread removed registered
          rw [← isKey, found, Option.some.injEq] at table
          refine ⟨thread, ?_, isKey.symm, table ▸ registered⟩
          rcases advances with advance | ⟨_, same⟩
          · exact advance
          · exact absurd (same.inflight ▸ found) gone
      | complete led outcome leads removed ended decided completes =>
          rw [completes] at gone
          exact absurd found gone

/-- A follower ends with the outcome of the flight it joined. -/
theorem State.Integral.follower (integral : state.Integral key)
    {thread : Thread} {flight : Nat}
    (follows : state.callers thread = .follow flight)
    {schedule : List (Label Thread Key Value Error)}
    (ran : (system key).run state schedule = some final)
    (ended : (final.callers thread).Ended) :
    ∃ answer, final.callers thread = .answered true answer ∧
      final.shared.futures flight = some ⟨key thread, .of answer⟩ := by
  have kept := run_keeps
    (fun _ _ _ integral (following : Following key thread flight _) stepped =>
      following.step integral stepped) integral (.inl follows) ran
  rcases kept.2 with follows' | ⟨answer, decided, answered⟩
  · rw [follows'] at ended
    exact ended.elim
  · exact ⟨answer, answered, decided.future⟩

/-- The leader ends with what `compute()` gave it, and so does its flight. -/
theorem State.Integral.leader (integral : state.Integral key)
    {thread : Thread} {flight : Nat}
    {outcome : Except Error (Option Value × Nat)}
    (computes : state.callers thread = .compute flight)
    (stepped :
      SingleFlight.step key state (.compute thread outcome) = some after)
    {schedule : List (Label Thread Key Value Error)}
    (ran : (system key).run after schedule = some final)
    (ended : (final.callers thread).Ended) :
    final.callers thread = .answered false (outcome.map Prod.fst) ∧
      final.shared.futures flight =
        some ⟨key thread, .of (outcome.map Prod.fst)⟩ ∧
      ∀ k, final.shared.inflight k ≠ some flight := by
  have kept := run_keeps
    (fun _ _ _ integral (leading : Leading key thread flight _ _) stepped =>
      leading.step integral stepped)
    (integral.step stepped) (Leading.of_compute computes stepped) ran
  rcases kept with ⟨integral', carries | ⟨decided, answered⟩⟩
  · exact absurd ended carries.not_ended
  · refine ⟨answered, decided.future, ?_⟩
    intro k found
    have pending := (integral'.flying found).2.1
    rw [decided.future, Option.some.injEq, Flight.mk.injEq] at pending
    exact decided.decided pending.2

/-- The steps of a leader whose `compute()` fails. -/
def State.Fails (state : State Thread Key Value Error) :
    Label Thread Key Value Error → Prop
  | .compute thread (.error _) => ∃ flight,
      state.callers thread = .compute flight
  | .advance thread => ∃ flight error,
      state.callers thread = .unregisterFailed flight error ∨
        state.callers thread = .publishFailed flight error
  | _ => False

theorem State.Fails.stores_nothing (fails : state.Fails label)
    (stepped : SingleFlight.step key state label = some after) :
    after.shared.cache = state.shared.cache := by
  unfold State.Fails at fails
  split at fails
  next thread error =>
    obtain ⟨next, _, rfl⟩ := Option.map_eq_some_iff.mp stepped
    rfl
  next thread =>
    have moved := step_advance stepped
    obtain ⟨flight, error, place | place⟩ := fails
    · rw [place] at moved
      exact (congrArg SharedCache.cache
        (Prod.mk.inj (Option.some.inj moved)).2).symm
    · rw [place] at moved
      exact (congrArg SharedCache.cache
        (Prod.mk.inj (Option.some.inj moved)).2).symm
  next => exact fails.elim

/-- Flights keep their integrity for any number of callers and keys: one
`compute()` per key at a time, one registered leader per key in the table, who
alone removes its flight; followers and leader end with the outcome of their
flight; a failure stores nothing and leaves no flight. -/
theorem flight_integrity (key : Thread → Key)
    (state : State Thread Key Value Error)
    (reachable : (system key).Reachable StepSystem.AnyStep state) :
    (∀ thread other flight flight',
      state.callers thread = .compute flight →
      state.callers other = .compute flight' → key other = key thread →
      other = thread) ∧
    (∀ k, (state.shared.inflight k).isSome ↔ ∃! thread, key thread = k ∧
      (state.callers thread).registered.isSome) ∧
    (∀ thread flight, (state.callers thread).registered = some flight →
      state.shared.inflight (key thread) = some flight) ∧
    (∀ label after k flight, state.shared.inflight k = some flight →
      step key state label = some after →
      after.shared.inflight k ≠ some flight →
      ∃ thread, label = .advance thread ∧ key thread = k ∧
        (state.callers thread).registered = some flight) ∧
    (∀ thread flight, state.callers thread = .follow flight →
      (state.shared.futures flight ≠ some ⟨key thread, .pending⟩ ∨
        ∃ leader, (state.callers leader).leads = some flight) ∧
      ∀ schedule final, (system key).run state schedule = some final →
        (final.callers thread).Ended →
        ∃ answer, final.callers thread = .answered true answer ∧
          final.shared.futures flight = some ⟨key thread, .of answer⟩) ∧
    (∀ thread flight outcome after, state.callers thread = .compute flight →
      step key state (.compute thread outcome) = some after →
      ∀ schedule final, (system key).run after schedule = some final →
        (final.callers thread).Ended →
        final.callers thread = .answered false (outcome.map Prod.fst) ∧
        final.shared.futures flight =
          some ⟨key thread, .of (outcome.map Prod.fst)⟩ ∧
        ∀ k, final.shared.inflight k ≠ some flight) ∧
    (∀ label after, state.Fails label → step key state label = some after →
      after.shared.cache = state.shared.cache) ∧
    (∀ thread, state.callers thread = .lookup →
      state.shared.inflight (key thread) = none →
      ∃ after, step key state (.advance thread) = some after ∧
        after.callers thread = .compute state.shared.nextFuture) := by
  have integral := integral_of_reachable reachable
  refine ⟨?_, integral.table_iff, integral.registered, ?_, ?_, ?_, ?_, ?_⟩
  · intro thread other flight flight' computes computes' same
    have registered : (state.callers thread).registered = some flight := by
      rw [computes]
      rfl
    have registered' : (state.callers other).registered = some flight' := by
      rw [computes']
      rfl
    exact integral.alone registered registered' same
  · intro label after k flight found stepped gone
    exact integral.removed found stepped gone
  · intro thread flight follows
    refine ⟨?_, ?_⟩
    · by_cases pending :
          state.shared.futures flight = some ⟨key thread, .pending⟩
      · exact .inr (integral.attended thread flight follows pending)
      · exact .inl pending
    · intro schedule final ran ended
      exact integral.follower follows ran ended
  · intro thread flight outcome after computes stepped schedule final ran ended
    exact integral.leader computes stepped ran ended
  · intro label after fails stepped
    exact fails.stores_nothing stepped
  · intro thread looks absent
    simp only [step, looks, SharedCache.getOrCompute, absent]
    exact ⟨_, rfl, Function.update_self ..⟩

/-- A failure reaches the leader and the caller that joined its flight. -/
def failingFlight : List (Label Bool String Nat Unit) :=
  [.compute false (.error ()), .advance false, .advance false, .advance true]

theorem failingFlight_raises :
    ∃ middle final,
      (system fun _ => "/a").run twoCallers
        [.advance false, .advance true, .advance false, .advance true] =
          some middle ∧
      (system fun _ => "/a").run middle failingFlight = some final ∧
      final.callers true = .raised () ∧
      ∃ answer, final.callers true = .answered true answer ∧
        final.shared.futures 0 = some ⟨"/a", .of answer⟩ := by
  refine ⟨_, _, rfl, rfl, rfl, ?_⟩
  have start : (system fun _ => "/a").Reachable StepSystem.AnyStep twoCallers :=
    .start twoCallers_initial
  have reachable := start.of_run (.any _ _ [.advance false, .advance true,
    .advance false, .advance true]) rfl
  have integrity := flight_integrity (fun _ => "/a") _ reachable
  exact (integrity.2.2.2.2.1 true 0 rfl).2 failingFlight _ rfl trivial

end SingleFlight

end Catwalk
