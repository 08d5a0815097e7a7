import Catwalk.Cache.TTLCache
import Mathlib.Logic.Function.Basic

/-! `TTLCache.get_or_compute`, one step per critical section. -/

namespace Catwalk

/-- The state of a `concurrent.futures.Future`. -/
inductive Outcome (Value Error : Type)
  | pending
  | result (value : Option Value)
  | exception (error : Error)

/-- `key` is the key the future was registered under. -/
structure Flight (Key Value Error : Type) where
  key : Key
  outcome : Outcome Value Error

/-- A cache with its `_inflight` table and the futures created so far. -/
structure SharedCache (Key Value Error : Type) where
  cache : TTLCache Key Value
  accounted : cache.Accounted
  inflight : Key → Option Nat
  futures : Nat → Option (Flight Key Value Error)
  nextFuture : Nat

/-- Where one `get_or_compute` call stands.  The leader of a flight is between
its registration and `publish`. -/
inductive Caller (Value Error : Type)
  | get
  | lookup
  | follow (flight : Nat)
  | compute (flight : Nat)
  | put (flight : Nat) (value : Option Value) (nbytes : Nat)
  | unregister (flight : Nat) (value : Option Value)
  | publish (flight : Nat) (value : Option Value)
  | unregisterFailed (flight : Nat) (error : Error)
  | publishFailed (flight : Nat) (error : Error)
  | returned (value : Option Value) (fromCache : Bool)
  | raised (error : Error)

def Caller.Ended : Caller Value Error → Prop
  | .returned _ _ | .raised _ => True
  | _ => False

/-- The flight a caller leads, from its registration to its completion. -/
def Caller.leads : Caller Value Error → Option Nat
  | .compute flight | .put flight _ _ | .unregister flight _
  | .publish flight _ | .unregisterFailed flight _
  | .publishFailed flight _ => some flight
  | _ => none

namespace SharedCache

variable {Key Value Error : Type} [DecidableEq Key]

/-- No entries and no flights. -/
def new (ttl : Int) (maxBytes : Nat) : SharedCache Key Value Error where
  cache := .new ttl maxBytes
  accounted := rfl
  inflight := fun _ => none
  futures := fun _ => none
  nextFuture := 0

def get (shared : SharedCache Key Value Error) (now : Int) (key : Key) :
    Option Value × SharedCache Key Value Error :=
  ((shared.cache.get now key).1, { shared with
    cache := (shared.cache.get now key).2
    accounted := shared.accounted.get now key })

def expiresIn (shared : SharedCache Key Value Error) (now : Int) (key : Key) :
    Option Int × SharedCache Key Value Error :=
  ((shared.cache.expiresIn now key).1, { shared with
    cache := (shared.cache.expiresIn now key).2
    accounted := shared.accounted.expiresIn now key })

theorem put_isSome (shared : SharedCache Key Value Error) (now : Int)
    (key : Key) (value : Option Value) (nbytes : Nat) :
    (shared.cache.put now now key value nbytes).isSome := by
  obtain ⟨stored, after, put, _⟩ :=
    TTLCache.put_spec shared.accounted now now key value nbytes
  rw [put]
  rfl

/-- The cache after `put`; an accounted cache never raises. -/
def putCache (shared : SharedCache Key Value Error) (now : Int) (key : Key)
    (value : Option Value) (nbytes : Nat) : TTLCache Key Value :=
  ((shared.cache.put now now key value nbytes).get
    (shared.put_isSome now key value nbytes)).2

theorem putCache_spec (shared : SharedCache Key Value Error) (now : Int)
    (key : Key) (value : Option Value) (nbytes : Nat) :
    TTLCache.PutSpec shared.cache (shared.putCache now key value nbytes)
      now now key value nbytes := by
  obtain ⟨stored, after, put, spec⟩ :=
    TTLCache.put_spec shared.accounted now now key value nbytes
  have same : shared.putCache now key value nbytes = after := by
    simp [putCache, put]
  exact same ▸ spec

def put (shared : SharedCache Key Value Error) (now : Int) (key : Key)
    (value : Option Value) (nbytes : Nat) : SharedCache Key Value Error :=
  { shared with
    cache := shared.putCache now key value nbytes
    accounted := (shared.putCache_spec now key value nbytes).accounted }

def prune (shared : SharedCache Key Value Error) (now : Int) :
    SharedCache Key Value Error :=
  { shared with
    cache := shared.cache.prune now
    accounted := shared.accounted.pruneExpired now }

def invalidate (shared : SharedCache Key Value Error) (key : Option Key) :
    SharedCache Key Value Error :=
  { shared with
    cache := shared.cache.invalidate key
    accounted := shared.accounted.invalidate key }

/-- `flight = Future(); self._inflight[key] = flight` -/
def register (shared : SharedCache Key Value Error) (key : Key) :
    SharedCache Key Value Error :=
  { shared with
    inflight := Function.update shared.inflight key (some shared.nextFuture)
    futures := Function.update shared.futures shared.nextFuture
      (some ⟨key, .pending⟩)
    nextFuture := shared.nextFuture + 1 }

/-- `self._coalesced += 1` -/
def coalesce (shared : SharedCache Key Value Error) :
    SharedCache Key Value Error :=
  { shared with
    cache := { shared.cache with coalesced := shared.cache.coalesced + 1 }
    accounted := shared.accounted }

/-- `self._inflight.pop(key, None)` -/
def unregister (shared : SharedCache Key Value Error) (key : Key) :
    SharedCache Key Value Error :=
  { shared with inflight := Function.update shared.inflight key none }

/-- `flight.set_result(value)` or `flight.set_exception(e)` -/
def complete (shared : SharedCache Key Value Error) (key : Key) (flight : Nat)
    (outcome : Outcome Value Error) : SharedCache Key Value Error :=
  { shared with
    futures := Function.update shared.futures flight (some ⟨key, outcome⟩) }

/-- The next step of a caller outside `compute()`: each critical section, the
wait of a follower and the completion of the flight. -/
def getOrCompute (shared : SharedCache Key Value Error) (now : Int)
    (key : Key) :
    Caller Value Error →
      Option (Caller Value Error × SharedCache Key Value Error)
  | .get =>
      match shared.get now key with
      | (some value, after) => some (.returned (some value) true, after)
      | (none, after) => some (.lookup, after)
  | .lookup =>
      match shared.inflight key with
      | none => some (.compute shared.nextFuture, shared.register key)
      | some flight => some (.follow flight, shared.coalesce)
  | .follow flight =>
      match shared.futures flight with
      | some ⟨_, .result value⟩ => some (.returned value true, shared)
      | some ⟨_, .exception error⟩ => some (.raised error, shared)
      | _ => none
  | .put flight value nbytes =>
      some (.unregister flight value, shared.put now key value nbytes)
  | .unregister flight value =>
      some (.publish flight value, shared.unregister key)
  | .publish flight value =>
      some (.returned value false, shared.complete key flight (.result value))
  | .unregisterFailed flight error =>
      some (.publishFailed flight error, shared.unregister key)
  | .publishFailed flight error =>
      some (.raised error, shared.complete key flight (.exception error))
  | .compute _ | .returned _ _ | .raised _ => none

theorem getOrCompute_bounds {shared after : SharedCache Key Value Error}
    {now : Int} {key : Key} {caller next : Caller Value Error}
    (moved : shared.getOrCompute now key caller = some (next, after)) :
    after.cache.ttl = shared.cache.ttl ∧
      after.cache.maxBytes = shared.cache.maxBytes := by
  unfold getOrCompute at moved
  split at moved
  · split at moved <;> next got =>
      cases moved
      have same := congrArg Prod.snd got
      subst same
      exact TTLCache.get_bounds _ _ _
  · split at moved <;> cases moved <;> exact ⟨rfl, rfl⟩
  · split at moved <;> cases moved <;> exact ⟨rfl, rfl⟩
  · cases moved
    exact ⟨(shared.putCache_spec _ _ _ _).ttl,
      (shared.putCache_spec _ _ _ _).maxBytes⟩
  all_goals cases moved <;> exact ⟨rfl, rfl⟩

/-- What a step of a caller does to flights: only a lookup that finds none
registers one, under its own key, and only its leader completes it. -/
structure FlightStep (shared after : SharedCache Key Value Error) (key : Key)
    (caller next : Caller Value Error) : Prop where
  pending : ∀ flight other,
    after.futures flight = some ⟨other, .pending⟩ →
      next.leads = some flight ∨
        shared.futures flight = some ⟨other, .pending⟩ ∧
          caller.leads ≠ some flight
  inflight : ∀ other flight, after.inflight other = some flight →
    shared.inflight other = some flight ∨
      caller = .lookup ∧ other = key ∧ shared.inflight key = none ∧
        flight = shared.nextFuture
  leads : ∀ flight, next.leads = some flight →
    caller.leads = some flight ∨
      caller = .lookup ∧ shared.inflight key = none ∧
        flight = shared.nextFuture
  follow : ∀ flight, next = .follow flight →
    caller = .lookup ∧ shared.inflight key = some flight
  compute : ∀ flight, next = .compute flight → caller = .lookup
  lookup : next = .get ∨ next = .lookup → caller = .get

theorem unregister_inflight {shared : SharedCache Key Value Error}
    {key other : Key} {flight : Nat}
    (found : (shared.unregister key).inflight other = some flight) :
    shared.inflight other = some flight := by
  rcases eq_or_ne other key with rfl | differs
  · simp [unregister] at found
  · exact (Function.update_of_ne differs _ _).symm.trans found

omit [DecidableEq Key] in
theorem FlightStep.of_leading {shared after : SharedCache Key Value Error}
    {key : Key} {caller next : Caller Value Error} {led : Nat}
    (before : caller.leads = some led) (leads : next.leads = some led)
    (new : ∀ flight, next ≠ .compute flight)
    (futures : after.futures = shared.futures)
    (inflight : ∀ other flight, after.inflight other = some flight →
      shared.inflight other = some flight) :
    FlightStep shared after key caller next where
  pending flight other found := by
    by_cases same : flight = led
    · exact .inl (same ▸ leads)
    · refine .inr ⟨futures ▸ found, ?_⟩
      rw [before]
      exact fun equal => same (Option.some.inj equal).symm
  inflight other flight found := .inl (inflight other flight found)
  leads flight found := .inl (before.trans (leads.symm.trans found))
  follow flight same := by
    subst same
    cases leads
  compute flight same := absurd same (new flight)
  lookup same := by
    rcases same with rfl | rfl <;> cases leads

omit [DecidableEq Key] in
theorem FlightStep.of_completing {shared : SharedCache Key Value Error}
    {key : Key} {caller next : Caller Value Error} {led : Nat}
    {outcome : Outcome Value Error} (before : caller.leads = some led)
    (done : outcome ≠ .pending) (ended : next.Ended) :
    FlightStep shared (shared.complete key led outcome) key caller next where
  pending flight other found := by
    rcases eq_or_ne flight led with rfl | differs
    · simp only [complete, Function.update_self, Option.some.injEq,
        Flight.mk.injEq] at found
      exact absurd found.2 done
    · refine .inr ⟨(Function.update_of_ne differs _ _).symm.trans found, ?_⟩
      rw [before]
      exact fun equal => differs (Option.some.inj equal).symm
  inflight other flight found := .inl found
  leads flight found := by
    cases next <;> first | exact ended.elim | cases found
  follow flight same := by
    subst same
    exact ended.elim
  compute flight same := by
    subst same
    exact ended.elim
  lookup same := by
    rcases same with rfl | rfl <;> exact ended.elim

theorem getOrCompute_flights {shared after : SharedCache Key Value Error}
    {now : Int} {key : Key} {caller next : Caller Value Error}
    (moved : shared.getOrCompute now key caller = some (next, after)) :
    FlightStep shared after key caller next := by
  cases caller with
  | get =>
      simp only [getOrCompute] at moved
      split at moved
      all_goals
        next got =>
          cases moved
          have same : after = (shared.get now key).2 := by rw [got]
          subst same
          constructor <;> simp [Caller.leads, SharedCache.get]
  | lookup =>
      simp only [getOrCompute] at moved
      split at moved
      next absent =>
        cases moved
        constructor
        · intro flight other found
          by_cases newest : flight = shared.nextFuture
          · exact .inl (newest ▸ rfl)
          · refine .inr ⟨?_, by simp [Caller.leads]⟩
            exact (Function.update_of_ne newest _ _).symm.trans found
        · intro other flight found
          rcases eq_or_ne other key with rfl | differs
          · simp only [register, Function.update_self, Option.some.injEq] at found
            exact .inr ⟨rfl, rfl, absent, found.symm⟩
          · exact .inl ((Function.update_of_ne differs _ _).symm.trans found)
        · intro flight leads
          exact .inr ⟨rfl, absent, (Option.some.inj leads).symm⟩
        all_goals simp
      next flight found =>
        cases moved
        constructor <;> simp [Caller.leads, coalesce, found]
  | follow flight =>
      simp only [getOrCompute] at moved
      split at moved <;> cases moved <;> constructor <;> simp [Caller.leads]
  | put flight value nbytes =>
      cases moved
      exact .of_leading rfl rfl (by simp) rfl fun _ _ found => found
  | unregister flight value =>
      cases moved
      exact .of_leading rfl rfl (by simp) rfl fun _ _ => unregister_inflight
  | publish flight value =>
      cases moved
      exact .of_completing rfl (by simp) trivial
  | unregisterFailed flight error =>
      cases moved
      exact .of_leading rfl rfl (by simp) rfl fun _ _ => unregister_inflight
  | publishFailed flight error =>
      cases moved
      exact .of_completing rfl (by simp) trivial
  | compute | returned | raised => cases moved

/-- `compute()` ends: it returns a value with its cost, or raises. -/
def computed : Caller Value Error → Except Error (Option Value × Nat) →
    Option (Caller Value Error)
  | .compute flight, .ok (value, nbytes) => some (.put flight value nbytes)
  | .compute flight, .error error => some (.unregisterFailed flight error)
  | _, _ => none

end SharedCache

end Catwalk
