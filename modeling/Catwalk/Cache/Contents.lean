import Catwalk.Cache.Flight

/-! What holds of every value that enters a cache holds of every value that
leaves it. -/

namespace Catwalk

variable {Key Value Error : Type} [DecidableEq Key]

namespace TTLCache

/-- Every stored value is good for its key. -/
def Holds (good : Key → Option Value → Prop) (cache : TTLCache Key Value) :
    Prop :=
  ∀ key entry, cache.d.get? key = some entry → good key entry.value

variable {good : Key → Option Value → Prop} {cache : TTLCache Key Value}

theorem Holds.get (holds : cache.Holds good) (now : Int) (key : Key) :
    (cache.get now key).2.Holds good := by
  intro other entry found
  exact holds other entry ((get?_get cache now key other entry).mp found).1

theorem Holds.of_get (holds : cache.Holds good) {now : Int} {key : Key}
    {value : Value} (hit : (cache.get now key).1 = some value) :
    good key (some value) := by
  obtain ⟨entry, found, _, same⟩ := get_eq_some hit
  exact same ▸ holds key entry found

theorem Holds.expiresIn (holds : cache.Holds good) (now : Int) (key : Key) :
    (cache.expiresIn now key).2.Holds good := by
  unfold TTLCache.expiresIn
  split
  · exact holds
  · split
    · intro other entry found
      change (cache.d.erase key).get? other = some entry at found
      rw [OrderedDict.get?_erase] at found
      split at found
      · cases found
      · exact holds other entry found
    · exact holds

theorem Holds.put (holds : cache.Holds good) {after : TTLCache Key Value}
    {sweep stamp : Int} {key : Key} {value : Option Value} {nbytes : Nat}
    (spec : PutSpec cache after sweep stamp key value nbytes)
    (isGood : good key value) : after.Holds good := by
  intro other entry found
  rcases spec.of_stored other entry found with ⟨rfl, rfl⟩ | ⟨_, found, _⟩
  · exact isGood
  · exact holds other entry found

end TTLCache

namespace SharedCache

/-- The flight was registered under this key. -/
def Names (shared : SharedCache Key Value Error) (flight : Nat) (key : Key) :
    Prop :=
  ∃ outcome, shared.futures flight = some ⟨key, outcome⟩

/-- Everything stored or handed to followers is good for its key. -/
structure Holds (good : Key → Option Value → Prop)
    (shared : SharedCache Key Value Error) : Prop where
  stored : shared.cache.Holds good
  flown : ∀ flight key value,
    shared.futures flight = some ⟨key, .result value⟩ → good key value
  registered : ∀ key flight, shared.inflight key = some flight →
    shared.Names flight key
  fresh : ∀ flight, shared.nextFuture ≤ flight → shared.futures flight = none

/-- No flight changes its key. -/
def Extends (shared after : SharedCache Key Value Error) : Prop :=
  ∀ flight key, shared.Names flight key → after.Names flight key

omit [DecidableEq Key] in
theorem Extends.refl (shared : SharedCache Key Value Error) :
    Extends shared shared :=
  fun _ _ names => names

variable {good : Key → Option Value → Prop}
  {shared after : SharedCache Key Value Error}

theorem Holds.of_cache (holds : shared.Holds good)
    (stored : after.cache.Holds good)
    (inflight : after.inflight = shared.inflight)
    (futures : after.futures = shared.futures)
    (nextFuture : after.nextFuture = shared.nextFuture) :
    after.Holds good where
  stored := stored
  flown := futures ▸ holds.flown
  registered key flight found := by
    unfold Names
    rw [futures]
    exact holds.registered key flight (inflight ▸ found)
  fresh := by
    rw [futures, nextFuture]
    exact holds.fresh

omit [DecidableEq Key] in
theorem Extends.of_futures (futures : after.futures = shared.futures) :
    Extends shared after := by
  intro flight key names
  unfold Names
  rw [futures]
  exact names

theorem Holds.get (holds : shared.Holds good) (now : Int) (key : Key) :
    (shared.get now key).2.Holds good :=
  holds.of_cache (holds.stored.get now key) rfl rfl rfl

theorem Holds.expiresIn (holds : shared.Holds good) (now : Int) (key : Key) :
    (shared.expiresIn now key).2.Holds good :=
  holds.of_cache (holds.stored.expiresIn now key) rfl rfl rfl

theorem Holds.put (holds : shared.Holds good) (now : Int) {key : Key}
    {value : Option Value} (nbytes : Nat) (isGood : good key value) :
    (shared.put now key value nbytes).Holds good :=
  holds.of_cache
    (holds.stored.put (shared.putCache_spec now key value nbytes) isGood)
    rfl rfl rfl

end SharedCache

/-- The values a caller carries are good, and its flight is one of its key. -/
def Caller.Holds (good : Key → Option Value → Prop)
    (shared : SharedCache Key Value Error) (key : Key) :
    Caller Value Error → Prop
  | .get | .lookup | .raised _ => True
  | .follow flight | .compute flight | .unregisterFailed flight _
  | .publishFailed flight _ => shared.Names flight key
  | .put flight value _ | .unregister flight value | .publish flight value =>
      shared.Names flight key ∧ good key value
  | .returned value _ => good key value

variable {good : Key → Option Value → Prop}
  {shared after : SharedCache Key Value Error}

omit [DecidableEq Key] in
theorem Caller.Holds.mono {key : Key} {caller : Caller Value Error}
    (holds : caller.Holds good shared key)
    (extended : shared.Extends after) : caller.Holds good after key := by
  cases caller with
  | get | lookup | raised => trivial
  | follow | compute | unregisterFailed | publishFailed =>
      exact extended _ _ holds
  | put | unregister | publish => exact ⟨extended _ _ holds.1, holds.2⟩
  | returned => exact holds

namespace SharedCache

theorem names_register (key : Key) (shared : SharedCache Key Value Error) :
    (shared.register key).Names shared.nextFuture key :=
  ⟨.pending, Function.update_self _ _ _⟩

theorem Holds.register (holds : shared.Holds good) (key : Key) :
    (shared.register key).Holds good ∧ shared.Extends (shared.register key) := by
  have extended : shared.Extends (shared.register key) := by
    rintro flight other ⟨outcome, found⟩
    refine ⟨outcome, ?_⟩
    have older : flight ≠ shared.nextFuture := by
      rintro rfl
      rw [holds.fresh _ le_rfl] at found
      cases found
    exact (Function.update_of_ne older _ _).trans found
  refine ⟨⟨holds.stored, ?_, ?_, ?_⟩, extended⟩
  · intro flight other value found
    rcases eq_or_ne flight shared.nextFuture with rfl | differs
    · simp [SharedCache.register] at found
    · exact holds.flown flight other value
        ((Function.update_of_ne differs _ _).symm.trans found)
  · intro other flight found
    rcases eq_or_ne other key with rfl | differs
    · simp only [SharedCache.register, Function.update_self,
        Option.some.injEq] at found
      subst found
      exact names_register other shared
    · refine extended _ _ (holds.registered other flight ?_)
      exact (Function.update_of_ne differs _ _).symm.trans found
  · intro flight later
    have newer : flight ≠ shared.nextFuture :=
      (Nat.lt_of_succ_le later).ne'
    exact (Function.update_of_ne newer _ _).trans
      (holds.fresh flight (Nat.le_of_succ_le later))

theorem Holds.unregister (holds : shared.Holds good) (key : Key) :
    (shared.unregister key).Holds good := by
  refine ⟨holds.stored, holds.flown, ?_, holds.fresh⟩
  intro other flight found
  rcases eq_or_ne other key with rfl | differs
  · simp [SharedCache.unregister] at found
  · exact holds.registered other flight
      ((Function.update_of_ne differs _ _).symm.trans found)

theorem Holds.complete (holds : shared.Holds good) {key : Key} {flight : Nat}
    (names : shared.Names flight key) {outcome : Outcome Value Error}
    (isGood : ∀ value, outcome = .result value → good key value) :
    (shared.complete key flight outcome).Holds good ∧
      shared.Extends (shared.complete key flight outcome) := by
  have extended : shared.Extends (shared.complete key flight outcome) := by
    rintro led other ⟨before, found⟩
    rcases eq_or_ne led flight with rfl | differs
    · obtain ⟨_, found'⟩ := names
      rw [found, Option.some.injEq] at found'
      cases found'
      exact ⟨outcome, Function.update_self _ _ _⟩
    · exact ⟨before, (Function.update_of_ne differs _ _).trans found⟩
  refine ⟨⟨holds.stored, ?_, ?_, ?_⟩, extended⟩
  · intro led other value found
    rcases eq_or_ne led flight with rfl | differs
    · simp only [SharedCache.complete, Function.update_self,
        Option.some.injEq] at found
      cases found
      exact isGood value rfl
    · exact holds.flown led other value
        ((Function.update_of_ne differs _ _).symm.trans found)
  · intro other led found
    exact extended _ _ (holds.registered other led found)
  · intro led later
    have other : led ≠ flight := by
      rintro rfl
      obtain ⟨_, found⟩ := names
      rw [holds.fresh _ later] at found
      cases found
    exact (Function.update_of_ne other _ _).trans (holds.fresh led later)

theorem Holds.getOrCompute (holds : shared.Holds good) {now : Int} {key : Key}
    {caller next : Caller Value Error} (carries : caller.Holds good shared key)
    (moved : shared.getOrCompute now key caller = some (next, after)) :
    after.Holds good ∧ shared.Extends after ∧ next.Holds good after key := by
  cases caller with
  | get =>
      simp only [SharedCache.getOrCompute] at moved
      split at moved
      next value cached got =>
        cases moved
        have hit : (shared.get now key).1 = some value := by rw [got]
        have same : after = (shared.get now key).2 := by rw [got]
        subst same
        exact ⟨holds.get now key, .of_futures rfl, holds.stored.of_get hit⟩
      next cached got =>
        cases moved
        have same : after = (shared.get now key).2 := by rw [got]
        subst same
        exact ⟨holds.get now key, .of_futures rfl, trivial⟩
  | lookup =>
      simp only [SharedCache.getOrCompute] at moved
      split at moved
      next none =>
        cases moved
        obtain ⟨holds', extended⟩ := holds.register key
        exact ⟨holds', extended, names_register key shared⟩
      next flight found =>
        cases moved
        exact ⟨holds.of_cache holds.stored rfl rfl rfl, .of_futures rfl,
          holds.registered key flight found⟩
  | follow flight =>
      obtain ⟨outcome, named⟩ := carries
      simp only [SharedCache.getOrCompute, named] at moved
      cases outcome with
      | pending => cases moved
      | result value =>
          cases moved
          exact ⟨holds, .refl _, holds.flown flight key value named⟩
      | exception error =>
          cases moved
          exact ⟨holds, .refl _, trivial⟩
  | put flight value nbytes =>
      cases moved
      exact ⟨holds.put now nbytes carries.2, .of_futures rfl, carries⟩
  | unregister flight value =>
      cases moved
      exact ⟨holds.unregister key, .of_futures rfl, carries⟩
  | publish flight value =>
      cases moved
      obtain ⟨holds', extended⟩ := holds.complete carries.1
        (show ∀ other, Outcome.result value = .result other → good key other by
          intro other same
          cases same
          exact carries.2)
      exact ⟨holds', extended, carries.2⟩
  | unregisterFailed flight error =>
      cases moved
      exact ⟨holds.unregister key, .of_futures rfl, carries⟩
  | publishFailed flight error =>
      cases moved
      obtain ⟨holds', extended⟩ := holds.complete carries
        (show ∀ other, (Outcome.exception error : Outcome Value Error) =
            .result other → good key other by
          intro other same
          cases same)
      exact ⟨holds', extended, trivial⟩
  | compute | returned | raised => cases moved

end SharedCache

end Catwalk
