import Catwalk.Theory.StepSystem
import Mathlib.Data.String.Basic
import Mathlib.Logic.Function.Basic
import Mathlib.Data.List.ReduceOption

/-! `VastBackend.current_epoch`: overlapping refreshes of the pinned snapshot. -/

namespace Catwalk.Epoch

structure Config where
  snapshotPin : Bool
  snapshotPoll : Int

/-- Where one `current_epoch()` call stands. -/
inductive Call
  | idle
  /-- `now` is read, the first lock section is still to come -/
  | clocked (now : Int)
  /-- the LIST is requested -/
  | listing (previous : Option String)
  /-- the LIST reflects the cluster at `moment`; its answer is not stored yet -/
  | answered (previous : Option String) (moment : Int) (fresh : Option String)
  | returned (epoch : Option String)

/-- `_epoch`, `_epoch_checked` (`none` is minus infinity) and the calls in
progress.  `held` lists every value `_epoch` has had, newest first, and
`stored` the moments reflected by the LIST answers written to it. -/
structure State (Thread : Type) where
  now : Int
  epoch : Option String
  epochChecked : Option Int
  calls : Thread → Call
  held : List (Option String)
  stored : List Int

inductive Label (Thread : Type)
  | tick (elapsed : Nat)
  | enter (thread : Thread)
  | check (thread : Thread)
  | answer (thread : Thread)
  | fail (thread : Thread)
  | store (thread : Thread)
  | dropEpoch (epoch : String)

variable {Thread : Type} [DecidableEq Thread]

def State.setCall (state : State Thread) (thread : Thread) (call : Call) :
    State Thread :=
  { state with calls := Function.update state.calls thread call }

/-- `now - self._epoch_checked < self.cfg.snapshot_poll` -/
def recentlyChecked (config : Config) (now : Int) : Option Int → Bool
  | none => false
  | some checked => now - checked < config.snapshotPoll

/-- `newestAt` is what `newest_catalog_snapshot` answers when its LIST reflects
the cluster at the given moment. -/
def step (config : Config) (newestAt : Int → Option String)
    (state : State Thread) : Label Thread → Option (State Thread)
  | .tick elapsed => some { state with now := state.now + elapsed }
  | .enter thread =>
      match state.calls thread with
      | .idle | .returned _ =>
          if config.snapshotPin then
            some (state.setCall thread (.clocked state.now))
          else
            some (state.setCall thread (.returned none))
      | _ => none
  | .check thread =>
      match state.calls thread with
      | .clocked now =>
          if recentlyChecked config now state.epochChecked then
            some (state.setCall thread (.returned state.epoch))
          else
            some { state.setCall thread (.listing state.epoch) with
              epochChecked := some now }
      | _ => none
  | .answer thread =>
      match state.calls thread with
      | .listing previous =>
          some (state.setCall thread
            (.answered previous state.now (newestAt state.now)))
      | _ => none
  | .fail thread =>
      match state.calls thread with
      | .listing previous | .answered previous _ _ =>
          some (state.setCall thread (.returned previous))
      | _ => none
  | .store thread =>
      match state.calls thread with
      | .answered _ moment fresh =>
          some { state.setCall thread (.returned fresh) with
            epoch := fresh
            held := fresh :: state.held
            stored := moment :: state.stored }
      | _ => none
  | .dropEpoch epoch =>
      if state.epoch = some epoch then
        some { state with
          epoch := none
          epochChecked := none
          held := none :: state.held }
      else
        some state

def Initial (state : State Thread) : Prop :=
  state.epoch = none ∧ state.epochChecked = none ∧
    (∀ thread, state.calls thread = .idle) ∧
    state.held = [none] ∧ state.stored = []

def system (config : Config) (newestAt : Int → Option String) :
    StepSystem (State Thread) (Label Thread) where
  init := Initial
  step := step config newestAt

/-- The newest catalog snapshot of the cluster only ever advances. -/
def Advances (newestAt : Int → Option String) : Prop :=
  ∀ earlier later, earlier ≤ later → ∀ name, newestAt earlier = some name →
    ∃ newer, newestAt later = some newer ∧ name ≤ newer

/-- No snapshot name that `_epoch` has held is newer than one it held later. -/
def NeverGoesBack (state : State Thread) : Prop :=
  state.held.reduceOption.Pairwise fun later earlier => earlier ≤ later

def NoDrop (_ : State Thread) : Label Thread → Prop
  | .dropEpoch _ => False
  | _ => True

/-- A refresh is overtaken when a LIST that reflects a later moment is already
written back and the newest snapshot advanced between the two moments. -/
def Overtaken (newestAt : Int → Option String) (state : State Thread)
    (moment : Int) : Prop :=
  ∃ overtaking ∈ state.stored,
    moment < overtaking ∧ newestAt moment ≠ newestAt overtaking

/-- No snapshot name is written back by an overtaken refresh. -/
def InOrder (newestAt : Int → Option String) (state : State Thread) :
    Label Thread → Prop
  | .store thread => ∀ previous moment name,
      state.calls thread = .answered previous moment (some name) →
        ¬ Overtaken newestAt state moment
  | _ => True

/-- Answers are what the cluster had at their moment, and the names `_epoch`
has held are those of the answers written back. -/
structure Sound (newestAt : Int → Option String) (state : State Thread) :
    Prop where
  answered : ∀ thread previous moment fresh,
    state.calls thread = .answered previous moment fresh →
      fresh = newestAt moment
  held_iff : ∀ name, some name ∈ state.held ↔
    ∃ moment ∈ state.stored, newestAt moment = some name

omit [DecidableEq Thread] in
theorem sound_of_initial {newestAt : Int → Option String}
    {state : State Thread} (initial : Initial state) :
    Sound newestAt state := by
  obtain ⟨_, _, idle, held, stored⟩ := initial
  constructor
  · intro thread previous moment fresh call
    rw [idle thread] at call
    cases call
  · simp [held, stored]

theorem Sound.setCall {newestAt : Int → Option String} {state : State Thread}
    (sound : Sound newestAt state) (thread : Thread) (call : Call)
    (answers : ∀ previous moment fresh,
      call = .answered previous moment fresh → fresh = newestAt moment) :
    Sound newestAt (state.setCall thread call) := by
  constructor
  · intro other previous moment fresh found
    by_cases same : other = thread
    · subst other
      simp only [State.setCall, Function.update_self] at found
      exact answers _ _ _ found
    · simp only [State.setCall, Function.update_of_ne same] at found
      exact sound.answered _ _ _ _ found
  · exact sound.held_iff

/-- What one step can do: a step other than a write-back or a drop moves one
call or the clock and leaves `_epoch` and its history alone. -/
inductive Outcome (newestAt : Int → Option String) (state after : State Thread) :
    Label Thread → Prop
  | moved {label : Label Thread} (thread : Thread) (call : Call)
      (answers : ∀ previous moment fresh,
        call = .answered previous moment fresh → fresh = newestAt moment)
      (calls : after.calls = Function.update state.calls thread call)
      (held : after.held = state.held) (stored : after.stored = state.stored)
      (notStore : ∀ other, label ≠ .store other) :
      Outcome newestAt state after label
  | ticked (elapsed : Nat) (calls : after.calls = state.calls)
      (held : after.held = state.held) (stored : after.stored = state.stored) :
      Outcome newestAt state after (.tick elapsed)
  | wrote (thread : Thread) (previous : Option String) (moment : Int)
      (fresh : Option String)
      (call : state.calls thread = .answered previous moment fresh)
      (calls : after.calls =
        Function.update state.calls thread (.returned fresh))
      (held : after.held = fresh :: state.held)
      (stored : after.stored = moment :: state.stored) :
      Outcome newestAt state after (.store thread)

theorem outcome_of_step {config : Config} {newestAt : Int → Option String}
    {state after : State Thread} {label : Label Thread}
    (noDrop : NoDrop state label)
    (stepped : step config newestAt state label = some after) :
    Outcome newestAt state after label := by
  cases label with
  | tick elapsed =>
      simp only [step, Option.some.injEq] at stepped
      subst after
      exact .ticked elapsed rfl rfl rfl
  | enter thread =>
      simp only [step] at stepped
      split at stepped
      · split at stepped <;> cases stepped <;>
          exact .moved thread _ (by simp) rfl rfl rfl (by simp)
      · split at stepped <;> cases stepped <;>
          exact .moved thread _ (by simp) rfl rfl rfl (by simp)
      · cases stepped
  | check thread =>
      simp only [step] at stepped
      split at stepped
      · split at stepped <;> cases stepped <;>
          exact .moved thread _ (by simp) rfl rfl rfl (by simp)
      · cases stepped
  | answer thread =>
      simp only [step] at stepped
      split at stepped
      · cases stepped
        refine .moved thread _ ?_ rfl rfl rfl (by simp)
        intro previous moment fresh same
        cases same
        rfl
      · cases stepped
  | fail thread =>
      simp only [step] at stepped
      split at stepped <;> cases stepped <;>
        exact .moved thread _ (by simp) rfl rfl rfl (by simp)
  | store thread =>
      simp only [step] at stepped
      split at stepped
      next previous moment fresh call =>
        cases stepped
        exact .wrote thread previous moment fresh call rfl rfl rfl
      next => cases stepped
  | dropEpoch epoch => exact noDrop.elim

theorem Sound.step {config : Config} {newestAt : Int → Option String}
    {state after : State Thread} {label : Label Thread}
    (sound : Sound newestAt state) (noDrop : NoDrop state label)
    (stepped : step config newestAt state label = some after) :
    Sound newestAt after := by
  cases outcome_of_step noDrop stepped with
  | moved thread call answers calls held stored _ =>
      refine ⟨?_, by rw [held, stored]; exact sound.held_iff⟩
      rw [calls]
      exact (sound.setCall thread call answers).answered
  | ticked _ calls held stored =>
      exact ⟨by rw [calls]; exact sound.answered,
        by rw [held, stored]; exact sound.held_iff⟩
  | wrote thread previous moment fresh call calls held stored =>
      constructor
      · rw [calls]
        exact (sound.setCall thread (.returned fresh) (by simp)).answered
      · intro name
        have listed := sound.answered thread previous moment fresh call
        rw [held, stored, List.mem_cons, sound.held_iff, listed]
        simp [eq_comm]

theorem Advances.le {newestAt : Int → Option String}
    (advances : Advances newestAt) {earlier later : Int} {old new : String}
    (order : earlier ≤ later) (atEarlier : newestAt earlier = some old)
    (atLater : newestAt later = some new) : old ≤ new := by
  obtain ⟨newer, found, le⟩ := advances earlier later order old atEarlier
  have : newer = new := Option.some.inj (found.symm.trans atLater)
  exact this ▸ le

omit [DecidableEq Thread] in
/-- A write-back of a name keeps the order of the held names exactly if it is
not overtaken. -/
theorem not_overtaken_iff {newestAt : Int → Option String}
    (advances : Advances newestAt) {state : State Thread}
    (sound : Sound newestAt state) {moment : Int} {name : String}
    (listed : newestAt moment = some name) :
    ¬ Overtaken newestAt state moment ↔
      ∀ earlier, some earlier ∈ state.held → earlier ≤ name := by
  constructor
  · intro inOrder earlier member
    obtain ⟨other, written, found⟩ := (sound.held_iff earlier).mp member
    rcases le_or_gt other moment with before | after
    · exact advances.le before found listed
    · by_contra newer
      refine inOrder ⟨other, written, after, ?_⟩
      intro same
      rw [listed, found] at same
      exact newer (Option.some.inj same).ge
  · rintro bounded ⟨other, written, after, differ⟩
    obtain ⟨newer, found, le⟩ := advances moment other after.le name listed
    have ge := bounded newer ((sound.held_iff newer).mpr ⟨other, written, found⟩)
    exact differ (by rw [listed, found, le_antisymm le ge])

theorem neverGoesBack_step {config : Config} {newestAt : Int → Option String}
    (advances : Advances newestAt) {state after : State Thread}
    {label : Label Thread} (sound : Sound newestAt state)
    (noDrop : NoDrop state label)
    (stepped : step config newestAt state label = some after) :
    NeverGoesBack after ↔ NeverGoesBack state ∧ InOrder newestAt state label := by
  cases outcome_of_step noDrop stepped with
  | moved _ _ _ _ held _ notStore =>
      have inOrder : InOrder newestAt state label := by
        cases label <;> first | trivial | exact absurd rfl (notStore _)
      rw [NeverGoesBack, held, ← NeverGoesBack, and_iff_left inOrder]
  | ticked _ _ held _ =>
      rw [NeverGoesBack, held, ← NeverGoesBack]
      exact (and_iff_left trivial).symm
  | wrote thread previous moment fresh call _ held _ =>
      have listed := sound.answered thread previous moment fresh call
      cases fresh with
      | none =>
          rw [NeverGoesBack, held, List.reduceOption_cons_of_none,
            ← NeverGoesBack]
          refine (and_iff_left ?_).symm
          intro _ _ name found
          rw [call] at found
          cases found
      | some name =>
          rw [NeverGoesBack, held, List.reduceOption_cons_of_some,
            List.pairwise_cons, ← NeverGoesBack, and_comm]
          refine and_congr_right fun _ => ?_
          simp only [List.reduceOption_mem_iff]
          rw [← not_overtaken_iff advances sound listed.symm]
          constructor
          · intro inOrder _ _ _ found
            rw [call] at found
            cases found
            exact inOrder
          · intro inOrder
            exact inOrder _ _ _ call

/-- A run of refreshes never takes the pinned epoch back exactly if it writes
back no overtaken answer. -/
theorem neverGoesBack_iff_inOrder (config : Config)
    {newestAt : Int → Option String} (advances : Advances newestAt)
    {start final : State Thread} {schedule : List (Label Thread)}
    (initial : (system config newestAt).init start)
    (noDrop : (system config newestAt).Meets NoDrop start schedule)
    (ran : (system config newestAt).run start schedule = some final) :
    NeverGoesBack final ↔
      (system config newestAt).Meets (InOrder newestAt) start schedule := by
  have atStart : NeverGoesBack start := by
    obtain ⟨_, _, _, held, _⟩ := initial
    simp [NeverGoesBack, held]
  have exactly := StepSystem.run_iff_meets (system config newestAt) NoDrop
    (InOrder newestAt) (Sound newestAt) NeverGoesBack
    (fun _ _ _ sound noDrop stepped => sound.step noDrop stepped)
    (fun _ _ _ sound noDrop stepped =>
      neverGoesBack_step advances sound noDrop stepped)
    (sound_of_initial initial) noDrop ran
  exact exactly.trans (and_iff_right atStart)

/-- A LIST is requested and its answer not written back yet. -/
def Call.InFlight : Call → Prop
  | .listing _ | .answered _ _ _ => True
  | _ => False

/-- No refresh starts its LIST while another one is in flight, as when every
LIST takes less than `snapshot_poll`. -/
def Serial (state : State Thread) : Label Thread → Prop
  | .check thread => ∀ other, other ≠ thread → ¬ (state.calls other).InFlight
  | _ => True

structure SerialInvariant (state : State Thread) : Prop where
  unique : ∀ first second, (state.calls first).InFlight →
    (state.calls second).InFlight → first = second
  stored_le_now : ∀ moment ∈ state.stored, moment ≤ state.now
  stored_le_answered : ∀ thread previous moment name,
    state.calls thread = .answered previous moment name →
      moment ≤ state.now ∧ ∀ earlier ∈ state.stored, earlier ≤ moment

theorem SerialInvariant.setCall {state : State Thread}
    (invariant : SerialInvariant state) (thread : Thread) (call : Call)
    (alone : call.InFlight → ∀ other, other ≠ thread →
      ¬ (state.calls other).InFlight)
    (answers : ∀ previous moment name, call = .answered previous moment name →
      moment ≤ state.now ∧ ∀ earlier ∈ state.stored, earlier ≤ moment) :
    SerialInvariant (state.setCall thread call) := by
  refine ⟨?_, invariant.stored_le_now, ?_⟩
  · intro first second firstFlies secondFlies
    simp only [State.setCall, Function.update_apply] at firstFlies secondFlies
    split at firstFlies <;> split at secondFlies
    · rename_i first_eq second_eq
      exact first_eq.trans second_eq.symm
    · exact absurd secondFlies (alone firstFlies _ ‹_›)
    · exact absurd firstFlies (alone secondFlies _ ‹_›)
    · exact invariant.unique _ _ firstFlies secondFlies
  · intro other previous moment name found
    simp only [State.setCall, Function.update_apply] at found
    split at found
    · exact answers _ _ _ found
    · exact invariant.stored_le_answered _ _ _ _ found

theorem SerialInvariant.step {config : Config}
    {newestAt : Int → Option String} {state after : State Thread}
    {label : Label Thread} (invariant : SerialInvariant state)
    (noDrop : NoDrop state label) (serial : Serial state label)
    (stepped : step config newestAt state label = some after) :
    SerialInvariant after := by
  have onlyOne : ∀ thread, (state.calls thread).InFlight →
      ∀ other, other ≠ thread → ¬ (state.calls other).InFlight :=
    fun thread flies other differ otherFlies =>
      differ (invariant.unique _ _ otherFlies flies)
  cases label with
  | tick elapsed =>
      simp only [Epoch.step, Option.some.injEq] at stepped
      subst after
      refine ⟨invariant.unique, ?_, ?_⟩
      · intro moment member
        have := invariant.stored_le_now moment member
        change moment ≤ state.now + elapsed
        omega
      · intro thread previous moment name found
        obtain ⟨le_now, bounded⟩ :=
          invariant.stored_le_answered thread previous moment name found
        refine ⟨?_, bounded⟩
        change moment ≤ state.now + elapsed
        omega
  | enter thread =>
      simp only [Epoch.step] at stepped
      split at stepped
      · split at stepped <;> cases stepped <;>
          exact invariant.setCall thread _ (by simp [Call.InFlight]) (by simp)
      · split at stepped <;> cases stepped <;>
          exact invariant.setCall thread _ (by simp [Call.InFlight]) (by simp)
      · cases stepped
  | check thread =>
      simp only [Epoch.step] at stepped
      split at stepped
      · split at stepped <;> cases stepped
        · exact invariant.setCall thread _ (by simp [Call.InFlight]) (by simp)
        · have := invariant.setCall thread (.listing state.epoch)
            (fun _ => serial) (by simp)
          exact ⟨this.unique, this.stored_le_now, this.stored_le_answered⟩
      · cases stepped
  | answer thread =>
      simp only [Epoch.step] at stepped
      split at stepped
      next previous call =>
        cases stepped
        refine invariant.setCall thread _ ?_ ?_
        · intro _
          exact onlyOne thread (by simp [call, Call.InFlight])
        · intro _ moment _ same
          cases same
          exact ⟨le_rfl, invariant.stored_le_now⟩
      next => cases stepped
  | fail thread =>
      simp only [Epoch.step] at stepped
      split at stepped <;> cases stepped <;>
        exact invariant.setCall thread _ (by simp [Call.InFlight]) (by simp)
  | store thread =>
      simp only [Epoch.step] at stepped
      split at stepped
      next previous moment fresh call =>
        cases stepped
        obtain ⟨le_now, _⟩ :=
          invariant.stored_le_answered thread previous moment fresh call
        have others := onlyOne thread (by simp [call, Call.InFlight])
        have moved := invariant.setCall thread (.returned fresh)
          (by simp [Call.InFlight]) (by simp)
        refine ⟨moved.unique, ?_, ?_⟩
        · intro earlier member
          rcases List.mem_cons.mp member with rfl | member
          · exact le_now
          · exact invariant.stored_le_now _ member
        · intro other _ _ _ found
          simp only [State.setCall, Function.update_apply] at found
          split at found
          · cases found
          · have := others other ‹_›
            simp [found, Call.InFlight] at this
      next => cases stepped
  | dropEpoch epoch => exact noDrop.elim

omit [DecidableEq Thread] in
/-- Refreshes whose LISTs do not overlap are never overtaken. -/
theorem SerialInvariant.inOrder {newestAt : Int → Option String}
    {state : State Thread} (invariant : SerialInvariant state)
    (label : Label Thread) : InOrder newestAt state label := by
  cases label with
  | store thread =>
      rintro previous moment name call ⟨overtaking, written, after, _⟩
      have := (invariant.stored_le_answered _ _ _ _ call).2 overtaking written
      omega
  | _ => trivial

theorem neverGoesBack_of_serial (config : Config)
    {newestAt : Int → Option String} (advances : Advances newestAt)
    {start final : State Thread} {schedule : List (Label Thread)}
    (initial : (system config newestAt).init start)
    (noDrop : (system config newestAt).Meets NoDrop start schedule)
    (serial : (system config newestAt).Meets Serial start schedule)
    (ran : (system config newestAt).run start schedule = some final) :
    NeverGoesBack final := by
  refine (neverGoesBack_iff_inOrder config advances initial noDrop ran).mpr ?_
  have atStart : SerialInvariant start := by
    obtain ⟨_, _, idle, _, stored⟩ := initial
    constructor <;> simp [idle, stored, Call.InFlight]
  exact StepSystem.Meets.of_invariant
    (fun _ _ _ invariant allowed stepped =>
      invariant.step allowed.1 allowed.2 stepped)
    (fun _ _ invariant _ => invariant.inOrder _) atStart (noDrop.and serial)

/-! Two refreshes whose LISTs overlap, and two that do not. -/

def fresh : State Bool where
  now := 0
  epoch := none
  epochChecked := none
  calls := fun _ => .idle
  held := [none]
  stored := []

def olderSnapshot : String := "big_catalog_2026-08-12_18_46_25_UTC"

def newerSnapshot : String := "big_catalog_2026-08-12_19_01_25_UTC"

/-- The cluster publishes `newerSnapshot` at moment 30. -/
def publishedAt30 (moment : Int) : Option String :=
  if moment < 30 then some olderSnapshot else some newerSnapshot

theorem publishedAt30_advances : Advances publishedAt30 := by
  intro earlier later order name found
  unfold publishedAt30 at *
  split at found <;> cases found
  · split
    · exact ⟨_, rfl, le_rfl⟩
    · exact ⟨_, rfl, by decide⟩
  · rw [if_neg (by omega)]
    exact ⟨_, rfl, le_rfl⟩

def pollEachMinute : Config where
  snapshotPin := true
  snapshotPoll := 60

/-- The first LIST takes longer than `snapshot_poll`. -/
def slowList : List (Label Bool) :=
  [.enter false, .check false, .answer false, .tick 60,
    .enter true, .check true, .answer true, .store true, .store false]

/-- The same refreshes when the first LIST returns at once. -/
def promptList : List (Label Bool) :=
  [.enter false, .check false, .answer false, .store false, .tick 60,
    .enter true, .check true, .answer true, .store true]

theorem slowList_goes_back :
    Advances publishedAt30 ∧
      (system pollEachMinute publishedAt30).init fresh ∧
      (system pollEachMinute publishedAt30).Meets NoDrop fresh slowList ∧
      ∃ final,
        (system pollEachMinute publishedAt30).run fresh slowList = some final ∧
          final.epoch = some olderSnapshot ∧
          final.held = [some olderSnapshot, some newerSnapshot, none] ∧
          ¬ NeverGoesBack final := by
  refine ⟨publishedAt30_advances, ⟨rfl, rfl, fun _ => rfl, rfl, rfl⟩, ?_,
    _, rfl, rfl, rfl, ?_⟩
  · simp [slowList, StepSystem.Meets, NoDrop]
  · intro inOrder
    have := List.rel_of_pairwise_cons inOrder (List.mem_singleton.mpr rfl)
    exact absurd this (by decide)

theorem promptList_in_order :
    ∃ final,
      (system pollEachMinute publishedAt30).run fresh promptList = some final ∧
        final.epoch = some newerSnapshot ∧
        (NeverGoesBack final ↔
          (system pollEachMinute publishedAt30).Meets
            (InOrder publishedAt30) fresh promptList) :=
  ⟨_, rfl, rfl, neverGoesBack_iff_inOrder pollEachMinute
    publishedAt30_advances ⟨rfl, rfl, fun _ => rfl, rfl, rfl⟩
    (by simp [promptList, StepSystem.Meets, NoDrop]) rfl⟩

end Catwalk.Epoch
