import Catwalk.Frontend.Detach

/-! Every watcher that a page has received is accounted for. -/

namespace Catwalk.Frontend

open Catwalk.Jobs (Status)
open Catwalk.Api (JobKey)

variable {Result : Type} {cfg : Jobs.Config} {state after final : State Result}
  {id : Nat} {load later new : Load}

/-- What a step may make of a load: the pair it has received stays, and once
its token is overtaken it observes nothing any more. -/
structure Load.Becomes (state : State Result) (load later : Load) : Prop where
  page : later.page = load.page
  token : later.token = load.token
  received : ∀ pair, load.received = some pair → later.received = some pair
  observed : load.token < (state.pages load.page).rollupToken →
    later.observed = load.observed

theorem Load.Becomes.refl (load : Load) : load.Becomes state load :=
  ⟨rfl, rfl, fun _ received => received, fun _ => rfl⟩

theorem becomes_set {other : Nat} {old : Load}
    (found' : state.loads[other]? = some old)
    (becomes : old.Becomes state new)
    (loads : after.loads = state.loads.set other new)
    (found : state.loads[id]? = some load) :
    ∃ later, after.loads[id]? = some later ∧ load.Becomes state later := by
  rcases eq_or_ne id other with rfl | differs
  · cases found.symm.trans found'
    refine ⟨new, ?_, becomes⟩
    rw [loads_set found loads, if_pos rfl]
  · refine ⟨load, ?_, .refl load⟩
    rw [loads_set found' loads, if_neg differs, found]

theorem becomes_same (loads : after.loads = state.loads)
    (found : state.loads[id]? = some load) :
    ∃ later, after.loads[id]? = some later ∧ load.Becomes state later := by
  rw [loads]
  exact ⟨load, found, .refl load⟩

theorem detach_loads (detach : Detach) :
    (state.detach detach).loads = state.loads := by
  unfold State.detach
  split <;> rfl

theorem Sound.becomes {label : Label Result} (sound : Sound state)
    (stepped : Frontend.step cfg state label = some after)
    (found : state.loads[id]? = some load) :
    ∃ later, after.loads[id]? = some later ∧ load.Becomes state later := by
  have placed : ∀ {old : Load} {place : LoadPlace} {client : Option (Nat × Nat)},
      old.Becomes state { old with place := place, client := client } :=
    ⟨rfl, rfl, fun _ received => received, fun _ => rfl⟩
  have receives : ∀ {other : Nat} {old : Load} {request : Request}
      {place : LoadPlace} {pair : Nat × Nat}, state.loads[other]? = some old →
      old.place = .requested request →
      old.Becomes state { old with received := some pair, place := place } := by
    intro other old request place pair found' requested
    have unreceived := (sound.shaped other old found').fresh request requested
    refine ⟨rfl, rfl, ?_, fun _ => rfl⟩
    intro pair received
    rw [unreceived] at received
    cases received
  have observes : ∀ {old : Load} {place : LoadPlace} {status : Option Status},
      old.token = (state.pages old.page).rollupToken →
      old.Becomes state { old with observed := status, place := place } := by
    intro old place status current
    refine ⟨rfl, rfl, fun _ received => received, ?_⟩
    intro overtaken
    rw [current] at overtaken
    exact absurd overtaken (lt_irrefl _)
  cases step_cases stepped with
  | navigate => exact becomes_same State.cancelActiveRollup_loads found
  | navigated | lose | manager => exact becomes_same rfl found
  | detach => exact becomes_same (detach_loads _) found
  | reload =>
      refine ⟨load, request_kept ?_, .refl load⟩
      rw [State.cancelActiveRollup_loads]
      exact found
  | returned found' | poll found' | answer found' | reject found' | submit found'
  | finish found' | timeout found' | get found' | status found' | fail found' =>
      exact becomes_set found' placed rfl found
  | late found' place => exact becomes_set found' (receives found' place) rfl found
  | accept found' place =>
      exact becomes_set found' (receives found' place) rfl found
  | observe found' place current =>
      exact becomes_set found' (observes current) rfl found
  | settle found' place current =>
      unfold State.settle
      simp only
      split <;> exact becomes_set found' (observes current) rfl found

theorem setPage_rollupToken {other : Nat} {page : Page}
    (grows : (state.pages id).rollupToken ≤ page.rollupToken) :
    (state.pages other).rollupToken ≤
      ((state.setPage id page).pages other).rollupToken := by
  rcases eq_or_ne other id with rfl | differs
  · rw [State.setPage_self]
    exact grows
  · rw [State.setPage_of_ne differs]

theorem step_rollupTokens {label : Label Result}
    (stepped : Frontend.step cfg state label = some after) (page : Nat) :
    (state.pages page).rollupToken ≤ (after.pages page).rollupToken := by
  have kept : ∀ {id other : Nat} {page : Page},
      page.rollupToken = (state.pages id).rollupToken →
      (state.pages other).rollupToken ≤
        ((state.setPage id page).pages other).rollupToken :=
    fun same => setPage_rollupToken same.ge
  cases step_cases stepped with
  | navigate =>
      unfold State.navigate
      refine le_trans ?_ State.cancelActiveRollup_grows
      exact kept rfl
  | navigated => exact kept rfl
  | reload =>
      unfold State.loadRollup
      refine le_trans ?_ request_grows
      refine le_trans ?_ State.cancelActiveRollup_grows
      exact kept rfl
  | accept => exact kept rfl
  | settle =>
      unfold State.settle
      simp only
      split
      · exact kept rfl
      · exact le_rfl
  | detach =>
      unfold State.detach
      split <;> exact le_rfl
  | returned | late | poll | observe | answer | submit | reject | finish | timeout
  | get | status | fail | lose | manager => exact le_rfl

/-- The page left before a poll of the load had read the end of its job. -/
def State.Abandons (state : State Result) (id : Nat) : Prop :=
  ∃ load, state.loads[id]? = some load ∧
    load.token < (state.pages load.page).rollupToken ∧ ¬ load.Ended

theorem State.Abandons.step {label : Label Result} (sound : Sound state)
    (abandons : state.Abandons id)
    (stepped : Frontend.step cfg state label = some after) :
    after.Abandons id := by
  obtain ⟨load, found, overtaken, unended⟩ := abandons
  obtain ⟨later, found', becomes⟩ := sound.becomes stepped found
  refine ⟨later, found', ?_, ?_⟩
  · rw [becomes.page, becomes.token]
    exact overtaken.trans_le (step_rollupTokens stepped load.page)
  · rw [Load.Ended, becomes.observed overtaken]
    exact unended

theorem State.Abandons.navigate (sound : Sound state) {path : Text}
    (found : state.loads[id]? = some load) (unended : ¬ load.Ended) :
    (state.navigate load.page path).Abandons id := by
  have bounded := sound.bounded id load found
  refine ⟨load, ?_, ?_, unended⟩
  · unfold State.navigate
    rw [State.cancelActiveRollup_loads]
    exact found
  · unfold State.navigate
    rw [State.cancelActiveRollup_page.1, State.setPage_self]
    exact Nat.lt_succ_of_le bounded

/-- An abandoned pair is in one DELETE from its 202 on. -/
theorem State.Abandons.sent_once (sound : Sound state)
    (abandons : state.Abandons id) {jobId cancelToken : Nat}
    (found : state.loads[id]? = some load)
    (received : load.received = some (jobId, cancelToken)) :
    state.sent jobId cancelToken = 1 := by
  obtain ⟨_, found', overtaken, unended⟩ := abandons
  cases found.symm.trans found'
  cases sound.fates id load jobId cancelToken found received with
  | held holds =>
      rw [holds.1] at overtaken
      exact absurd overtaken (lt_irrefl _)
  | sent _ once => exact once
  | dropped _ ended => exact absurd ended unended

/-- The pair is the active one of its page. -/
def State.Active (state : State Result) (page jobId cancelToken : Nat) : Prop :=
  (state.pages page).activeRollupJobId = some jobId ∧
    (state.pages page).activeRollupCancelToken = some cancelToken

/-- Held for the current token, sent, or dropped, and never two of these. -/
inductive AccountedFor (state : State Result) (load : Load)
    (jobId cancelToken : Nat) : Prop
  | held (active : state.Active load.page jobId cancelToken)
      (current : load.token = (state.pages load.page).rollupToken)
      (unsent : state.sent jobId cancelToken = 0) (unended : ¬ load.Ended)
  | sent (inactive : ∀ page, ¬ state.Active page jobId cancelToken)
      (once : state.sent jobId cancelToken = 1) (unended : ¬ load.Ended)
  | dropped (inactive : ∀ page, ¬ state.Active page jobId cancelToken)
      (unsent : state.sent jobId cancelToken = 0) (ended : load.Ended)

theorem Sound.holder (sound : Sound state) {page jobId cancelToken : Nat}
    (found : state.loads[id]? = some load)
    (received : load.received = some (jobId, cancelToken))
    (active : state.Active page jobId cancelToken) :
    (state.pages load.page).Holds load.token jobId cancelToken ∧
      ¬ load.Ended := by
  obtain ⟨other, holder, token, found', onPage, received', holds, unended⟩ :=
    sound.active page jobId active.1
  cases active.2.symm.trans holds.2.2
  have same := sound.owner found found' (sound.receiver found received) received'
  subst same
  cases found.symm.trans found'
  rw [onPage]
  exact ⟨holds, unended⟩

theorem Sound.accounted (sound : Sound state) {jobId cancelToken : Nat}
    (found : state.loads[id]? = some load)
    (received : load.received = some (jobId, cancelToken)) :
    AccountedFor state load jobId cancelToken := by
  cases sound.fates id load jobId cancelToken found received with
  | held holds unsent unended =>
      exact .held holds.2 holds.1.symm unsent unended
  | sent overtaken once unended =>
      refine .sent ?_ once unended
      intro page active
      have holds := (sound.holder found received active).1
      rw [holds.1] at overtaken
      exact lt_irrefl _ overtaken
  | dropped unsent ended =>
      refine .dropped ?_ unsent ended
      intro page active
      exact (sound.holder found received active).2 ended

/-- Once everybody left, the job is told, has ended, or is about to. -/
theorem Attached.left (attached : Attached state) {jobId : Nat}
    {job : Jobs.Job JobKey Result} (found : state.manager.heap jobId = some job)
    (gone : ∀ (id : Nat) (load : Load) (cancelToken : Nat),
      state.loads[id]? = some load → load.client = some (jobId, cancelToken) →
      ⟨jobId, some cancelToken⟩ ∈ state.delivered ∨ load.Ended) :
    job.cancelRequested = true ∨ job.status.Terminal ∨
      job.finished ≠ none ∧ jobId ∉ state.manager.jobs := by
  by_cases active : job.status.Active
  · cases requested : job.cancelRequested with
    | true => exact .inl rfl
    | false =>
        obtain ⟨watcher, member, pruned⟩ :=
          attached.listed.undetached found requested active
        obtain ⟨id, load, stored, client⟩ :=
          attached.watched jobId job watcher found active member
        rcases gone id load watcher stored client with delivered | ended
        · exact .inr (.inr (pruned (attached.detached jobId watcher delivered)))
        · have ended := (attached.loads id load stored).ended jobId watcher
            client ended
          exact absurd active (ended.not_active found)
  · exact .inr (.inl active)

theorem attached_of_initial (initial : Initial cfg state) : Attached state where
  listed := Jobs.listed_of_initial initial.manager
  inFlight := by simp [initial.inFlight]
  delivered := by simp [initial.delivered]
  detached := by simp [initial.delivered]
  loads := by simp [initial.loads]
  watched := by
    intro jobId job watcher found
    rw [initial.manager.heap] at found
    cases found

theorem attached_of_reachable
    (reachable : (system cfg).Reachable StepSystem.AnyStep state) :
    Attached state := by
  have initially : ∀ state : State Result, Initial cfg state →
      Sound state ∧ Attached state :=
    fun _ initial => ⟨sound_of_initial initial, attached_of_initial initial⟩
  have preserved : ∀ (before : State Result) label next,
      (system cfg).Reachable StepSystem.AnyStep before →
      Sound before ∧ Attached before → StepSystem.AnyStep before label →
      Frontend.step cfg before label = some next →
      Sound next ∧ Attached next := by
    intro before label next _ holds _ stepped
    exact ⟨holds.1.step stepped, holds.2.step holds.1 stepped⟩
  exact (reachable.invariant initially preserved).2

/-- A received pair stays received, whatever comes. -/
theorem Sound.received_run {schedule : List (Label Result)} {pair : Nat × Nat}
    (sound : Sound state) (found : state.loads[id]? = some load)
    (received : load.received = some pair)
    (ran : (system cfg).run state schedule = some final) :
    Sound final ∧ ∃ later, final.loads[id]? = some later ∧
      later.received = some pair := by
  have kept : ∀ (before : State Result) label next,
      (Sound before ∧ ∃ load, before.loads[id]? = some load ∧
        load.received = some pair) → StepSystem.AnyStep before label →
      Frontend.step cfg before label = some next →
      Sound next ∧ ∃ load, next.loads[id]? = some load ∧
        load.received = some pair := by
    intro before label next holds _ stepped
    obtain ⟨sound, load, found, received⟩ := holds
    obtain ⟨later, found', becomes⟩ := sound.becomes stepped found
    exact ⟨sound.step stepped, later, found', becomes.received pair received⟩
  have holds := StepSystem.run_preserves kept (.any _ _ _) ran
    ⟨sound, load, found, received⟩
  exact holds

theorem State.Abandons.run {schedule : List (Label Result)}
    (sound : Sound state) (abandons : state.Abandons id)
    (ran : (system cfg).run state schedule = some final) :
    Sound final ∧ final.Abandons id := by
  have kept : ∀ (before : State Result) label next,
      Sound before ∧ before.Abandons id → StepSystem.AnyStep before label →
      Frontend.step cfg before label = some next →
      Sound next ∧ next.Abandons id := by
    intro before label next holds _ stepped
    exact ⟨holds.1.step stepped, holds.2.step holds.1 stepped⟩
  have holds := StepSystem.run_preserves kept (.any _ _ _) ran ⟨sound, abandons⟩
  exact holds

/-- In every run each pair of a 202 is held for the current token, sent in one
DELETE or dropped at the end of its job; a rollup that was left before is sent
from its 202 on; and a job that all its clients have left is told to stop, has
ended, or was pruned while its status was being written. -/
theorem rollup_watchers_accounted (cfg : Jobs.Config) (state : State Result)
    (reachable : (system cfg).Reachable StepSystem.AnyStep state) :
    (∀ (id : Nat) (load : Load) (jobId cancelToken : Nat) schedule final,
      state.loads[id]? = some load →
      load.received = some (jobId, cancelToken) →
      (system cfg).run state schedule = some final →
      ∃ later, final.loads[id]? = some later ∧
        later.received = some (jobId, cancelToken) ∧
        AccountedFor final later jobId cancelToken) ∧
    (∀ (id : Nat) (load : Load) path schedule final,
      state.loads[id]? = some load → ¬ load.Ended →
      (system cfg).run state (.navigate load.page path :: schedule) =
        some final →
      ∃ later, final.loads[id]? = some later ∧ ∀ jobId cancelToken,
        later.received = some (jobId, cancelToken) →
        final.sent jobId cancelToken = 1) ∧
    (∀ jobId job, state.manager.heap jobId = some job →
      (∀ (id : Nat) (load : Load) (cancelToken : Nat),
        state.loads[id]? = some load →
        load.client = some (jobId, cancelToken) →
        ⟨jobId, some cancelToken⟩ ∈ state.delivered ∨ load.Ended) →
      job.cancelRequested = true ∨ job.status.Terminal ∨
        job.finished ≠ none ∧ jobId ∉ state.manager.jobs) := by
  have sound := sound_of_reachable reachable
  refine ⟨?_, ?_, ?_⟩
  · intro id load jobId cancelToken schedule final found received ran
    obtain ⟨sound, later, found', received'⟩ :=
      sound.received_run found received ran
    exact ⟨later, found', received', sound.accounted found' received'⟩
  · intro id load path schedule final found unended ran
    obtain ⟨next, navigated, ran⟩ := StepSystem.run_cons.mp ran
    have stepped : Frontend.step cfg state (.navigate load.page path) =
        some next := navigated
    have left : next.Abandons id := by
      cases navigated
      exact .navigate sound found unended
    obtain ⟨sound, abandons⟩ := left.run (sound.step stepped) ran
    have ⟨later, found', _⟩ := abandons
    refine ⟨later, found', ?_⟩
    intro jobId cancelToken received
    exact abandons.sent_once sound found' received
  · intro jobId job found gone
    exact (attached_of_reachable reachable).left found gone

/-! One page, its rollup of `/a/`, and the ways to leave it. -/

def sampleStart : State Unit where
  manager :=
    { now := 0
      heap := fun _ => none
      nextJob := 0
      nextWatcher := 0
      jobs := []
      byKey := fun _ => none
      slots := 2
      queue := []
      busy := 0
      closer := .open
      closeWait := false }
  pages := fun _ => .new
  loads := []
  deletes := []
  inFlight := []
  delivered := []

theorem sampleStart_initial : Initial Jobs.sampleConfig sampleStart where
  manager := ⟨fun _ => rfl, rfl, fun _ => rfl, rfl, rfl, rfl, rfl⟩
  pages := fun _ => rfl
  loads := rfl
  deletes := rfl
  inFlight := rfl
  delivered := rfl

/-- The job runs in `fn` when its request is still open. -/
def opening : List (Label Unit) :=
  [.navigate 0 ['a'], .navigated 0 0 false, .arrive 0 (.submitted false),
    .manager .take, .manager (.work 0), .manager (.work 0), .manager (.work 0)]

theorem reachable_of_run {schedule : List (Label Unit)} {final : State Unit}
    (ran : (system Jobs.sampleConfig).run sampleStart schedule = some final) :
    (system Jobs.sampleConfig).Reachable StepSystem.AnyStep final :=
  .of_run (.start sampleStart_initial) (.any _ _ _) ran

/-- The page leaves while it polls, and its DELETE arrives. -/
theorem sampleLeft_accounted :
    ∃ state final : State Unit,
      (system Jobs.sampleConfig).run state [.navigate 0 ['b'], .detach 0] =
        some final ∧
      (∃ later, final.loads[0]? = some later ∧
        later.received = some (0, 0) ∧ AccountedFor final later 0 0 ∧
        final.sent 0 0 = 1) ∧
      ∃ job, final.manager.heap 0 = some job ∧
        (job.cancelRequested = true ∨ job.status.Terminal ∨
          job.finished ≠ none ∧ 0 ∉ final.manager.jobs) := by
  have leaves : ∃ state ∈ (system Jobs.sampleConfig).run sampleStart
      (opening ++ [.timeout 0, .respond 0]),
      ∃ load ∈ state.loads[0]?, load.page = 0 ∧ load.observed = none ∧
        load.received = some (0, 0) ∧
        ∃ final ∈ (system Jobs.sampleConfig).run state
          [.navigate 0 ['b'], .detach 0],
          (∃ job ∈ final.manager.heap 0, job.status = .running) ∧
          ∀ load ∈ final.loads, ∀ pair ∈ load.client,
            ⟨pair.1, some pair.2⟩ ∈ final.delivered := by decide
  obtain ⟨state, ran, load, found, onPage, unobserved, received, final, ran',
    ⟨job, stored, _⟩, delivered⟩ := leaves
  have accounted := rollup_watchers_accounted Jobs.sampleConfig state
    (reachable_of_run ran)
  have reachable : (system Jobs.sampleConfig).Reachable StepSystem.AnyStep
      final := .of_run (reachable_of_run ran) (.any _ _ _) ran'
  have unended : ¬ load.Ended := by
    intro ended
    obtain ⟨_, observed, _⟩ := ended
    rw [unobserved] at observed
    cases observed
  obtain ⟨later, found', received', fate⟩ :=
    accounted.1 0 load 0 0 _ final found received ran'
  rw [← onPage] at ran'
  obtain ⟨same, found'', sent⟩ :=
    accounted.2.1 0 load _ _ final found unended ran'
  cases found'.symm.trans found''
  refine ⟨state, final, onPage ▸ ran', ⟨later, found', received', fate,
    sent 0 0 received'⟩, job, stored, ?_⟩
  apply (rollup_watchers_accounted Jobs.sampleConfig final reachable).2.2 0 job
    stored
  intro id load cancelToken found client
  exact .inl (delivered load (List.mem_of_getElem? found) _ client)

/-- All clients have left job 0, all DELETEs are delivered, and it runs. -/
def State.LeftRunning (state : State Unit) : Prop :=
  (∀ load ∈ state.loads,
    load.token < (state.pages load.page).rollupToken ∧
      load.observed = none) ∧
  state.inFlight = [] ∧
  ∃ job ∈ state.manager.heap 0, job.cancelRequested = false ∧
    job.status = .running

instance (state : State Unit) : Decidable state.LeftRunning :=
  inferInstanceAs (Decidable (_ ∧ _))

/-- A 202 that the network loses leaves a watcher without a DELETE; and a DELETE
does not find a job that was pruned while its worker was about to write the
status. -/
theorem left_running :
    (∃ state : State Unit,
      (system Jobs.sampleConfig).Reachable StepSystem.AnyStep state ∧
        state.LeftRunning ∧ state.deletes = []) ∧
    ∃ state : State Unit,
      (system Jobs.sampleConfig).Reachable StepSystem.AnyStep state ∧
        state.LeftRunning ∧ ∀ load ∈ state.loads, ∀ pair ∈ load.client,
          ⟨pair.1, some pair.2⟩ ∈ state.delivered := by
  constructor
  · have leaks : ∃ final ∈ (system Jobs.sampleConfig).run sampleStart
        (opening ++ [.fail 0, .respond 0, .navigate 0 ['b']]),
        final.LeftRunning ∧ final.deletes = [] := by decide
    obtain ⟨final, ran, leaks⟩ := leaks
    exact ⟨final, reachable_of_run ran, leaks⟩
  · have leaks : ∃ final ∈ (system Jobs.sampleConfig).run sampleStart
        (opening ++ [.manager (.returns 0 ()), .manager (.work 0),
          .manager (.work 0), .manager (.work 0), .timeout 0, .respond 0,
          .manager (.tick 301), .poll 0, .get 0, .polled 0,
          .navigate 0 ['b'], .detach 0]),
        final.LeftRunning ∧ ∀ load ∈ final.loads, ∀ pair ∈ load.client,
          ⟨pair.1, some pair.2⟩ ∈ final.delivered := by decide
    obtain ⟨final, ran, leaks⟩ := leaks
    exact ⟨final, reachable_of_run ran, leaks⟩

end Catwalk.Frontend
