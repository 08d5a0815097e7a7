import Catwalk.Frontend.Steps

/-! What becomes of the tokens that pages receive. -/

namespace Catwalk.Frontend

open Catwalk.Jobs (Status)
open Catwalk.Api (JobKey)

variable {Result : Type}

/-- A poll of the load has read the end of its job. -/
def Load.Ended (load : Load) : Prop :=
  ∃ status, load.observed = some status ∧ status.Terminal

/-- The pair is the active one of the page's current token. -/
def Page.Holds (page : Page) (token jobId cancelToken : Nat) : Prop :=
  page.rollupToken = token ∧ page.activeRollupJobId = some jobId ∧
    page.activeRollupCancelToken = some cancelToken

/-- How often a pair was sent in a DELETE. -/
def State.sent (state : State Result) (jobId cancelToken : Nat) : Nat :=
  state.deletes.count ⟨jobId, some cancelToken⟩

/-- What became of a pair that a load received. -/
inductive Fate (state : State Result) (load : Load) (jobId cancelToken : Nat) :
    Prop
  | held
      (holds : (state.pages load.page).Holds load.token jobId cancelToken)
      (unsent : state.sent jobId cancelToken = 0) (unended : ¬ load.Ended)
  | sent (overtaken : load.token < (state.pages load.page).rollupToken)
      (once : state.sent jobId cancelToken = 1) (unended : ¬ load.Ended)
  | dropped (unsent : state.sent jobId cancelToken = 0) (ended : load.Ended)

/-- What a load knows where it stands. -/
structure Load.Shaped (load : Load) : Prop where
  fresh : ∀ request, load.place = .requested request → load.received = none
  asked : ∀ jobId cancelToken,
    load.place = .requested (.waiting jobId cancelToken) ∨
      load.place = .requested (.answered (.accepted jobId cancelToken)) →
    load.client = some (jobId, cancelToken)
  polls : ∀ jobId,
    load.place = .sleeping jobId ∨ (∃ poll, load.place = .polling jobId poll) →
    ∃ cancelToken, load.received = some (jobId, cancelToken)
  received : ∀ pair, load.received = some pair → load.client = some pair
  unended : load.place ≠ .returned → ¬ load.Ended

theorem Load.Shaped.unended_of {load : Load} {place : LoadPlace}
    (shaped : load.Shaped) (here : load.place = place)
    (waits : place ≠ .returned) : ¬ load.Ended := by
  apply shaped.unended
  rw [here]
  exact waits

/-- Tokens of a page and watchers of clients tell loads apart. -/
structure Registered (state : State Result) : Prop where
  bounded : ∀ (id : Nat) (load : Load), state.loads[id]? = some load →
    load.token ≤ (state.pages load.page).rollupToken
  tokens : ∀ (id other : Nat) (first second : Load),
    state.loads[id]? = some first → state.loads[other]? = some second →
    first.page = second.page → first.token = second.token → id = other
  issued : ∀ (id : Nat) (load : Load) (jobId watcher : Nat),
    state.loads[id]? = some load → load.client = some (jobId, watcher) →
    watcher < state.manager.nextWatcher
  clients : ∀ (id other : Nat) (first second : Load)
    (firstJob secondJob watcher : Nat),
    state.loads[id]? = some first → state.loads[other]? = some second →
    first.client = some (firstJob, watcher) →
    second.client = some (secondJob, watcher) → id = other
  shaped : ∀ (id : Nat) (load : Load), state.loads[id]? = some load →
    load.Shaped

/-- Every pair received has met its fate, and pages hold and send received
pairs only. -/
structure Sound (state : State Result) : Prop extends Registered state where
  fates : ∀ (id : Nat) (load : Load) (jobId cancelToken : Nat),
    state.loads[id]? = some load → load.received = some (jobId, cancelToken) →
    Fate state load jobId cancelToken
  sent : ∀ detach ∈ state.deletes,
    ∃ (id : Nat) (load : Load) (jobId cancelToken : Nat),
      state.loads[id]? = some load ∧
        load.received = some (jobId, cancelToken) ∧
        detach = ⟨jobId, some cancelToken⟩
  active : ∀ page jobId,
    (state.pages page).activeRollupJobId = some jobId →
    ∃ (id : Nat) (load : Load) (cancelToken : Nat),
      state.loads[id]? = some load ∧ load.page = page ∧
        load.received = some (jobId, cancelToken) ∧
        (state.pages page).Holds load.token jobId cancelToken ∧ ¬ load.Ended

variable {state after : State Result} {id : Nat} {load new : Load}

theorem Registered.receiver (registered : Registered state) {jobId : Nat}
    {cancelToken : Nat} (found : state.loads[id]? = some load)
    (received : load.received = some (jobId, cancelToken)) :
    load.client = some (jobId, cancelToken) :=
  (registered.shaped id load found).received _ received

/-- A received pair belongs to one load. -/
theorem Registered.owner (registered : Registered state) {other : Nat}
    {second : Load} {firstJob secondJob cancelToken : Nat}
    (found : state.loads[id]? = some load)
    (found' : state.loads[other]? = some second)
    (client : load.client = some (firstJob, cancelToken))
    (received : second.received = some (secondJob, cancelToken)) :
    id = other :=
  registered.clients id other load second _ _ _ found found' client
    (registered.receiver found' received)

/-- A pair whose client has not received it is in no DELETE. -/
theorem Sound.unsent (sound : Sound state) {jobId cancelToken : Nat}
    (found : state.loads[id]? = some load)
    (client : load.client = some (jobId, cancelToken))
    (unreceived : load.received = none) : state.sent jobId cancelToken = 0 := by
  rw [State.sent, List.count_eq_zero]
  intro member
  obtain ⟨other, second, job, token, found', received, same⟩ :=
    sound.sent _ member
  cases same
  have itself := sound.owner found found' client received
  subst itself
  cases found.symm.trans found'
  rw [unreceived] at received
  cases received

/-- Of all loads of a page only the one with its current token is held. -/
theorem Registered.not_held (registered : Registered state) {other : Nat}
    {second : Load} {jobId cancelToken : Nat}
    (found : state.loads[id]? = some load)
    (found' : state.loads[other]? = some second) (page : second.page = load.page)
    (differ : other ≠ id)
    (current : load.token = (state.pages load.page).rollupToken) :
    ¬ (state.pages second.page).Holds second.token jobId cancelToken := by
  intro holds
  apply differ
  apply registered.tokens other id second load found' found page
  rw [← holds.1, page, current]

theorem Fate.carry {jobId cancelToken : Nat}
    (fate : Fate state load jobId cancelToken)
    (sent : after.sent jobId cancelToken = state.sent jobId cancelToken)
    (grows : (state.pages load.page).rollupToken ≤
      (after.pages load.page).rollupToken)
    (holds : (state.pages load.page).Holds load.token jobId cancelToken →
      (after.pages load.page).Holds load.token jobId cancelToken) :
    Fate after load jobId cancelToken := by
  cases fate with
  | held held unsent unended => exact .held (holds held) (sent.trans unsent) unended
  | sent overtaken once unended =>
      exact .sent (overtaken.trans_le grows) (sent.trans once) unended
  | dropped unsent ended => exact .dropped (sent.trans unsent) ended

theorem loads_set {old : Load} (found : state.loads[id]? = some old)
    (loads : after.loads = state.loads.set id new) (other : Nat) :
    after.loads[other]? = if other = id then some new else state.loads[other]? := by
  have inside : id < state.loads.length := (List.getElem?_eq_some_iff.mp found).1
  rw [loads, List.getElem?_set]
  by_cases same : id = other
  · rw [if_pos same, if_pos same.symm, if_pos inside]
  · rw [if_neg same, if_neg (Ne.symm same)]

/-- One load changes, but not its page or token, and keeps what it received. -/
structure Turned (state after : State Result) (id : Nat) (load new : Load) :
    Prop where
  found : state.loads[id]? = some load
  loads : after.loads = state.loads.set id new
  page : new.page = load.page
  token : new.token = load.token
  rollupTokens : ∀ page,
    (after.pages page).rollupToken = (state.pages page).rollupToken
  watchers : state.manager.nextWatcher ≤ after.manager.nextWatcher
  client : new.client = load.client ∨ new.client = none ∨
    ∃ jobId, new.client = some (jobId, state.manager.nextWatcher) ∧
      state.manager.nextWatcher < after.manager.nextWatcher
  received : ∀ pair, load.received = some pair → new.received = some pair
  shaped : new.Shaped

namespace Turned

theorem other (turned : Turned state after id load new) {other : Nat}
    {second : Load} (found : after.loads[other]? = some second) :
    other = id ∧ second = new ∨
      other ≠ id ∧ state.loads[other]? = some second := by
  rw [loads_set turned.found turned.loads] at found
  split at found
  next same =>
    cases found
    exact .inl ⟨same, rfl⟩
  next differ => exact .inr ⟨differ, found⟩

theorem kept (turned : Turned state after id load new) {other : Nat}
    {second : Load} (found : state.loads[other]? = some second)
    (differ : other ≠ id) : after.loads[other]? = some second := by
  rw [loads_set turned.found turned.loads, if_neg differ, found]

theorem self (turned : Turned state after id load new) :
    after.loads[id]? = some new := by
  rw [loads_set turned.found turned.loads, if_pos rfl]

theorem origin (turned : Turned state after id load new) {other : Nat}
    {second : Load} (found : after.loads[other]? = some second) :
    ∃ first, state.loads[other]? = some first ∧ second.page = first.page ∧
      second.token = first.token ∧
      (second.client = first.client ∨ second.client = none ∨
        other = id ∧ ∃ jobId,
          second.client = some (jobId, state.manager.nextWatcher) ∧
            state.manager.nextWatcher < after.manager.nextWatcher) := by
  rcases turned.other found with ⟨rfl, rfl⟩ | ⟨_, found⟩
  · refine ⟨load, turned.found, turned.page, turned.token, ?_⟩
    rcases turned.client with same | none | fresh
    · exact .inl same
    · exact .inr (.inl none)
    · exact .inr (.inr ⟨rfl, fresh⟩)
  · exact ⟨second, found, rfl, rfl, .inl rfl⟩

theorem receives (turned : Turned state after id load new) {other : Nat}
    {second : Load} {pair : Nat × Nat}
    (found : state.loads[other]? = some second)
    (received : second.received = some pair) :
    ∃ later, after.loads[other]? = some later ∧ later.received = some pair := by
  rcases eq_or_ne other id with rfl | differs
  · cases turned.found.symm.trans found
    exact ⟨new, turned.self, turned.received _ received⟩
  · exact ⟨second, turned.kept found differs, received⟩

end Turned

theorem Registered.turned (registered : Registered state)
    (turned : Turned state after id load new) : Registered after where
  bounded := by
    intro other second found
    obtain ⟨first, before, page, token, _⟩ := turned.origin found
    rw [turned.rollupTokens, page, token]
    exact registered.bounded other first before
  tokens := by
    intro other third first second found found' page token
    obtain ⟨first', before, page₁, token₁, _⟩ := turned.origin found
    obtain ⟨second', before', page₂, token₂, _⟩ := turned.origin found'
    apply registered.tokens other third first' second' before before'
    · rw [← page₁, page, page₂]
    · rw [← token₁, token, token₂]
  issued := by
    intro other second jobId watcher found client
    obtain ⟨first, before, _, _, same | none | ⟨_, job, fresh, grows⟩⟩ :=
      turned.origin found
    · rw [same] at client
      exact (registered.issued other first _ _ before client).trans_le
        turned.watchers
    · rw [none] at client
      cases client
    · rw [fresh] at client
      cases client
      exact grows
  clients := by
    intro other third first second firstJob secondJob watcher found found'
      client client'
    obtain ⟨first', before, _, _, origin⟩ := turned.origin found
    obtain ⟨second', before', _, _, origin'⟩ := turned.origin found'
    have older : ∀ {other : Nat} {load : Load} {job : Nat},
        state.loads[other]? = some load → load.client = some (job, watcher) →
        watcher ≠ state.manager.nextWatcher := by
      intro other load job found client
      exact (registered.issued other load job watcher found client).ne
    rcases origin with same | none | ⟨rfl, job, fresh, _⟩
    · rw [same] at client
      rcases origin' with same' | none' | ⟨_, job', fresh', _⟩
      · rw [same'] at client'
        exact registered.clients other third first' second' _ _ _ before before'
          client client'
      · rw [none'] at client'
        cases client'
      · rw [fresh'] at client'
        cases client'
        exact (older before client rfl).elim
    · rw [none] at client
      cases client
    · rw [fresh] at client
      cases client
      rcases origin' with same' | none' | ⟨same, _⟩
      · rw [same'] at client'
        exact (older before' client' rfl).elim
      · rw [none'] at client'
        cases client'
      · exact same.symm
  shaped := by
    intro other second found
    rcases turned.other found with ⟨_, rfl⟩ | ⟨_, found⟩
    · exact turned.shaped
    · exact registered.shaped other second found

/-- Where the other loads keep their fates, the turned one decides. -/
theorem Sound.turned (sound : Sound state)
    (turned : Turned state after id load new)
    (others : ∀ (other : Nat) (second : Load) (jobId cancelToken : Nat),
      other ≠ id → state.loads[other]? = some second →
      second.received = some (jobId, cancelToken) →
      Fate state second jobId cancelToken → Fate after second jobId cancelToken)
    (own : ∀ jobId cancelToken, new.received = some (jobId, cancelToken) →
      Fate after new jobId cancelToken)
    (sends : ∀ detach ∈ after.deletes, detach ∈ state.deletes ∨
      ∃ jobId cancelToken, new.received = some (jobId, cancelToken) ∧
        detach = ⟨jobId, some cancelToken⟩)
    (active : ∀ page jobId,
      (after.pages page).activeRollupJobId = some jobId →
      after.pages page = state.pages page ∧
          (load.page = page → ¬ load.Ended → ¬ new.Ended) ∨
        new.page = page ∧ ¬ new.Ended ∧
          ∃ cancelToken, new.received = some (jobId, cancelToken) ∧
            (after.pages page).Holds new.token jobId cancelToken) :
    Sound after where
  toRegistered := sound.toRegistered.turned turned
  fates := by
    intro other second jobId cancelToken found received
    rcases turned.other found with ⟨_, rfl⟩ | ⟨differ, found⟩
    · exact own jobId cancelToken received
    · exact others other second jobId cancelToken differ found received
        (sound.fates other second jobId cancelToken found received)
  sent := by
    intro detach member
    rcases sends detach member with member | ⟨jobId, cancelToken, received, same⟩
    · obtain ⟨other, second, jobId, cancelToken, found, received, same⟩ :=
        sound.sent detach member
      obtain ⟨later, found, received⟩ := turned.receives found received
      exact ⟨other, later, jobId, cancelToken, found, received, same⟩
    · exact ⟨id, new, jobId, cancelToken, turned.self, received, same⟩
  active := by
    intro page jobId isActive
    rcases active page jobId isActive with
      ⟨same, unended'⟩ | ⟨rfl, unended, cancelToken, received, holds⟩
    · rw [same] at isActive
      obtain ⟨other, second, cancelToken, found, onPage, received, holds,
        unended⟩ := sound.active page jobId isActive
      rw [← same] at holds
      by_cases self : other = id
      · subst self
        cases turned.found.symm.trans found
        rw [← turned.token] at holds
        exact ⟨other, new, cancelToken, turned.self, turned.page.trans onPage,
          turned.received _ received, holds, unended' onPage unended⟩
      · exact ⟨other, second, cancelToken, turned.kept found self, onPage,
          received, holds, unended⟩
    · exact ⟨id, new, cancelToken, turned.self, rfl, received, holds, unended⟩

theorem Sound.quiet (sound : Sound state)
    (turned : Turned state after id load new)
    (pages : after.pages = state.pages) (deletes : after.deletes = state.deletes)
    (received : new.received = load.received)
    (ended : new.Ended ↔ load.Ended) : Sound after := by
  have carry : ∀ (second : Load) (jobId cancelToken : Nat),
      Fate state second jobId cancelToken →
      Fate after second jobId cancelToken := by
    intro second jobId cancelToken fate
    apply fate.carry
    · rw [State.sent, State.sent, deletes]
    · rw [pages]
    · rw [pages]
      exact fun holds => holds
  apply sound.turned turned
  · intro other second jobId cancelToken _ _ _ fate
    exact carry second jobId cancelToken fate
  · intro jobId cancelToken received'
    rw [received] at received'
    have fate := carry load jobId cancelToken
      (sound.fates id load jobId cancelToken turned.found received')
    cases fate with
    | held holds unsent unended =>
        refine .held ?_ unsent (unended ∘ ended.mp)
        rw [turned.page, turned.token]
        exact holds
    | sent overtaken once unended =>
        refine .sent ?_ once (unended ∘ ended.mp)
        rw [turned.page, turned.token]
        exact overtaken
    | dropped unsent isEnded => exact .dropped unsent (ended.mpr isEnded)
  · intro detach member
    rw [deletes] at member
    exact .inl member
  · intro page jobId _
    exact .inl ⟨by rw [pages], fun _ unended => unended ∘ ended.mp⟩

theorem Registered.mono (registered : Registered state)
    (loads : after.loads = state.loads)
    (grows : ∀ page,
      (state.pages page).rollupToken ≤ (after.pages page).rollupToken)
    (watchers : state.manager.nextWatcher ≤ after.manager.nextWatcher) :
    Registered after where
  bounded := by
    rw [loads]
    intro id load found
    exact (registered.bounded id load found).trans (grows load.page)
  tokens := by
    rw [loads]
    exact registered.tokens
  issued := by
    rw [loads]
    intro id load jobId watcher found client
    exact (registered.issued id load jobId watcher found client).trans_le watchers
  clients := by
    rw [loads]
    exact registered.clients
  shaped := by
    rw [loads]
    exact registered.shaped

/-- The pages agree on their rollups. -/
structure Page.Same (page after : Page) : Prop where
  rollupToken : after.rollupToken = page.rollupToken
  activeRollupJobId : after.activeRollupJobId = page.activeRollupJobId
  activeRollupCancelToken :
    after.activeRollupCancelToken = page.activeRollupCancelToken

theorem Page.Same.refl (page : Page) : page.Same page := ⟨rfl, rfl, rfl⟩

theorem Page.Same.holds {page after : Page} {token jobId cancelToken : Nat}
    (same : page.Same after) (holds : page.Holds token jobId cancelToken) :
    after.Holds token jobId cancelToken := by
  obtain ⟨current, active, cancels⟩ := holds
  refine ⟨?_, ?_, ?_⟩
  · rw [same.rollupToken, current]
  · rw [same.activeRollupJobId, active]
  · rw [same.activeRollupCancelToken, cancels]

/-- The server moves on, or a page does without its rollups. -/
theorem Sound.framed (sound : Sound state) (loads : after.loads = state.loads)
    (deletes : after.deletes = state.deletes)
    (pages : ∀ page, (state.pages page).Same (after.pages page))
    (watchers : state.manager.nextWatcher ≤ after.manager.nextWatcher) :
    Sound after where
  toRegistered := sound.toRegistered.mono loads
    (fun page => (pages page).rollupToken.ge) watchers
  fates := by
    rw [loads]
    intro id load jobId cancelToken found received
    apply (sound.fates id load jobId cancelToken found received).carry
    · rw [State.sent, State.sent, deletes]
    · exact (pages load.page).rollupToken.ge
    · exact (pages load.page).holds
  sent := by
    rw [loads, deletes]
    exact sound.sent
  active := by
    rw [loads]
    intro page jobId isActive
    rw [(pages page).activeRollupJobId] at isActive
    obtain ⟨id, load, cancelToken, found, onPage, received, holds, unended⟩ :=
      sound.active page jobId isActive
    exact ⟨id, load, cancelToken, found, onPage, received,
      (pages page).holds holds, unended⟩

theorem State.sent_cons {detach : Detach} {jobId cancelToken : Nat}
    (deletes : after.deletes = detach :: state.deletes) :
    after.sent jobId cancelToken = state.sent jobId cancelToken +
      if detach = ⟨jobId, some cancelToken⟩ then 1 else 0 := by
  simp only [State.sent, deletes, List.count_cons, beq_iff_eq]

@[simp] theorem State.setPage_self {page : Page} :
    (state.setPage id page).pages id = page := Function.update_self _ _ _

theorem State.setPage_of_ne {other : Nat} {page : Page} (differ : other ≠ id) :
    (state.setPage id page).pages other = state.pages other :=
  Function.update_of_ne differ _ _

section Cancel

variable {page other : Nat}

@[simp] theorem State.cancelActiveRollup_loads :
    (state.cancelActiveRollup page).loads = state.loads := by
  unfold State.cancelActiveRollup
  simp only
  split <;> rfl

@[simp] theorem State.cancelActiveRollup_manager :
    (state.cancelActiveRollup page).manager = state.manager := by
  unfold State.cancelActiveRollup
  simp only
  split <;> rfl

theorem State.cancelActiveRollup_pages (differ : other ≠ page) :
    (state.cancelActiveRollup page).pages other = state.pages other := by
  unfold State.cancelActiveRollup
  simp only
  split <;> exact Function.update_of_ne differ _ _

theorem State.cancelActiveRollup_page :
    ((state.cancelActiveRollup page).pages page).rollupToken =
        (state.pages page).rollupToken + 1 ∧
      ((state.cancelActiveRollup page).pages page).activeRollupJobId = none := by
  unfold State.cancelActiveRollup
  simp only
  split
  next none => simp [State.setPage, none]
  next => simp [State.setPage]

theorem State.cancelActiveRollup_inactive
    (inactive : (state.pages page).activeRollupJobId = none) :
    (state.cancelActiveRollup page).deletes = state.deletes := by
  unfold State.cancelActiveRollup
  simp only [inactive]
  rfl

theorem State.cancelActiveRollup_active {jobId : Nat}
    (active : (state.pages page).activeRollupJobId = some jobId) :
    (state.cancelActiveRollup page).deletes =
      ⟨jobId, (state.pages page).activeRollupCancelToken⟩ :: state.deletes := by
  unfold State.cancelActiveRollup
  simp only [active]
  rfl

theorem State.cancelActiveRollup_grows :
    (state.pages other).rollupToken ≤
      ((state.cancelActiveRollup page).pages other).rollupToken := by
  rcases eq_or_ne other page with rfl | differs
  · rw [State.cancelActiveRollup_page.1]
    exact Nat.le_succ _
  · rw [State.cancelActiveRollup_pages differs]

/-- The active pair of the page, if there is one, is sent, and it alone. -/
theorem Sound.cancelActiveRollup_fate (sound : Sound state)
    {jobId cancelToken : Nat} (found : state.loads[id]? = some load)
    (received : load.received = some (jobId, cancelToken)) :
    Fate (state.cancelActiveRollup page) load jobId cancelToken := by
  have fate := sound.fates id load jobId cancelToken found received
  have elsewhere : load.page ≠ page →
      (state.pages load.page).Holds load.token jobId cancelToken →
      ((state.cancelActiveRollup page).pages load.page).Holds load.token
        jobId cancelToken := by
    intro differ holds
    rw [State.cancelActiveRollup_pages differ]
    exact holds
  cases isActive : (state.pages page).activeRollupJobId with
  | none =>
      apply fate.carry
      · rw [State.sent, State.sent, State.cancelActiveRollup_inactive isActive]
      · exact State.cancelActiveRollup_grows
      · intro holds
        apply elsewhere _ holds
        intro here
        rw [here] at holds
        exact nomatch isActive.symm.trans holds.2.1
  | some activeId =>
      obtain ⟨holder, held, activeToken, foundHeld, here, receivedHeld, holds,
        unended⟩ := sound.active page activeId isActive
      have deletes := State.cancelActiveRollup_active isActive
      rw [holds.2.2] at deletes
      have count : (state.cancelActiveRollup page).sent jobId cancelToken = _ :=
        State.sent_cons deletes
      rcases eq_or_ne id holder with rfl | differs
      · cases found.symm.trans foundHeld
        cases received.symm.trans receivedHeld
        rw [if_pos rfl] at count
        cases fate with
        | held _ unsent =>
            refine .sent ?_ (by rw [count, unsent]) unended
            rw [here, State.cancelActiveRollup_page.1, holds.1]
            exact Nat.lt_succ_self _
        | sent overtaken =>
            rw [here, holds.1] at overtaken
            exact absurd overtaken (lt_irrefl _)
        | dropped _ ended => exact absurd ended unended
      · have differ : activeToken ≠ cancelToken := by
          intro same
          subst same
          apply differs
          exact sound.owner found foundHeld
            (sound.receiver found received) receivedHeld
        rw [if_neg] at count
        · apply fate.carry count State.cancelActiveRollup_grows
          intro holds'
          apply elsewhere _ holds'
          intro there
          rw [there] at holds'
          exact differ (Option.some.inj (holds.2.2.symm.trans holds'.2.2))
        · intro same
          cases same
          exact differ rfl

theorem Sound.cancelActiveRollup (sound : Sound state) (page : Nat) :
    Sound (state.cancelActiveRollup page) where
  toRegistered := sound.toRegistered.mono State.cancelActiveRollup_loads
    (fun _ => State.cancelActiveRollup_grows)
    (by rw [State.cancelActiveRollup_manager])
  fates := by
    rw [State.cancelActiveRollup_loads]
    intro id load jobId cancelToken found received
    exact sound.cancelActiveRollup_fate found received
  sent := by
    rw [State.cancelActiveRollup_loads]
    intro detach member
    cases isActive : (state.pages page).activeRollupJobId with
    | none =>
        rw [State.cancelActiveRollup_inactive isActive] at member
        exact sound.sent detach member
    | some activeId =>
        rw [State.cancelActiveRollup_active isActive] at member
        rcases List.mem_cons.mp member with rfl | member
        · obtain ⟨holder, held, activeToken, found, _, received, holds, _⟩ :=
            sound.active page activeId isActive
          rw [holds.2.2]
          exact ⟨holder, held, activeId, activeToken, found, received, rfl⟩
        · exact sound.sent detach member
  active := by
    rw [State.cancelActiveRollup_loads]
    intro other jobId isActive
    rcases eq_or_ne other page with rfl | differs
    · rw [State.cancelActiveRollup_page.2] at isActive
      cases isActive
    · rw [State.cancelActiveRollup_pages differs] at isActive ⊢
      exact sound.active other jobId isActive

end Cancel

theorem Load.Shaped.returned (place : load.place = .returned)
    (received : ∀ pair, load.received = some pair → load.client = some pair) :
    load.Shaped where
  fresh := by
    intro request requested
    rw [place] at requested
    cases requested
  asked := by
    intro jobId cancelToken asked
    rw [place] at asked
    rcases asked with asked | asked <;> cases asked
  polls := by
    intro jobId polls
    rw [place] at polls
    rcases polls with polls | ⟨poll, polls⟩ <;> cases polls
  received := received
  unended := fun waits => absurd place waits

theorem Load.Shaped.request {request : Request}
    (place : load.place = .requested request) (received : load.received = none)
    (unended : ¬ load.Ended)
    (asked : ∀ jobId cancelToken, request = .waiting jobId cancelToken ∨
      request = .answered (.accepted jobId cancelToken) →
      load.client = some (jobId, cancelToken)) : load.Shaped where
  fresh := fun _ _ => received
  asked := by
    intro jobId cancelToken at_
    rw [place] at at_
    apply asked
    rcases at_ with same | same <;> cases same
    · exact .inl rfl
    · exact .inr rfl
  polls := by
    intro jobId polls
    rw [place] at polls
    rcases polls with polls | ⟨poll, polls⟩ <;> cases polls
  received := by
    intro pair same
    rw [received] at same
    cases same
  unended := fun _ => unended

theorem Load.Shaped.polling {jobId cancelToken : Nat}
    (place : load.place = .sleeping jobId ∨
      ∃ poll, load.place = .polling jobId poll)
    (received : load.received = some (jobId, cancelToken))
    (client : load.client = some (jobId, cancelToken))
    (unended : ¬ load.Ended) : load.Shaped where
  fresh := by
    intro request requested
    rw [requested] at place
    rcases place with place | ⟨poll, place⟩ <;> cases place
  asked := by
    intro jobId cancelToken asked
    rcases place with place | ⟨poll, place⟩
    all_goals
      rw [place] at asked
      rcases asked with asked | asked <;> cases asked
  polls := by
    intro other polls
    refine ⟨cancelToken, ?_⟩
    rw [received]
    rcases place with place | ⟨poll, place⟩
    all_goals
      rw [place] at polls
      rcases polls with polls | ⟨poll', polls⟩ <;> cases polls
      rfl
  received := by
    intro pair same
    rw [client, ← received, same]
  unended := fun _ => unended

section Request

variable {page other : Nat} {path : Text} {second : Load}

theorem request_loads
    (found : (state.request page path).loads[other]? = some second) :
    state.loads[other]? = some second ∨
      other = state.loads.length ∧ second =
        ⟨page, path, (state.pages page).rollupToken + 1, .requested .sent,
          none, none, none⟩ := by
  have found : (state.loads ++ [_])[other]? = some second := found
  rw [List.getElem?_append] at found
  split at found
  · exact .inl found
  next outside =>
    rw [List.getElem?_singleton] at found
    split at found <;> cases found
    exact .inr ⟨by omega, rfl⟩

theorem request_kept (found : state.loads[other]? = some second) :
    (state.request page path).loads[other]? = some second := by
  have inside : other < state.loads.length :=
    (List.getElem?_eq_some_iff.mp found).1
  exact (List.getElem?_append_left inside).trans found

theorem request_pages (differ : other ≠ page) :
    (state.request page path).pages other = state.pages other :=
  Function.update_of_ne differ _ _

theorem request_page :
    (state.request page path).pages page = { state.pages page with
      rollupToken := (state.pages page).rollupToken + 1 } :=
  Function.update_self _ _ _

theorem request_grows :
    (state.pages other).rollupToken ≤
      ((state.request page path).pages other).rollupToken := by
  rcases eq_or_ne other page with rfl | differs
  · rw [request_page]
    exact Nat.le_succ _
  · rw [request_pages differs]

theorem Registered.request (registered : Registered state) :
    Registered (state.request page path) := by
  have fresh : ∀ {id : Nat} {load : Load}, state.loads[id]? = some load →
      load.page = page → load.token ≠ (state.pages page).rollupToken + 1 := by
    intro id load found here same
    have bounded := registered.bounded id load found
    rw [here, same] at bounded
    exact Nat.not_succ_le_self _ bounded
  constructor
  · intro id load found
    rcases request_loads found with found | ⟨_, rfl⟩
    · exact (registered.bounded id load found).trans request_grows
    · rw [request_page]
  · intro id other first second found found' onPage token
    rcases request_loads found with found | ⟨here, rfl⟩
    · rcases request_loads found' with found' | ⟨_, rfl⟩
      · exact registered.tokens id other first second found found' onPage token
      · exact absurd token (fresh found onPage)
    · rcases request_loads found' with found' | ⟨there, _⟩
      · exact absurd token.symm (fresh found' onPage.symm)
      · rw [here, there]
  · intro id load jobId watcher found client
    rcases request_loads found with found | ⟨_, rfl⟩
    · exact registered.issued id load jobId watcher found client
    · cases client
  · intro id other first second firstJob secondJob watcher found found'
      client client'
    rcases request_loads found with found | ⟨_, rfl⟩
    · rcases request_loads found' with found' | ⟨_, rfl⟩
      · exact registered.clients id other first second firstJob secondJob
          watcher found found' client client'
      · cases client'
    · cases client
  · intro id load found
    rcases request_loads found with found | ⟨_, rfl⟩
    · exact registered.shaped id load found
    · refine .request rfl rfl ?_ ?_
      · intro ended
        obtain ⟨_, observed, _⟩ := ended
        cases observed
      · intro jobId cancelToken asked
        rcases asked with asked | asked <;> cases asked

theorem Sound.request (sound : Sound state)
    (inactive : (state.pages page).activeRollupJobId = none) :
    Sound (state.request page path) where
  toRegistered := sound.toRegistered.request
  fates := by
    intro id load jobId cancelToken found received
    rcases request_loads found with found | ⟨_, rfl⟩
    · have fate := sound.fates id load jobId cancelToken found received
      refine fate.carry rfl request_grows ?_
      intro holds
      by_cases here : load.page = page
      · rw [here] at holds
        exact nomatch inactive.symm.trans holds.2.1
      · rw [request_pages here]
        exact holds
    · cases received
  sent := by
    intro detach member
    obtain ⟨id, load, jobId, cancelToken, found, received, same⟩ :=
      sound.sent detach member
    exact ⟨id, load, jobId, cancelToken, request_kept found, received, same⟩
  active := by
    intro other jobId isActive
    rcases eq_or_ne other page with rfl | differs
    · rw [request_page] at isActive
      exact nomatch inactive.symm.trans isActive
    · rw [request_pages differs] at isActive ⊢
      obtain ⟨id, load, cancelToken, found, onPage, received, holds, unended⟩ :=
        sound.active other jobId isActive
      exact ⟨id, load, cancelToken, request_kept found, onPage, received, holds,
        unended⟩

end Request

theorem Sound.loadRollup (sound : Sound state) (page : Nat) (path : Text) :
    Sound (state.loadRollup page path) :=
  (sound.cancelActiveRollup page).request State.cancelActiveRollup_page.2

theorem Sound.placed (sound : Sound state) {place : LoadPlace}
    {manager : Jobs.State JobKey Result}
    (found : state.loads[id]? = some load)
    (watchers : state.manager.nextWatcher ≤ manager.nextWatcher)
    (shaped : { load with place := place }.Shaped) :
    Sound (State.moveTo { state with manager := manager } id load place) :=
  sound.quiet
    { found := found
      loads := rfl
      page := rfl
      token := rfl
      rollupTokens := fun _ => rfl
      watchers := watchers
      client := .inl rfl
      received := fun _ received => received
      shaped := shaped }
    rfl rfl rfl Iff.rfl

theorem Sound.returned (sound : Sound state) (found : state.loads[id]? = some load) :
    Sound (state.moveTo id load .returned) :=
  sound.placed found le_rfl
    (.returned rfl (sound.shaped id load found).received)

theorem Sound.respond_late (sound : Sound state) {jobId cancelToken : Nat}
    (found : state.loads[id]? = some load)
    (place : load.place =
      .requested (.answered (.accepted jobId cancelToken)))
    (late : load.token ≠ (state.pages load.page).rollupToken) :
    Sound ((state.sendDelete ⟨jobId, some cancelToken⟩).setLoad id { load with
      received := some (jobId, cancelToken)
      place := .returned }) := by
  have shaped := sound.shaped id load found
  have client := shaped.asked jobId cancelToken (.inr place)
  have unreceived := shaped.fresh _ place
  have unended := shaped.unended_of place nofun
  have unsent := sound.unsent found client unreceived
  have overtaken := lt_of_le_of_ne (sound.bounded id load found) late
  refine sound.turned
    { found := found
      loads := rfl
      page := rfl
      token := rfl
      rollupTokens := fun _ => rfl
      watchers := le_rfl
      client := .inl rfl
      received := by
        intro pair received
        rw [unreceived] at received
        cases received
      shaped := .returned rfl fun pair same => same ▸ client } ?_ ?_ ?_ ?_
  · intro other second job token differ found' received fate
    refine fate.carry ?_ le_rfl fun holds => holds
    refine (State.sent_cons rfl).trans ?_
    rw [if_neg]
    · rfl
    · intro same
      cases same
      exact differ (sound.owner found found' client received).symm
  · intro job token received
    cases received
    refine .sent overtaken ?_ unended
    rw [State.sent_cons rfl, if_pos rfl]
    exact congrArg (· + 1) unsent
  · intro detach member
    rcases List.mem_cons.mp member with same | member
    · exact .inr ⟨jobId, cancelToken, rfl, same⟩
    · exact .inl member
  · intro page job _
    exact .inl ⟨rfl, fun _ unended => unended⟩

/-- The load with the current token and its page change together: no other
load of the page is held. -/
theorem Sound.repaged (sound : Sound state) {page : Page}
    (found : state.loads[id]? = some load)
    (current : load.token = (state.pages load.page).rollupToken)
    (sameToken : page.rollupToken = (state.pages load.page).rollupToken)
    (newPage : new.page = load.page) (newToken : new.token = load.token)
    (newClient : new.client = load.client)
    (kept : ∀ pair, load.received = some pair → new.received = some pair)
    (shaped : new.Shaped)
    (own : ∀ jobId cancelToken, new.received = some (jobId, cancelToken) →
      state.sent jobId cancelToken = 0 ∧
        (new.Ended ∨ ¬ new.Ended ∧ page.Holds new.token jobId cancelToken))
    (active : ∀ jobId, page.activeRollupJobId = some jobId → ¬ new.Ended ∧
      ∃ cancelToken, new.received = some (jobId, cancelToken) ∧
        page.Holds new.token jobId cancelToken) :
    Sound ((state.setPage load.page page).setLoad id new) := by
  have elsewhere : ∀ {other : Nat}, other ≠ load.page →
      ((state.setPage load.page page).setLoad id new).pages other =
        state.pages other := by
    intro other differ
    exact Function.update_of_ne differ _ _
  have here : ((state.setPage load.page page).setLoad id new).pages load.page =
      page := Function.update_self _ _ _
  have tokens : ∀ other,
      (((state.setPage load.page page).setLoad id new).pages other).rollupToken =
        (state.pages other).rollupToken := by
    intro other
    rcases eq_or_ne other load.page with rfl | differs
    · rw [here, sameToken]
    · rw [elsewhere differs]
  refine sound.turned
    { found := found
      loads := rfl
      page := newPage
      token := newToken
      rollupTokens := tokens
      watchers := le_rfl
      client := .inl newClient
      received := kept
      shaped := shaped } ?_ ?_ ?_ ?_
  · intro other second job token differ found' received fate
    refine fate.carry rfl (tokens second.page).ge ?_
    intro holds
    by_cases same : second.page = load.page
    · exact absurd holds (sound.not_held found found' same differ current)
    · rw [elsewhere same]
      exact holds
  · intro jobId cancelToken received
    obtain ⟨unsent, ended | ⟨unended, holds⟩⟩ := own jobId cancelToken received
    · exact .dropped unsent ended
    · refine .held ?_ unsent unended
      rw [newPage, here]
      exact holds
  · intro detach member
    exact .inl member
  · intro other jobId isActive
    rcases eq_or_ne other load.page with rfl | differs
    · rw [here] at isActive ⊢
      exact .inr ⟨newPage, active jobId isActive⟩
    · refine .inl ⟨elsewhere differs, ?_⟩
      intro onPage
      exact absurd onPage.symm differs

theorem Sound.respond_current (sound : Sound state) {jobId cancelToken : Nat}
    (found : state.loads[id]? = some load)
    (place : load.place =
      .requested (.answered (.accepted jobId cancelToken)))
    (current : load.token = (state.pages load.page).rollupToken) :
    Sound ((state.setPage load.page { state.pages load.page with
        activeRollupJobId := some jobId
        activeRollupCancelToken := some cancelToken }).setLoad id { load with
      received := some (jobId, cancelToken)
      place := .sleeping jobId }) := by
  have shaped := sound.shaped id load found
  have client := shaped.asked jobId cancelToken (.inr place)
  have unreceived := shaped.fresh _ place
  have unended := shaped.unended_of place nofun
  apply sound.repaged found current
  · rfl
  · rfl
  · rfl
  · rfl
  · intro pair received
    rw [unreceived] at received
    cases received
  · exact .polling (.inl rfl) rfl client unended
  · intro job token received
    cases received
    refine ⟨sound.unsent found client unreceived, .inr ⟨unended, ?_⟩⟩
    exact ⟨current.symm, rfl, rfl⟩
  · intro job isActive
    cases isActive
    exact ⟨unended, cancelToken, rfl, current.symm, rfl, rfl⟩

theorem Sound.settle (sound : Sound state) {jobId : Nat} {poll : Poll}
    {status : Status} (found : state.loads[id]? = some load)
    (place : load.place = .polling jobId poll)
    (current : load.token = (state.pages load.page).rollupToken)
    (terminal : status.Terminal) :
    Sound (state.settle id { load with observed := some status } jobId) := by
  have shaped := sound.shaped id load found
  have unended := shaped.unended_of place nofun
  obtain ⟨cancelToken, received⟩ := shaped.polls jobId (.inr ⟨poll, place⟩)
  have ended : Load.Ended { load with observed := some status, place := .returned } :=
    ⟨status, rfl, terminal⟩
  cases sound.fates id load jobId cancelToken found received with
  | sent overtaken =>
      rw [current] at overtaken
      exact absurd overtaken (lt_irrefl _)
  | dropped _ ended => exact absurd ended unended
  | held holds unsent =>
      unfold State.settle
      simp only [if_pos holds.2.1]
      apply sound.repaged found current
      · rfl
      · rfl
      · rfl
      · rfl
      · exact fun pair received => received
      · exact .returned rfl shaped.received
      · intro job token received'
        cases received.symm.trans received'
        exact ⟨unsent, .inl ended⟩
      · intro job isActive
        cases isActive

theorem submit_step (cfg : Jobs.Config) (manager : Jobs.State JobKey Result)
    (key : JobKey) (fails : Bool) :
    Jobs.step cfg manager (.submit key fails) =
      some (manager.submit cfg key fails).2 := rfl

theorem get_step (cfg : Jobs.Config) (manager : Jobs.State JobKey Result)
    (jobId : Nat) :
    Jobs.step cfg manager (.get jobId) = some (manager.get cfg jobId).2 := rfl

theorem cancel_step (cfg : Jobs.Config) (manager : Jobs.State JobKey Result)
    (jobId watcher : Nat) :
    Jobs.step cfg manager (.cancel jobId watcher) =
      some (manager.cancel jobId watcher) := rfl

theorem Sound.requested (sound : Sound state) {request next : Request}
    {client : Option (Nat × Nat)} {manager : Jobs.State JobKey Result}
    (found : state.loads[id]? = some load)
    (place : load.place = .requested request)
    (watchers : state.manager.nextWatcher ≤ manager.nextWatcher)
    (clients : client = load.client ∨ client = none ∨
      ∃ jobId, client = some (jobId, state.manager.nextWatcher) ∧
        state.manager.nextWatcher < manager.nextWatcher)
    (asked : ∀ jobId cancelToken, next = .waiting jobId cancelToken ∨
      next = .answered (.accepted jobId cancelToken) →
      client = some (jobId, cancelToken)) :
    Sound (State.setLoad { state with manager := manager } id
      { load with client := client, place := .requested next }) := by
  have shaped := sound.shaped id load found
  have unended := shaped.unended_of place nofun
  exact sound.quiet
    { found := found
      loads := rfl
      page := rfl
      token := rfl
      rollupTokens := fun _ => rfl
      watchers := watchers
      client := clients
      received := fun _ received => received
      shaped := .request rfl (shaped.fresh _ place) unended asked }
    rfl rfl rfl Iff.rfl

theorem Sound.polling (sound : Sound state) {jobId : Nat} {next : Poll}
    {manager : Jobs.State JobKey Result}
    (found : state.loads[id]? = some load)
    (place : load.place = .sleeping jobId ∨
      ∃ poll, load.place = .polling jobId poll)
    (watchers : state.manager.nextWatcher ≤ manager.nextWatcher) :
    Sound (State.moveTo { state with manager := manager } id load
      (.polling jobId next)) := by
  have shaped := sound.shaped id load found
  obtain ⟨cancelToken, received⟩ := shaped.polls jobId place
  have unended : ¬ load.Ended := by
    rcases place with place | ⟨poll, place⟩
    · exact shaped.unended_of place nofun
    · exact shaped.unended_of place nofun
  refine sound.placed found watchers ?_
  exact .polling (.inr ⟨next, rfl⟩) received (shaped.received _ received)
    unended

theorem Sound.setPage (sound : Sound state) {id : Nat} {page : Page}
    (same : (state.pages id).Same page) : Sound (state.setPage id page) := by
  apply sound.framed
  · rfl
  · rfl
  · intro other
    rcases eq_or_ne other id with rfl | differs
    · rw [State.setPage_self]
      exact same
    · rw [State.setPage_of_ne differs]
      exact .refl _
  · exact le_rfl

theorem Sound.served (sound : Sound state) {manager : Jobs.State JobKey Result}
    {inFlight delivered : List Detach}
    (watchers : state.manager.nextWatcher ≤ manager.nextWatcher) :
    Sound { state with
      manager := manager
      inFlight := inFlight
      delivered := delivered } :=
  sound.framed rfl rfl (fun _ => .refl _) watchers

theorem Sound.detach (cfg : Jobs.Config) (sound : Sound state)
    {detach : Detach} {inFlight delivered : List Detach} :
    Sound { state.detach detach with
      inFlight := inFlight
      delivered := delivered } := by
  unfold State.detach
  split
  · exact sound.served le_rfl
  next cancelToken _ =>
    have cancels := cancel_step cfg state.manager detach.jobId cancelToken
    exact sound.served (Jobs.step_watchers cancels)

theorem Sound.observe (sound : Sound state) {jobId : Nat} {poll : Poll}
    {status : Status} (found : state.loads[id]? = some load)
    (place : load.place = .polling jobId poll) (active : ¬ status.Terminal) :
    Sound (state.setLoad id { load with
      observed := some status
      place := .sleeping jobId }) := by
  have shaped := sound.shaped id load found
  have unended := shaped.unended_of place nofun
  obtain ⟨cancelToken, received⟩ := shaped.polls jobId (.inr ⟨poll, place⟩)
  have unended' : ¬ Load.Ended { load with
      observed := some status
      place := .sleeping jobId } := by
    intro ended
    obtain ⟨_, same, terminal⟩ := ended
    cases same
    exact active terminal
  refine sound.quiet
    { found := found
      loads := rfl
      page := rfl
      token := rfl
      rollupTokens := fun _ => rfl
      watchers := le_rfl
      client := .inl rfl
      received := fun _ received => received
      shaped := .polling (.inl rfl) received (shaped.received _ received)
        unended' }
    rfl rfl rfl ?_
  exact iff_of_false unended' unended

theorem Sound.step {cfg : Jobs.Config} {label : Label Result}
    (sound : Sound state) (stepped : step cfg state label = some after) :
    Sound after := by
  have moves : ∀ {jobId : Nat} {next : Poll} {load : Load} {id : Nat},
      state.loads[id]? = some load →
      load.place = .sleeping jobId ∨ (∃ poll, load.place = .polling jobId poll) →
      Sound (state.moveTo id load (.polling jobId next)) :=
    fun found place => sound.polling found place le_rfl
  cases step_cases stepped with
  | navigate =>
      apply Sound.cancelActiveRollup
      exact sound.setPage ⟨rfl, rfl, rfl⟩
  | navigated => exact sound.setPage ⟨rfl, rfl, rfl⟩
  | reload =>
      apply Sound.loadRollup
      exact sound.setPage ⟨rfl, rfl, rfl⟩
  | returned found => exact sound.returned found
  | late found place late => exact sound.respond_late found place late
  | accept found place current => exact sound.respond_current found place current
  | poll found place => exact moves found (.inl place)
  | status found place => exact moves found (.inr ⟨_, place⟩)
  | fail found place => exact moves found (.inr ⟨_, place⟩)
  | observe found place current active => exact sound.observe found place active
  | settle found place current terminal =>
      exact sound.settle found place current terminal
  | answer found place refused =>
      refine sound.requested found place le_rfl (.inl rfl) ?_
      intro jobId cancelToken asked
      rcases asked with asked | asked <;> cases asked
      exact absurd rfl (refused jobId cancelToken)
  | @submit _ _ key fails jobId watcher found place returned =>
      have watchers := Jobs.step_watchers (submit_step cfg state.manager key fails)
      obtain ⟨fresh, grows⟩ := Jobs.State.submit_returned returned
      refine sound.requested found place watchers ?_ ?_
      · refine .inr (.inr ⟨jobId, by rw [fresh], ?_⟩)
        rw [grows]
        exact Nat.lt_succ_self _
      · intro other token asked
        rcases asked with asked | asked <;> cases asked
        rfl
  | @reject _ _ key fails found place refused =>
      have watchers := Jobs.step_watchers (submit_step cfg state.manager key fails)
      refine sound.requested found place watchers (.inl rfl) ?_
      intro jobId cancelToken asked
      rcases asked with asked | asked <;> cases asked
  | finish found place stored event refused =>
      refine sound.requested found place le_rfl (.inr (.inl rfl)) ?_
      intro jobId cancelToken asked
      rcases asked with asked | asked <;> cases asked
      exact absurd rfl (refused jobId cancelToken)
  | @timeout id load _ _ found place =>
      have client := (sound.shaped id load found).asked _ _ (.inl place)
      refine sound.requested found place le_rfl (.inl rfl) ?_
      intro jobId cancelToken asked
      rcases asked with asked | asked <;> cases asked
      exact client
  | @get _ _ jobId _ found place =>
      have watchers := Jobs.step_watchers (get_step cfg state.manager jobId)
      exact sound.polling found (.inr ⟨_, place⟩) watchers
  | detach => exact sound.detach cfg
  | lose => exact sound.served le_rfl
  | manager permitted moved => exact sound.served (Jobs.step_watchers moved)

theorem sound_of_initial {cfg : Jobs.Config} (initial : Initial cfg state) :
    Sound state := by
  have empty : ∀ {id : Nat} {load : Load}, state.loads[id]? ≠ some load := by
    intro id load found
    rw [initial.loads] at found
    cases found
  refine ⟨⟨?_, ?_, ?_, ?_, ?_⟩, ?_, ?_, ?_⟩
  · intro id load found
    exact absurd found empty
  · intro id other first second found
    exact absurd found empty
  · intro id load jobId watcher found
    exact absurd found empty
  · intro id other first second firstJob secondJob watcher found
    exact absurd found empty
  · intro id load found
    exact absurd found empty
  · intro id load jobId cancelToken found
    exact absurd found empty
  · intro detach member
    rw [initial.deletes] at member
    cases member
  · intro page jobId isActive
    rw [initial.pages] at isActive
    cases isActive

theorem sound_of_reachable {cfg : Jobs.Config}
    (reachable : (system cfg).Reachable StepSystem.AnyStep state) :
    Sound state := by
  refine reachable.invariant ?_ ?_
  · intro start initial
    exact sound_of_initial initial
  · intro before label next _ sound _ stepped
    exact sound.step stepped

end Catwalk.Frontend
