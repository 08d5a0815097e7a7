import Catwalk.Frontend.Screen

/-! Tables and rollup panels show what the page is asked for: calls of `loadPage`
and `loadRollup` that were overtaken write nothing. -/

namespace Catwalk.Browser

open Script (normDir)

variable {Rows Stats : Type}

theorem of_getElem?_concat {Item : Type} {items : List Item} {id : Nat}
    {new found : Item} (here : (items ++ [new])[id]? = some found) :
    items[id]? = some found ∨ id = items.length ∧ found = new := by
  rcases lt_trichotomy id items.length with before | rfl | beyond
  · rw [List.getElem?_append_left before] at here
    exact .inl here
  · rw [List.getElem?_concat_length] at here
    exact .inr ⟨rfl, (Option.some.inj here).symm⟩
  · have outside : (items ++ [new]).length ≤ id := by
      rw [List.length_append]
      exact beyond
    rw [List.getElem?_eq_none outside] at here
    cases here

theorem of_getElem?_set {Item : Type} {items : List Item} {id other : Nat}
    {new found : Item} (here : (items.set id new)[other]? = some found) :
    other = id ∧ found = new ∨ items[other]? = some found := by
  rw [List.getElem?_set] at here
  split at here
  · split at here
    · exact .inl ⟨by omega, (Option.some.inj here).symm⟩
    · cases here
  · exact .inr here

def LoadPlace.outcome : LoadPlace → Option LoadOutcome
  | .awaiting => none
  | .returned outcome | .continued outcome => some outcome

/-- A write to the rollup status, to its panels or to what shows their export. -/
def Write.OnRollup : Write Rows Stats → Prop
  | .rollupStatus _ | .rollupPanels _ | .exportRollup _ => True
  | _ => False

/-- A write that leaves the rollup status or the panels empty. -/
def Write.Clears (write : Write Rows Stats) : Prop :=
  write = .rollupStatus .blank ∨ write = .rollupPanels none ∨
    write = .exportRollup true

namespace Screen

/-- The fetch asks `/api/ls` for this page of this listing. -/
def Requests (screen : Screen Rows Stats) (id : Nat) (key : ListingKey)
    (page : Int) : Prop :=
  ∃ fetch, screen.fetches[id]? = some fetch ∧ fetch.request = key ∧
    fetch.page = page

/-- The data came for the current listing key and the page that the call asked
for, and no call of `loadPage` is more recent. -/
structure Answers (screen : Screen Rows Stats) (id : Nat)
    (data : ListResponse Rows) : Prop where
  latest : id + 1 = screen.loads.length
  answered : ∃ load fetch, screen.loads[id]? = some load ∧
    screen.fetches[load.fetch]? = some fetch ∧
    fetch.request = screen.listingKey ∧ fetch.page = load.page ∧
    fetch.outcome = some (.ok data)

/-- Who may write to the rollup status and panels. -/
inductive Owns (screen : Screen Rows Stats) : Writer → Write Rows Stats → Prop
  | navigate {write} (clears : write.Clears) : Owns screen .navigate write
  | rollup {id load write} (found : screen.rollupLoads[id]? = some load)
      (current : load.token = screen.rollupToken)
      (here : load.path = screen.view.path) : Owns screen (.rollup id) write

/-- What the last event wrote, and what it left behind. -/
structure Fresh (screen : Screen Rows Stats) : Prop where
  tables : ∀ id data rollup computing,
    (.page id, .table data rollup computing) ∈ screen.writes →
      screen.Answers id data
  latest : ∀ id write, (.page id, write) ∈ screen.writes →
    id + 1 = screen.loads.length
  superseded : ∀ (id : Nat) (load : PageLoad) (write : Write Rows Stats),
    screen.loads[id]? = some load →
    load.place.outcome = some .superseded → (.page id, write) ∉ screen.writes
  panels : ∀ writer write, (writer, write) ∈ screen.writes →
    write.OnRollup → screen.Owns writer write
  inFlight : screen.rollupInFlight = none ∨
    screen.rollupInFlight = some screen.view.path

/-- Tokens number the calls of `loadPage`, and a call waits for a fetch of what
it asked for, as do the keys of the cache. -/
structure Linked (screen : Screen Rows Stats) : Prop where
  count : screen.listingToken = screen.loads.length
  tokens : ∀ (id : Nat) (load : PageLoad), screen.loads[id]? = some load →
    load.token = id + 1
  waits : ∀ (id : Nat) (load : PageLoad), screen.loads[id]? = some load →
    screen.Requests load.fetch load.expectedKey load.page
  caches : ∀ key page id, screen.pageCache.get? (key, page) = some id →
    screen.Requests id key page

/-- The latest call of `loadPage` was made with the current listing key. -/
def Current (screen : Screen Rows Stats) : Prop :=
  ∀ (id : Nat) (load : PageLoad), screen.loads[id]? = some load →
    load.token = screen.listingToken → load.expectedKey = screen.listingKey

/-- No call of `loadRollup` has a token that was not issued yet. -/
def Issued (screen : Screen Rows Stats) : Prop :=
  ∀ (id : Nat) (load : RollupLoad), screen.rollupLoads[id]? = some load →
    load.token ≤ screen.rollupToken

/-- The call of `loadRollup` with the current token is for the current path. -/
structure Settled (screen : Screen Rows Stats) : Prop where
  issued : screen.Issued
  here : ∀ (id : Nat) (load : RollupLoad),
    screen.rollupLoads[id]? = some load → load.token = screen.rollupToken →
      load.path = screen.view.path
  inFlight : screen.rollupInFlight = none ∨
    screen.rollupInFlight = some screen.view.path

structure Sound (screen : Screen Rows Stats) : Prop where
  linked : screen.Linked
  current : screen.Current
  settled : screen.Settled

variable {screen after : Screen Rows Stats}

theorem Linked.frame (linked : screen.Linked)
    (loads : after.loads = screen.loads)
    (listingToken : after.listingToken = screen.listingToken)
    (fetches : after.fetches = screen.fetches)
    (pageCache : after.pageCache = screen.pageCache) : after.Linked where
  count := by
    rw [listingToken, loads]
    exact linked.count
  tokens := by
    rw [loads]
    exact linked.tokens
  waits := by
    simp only [Requests, loads, fetches]
    exact linked.waits
  caches := by
    simp only [Requests, pageCache, fetches]
    exact linked.caches

theorem Current.frame (current : screen.Current)
    (loads : after.loads = screen.loads)
    (listingToken : after.listingToken = screen.listingToken)
    (key : after.listingKey = screen.listingKey) : after.Current := by
  rw [Current, loads, listingToken, key]
  exact current

theorem Settled.frame (settled : screen.Settled)
    (rollupLoads : after.rollupLoads = screen.rollupLoads)
    (rollupToken : after.rollupToken = screen.rollupToken)
    (rollupInFlight : after.rollupInFlight = screen.rollupInFlight)
    (path : after.view.path = screen.view.path) : after.Settled where
  issued := by
    rw [Issued, rollupLoads, rollupToken]
    exact settled.issued
  here := by
    rw [rollupLoads, rollupToken, path]
    exact settled.here
  inFlight := by
    rw [rollupInFlight, path]
    exact settled.inFlight

/-! ### The listing -/

theorem fetches_fetchPage {id : Nat} {fetch : Fetch Rows}
    (found : screen.fetches[id]? = some fetch) (page : Int) :
    (screen.fetchPage page).2.fetches[id]? = some fetch := by
  rw [fetchPage]
  split
  · exact found
  · obtain ⟨inside, _⟩ := List.getElem?_eq_some_iff.mp found
    simpa only [List.getElem?_append_left inside] using found

theorem Requests.fetchPage {id : Nat} {key : ListingKey} {asked : Int}
    (requests : screen.Requests id key asked) (page : Int) :
    (screen.fetchPage page).2.Requests id key asked := by
  obtain ⟨fetch, found, same⟩ := requests
  exact ⟨fetch, fetches_fetchPage found page, same⟩

theorem fetchPage_requests (linked : screen.Linked) (page : Int) :
    (screen.fetchPage page).2.Requests (screen.fetchPage page).1
      screen.listingKey page := by
  rw [Screen.fetchPage]
  split
  next fetch cached => exact linked.caches _ _ _ cached
  next => exact ⟨_, List.getElem?_concat_length, rfl, rfl⟩

theorem fetchPage_view (page : Int) :
    (screen.fetchPage page).2.view = screen.view := by
  rw [fetchPage]
  split <;> rfl

theorem fetchPage_loads (page : Int) :
    (screen.fetchPage page).2.loads = screen.loads := by
  rw [fetchPage]
  split <;> rfl

theorem fetchPage_listingToken (page : Int) :
    (screen.fetchPage page).2.listingToken = screen.listingToken := by
  rw [fetchPage]
  split <;> rfl

theorem fetchPage_caches (linked : screen.Linked) (page : Int) :
    ∀ key asked id,
      (screen.fetchPage page).2.pageCache.get? (key, asked) = some id →
        (screen.fetchPage page).2.Requests id key asked := by
  intro key asked id cached
  rcases absent : screen.pageCache.get? (screen.listingKey, page) with
    _ | fetch
  · have request := fetchPage_requests linked page
    simp only [Screen.fetchPage, absent] at cached request ⊢
    have stored := OrderedDict.get?_of_dropOldest cached
    rw [OrderedDict.get?_set] at stored
    split at stored
    next same =>
      cases same
      cases stored
      exact request
    next =>
      have kept := (linked.caches _ _ _ stored).fetchPage page
      simpa only [Screen.fetchPage, absent] using kept
  · simp only [Screen.fetchPage, absent] at cached ⊢
    exact linked.caches _ _ _ cached

theorem Linked.fetchPage (linked : screen.Linked) (page : Int) :
    (screen.fetchPage page).2.Linked where
  count := by
    rw [fetchPage_listingToken, fetchPage_loads]
    exact linked.count
  tokens := by
    rw [fetchPage_loads]
    exact linked.tokens
  waits := by
    rw [fetchPage_loads]
    intro id load found
    exact (linked.waits id load found).fetchPage page
  caches := fetchPage_caches linked page

theorem Current.fetchPage (current : screen.Current) (page : Int) :
    (screen.fetchPage page).2.Current := by
  rw [Current, fetchPage_loads, fetchPage_listingToken, listingKey,
    fetchPage_view]
  exact current

theorem Linked.prefetch (linked : screen.Linked) (data : ListResponse Rows) :
    (screen.prefetch data).Linked := by
  rw [Screen.prefetch]
  split <;> split
  · exact (linked.fetchPage _).fetchPage _
  · exact linked.fetchPage _
  · exact linked.fetchPage _
  · exact linked

theorem Current.prefetch (current : screen.Current)
    (data : ListResponse Rows) : (screen.prefetch data).Current := by
  rw [Screen.prefetch]
  split <;> split
  · exact (current.fetchPage _).fetchPage _
  · exact current.fetchPage _
  · exact current.fetchPage _
  · exact current

theorem loadPage_eq (page : Int) (target : Option Text) :
    screen.loadPage page target =
      { (screen.fetchPage page).2 with
        listingToken := screen.listingToken + 1
        loads := screen.loads ++
          [⟨screen.listingToken + 1, screen.listingKey, page, target,
            (screen.fetchPage page).1, .awaiting⟩] } := by
  rcases cached : screen.pageCache.get? (screen.listingKey, page) with
    _ | fetch
  all_goals
    have cached' := cached
    rw [listingKey] at cached'
    simp only [loadPage, fetchPage, listingKey, cached']

theorem Linked.loadPage (linked : screen.Linked) (page : Int)
    (target : Option Text) : (screen.loadPage page target).Linked := by
  have fetched := linked.fetchPage page
  rw [loadPage_eq]
  refine ⟨?_, ?_, ?_, fetched.caches⟩
  · simp [linked.count]
  · intro id load found
    rcases of_getElem?_concat found with before | ⟨rfl, rfl⟩
    · exact linked.tokens id load before
    · exact congrArg (· + 1) linked.count
  · intro id load found
    rcases of_getElem?_concat found with before | ⟨rfl, rfl⟩
    · exact (linked.waits id load before).fetchPage page
    · exact fetchPage_requests linked page

theorem Linked.token_le (linked : screen.Linked) {id : Nat} {load : PageLoad}
    (found : screen.loads[id]? = some load) :
    load.token ≤ screen.listingToken := by
  obtain ⟨inside, _⟩ := List.getElem?_eq_some_iff.mp found
  rw [linked.tokens id load found, linked.count]
  exact inside

/-- Whatever the view was before, the latest call is made with its key. -/
theorem Linked.current_loadPage (linked : screen.Linked) (page : Int)
    (target : Option Text) : (screen.loadPage page target).Current := by
  have key : (screen.loadPage page target).listingKey = screen.listingKey := by
    rw [loadPage_eq]
    exact congrArg View.toListingKey (fetchPage_view page)
  rw [Current, key]
  intro id load found newest
  rw [loadPage_eq] at found newest
  rcases of_getElem?_concat found with before | ⟨_, rfl⟩
  · have older := linked.token_le before
    have newest : load.token = screen.listingToken + 1 := newest
    omega
  · rfl

theorem Linked.moveLoad (linked : screen.Linked) {id : Nat} {load : PageLoad}
    (found : screen.loads[id]? = some load) (place : LoadPlace) :
    (screen.moveLoad id load place).Linked where
  count := by simpa [Screen.moveLoad] using linked.count
  tokens := by
    intro other moved foundOther
    rcases of_getElem?_set foundOther with ⟨rfl, rfl⟩ | before
    · exact linked.tokens _ load found
    · exact linked.tokens other moved before
  waits := by
    intro other moved foundOther
    rcases of_getElem?_set foundOther with ⟨rfl, rfl⟩ | before
    · exact linked.waits _ load found
    · exact linked.waits other moved before
  caches := linked.caches

theorem Current.moveLoad (current : screen.Current) {id : Nat}
    {load : PageLoad} (found : screen.loads[id]? = some load)
    (place : LoadPlace) : (screen.moveLoad id load place).Current := by
  intro other moved foundOther
  rcases of_getElem?_set foundOther with ⟨rfl, rfl⟩ | before
  · exact current _ load found
  · exact current other moved before

/-- An outcome is all that a promise changes. -/
theorem Linked.settle (linked : screen.Linked) {id : Nat} {fetch : Fetch Rows}
    (found : screen.fetches[id]? = some fetch)
    (outcome : Option (Except Text (ListResponse Rows))) :
    Linked { screen with
      fetches := screen.fetches.set id { fetch with outcome := outcome } } := by
  have kept : ∀ {asked key page}, screen.Requests asked key page →
      Requests { screen with
        fetches := screen.fetches.set id { fetch with outcome := outcome } }
        asked key page := by
    intro asked key page requests
    obtain ⟨other, foundOther, request, same⟩ := requests
    rcases eq_or_ne id asked with rfl | differ
    · cases found.symm.trans foundOther
      obtain ⟨inside, _⟩ := List.getElem?_eq_some_iff.mp found
      exact ⟨_, List.getElem?_set_self inside, request, same⟩
    · refine ⟨other, ?_, request, same⟩
      rw [← foundOther]
      exact List.getElem?_set_ne differ
  exact ⟨linked.count, linked.tokens,
    fun other load foundLoad => kept (linked.waits other load foundLoad),
    fun key page other cached => kept (linked.caches key page other cached)⟩

theorem Linked.forget (linked : screen.Linked) (id : Nat)
    (fetch : Fetch Rows) : (screen.forget id fetch).Linked := by
  rw [Screen.forget]
  split
  · refine ⟨linked.count, linked.tokens, linked.waits, ?_⟩
    intro key page other cached
    rw [OrderedDict.get?_erase] at cached
    split at cached
    · cases cached
    · exact linked.caches key page other cached
  · exact linked

theorem Linked.resetListing (linked : screen.Linked) :
    screen.resetListing.Linked where
  count := linked.count
  tokens := linked.tokens
  waits := linked.waits
  caches := by
    intro key page id cached
    cases cached

/-! ### Writes -/

/-- One event writes what `By` describes, and changes nothing that decides
whether a call may write. -/
structure Paints (By : Writer × Write Rows Stats → Prop)
    (before after : Screen Rows Stats) : Prop where
  key : after.listingKey = before.listingKey
  pageCache : after.pageCache = before.pageCache
  listingToken : after.listingToken = before.listingToken
  fetches : after.fetches = before.fetches
  loads : after.loads = before.loads
  rollupToken : after.rollupToken = before.rollupToken
  rollupInFlight : after.rollupInFlight = before.rollupInFlight
  rollupLoads : after.rollupLoads = before.rollupLoads
  writes : ∀ entry ∈ after.writes, entry ∈ before.writes ∨ By entry

namespace Paints

variable {By : Writer × Write Rows Stats → Prop}
  {before middle after : Screen Rows Stats}

theorem refl (screen : Screen Rows Stats) : Paints By screen screen :=
  ⟨rfl, rfl, rfl, rfl, rfl, rfl, rfl, rfl, fun _ old => .inl old⟩

theorem trans (first : Paints By before middle)
    (second : Paints By middle after) : Paints By before after where
  key := second.key.trans first.key
  pageCache := second.pageCache.trans first.pageCache
  listingToken := second.listingToken.trans first.listingToken
  fetches := second.fetches.trans first.fetches
  loads := second.loads.trans first.loads
  rollupToken := second.rollupToken.trans first.rollupToken
  rollupInFlight := second.rollupInFlight.trans first.rollupInFlight
  rollupLoads := second.rollupLoads.trans first.rollupLoads
  writes := by
    intro entry member
    rcases second.writes entry member with earlier | new
    · exact first.writes entry earlier
    · exact .inr new

theorem write {writer : Writer} {writes : List (Write Rows Stats)}
    (described : ∀ write ∈ writes, By (writer, write)) :
    Paints By screen (screen.write writer writes) where
  key := rfl
  pageCache := rfl
  listingToken := rfl
  fetches := rfl
  loads := rfl
  rollupToken := rfl
  rollupInFlight := rfl
  rollupLoads := rfl
  writes := by
    intro entry member
    rcases List.mem_append.mp member with old | new
    · exact .inl old
    · obtain ⟨write, inside, rfl⟩ := List.mem_map.mp new
      exact .inr (described write inside)

theorem path (paints : Paints By before after) :
    after.view.path = before.view.path :=
  congrArg ListingKey.path paints.key

theorem linked (paints : Paints By before after) (linked : before.Linked) :
    after.Linked :=
  linked.frame paints.loads paints.listingToken paints.fetches paints.pageCache

theorem current (paints : Paints By before after) (current : before.Current) :
    after.Current :=
  current.frame paints.loads paints.listingToken paints.key

theorem settled (paints : Paints By before after) (settled : before.Settled) :
    after.Settled :=
  settled.frame paints.rollupLoads paints.rollupToken paints.rollupInFlight
    paints.path

theorem sound (paints : Paints By before after) (sound : before.Sound) :
    after.Sound :=
  ⟨paints.linked sound.linked, paints.current sound.current,
    paints.settled sound.settled⟩

theorem renderTable {writer : Writer} {data : ListResponse Rows}
    (described : ∀ rollup computing,
      By (writer, .table data rollup computing)) :
    Paints By screen (screen.renderTable writer data) := by
  apply write
  intro table member
  cases List.mem_singleton.mp member
  exact described _ _

theorem updateExportLinks {writer : Writer}
    (described : ∀ key, By (writer, .exportLinks key)) :
    Paints By screen (screen.updateExportLinks writer) := by
  apply write
  intro links member
  cases List.mem_singleton.mp member
  exact described _

theorem dropPair (jobId : Option Nat) :
    Paints By screen (screen.dropPair jobId) := by
  rw [Screen.dropPair]
  split
  · exact ⟨rfl, rfl, rfl, rfl, rfl, rfl, rfl, rfl, fun _ old => .inl old⟩
  · exact refl screen

end Paints

/-- Entries of one call of `loadRollup`. -/
def ByRollup (id : Nat) (entry : Writer × Write Rows Stats) : Prop :=
  entry.1 = .rollup id

theorem paints_repaintListing (id : Nat) :
    Paints (ByRollup id) screen (screen.repaintListing id) := by
  rw [repaintListing]
  split
  · split
    · exact .renderTable fun _ _ => rfl
    · exact .refl _
  · exact .refl _

theorem paints_renderRollup (id : Nat) (result : RollupBody Stats) :
    Paints (ByRollup id) screen (screen.renderRollup id result) := by
  have told (screen : Screen Rows Stats) (writes : List (Write Rows Stats)) :
      Paints (ByRollup id) screen (screen.write (.rollup id) writes) :=
    .write fun _ _ => rfl
  let rollups :=
    (screen.rollups.erase result.path).set result.path result.stats
  have stored : Paints (ByRollup id) screen { screen with
      rollups := rollups.dropOldest rollupsMax rollups.size } :=
    ⟨rfl, rfl, rfl, rfl, rfl, rfl, rfl, rfl, fun _ old => .inl old⟩
  have shown (before : Screen Rows Stats) : Paints (ByRollup id) before
      (if result.path = before.view.path then before.repaintListing id
      else before) := by
    split
    · exact paints_repaintListing id
    · exact .refl _
  have offered (before : Screen Rows Stats) : Paints (ByRollup id) before
      (if result.path = before.view.path then
        (before.write (.rollup id) [.exportRollup false]).updateExportLinks
          (.rollup id)
      else before) := by
    split
    · exact (told _ _).trans (.updateExportLinks fun _ => rfl)
    · exact .refl _
  exact ((stored.trans (told _ _)).trans (shown _)).trans (offered _)

theorem paints_rollupSettled (id : Nat) :
    Paints (ByRollup id) { screen with rollupInFlight := none }
      (screen.rollupSettled id) :=
  paints_repaintListing id

/-! ### The rollups -/

theorem cancelActiveRollup_eq (screen : Screen Rows Stats) :
    ∃ deletes cancelToken, screen.cancelActiveRollup =
      { screen with
        rollupToken := screen.rollupToken + 1
        rollupInFlight := none
        deletes := deletes
        activeRollupJobId := none
        activeRollupCancelToken := cancelToken } := by
  rcases active : screen.activeRollupJobId with _ | jobId
  · refine ⟨screen.deletes, screen.activeRollupCancelToken, ?_⟩
    simp only [cancelActiveRollup, active]
  · refine ⟨⟨jobId, screen.activeRollupCancelToken⟩ :: screen.deletes, none, ?_⟩
    simp only [cancelActiveRollup, active]

theorem Linked.cancelActiveRollup (linked : screen.Linked) :
    screen.cancelActiveRollup.Linked := by
  obtain ⟨deletes, cancelToken, same⟩ := screen.cancelActiveRollup_eq
  rw [same]
  exact linked.frame rfl rfl rfl rfl

theorem Current.cancelActiveRollup (current : screen.Current) :
    screen.cancelActiveRollup.Current := by
  obtain ⟨deletes, cancelToken, same⟩ := screen.cancelActiveRollup_eq
  rw [same]
  exact current

/-- After a cancellation no call has the current token, whatever the path. -/
theorem Issued.cancelActiveRollup (issued : screen.Issued) :
    screen.cancelActiveRollup.Settled := by
  obtain ⟨deletes, cancelToken, same⟩ := screen.cancelActiveRollup_eq
  rw [same]
  refine ⟨?_, ?_, .inl rfl⟩
  · intro id load found
    exact (issued id load found).trans (Nat.le_succ _)
  · intro id load found newest
    have older := issued id load found
    have newest : load.token = screen.rollupToken + 1 := newest
    omega

theorem cancelActiveRollup_writes (screen : Screen Rows Stats) :
    screen.cancelActiveRollup.writes = screen.writes := by
  obtain ⟨deletes, cancelToken, same⟩ := screen.cancelActiveRollup_eq
  rw [same]

theorem Settled.finish (settled : screen.Settled) :
    Settled { screen with rollupInFlight := none } :=
  ⟨settled.issued, settled.here, .inl rfl⟩

theorem Settled.moveRollup (settled : screen.Settled) {id : Nat}
    {load : RollupLoad} (found : screen.rollupLoads[id]? = some load)
    (place : RollupPlace) : (screen.moveRollup id load place).Settled where
  issued := by
    intro other moved foundOther
    rcases of_getElem?_set foundOther with ⟨rfl, rfl⟩ | before
    · exact settled.issued _ load found
    · exact settled.issued other moved before
  here := by
    intro other moved foundOther
    rcases of_getElem?_set foundOther with ⟨rfl, rfl⟩ | before
    · exact settled.here _ load found
    · exact settled.here other moved before
  inFlight := settled.inFlight

theorem Settled.fetchPage (settled : screen.Settled) (page : Int) :
    (screen.fetchPage page).2.Settled := by
  rw [Screen.fetchPage]
  split
  · exact settled
  · exact settled.frame rfl rfl rfl rfl

theorem Settled.prefetch (settled : screen.Settled)
    (data : ListResponse Rows) : (screen.prefetch data).Settled := by
  rw [Screen.prefetch]
  split <;> split
  · exact (settled.fetchPage _).fetchPage _
  · exact settled.fetchPage _
  · exact settled.fetchPage _
  · exact settled

theorem Settled.loadPage (settled : screen.Settled) (page : Int)
    (target : Option Text) : (screen.loadPage page target).Settled := by
  have fetched := settled.fetchPage page
  rw [loadPage_eq]
  exact fetched.frame rfl rfl rfl rfl

theorem fetchPage_writes (page : Int) :
    (screen.fetchPage page).2.writes = screen.writes := by
  rw [fetchPage]
  split <;> rfl

theorem loadPage_writes (page : Int) (target : Option Text) :
    (screen.loadPage page target).writes = screen.writes := by
  rw [loadPage_eq]
  exact fetchPage_writes page

theorem prefetch_writes (data : ListResponse Rows) :
    (screen.prefetch data).writes = screen.writes := by
  rw [prefetch]
  split <;> split <;> simp only [fetchPage_writes]

/-! ### Events -/

theorem written_of_quiet {By : Writer × Write Rows Stats → Prop}
    (quiet : screen.writes = []) {entry : Writer × Write Rows Stats}
    (written : entry ∈ screen.writes ∨ By entry) : By entry := by
  rcases written with old | new
  · rw [quiet] at old
    exact absurd old List.not_mem_nil
  · exact new

/-- What an event that writes nothing leaves behind. -/
theorem Sound.fresh_of_quiet (sound : screen.Sound)
    (quiet : screen.writes = []) : screen.Fresh := by
  have nothing : ∀ entry, entry ∉ screen.writes := by
    rw [quiet]
    exact fun _ => List.not_mem_nil
  exact ⟨fun _ _ _ _ wrote => absurd wrote (nothing _),
    fun _ _ wrote => absurd wrote (nothing _),
    fun _ _ _ _ _ => nothing _,
    fun _ _ wrote => absurd wrote (nothing _), sound.settled.inFlight⟩

/-- Entries of `navigate`, which only clear the rollup status and panels. -/
def ByNavigate (entry : Writer × Write Rows Stats) : Prop :=
  entry.1 = .navigate ∧ (entry.2.OnRollup → entry.2.Clears)

theorem Sound.fresh_of_navigate (sound : screen.Sound)
    (writes : ∀ entry ∈ screen.writes, ByNavigate entry) : screen.Fresh where
  tables := by
    intro id data rollup computing wrote
    cases (writes _ wrote).1
  latest := by
    intro id write wrote
    cases (writes _ wrote).1
  superseded := by
    intro id load write _ _ wrote
    cases (writes _ wrote).1
  panels := by
    intro writer write wrote onRollup
    obtain ⟨rfl, clears⟩ := writes _ wrote
    exact .navigate (clears onRollup)
  inFlight := sound.settled.inFlight

/-- A call of `loadRollup` with the current token may write what it likes. -/
theorem Sound.fresh_of_rollup (sound : screen.Sound) {id : Nat}
    {load : RollupLoad} (found : screen.rollupLoads[id]? = some load)
    (current : load.token = screen.rollupToken)
    (writes : ∀ entry ∈ screen.writes, ByRollup id entry) : screen.Fresh where
  tables := by
    intro other data rollup computing wrote
    cases writes _ wrote
  latest := by
    intro other write wrote
    cases writes _ wrote
  superseded := by
    intro other load write _ _ wrote
    cases writes _ wrote
  panels := by
    intro writer write wrote _
    have same : writer = .rollup id := writes _ wrote
    subst same
    exact .rollup found current (sound.settled.here id load found current)
  inFlight := sound.settled.inFlight

/-- Entries of one call of `loadPage`, whose tables show its data. -/
def ByPage (id : Nat) (data : Option (ListResponse Rows))
    (entry : Writer × Write Rows Stats) : Prop :=
  entry.1 = .page id ∧ ¬ entry.2.OnRollup ∧
    ∀ shown rollup computing, entry.2 = .table shown rollup computing →
      data = some shown

theorem Sound.fresh_of_page (sound : screen.Sound) {id : Nat} {load : PageLoad}
    (data : Option (ListResponse Rows))
    (found : screen.loads[id]? = some load)
    (latest : id + 1 = screen.loads.length)
    (kept : load.place.outcome ≠ some .superseded)
    (answers : ∀ shown, data = some shown → screen.Answers id shown)
    (writes : ∀ entry ∈ screen.writes, ByPage id data entry) :
    screen.Fresh where
  tables := by
    intro other shown rollup computing wrote
    obtain ⟨same, _, showsData⟩ := writes _ wrote
    cases same
    exact answers shown (showsData _ _ _ rfl)
  latest := by
    intro other write wrote
    cases (writes _ wrote).1
    exact latest
  superseded := by
    intro other moved write foundOther superseded wrote
    cases (writes _ wrote).1
    cases found.symm.trans foundOther
    exact kept superseded
  panels := by
    intro writer write wrote onRollup
    exact absurd onRollup (writes _ wrote).2.1
  inFlight := sound.settled.inFlight

theorem sound_loadPage (linked : screen.Linked) (settled : screen.Settled)
    (page : Int) (target : Option Text) :
    (screen.loadPage page target).Sound :=
  ⟨linked.loadPage page target, linked.current_loadPage page target,
    settled.loadPage page target⟩

theorem navigate_sound (linked : screen.Linked) (issued : screen.Issued)
    (path : Text) :
    (screen.navigate path).Sound ∧ ∀ entry ∈ (screen.navigate path).writes,
      entry ∈ screen.writes ∨ ByNavigate entry := by
  let moved : Screen Rows Stats := { ((screen.setPath (normDir path)).setPage
    1).setNameFilter [] with filterInput := [] }
  have movedLinked : moved.Linked := linked.frame rfl rfl rfl rfl
  let hidden := moved.resetListing.write .navigate [.hideBanner]
  have hides : Paints ByNavigate moved.resetListing hidden := by
    apply Paints.write
    intro write member
    cases List.mem_singleton.mp member
    exact ⟨rfl, False.elim⟩
  have hiddenLinked := hides.linked movedLinked.resetListing
  have hiddenIssued : hidden.Issued := issued
  let emptied := hidden.cancelActiveRollup.resetRollupPanels .navigate
  have empties : Paints ByNavigate hidden.cancelActiveRollup emptied := by
    apply Paints.write
    intro write member
    rcases List.mem_pair.mp member with rfl | rfl
    · exact ⟨rfl, fun _ => .inr (.inl rfl)⟩
    · exact ⟨rfl, fun _ => .inr (.inr rfl)⟩
  let blanked := emptied.write .navigate [.rollupStatus .blank]
  have blanks : Paints ByNavigate emptied blanked := by
    apply Paints.write
    intro write member
    cases List.mem_singleton.mp member
    exact ⟨rfl, fun _ => .inl rfl⟩
  let cleared := blanked.updateExportLinks .navigate
  have links : Paints ByNavigate blanked cleared :=
    .updateExportLinks fun _ => ⟨rfl, False.elim⟩
  have clearing := (empties.trans blanks).trans links
  have same : screen.navigate path =
      cleared.loadPage 1 (some moved.view.path) := rfl
  rw [same]
  refine ⟨sound_loadPage (clearing.linked hiddenLinked.cancelActiveRollup)
    (clearing.settled hiddenIssued.cancelActiveRollup) _ _, ?_⟩
  intro entry member
  rw [loadPage_writes] at member
  rcases clearing.writes entry member with before | new
  · rw [cancelActiveRollup_writes] at before
    exact hides.writes entry before
  · exact .inr new

theorem Sound.moveLoad (sound : screen.Sound) {id : Nat} {load : PageLoad}
    (found : screen.loads[id]? = some load) (place : LoadPlace) :
    (screen.moveLoad id load place).Sound :=
  ⟨sound.linked.moveLoad found place, sound.current.moveLoad found place,
    sound.settled.frame rfl rfl rfl rfl⟩

theorem Sound.prefetch (sound : screen.Sound) (data : ListResponse Rows) :
    (screen.prefetch data).Sound :=
  ⟨sound.linked.prefetch data, sound.current.prefetch data,
    sound.settled.prefetch data⟩

theorem moveLoad_found {id : Nat} {load : PageLoad}
    (found : screen.loads[id]? = some load) (place : LoadPlace) :
    (screen.moveLoad id load place).loads[id]? =
      some { load with place := place } := by
  obtain ⟨inside, _⟩ := List.getElem?_eq_some_iff.mp found
  exact List.getElem?_set_self inside

/-- A call with the newest token is the latest call. -/
theorem Linked.latest (linked : screen.Linked) {id : Nat} {load : PageLoad}
    (found : screen.loads[id]? = some load)
    (newest : load.token = screen.listingToken) :
    id + 1 = screen.loads.length := by
  rw [← linked.count, ← newest, linked.tokens id load found]

theorem paints_page {data : Option (ListResponse Rows)} {id : Nat}
    {write : Write Rows Stats} (plain : ¬ write.OnRollup)
    (table : ∀ shown rollup computing, write = .table shown rollup computing →
      data = some shown) :
    Paints (ByPage id data) screen (screen.write (.page id) [write]) := by
  apply Paints.write
  intro same member
  cases List.mem_singleton.mp member
  exact ⟨rfl, plain, table⟩

theorem paints_present (screen : Screen Rows Stats) (id : Nat)
    (load : PageLoad) (data : ListResponse Rows) :
    Paints (ByPage id (some data)) screen (screen.present id load data) := by
  have received : Paints (ByPage id (some data)) screen
      ({ screen with listing := some data }.setPage data.page) :=
    ⟨rfl, rfl, rfl, rfl, rfl, rfl, rfl, rfl, fun _ old => .inl old⟩
  have shown (before : Screen Rows Stats) : Paints (ByPage id (some data))
      before (before.renderTable (.page id) data) := by
    refine Paints.renderTable fun rollup computing => ⟨rfl, False.elim, ?_⟩
    intro shown _ _ same
    cases same
    rfl
  have paged (before : Screen Rows Stats) : Paints (ByPage id (some data))
      before (before.write (.page id) [.pager data]) :=
    paints_page False.elim nofun
  have painted := (received.trans (shown _)).trans (paged _)
  rw [present]
  split
  · exact painted.trans (paints_page False.elim nofun)
  · split
    · exact painted.trans (paints_page False.elim nofun)
    · exact painted

theorem paints_clearListingUI (screen : Screen Rows Stats) (id : Nat)
    (message : Text) :
    Paints (ByPage id none) screen
      ((screen.write (.page id)
        [.showBanner (.listingFailed message)]).clearListingUI (.page id)) := by
  have bannered : Paints (ByPage id none) screen
      (screen.write (.page id) [.showBanner (.listingFailed message)]) :=
    paints_page False.elim nofun
  have emptied (before : Screen Rows Stats) :
      Paints (ByPage id none) before { before with listing := none } :=
    ⟨rfl, rfl, rfl, rfl, rfl, rfl, rfl, rfl, fun _ old => .inl old⟩
  have cleared (before : Screen Rows Stats) : Paints (ByPage id none) before
      (before.write (.page id) [.clearListing]) :=
    paints_page False.elim nofun
  have linked (before : Screen Rows Stats) : Paints (ByPage id none) before
      (before.updateExportLinks (.page id)) :=
    paints_page False.elim nofun
  exact ((bannered.trans (emptied _)).trans (cleared _)).trans (linked _)

theorem fetches_prefetch {id : Nat} {fetch : Fetch Rows}
    (found : screen.fetches[id]? = some fetch) (data : ListResponse Rows) :
    (screen.prefetch data).fetches[id]? = some fetch := by
  rw [prefetch]
  split <;> split
  · exact fetches_fetchPage (fetches_fetchPage found _) _
  · exact fetches_fetchPage found _
  · exact fetches_fetchPage found _
  · exact found

theorem prefetch_view (data : ListResponse Rows) :
    (screen.prefetch data).view = screen.view := by
  rw [prefetch]
  split <;> split <;> simp only [fetchPage_view]

theorem prefetch_loads (data : ListResponse Rows) :
    (screen.prefetch data).loads = screen.loads := by
  rw [prefetch]
  split <;> split <;> simp only [fetchPage_loads]

/-- A rendered call of `loadPage` leaves calls, fetches and the key alone, and
writes its own data. -/
theorem render_spec (sound : screen.Sound) (id : Nat) (load : PageLoad)
    (data : ListResponse Rows) :
    (screen.render id load data).Sound ∧
      (screen.render id load data).loads = screen.loads ∧
      (screen.render id load data).listingKey = screen.listingKey ∧
      (∀ (asked : Nat) (fetch : Fetch Rows),
        screen.fetches[asked]? = some fetch →
          (screen.render id load data).fetches[asked]? = some fetch) ∧
      ∀ entry ∈ (screen.render id load data).writes,
        entry ∈ screen.writes ∨ ByPage id (some data) entry := by
  have painted := paints_present screen id load data
  have linked : Paints (ByPage id (some data))
      ((screen.present id load data).prefetch data)
      (screen.render id load data) := paints_page False.elim nofun
  refine ⟨linked.sound ((painted.sound sound).prefetch data), ?_, ?_, ?_, ?_⟩
  · rw [linked.loads, prefetch_loads, painted.loads]
  · rw [linked.key, listingKey, prefetch_view]
    exact painted.key
  · intro asked fetch found
    rw [linked.fetches]
    rw [← painted.fetches] at found
    exact fetches_prefetch found data
  · intro entry member
    rcases linked.writes entry member with before | new
    · rw [prefetch_writes] at before
      exact painted.writes entry before
    · exact .inr new

theorem resumeLoad_sound (sound : screen.Sound) (quiet : screen.writes = [])
    {id : Nat} {load : PageLoad} (found : screen.loads[id]? = some load)
    {fetch : Fetch Rows} (fetched : screen.fetches[load.fetch]? = some fetch)
    {answer : Except Text (ListResponse Rows)}
    (answered : fetch.outcome = some answer) :
    (screen.resumeLoad id load answer).Sound ∧
      (screen.resumeLoad id load answer).Fresh := by
  have silent : (screen.moveLoad id load (.returned .superseded)).Sound ∧
      (screen.moveLoad id load (.returned .superseded)).Fresh :=
    ⟨sound.moveLoad found _, (sound.moveLoad found _).fresh_of_quiet quiet⟩
  cases answer with
  | error message =>
      rw [resumeLoad]
      split
      · exact silent
      next newest =>
        have newest : load.token = screen.listingToken := not_not.mp newest
        have cleared := paints_clearListingUI screen id message
        have found' := found
        rw [← cleared.loads] at found'
        have moved := (cleared.sound sound).moveLoad found' (.returned .failed)
        refine ⟨moved, moved.fresh_of_page none (moveLoad_found found' _) ?_
          nofun nofun ?_⟩
        · rw [moveLoad, List.length_set, cleared.loads]
          exact sound.linked.latest found newest
        · intro entry member
          exact written_of_quiet quiet (cleared.writes entry member)
  | ok data =>
      rw [resumeLoad]
      split
      · exact silent
      next guarded =>
        obtain ⟨newest, key⟩ := not_or.mp guarded
        have newest : load.token = screen.listingToken := not_not.mp newest
        have key : load.expectedKey = screen.listingKey := not_not.mp key
        obtain ⟨rendered, loads, sameKey, fetches, writes⟩ :=
          render_spec sound id load data
        have latest := sound.linked.latest found newest
        have found' := found
        rw [← loads] at found'
        have moved := rendered.moveLoad found' (.returned .ok)
        have last : id + 1 = ((screen.render id load data).moveLoad id load
            (.returned .ok)).loads.length := by
          rw [moveLoad, List.length_set, loads]
          exact latest
        refine ⟨moved, moved.fresh_of_page (some data)
          (moveLoad_found found' _) last nofun ?_ ?_⟩
        · intro shown same
          cases same
          obtain ⟨other, foundFetch, request, page⟩ :=
            sound.linked.waits id load found
          cases fetched.symm.trans foundFetch
          exact ⟨last, _, fetch, moveLoad_found found' _,
            fetches load.fetch fetch fetched,
            request.trans (key.trans sameKey.symm), page, answered⟩
        · intro entry member
          exact written_of_quiet quiet (writes entry member)

theorem loadRollup_sound (sound : screen.Sound) (quiet : screen.writes = []) :
    (screen.loadRollup screen.view.path).Sound ∧
      (screen.loadRollup screen.view.path).Fresh := by
  let cancelled := screen.cancelActiveRollup
  let token := cancelled.rollupToken + 1
  let load : RollupLoad := ⟨screen.view.path, token, .requested⟩
  let requested : Screen Rows Stats := { cancelled with
    rollupToken := token
    rollupInFlight := some screen.view.path
    rollupLoads := cancelled.rollupLoads ++ [load] }
  have linked := sound.linked.cancelActiveRollup
  have current := sound.current.cancelActiveRollup
  have issued := sound.settled.issued.cancelActiveRollup.issued
  have path : cancelled.view.path = screen.view.path := by
    obtain ⟨deletes, cancelToken, same⟩ := screen.cancelActiveRollup_eq
    exact congrArg (·.view.path) same
  have count : cancelled.rollupLoads.length = screen.rollupLoads.length := by
    obtain ⟨deletes, cancelToken, same⟩ := screen.cancelActiveRollup_eq
    exact congrArg (·.rollupLoads.length) same
  have requestedSound : requested.Sound := by
    refine ⟨linked.frame rfl rfl rfl rfl, current, ?_, ?_,
      .inr (congrArg some path.symm)⟩
    · intro id other found
      rcases of_getElem?_concat found with before | ⟨_, rfl⟩
      · exact (issued id other before).trans (Nat.le_succ _)
      · exact Nat.le_refl _
    · intro id other found newest
      rcases of_getElem?_concat found with before | ⟨_, rfl⟩
      · have older : other.token ≤ cancelled.rollupToken :=
          issued id other before
        have newest : other.token = cancelled.rollupToken + 1 := newest
        omega
      · exact path.symm
  have told : Paints (ByRollup screen.rollupLoads.length) requested
      (screen.loadRollup screen.view.path) :=
    Paints.trans (.write fun _ _ => rfl) (.write fun _ _ => rfl)
  have found : (screen.loadRollup
      screen.view.path).rollupLoads[screen.rollupLoads.length]? = some load := by
    rw [told.rollupLoads, ← count]
    exact List.getElem?_concat_length
  have soundAfter := told.sound requestedSound
  refine ⟨soundAfter,
    soundAfter.fresh_of_rollup found told.rollupToken.symm ?_⟩
  have quiet : requested.writes = [] :=
    screen.cancelActiveRollup_writes.trans quiet
  intro entry member
  exact written_of_quiet quiet (told.writes entry member)

/-- `navigate` goes on for the path it set only if that is still the path. -/
theorem navigated_sound (sound : screen.Sound) (quiet : screen.writes = [])
    (target : Text) (outcome : LoadOutcome) :
    (screen.navigated target outcome).Sound ∧
      (screen.navigated target outcome).Fresh := by
  have silent : screen.Sound ∧ screen.Fresh := ⟨sound, sound.fresh_of_quiet quiet⟩
  rw [navigated]
  split
  · exact silent
  next here =>
    split
    · exact silent
    · have here : screen.view.path = target := not_not.mp here
      subst here
      exact loadRollup_sound sound quiet

theorem Sound.moveRollup (sound : screen.Sound) {id : Nat} {load : RollupLoad}
    (found : screen.rollupLoads[id]? = some load) (place : RollupPlace) :
    (screen.moveRollup id load place).Sound :=
  ⟨sound.linked.frame rfl rfl rfl rfl, sound.current,
    sound.settled.moveRollup found place⟩

theorem Sound.finish (sound : screen.Sound) :
    Sound { screen with rollupInFlight := none } :=
  ⟨sound.linked.frame rfl rfl rfl rfl, sound.current, sound.settled.finish⟩

theorem moveRollup_found {id : Nat} {load : RollupLoad}
    (found : screen.rollupLoads[id]? = some load) (place : RollupPlace) :
    (screen.moveRollup id load place).rollupLoads[id]? =
      some { load with place := place } := by
  obtain ⟨inside, _⟩ := List.getElem?_eq_some_iff.mp found
  exact List.getElem?_set_self inside

/-- What a call of `loadRollup` with the current token paints is fresh. -/
theorem Sound.fresh_of_paints {before after : Screen Rows Stats}
    (sound : before.Sound) (quiet : before.writes = []) {id : Nat}
    {load : RollupLoad} (found : before.rollupLoads[id]? = some load)
    (current : load.token = before.rollupToken)
    (paints : Paints (ByRollup id) before after) :
    after.Sound ∧ after.Fresh := by
  have soundAfter := paints.sound sound
  rw [← paints.rollupLoads] at found
  rw [← paints.rollupToken] at current
  refine ⟨soundAfter, soundAfter.fresh_of_rollup found current ?_⟩
  intro entry member
  exact written_of_quiet quiet (paints.writes entry member)

/-- A rollup is rendered, or a line is written and the rollup settled. -/
theorem Sound.fresh_of_result {before : Screen Rows Stats}
    (sound : before.Sound) (quiet : before.writes = []) {id : Nat}
    {load : RollupLoad} (found : before.rollupLoads[id]? = some load)
    (current : load.token = before.rollupToken) (result : RollupBody Stats) :
    ({ before with rollupInFlight := none }.renderRollup id result).Sound ∧
      ({ before with rollupInFlight := none }.renderRollup id result).Fresh :=
  sound.finish.fresh_of_paints quiet found current (paints_renderRollup id result)

theorem Sound.fresh_of_line {before : Screen Rows Stats}
    (sound : before.Sound) (quiet : before.writes = []) {id : Nat}
    {load : RollupLoad} (found : before.rollupLoads[id]? = some load)
    (current : load.token = before.rollupToken) (line : StatusLine Stats) :
    ((before.write (.rollup id) [.rollupStatus line]).rollupSettled id).Sound ∧
      ((before.write (.rollup id)
        [.rollupStatus line]).rollupSettled id).Fresh := by
  have told : Paints (ByRollup id) { before with rollupInFlight := none }
      { before.write (.rollup id) [.rollupStatus line] with
        rollupInFlight := none } :=
    Paints.write fun _ _ => rfl
  exact sound.finish.fresh_of_paints quiet found current
    (told.trans (paints_rollupSettled id))

/-- An event whose writes nobody could see. -/
theorem Sound.fresh_of_silence {before after : Screen Rows Stats}
    (sound : before.Sound) (quiet : before.writes = [])
    (paints : Paints (fun _ => False) before after) :
    after.Sound ∧ after.Fresh := by
  have soundAfter := paints.sound sound
  refine ⟨soundAfter, soundAfter.fresh_of_quiet ?_⟩
  apply List.eq_nil_iff_forall_not_mem.mpr
  intro entry member
  have old := (paints.writes entry member).resolve_right id
  rw [quiet] at old
  exact List.not_mem_nil old

theorem respond_sound (sound : screen.Sound) (quiet : screen.writes = [])
    {id : Nat} {load : RollupLoad}
    (found : screen.rollupLoads[id]? = some load)
    (answer : RollupAnswer Stats) :
    (screen.respond id load answer).Sound ∧
      (screen.respond id load answer).Fresh := by
  have moved := sound.moveRollup found .returned
  have found' := moveRollup_found found .returned
  have silent := moved.fresh_of_quiet quiet
  cases answer with
  | failed status message =>
      rw [respond]
      split
      · exact ⟨moved, silent⟩
      next current =>
        exact moved.fresh_of_line quiet found' (not_not.mp current) _
  | result result =>
      rw [respond]
      split
      · exact ⟨moved, silent⟩
      next current =>
        exact moved.fresh_of_result quiet found' (not_not.mp current) result
  | accepted jobId cancelToken =>
      rw [respond]
      split
      · cases jobId with
        | none => exact ⟨moved, silent⟩
        | some jobId =>
            exact moved.fresh_of_silence quiet
              ⟨rfl, rfl, rfl, rfl, rfl, rfl, rfl, rfl, fun _ old => .inl old⟩
      · exact (sound.moveRollup found (.sleeping jobId)).fresh_of_silence quiet
          ⟨rfl, rfl, rfl, rfl, rfl, rfl, rfl, rfl, fun _ old => .inl old⟩

theorem poll_sound (sound : screen.Sound) (quiet : screen.writes = [])
    {id : Nat} {load : RollupLoad}
    (found : screen.rollupLoads[id]? = some load) (jobId : Option Nat) :
    (screen.poll id load jobId).Sound ∧ (screen.poll id load jobId).Fresh := by
  have moved (place : RollupPlace) := sound.moveRollup found place
  rw [poll]
  split
  · exact ⟨moved _, (moved _).fresh_of_quiet quiet⟩
  · exact ⟨moved _, (moved _).fresh_of_quiet quiet⟩

theorem dropPair_writes (jobId : Option Nat) :
    (screen.dropPair jobId).writes = screen.writes := by
  rw [dropPair]
  split <;> rfl

theorem polled_sound (sound : screen.Sound) (quiet : screen.writes = [])
    {id : Nat} {load : RollupLoad}
    (found : screen.rollupLoads[id]? = some load) (jobId : Option Nat)
    (answer : PollAnswer Stats) :
    (screen.polled id load jobId answer).Sound ∧
      (screen.polled id load jobId answer).Fresh := by
  have moved := sound.moveRollup found .returned
  have found' := moveRollup_found found .returned
  unfold polled
  split
  · exact ⟨moved, moved.fresh_of_quiet quiet⟩
  next current =>
    have current : load.token = screen.rollupToken := not_not.mp current
    -- The job has ended: the pair goes before anything is painted.
    let dropped := (screen.moveRollup id load .returned).dropPair jobId
    have drops : Paints (ByRollup id) (screen.moveRollup id load .returned)
        dropped := .dropPair jobId
    have droppedSound := drops.sound moved
    have droppedQuiet : dropped.writes = [] :=
      (dropPair_writes jobId).trans quiet
    have droppedFound : dropped.rollupLoads[id]? =
        some { load with place := .returned } := by
      rw [drops.rollupLoads]
      exact found'
    have droppedCurrent : load.token = dropped.rollupToken :=
      current.trans drops.rollupToken.symm
    cases answer with
    | failed message => exact moved.fresh_of_line quiet found' current _
    | done result =>
        exact droppedSound.fresh_of_result droppedQuiet droppedFound
          droppedCurrent result
    | stopped error =>
        exact droppedSound.fresh_of_line droppedQuiet droppedFound
          droppedCurrent _
    | active activity =>
        have told : Paints (ByRollup id)
            (screen.moveRollup id load (.sleeping jobId))
            ((screen.write (.rollup id)
              [.rollupStatus (.progress load.path activity)]).moveRollup id load
                (.sleeping jobId)) :=
          Paints.write fun _ _ => rfl
        exact (sound.moveRollup found (.sleeping jobId)).fresh_of_paints quiet
          (moveRollup_found found _) current told

/-- A call of `loadPage` by a handler, with whatever it changed in the view but
the path. -/
theorem loadPage_sound (linked : screen.Linked) (settled : screen.Settled)
    (quiet : screen.writes = []) (page : Int) (target : Option Text) :
    (screen.loadPage page target).Sound ∧
      (screen.loadPage page target).Fresh := by
  have sound := sound_loadPage linked settled page target
  exact ⟨sound, sound.fresh_of_quiet ((loadPage_writes page target).trans quiet)⟩

theorem refreshListing_sound (linked : screen.Linked)
    (settled : screen.Settled) (quiet : screen.writes = []) :
    screen.refreshListing.Sound ∧ screen.refreshListing.Fresh := by
  have paged : (screen.setPage 1).Linked := linked.frame rfl rfl rfl rfl
  exact loadPage_sound paged.resetListing (settled.frame rfl rfl rfl rfl) quiet
    1 none

theorem forget_sound (sound : screen.Sound) (quiet : screen.writes = [])
    (id : Nat) (fetch : Fetch Rows) :
    (screen.forget id fetch).Sound ∧ (screen.forget id fetch).Fresh := by
  have current : (screen.forget id fetch).Current := by
    rw [Screen.forget]
    split <;> exact sound.current
  have settled : (screen.forget id fetch).Settled := by
    rw [Screen.forget]
    split <;> exact sound.settled.frame rfl rfl rfl rfl
  have silent : (screen.forget id fetch).writes = [] := by
    rw [Screen.forget]
    split <;> exact quiet
  have after : (screen.forget id fetch).Sound :=
    ⟨sound.linked.forget id fetch, current, settled⟩
  exact ⟨after, after.fresh_of_quiet silent⟩

end Screen

open Screen

/-- Whatever the event, it keeps the invariant and writes nothing stale. -/
theorem handle_sound {screen after : Screen Rows Stats}
    (sound : screen.Sound) (quiet : screen.writes = [])
    (label : Label Rows Stats) (handled : handle screen label = some after) :
    after.Sound ∧ after.Fresh := by
  have linked := sound.linked
  have settled := sound.settled
  have unseen {next : Screen Rows Stats} (same : next.writes = [])
      (sound : next.Sound) : next.Sound ∧ next.Fresh :=
    ⟨sound, sound.fresh_of_quiet same⟩
  have streaked (streak : Nat) : Sound { screen with forwardStreak := streak } :=
    ⟨linked.frame rfl rfl rfl rfl, sound.current,
      settled.frame rfl rfl rfl rfl⟩
  have paged (streak : Nat) (page : Int) :=
    loadPage_sound (streaked streak).linked (streaked streak).settled quiet page
      none
  cases label with
  | navigate path =>
      cases handled
      obtain ⟨soundAfter, writes⟩ :=
        navigate_sound linked settled.issued path
      refine ⟨soundAfter, soundAfter.fresh_of_navigate ?_⟩
      intro entry member
      exact written_of_quiet quiet (writes entry member)
  | sortBy column =>
      cases handled
      exact refreshListing_sound (linked.frame rfl rfl rfl rfl)
        (settled.frame rfl rfl rfl rfl) quiet
  | typeFilter type =>
      cases handled
      exact refreshListing_sound (linked.frame rfl rfl rfl rfl)
        (settled.frame rfl rfl rfl rfl) quiet
  | pageSize size =>
      cases handled
      exact refreshListing_sound (linked.frame rfl rfl rfl rfl)
        (settled.frame rfl rfl rfl rfl) quiet
  | prevPage =>
      cases handled
      rw [prevPage]
      split
      · exact paged 0 _
      · exact unseen quiet (streaked 0)
  | nextPage =>
      cases handled
      exact paged (screen.forwardStreak + 1) _
  | jump page =>
      cases handled
      cases page with
      | none => exact unseen quiet (streaked 0)
      | some page =>
          rw [jump]
          split
          · exact paged 0 page
          · exact unseen quiet (streaked 0)
  | nameInput value =>
      cases handled
      exact unseen quiet ⟨linked.frame rfl rfl rfl rfl, sound.current,
        settled.frame rfl rfl rfl rfl⟩
  | filterTimeout =>
      simp only [handle] at handled
      split at handled
      · cases handled
        exact refreshListing_sound (linked.frame rfl rfl rfl rfl)
          (settled.frame rfl rfl rfl rfl) quiet
      · cases handled
  | settle id outcome =>
      obtain ⟨fetch, found, handled⟩ := Option.bind_eq_some_iff.mp handled
      split at handled
      · cases handled
        exact unseen quiet ⟨linked.settle found (some outcome), sound.current,
          settled.frame rfl rfl rfl rfl⟩
      · cases handled
  | forget id =>
      obtain ⟨fetch, found, handled⟩ := Option.bind_eq_some_iff.mp handled
      split at handled
      · cases handled
        exact forget_sound sound quiet id fetch
      · cases handled
  | resumeLoad id =>
      obtain ⟨load, found, handled⟩ := Option.bind_eq_some_iff.mp handled
      split at handled
      · obtain ⟨fetch, fetched, handled⟩ := Option.bind_eq_some_iff.mp handled
        obtain ⟨answer, answered, rfl⟩ := Option.map_eq_some_iff.mp handled
        exact resumeLoad_sound sound quiet found fetched answered
      · cases handled
  | navigated id =>
      obtain ⟨load, found, handled⟩ := Option.bind_eq_some_iff.mp handled
      split at handled
      · cases handled
        exact navigated_sound (sound.moveLoad found _) quiet _ _
      · cases handled
  | respond id answer =>
      obtain ⟨load, found, handled⟩ := Option.bind_eq_some_iff.mp handled
      split at handled
      · cases handled
        exact respond_sound sound quiet found answer
      · cases handled
  | poll id =>
      obtain ⟨load, found, handled⟩ := Option.bind_eq_some_iff.mp handled
      split at handled
      · cases handled
        exact poll_sound sound quiet found _
      · cases handled
  | polled id answer =>
      obtain ⟨load, found, handled⟩ := Option.bind_eq_some_iff.mp handled
      split at handled
      · cases handled
        exact polled_sound sound quiet found _ answer
      · cases handled

theorem step_sound {screen after : Screen Rows Stats} (sound : screen.Sound)
    {label : Label Rows Stats} (stepped : step screen label = some after) :
    after.Sound ∧ after.Fresh := by
  have silenced : Sound { screen with writes := [] } :=
    ⟨sound.linked.frame rfl rfl rfl rfl, sound.current,
      sound.settled.frame rfl rfl rfl rfl⟩
  exact handle_sound silenced rfl label stepped

theorem start_sound :
    (Screen.new.navigate ['/'] : Screen Rows Stats).Sound ∧
      (Screen.new.navigate ['/'] : Screen Rows Stats).Fresh := by
  have linked : (Screen.new : Screen Rows Stats).Linked := by
    refine ⟨rfl, ?_, ?_, ?_⟩
    · intro id load found
      cases found
    · intro id load found
      cases found
    · intro key page id cached
      cases cached
  have issued : (Screen.new : Screen Rows Stats).Issued := by
    intro id load found
    cases found
  obtain ⟨sound, writes⟩ := navigate_sound linked issued ['/']
  refine ⟨sound, sound.fresh_of_navigate ?_⟩
  intro entry member
  exact (writes entry member).resolve_left List.not_mem_nil

/-- No stale repaint: whatever the order of events, the table is rendered from
an answer to the current listing key and the page asked for last, an overtaken
`loadPage` writes nothing, and only the `loadRollup` of the current token and
path writes to the rollup panels, which `navigate` clears. -/
theorem no_stale_repaint {screen : Screen Rows Stats}
    (reachable : (system Rows Stats).Reachable StepSystem.AnyStep screen) :
    screen.Fresh := by
  have both : screen.Sound ∧ screen.Fresh := by
    induction reachable with
    | start initial =>
        cases initial
        exact start_sound
    | next _ _ stepped ih => exact step_sound ih.1 stepped
  exact both.2

def sampleResponse : ListResponse Unit where
  path := ['/']
  page := 1
  pages := 3
  truncated := false
  totalRows := 45
  rows := ()

/-- From `/` to `/a/` and back: the first `navigate` goes on in the third visit,
and its rollup is under way when the third listing comes. -/
def returning : List (Label Unit Unit) :=
  [.navigate ['a'], .navigate ['/'], .settle 0 (.ok sampleResponse),
    .resumeLoad 0, .navigated 0, .settle 2 (.ok sampleResponse), .resumeLoad 2]

theorem returning_fresh :
    ∃ screen : Screen Unit Unit,
      (system Unit Unit).Reachable StepSystem.AnyStep screen ∧
        (Writer.page 2, Write.table sampleResponse none true) ∈ screen.writes ∧
        (screen.loads.map fun load => load.place.outcome) =
          [some .superseded, none, some .ok] ∧
        screen.Fresh := by
  have ran : ∃ final ∈ (system Unit Unit).run (Screen.new.navigate ['/'])
      returning,
      (Writer.page 2, Write.table sampleResponse none true) ∈ final.writes ∧
        (final.loads.map fun load => load.place.outcome) =
          [some .superseded, none, some .ok] := by decide
  obtain ⟨final, ran, shown, outcomes⟩ := ran
  have reachable : (system Unit Unit).Reachable StepSystem.AnyStep final :=
    .of_run (.start rfl) (.any _ _ _) ran
  exact ⟨final, reachable, shown, outcomes, no_stale_repaint reachable⟩

end Catwalk.Browser
