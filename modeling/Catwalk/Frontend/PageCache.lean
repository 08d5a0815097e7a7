import Catwalk.Data.Updates
import Catwalk.Frontend.Repaint

/-! The pages that a browser keeps: those of the listing on the screen, few of
them, and none that failed; and the requests that one call may cause. -/

namespace OrderedDict

variable {Key Value : Type}

theorem size_dropOldest (dict : OrderedDict Key Value) {max fuel : Nat}
    (enough : dict.size ≤ max + fuel) : (dict.dropOldest max fuel).size ≤ max := by
  induction fuel generalizing dict with
  | zero => exact enough
  | succ fuel ih =>
      rw [dropOldest]
      split
      next within => exact within
      next large =>
          cases split : dict.entries with
          | nil =>
              have small : dict.size = 0 := by
                rw [size, split]
                rfl
              exact absurd (small ▸ Nat.zero_le max) large
          | cons first tail =>
              obtain ⟨rest, popped, entries⟩ := popFirst_of_entries split
              rw [popped]
              apply ih
              have fewer : rest.size + 1 = dict.size := by
                rw [size, size, split, entries, List.length_cons]
              omega

end OrderedDict

namespace Catwalk.Browser

open Script (normDir)

variable {Rows Stats : Type}

def PageLoad.isAwaiting (load : PageLoad) : Bool :=
  match load.place with
  | .awaiting => true
  | .returned _ | .continued _ => false

namespace Screen

variable {screen after : Screen Rows Stats} {forgotten : Nat → Prop}

/-- The `loadPage` calls that have not rendered. -/
def awaiting (screen : Screen Rows Stats) : Nat :=
  screen.loads.countP PageLoad.isAwaiting

/-- Every page that is kept is one of the listing on the screen, and no fetch
whose failure was handled is kept. -/
structure Keeps (forgotten : Nat → Prop) (screen : Screen Rows Stats) : Prop where
  size : screen.pageCache.size ≤ pageCacheMax
  keys : ∀ key page id, screen.pageCache.get? (key, page) = some id →
    key = screen.listingKey
  fresh : ∀ key page id, screen.pageCache.get? (key, page) = some id →
    ¬ forgotten id
  known : ∀ id, forgotten id → id < screen.fetches.length

/-- A call has one fetch to make and two to come when it renders. -/
def Paid (screen : Screen Rows Stats) : Prop :=
  screen.fetches.length + 2 * screen.awaiting ≤ 3 * screen.loads.length

/-- The state of the requests is that of another screen. -/
structure SameTraffic (before after : Screen Rows Stats) : Prop where
  key : after.listingKey = before.listingKey
  pageCache : after.pageCache = before.pageCache
  fetches : after.fetches = before.fetches
  loads : after.loads = before.loads

theorem SameTraffic.refl (screen : Screen Rows Stats) :
    SameTraffic screen screen :=
  ⟨rfl, rfl, rfl, rfl⟩

theorem SameTraffic.trans {middle : Screen Rows Stats}
    (first : SameTraffic screen middle) (second : SameTraffic middle after) :
    SameTraffic screen after where
  key := second.key.trans first.key
  pageCache := second.pageCache.trans first.pageCache
  fetches := second.fetches.trans first.fetches
  loads := second.loads.trans first.loads

theorem Paints.sameTraffic {By : Writer × Write Rows Stats → Prop}
    (paints : Paints By screen after) : SameTraffic screen after :=
  ⟨paints.key, paints.pageCache, paints.fetches, paints.loads⟩

theorem Keeps.frame (keeps : screen.Keeps forgotten)
    (same : SameTraffic screen after) : after.Keeps forgotten where
  size := same.pageCache ▸ keeps.size
  keys := by
    rw [same.pageCache, same.key]
    exact keeps.keys
  fresh := by
    rw [same.pageCache]
    exact keeps.fresh
  known := by
    rw [same.fetches]
    exact keeps.known

theorem Paid.frame (paid : screen.Paid) (same : SameTraffic screen after) :
    after.Paid := by
  rw [Paid, awaiting, same.fetches, same.loads]
  exact paid

section Requests

theorem length_fetchPage (page : Int) :
    (screen.fetchPage page).2.fetches.length ≤ screen.fetches.length + 1 := by
  rw [fetchPage]
  split
  · exact Nat.le_succ _
  · rw [List.length_append, List.length_singleton]

theorem le_length_fetchPage (page : Int) :
    screen.fetches.length ≤ (screen.fetchPage page).2.fetches.length := by
  rw [fetchPage]
  split
  · exact Nat.le_refl _
  · rw [List.length_append]
    exact Nat.le_add_right _ _

theorem fetchPage_key (page : Int) :
    (screen.fetchPage page).2.listingKey = screen.listingKey :=
  congrArg View.toListingKey (fetchPage_view page)

/-- A page that is fetched anew displaces the oldest one. -/
theorem Keeps.fetchPage (keeps : screen.Keeps forgotten) (page : Int) :
    (screen.fetchPage page).2.Keeps forgotten where
  size := by
    rw [Screen.fetchPage]
    split
    · exact keeps.size
    · exact OrderedDict.size_dropOldest _ (Nat.le_add_left _ _)
  keys := by
    rw [fetchPage_key, Screen.fetchPage]
    split
    · exact keeps.keys
    · intro key asked id cached
      have stored := OrderedDict.get?_of_dropOldest cached
      rw [OrderedDict.get?_set] at stored
      split at stored
      next same => exact congrArg Prod.fst same
      next => exact keeps.keys key asked id stored
  fresh := by
    rw [Screen.fetchPage]
    split
    · exact keeps.fresh
    · intro key asked id cached was
      have stored := OrderedDict.get?_of_dropOldest cached
      rw [OrderedDict.get?_set] at stored
      split at stored
      · have isNew : screen.fetches.length = id := Option.some.inj stored
        exact absurd (keeps.known id was) (isNew ▸ Nat.lt_irrefl _)
      · exact keeps.fresh key asked id stored was
  known := by
    intro id was
    exact Nat.lt_of_lt_of_le (keeps.known id was) (le_length_fetchPage page)

theorem Keeps.prefetch (keeps : screen.Keeps forgotten)
    (data : ListResponse Rows) : (screen.prefetch data).Keeps forgotten := by
  rw [Screen.prefetch]
  split <;> split
  · exact (keeps.fetchPage _).fetchPage _
  · exact keeps.fetchPage _
  · exact keeps.fetchPage _
  · exact keeps

theorem length_prefetch (data : ListResponse Rows) :
    (screen.prefetch data).fetches.length ≤ screen.fetches.length + 2 := by
  rw [prefetch]
  split <;> split
  · exact (length_fetchPage _).trans (Nat.succ_le_succ (length_fetchPage _))
  · exact (length_fetchPage _).trans (Nat.le_succ _)
  · exact (length_fetchPage _).trans (Nat.le_succ _)
  · exact Nat.le_add_right _ 2

theorem Keeps.loadPage (keeps : screen.Keeps forgotten) (page : Int)
    (target : Option Text) : (screen.loadPage page target).Keeps forgotten := by
  have fetched := keeps.fetchPage page
  rw [loadPage_eq]
  exact ⟨fetched.size, fetched.keys, fetched.fresh, fetched.known⟩

theorem Paid.loadPage (paid : screen.Paid) (page : Int)
    (target : Option Text) : (screen.loadPage page target).Paid := by
  have more := @length_fetchPage _ _ screen page
  rw [loadPage_eq]
  simp only [Paid, awaiting] at paid ⊢
  rw [List.countP_append, List.length_append, List.countP_singleton,
    List.length_singleton]
  simp only [PageLoad.isAwaiting, if_true]
  omega

/-- Pages of another listing are dropped before the first of the new one. -/
theorem Keeps.reset (keeps : screen.Keeps forgotten)
    (empty : after.pageCache = .empty) (fetches : after.fetches = screen.fetches) :
    after.Keeps forgotten where
  size := by
    rw [empty]
    exact Nat.zero_le _
  keys := by
    intro key page id cached
    rw [empty] at cached
    cases cached
  fresh := by
    intro key page id cached
    rw [empty] at cached
    cases cached
  known := by
    rw [fetches]
    exact keeps.known

theorem Paid.of_same (paid : screen.Paid)
    (fetches : after.fetches = screen.fetches)
    (loads : after.loads = screen.loads) : after.Paid := by
  rw [Paid, awaiting, fetches, loads]
  exact paid

theorem awaiting_moveLoad {id : Nat} {load : PageLoad}
    (found : screen.loads[id]? = some load) {place : LoadPlace}
    (moved : place ≠ .awaiting) :
    (screen.moveLoad id load place).awaiting +
        (if load.isAwaiting then 1 else 0) = screen.awaiting := by
  have counted := Updates.countP_set_add PageLoad.isAwaiting found
    { load with place := place }
  have settled : ({ load with place := place } : PageLoad).isAwaiting = false := by
    cases place with
    | awaiting => exact absurd rfl moved
    | returned | continued => rfl
  rw [settled, if_neg Bool.false_ne_true, Nat.add_zero] at counted
  exact counted

theorem Paid.moveLoad (paid : screen.Paid) {id : Nat} {load : PageLoad}
    (found : screen.loads[id]? = some load) {place : LoadPlace}
    (moved : place ≠ .awaiting) : (screen.moveLoad id load place).Paid := by
  have counted := awaiting_moveLoad found moved
  have fetches : (screen.moveLoad id load place).fetches = screen.fetches := rfl
  have loads : (screen.moveLoad id load place).loads.length =
      screen.loads.length := List.length_set
  rw [Paid, fetches, loads]
  rw [Paid] at paid
  omega

theorem Keeps.moveLoad (keeps : screen.Keeps forgotten) (id : Nat)
    (load : PageLoad) (place : LoadPlace) :
    (screen.moveLoad id load place).Keeps forgotten :=
  ⟨keeps.size, keeps.keys, keeps.fresh, keeps.known⟩

/-- The fetch of a failure that was handled is kept under no key any more. -/
theorem Keeps.forget (keeps : screen.Keeps forgotten) (linked : screen.Linked)
    {id : Nat} {fetch : Fetch Rows} (found : screen.fetches[id]? = some fetch) :
    (screen.forget id fetch).Keeps fun other => forgotten other ∨ other = id := by
  have inside := (List.getElem?_eq_some_iff.mp found).1
  have known : ∀ other, forgotten other ∨ other = id →
      other < screen.fetches.length := by
    rintro other (before | rfl)
    · exact keeps.known other before
    · exact inside
  have only : ∀ key page, screen.pageCache.get? (key, page) = some id →
      key = fetch.request ∧ page = fetch.page := by
    intro key page cached
    obtain ⟨other, foundOther, request, same⟩ := linked.caches key page id cached
    cases found.symm.trans foundOther
    exact ⟨request.symm, same.symm⟩
  rw [Screen.forget]
  split
  next cached =>
      refine ⟨?_, ?_, ?_, known⟩
      · exact (List.length_filter_le _ _).trans keeps.size
      · intro key page other kept
        rw [OrderedDict.get?_erase] at kept
        split at kept
        · cases kept
        · exact keeps.keys key page other kept
      · intro key page other kept
        rw [OrderedDict.get?_erase] at kept
        split at kept
        · cases kept
        next differ =>
            rintro (before | rfl)
            · exact keeps.fresh key page other kept before
            · obtain ⟨rfl, rfl⟩ := only key page kept
              exact differ rfl
  next absent =>
      refine ⟨keeps.size, keeps.keys, ?_, known⟩
      intro key page other kept
      rintro (before | rfl)
      · exact keeps.fresh key page other kept before
      · obtain ⟨rfl, rfl⟩ := only key page kept
        exact absent kept

end Requests

section Events

/-- What every event keeps. -/
structure Tidy (forgotten : Nat → Prop) (screen : Screen Rows Stats) : Prop where
  keeps : screen.Keeps forgotten
  paid : screen.Paid

theorem Tidy.frame (tidy : screen.Tidy forgotten)
    (same : SameTraffic screen after) : after.Tidy forgotten :=
  ⟨tidy.keeps.frame same, tidy.paid.frame same⟩

theorem Tidy.loadPage (tidy : screen.Tidy forgotten) (page : Int)
    (target : Option Text) : (screen.loadPage page target).Tidy forgotten :=
  ⟨tidy.keeps.loadPage page target, tidy.paid.loadPage page target⟩

theorem Tidy.reset (tidy : screen.Tidy forgotten)
    (empty : after.pageCache = .empty) (fetches : after.fetches = screen.fetches)
    (loads : after.loads = screen.loads) : after.Tidy forgotten :=
  ⟨tidy.keeps.reset empty fetches, tidy.paid.of_same fetches loads⟩

theorem Tidy.moveLoad (tidy : screen.Tidy forgotten) {id : Nat}
    {load : PageLoad} (found : screen.loads[id]? = some load)
    {place : LoadPlace} (moved : place ≠ .awaiting) :
    (screen.moveLoad id load place).Tidy forgotten :=
  ⟨tidy.keeps.moveLoad id load place, tidy.paid.moveLoad found moved⟩

theorem Tidy.refreshListing (tidy : screen.Tidy forgotten)
    (same : SameTraffic { screen with view := after.view } after) :
    after.refreshListing.Tidy forgotten := by
  have reset : (after.setPage 1).resetListing.Tidy forgotten :=
    tidy.reset rfl same.fetches same.loads
  exact reset.loadPage 1 none

theorem sameTraffic_write (screen : Screen Rows Stats) (writer : Writer)
    (writes : List (Write Rows Stats)) :
    SameTraffic screen (screen.write writer writes) :=
  ⟨rfl, rfl, rfl, rfl⟩

theorem sameTraffic_cancelActiveRollup (screen : Screen Rows Stats) :
    SameTraffic screen screen.cancelActiveRollup := by
  obtain ⟨deletes, cancelToken, same⟩ := screen.cancelActiveRollup_eq
  rw [same]
  exact ⟨rfl, rfl, rfl, rfl⟩

namespace SameTraffic

theorem loadRollup (same : SameTraffic screen after) (path : Text) :
    SameTraffic screen (after.loadRollup path) :=
  (same.trans after.sameTraffic_cancelActiveRollup).trans ⟨rfl, rfl, rfl, rfl⟩

theorem renderRollup (same : SameTraffic screen after) (id : Nat)
    (result : RollupBody Stats) :
    SameTraffic screen (after.renderRollup id result) :=
  same.trans (paints_renderRollup id result).sameTraffic

theorem rollupSettled (same : SameTraffic screen after) (id : Nat) :
    SameTraffic screen (after.rollupSettled id) := by
  have repainted := (@paints_rollupSettled _ _ after id).sameTraffic
  exact same.trans
    ⟨repainted.key, repainted.pageCache, repainted.fetches, repainted.loads⟩

theorem dropPair (same : SameTraffic screen after) (jobId : Option Nat) :
    SameTraffic screen (after.dropPair jobId) := by
  rw [Screen.dropPair]
  split
  · exact same.trans ⟨rfl, rfl, rfl, rfl⟩
  · exact same

theorem navigated (same : SameTraffic screen after) (target : Text)
    (outcome : LoadOutcome) :
    SameTraffic screen (after.navigated target outcome) := by
  rw [Screen.navigated]
  split
  · exact same
  · split
    · exact same
    · exact same.loadRollup target

end SameTraffic

theorem sameTraffic_respond (screen : Screen Rows Stats) (id : Nat)
    (load : RollupLoad) (answer : RollupAnswer Stats) :
    SameTraffic screen (screen.respond id load answer) := by
  cases answer with
  | failed status message =>
      simp only [respond]
      split
      · exact ⟨rfl, rfl, rfl, rfl⟩
      · refine SameTraffic.rollupSettled ?_ id
        exact ⟨rfl, rfl, rfl, rfl⟩
  | result result =>
      simp only [respond]
      split
      · exact ⟨rfl, rfl, rfl, rfl⟩
      · refine SameTraffic.renderRollup ?_ id result
        exact ⟨rfl, rfl, rfl, rfl⟩
  | accepted jobId cancelToken =>
      simp only [respond]
      split
      · cases jobId with
        | none => exact ⟨rfl, rfl, rfl, rfl⟩
        | some jobId => exact ⟨rfl, rfl, rfl, rfl⟩
      · exact ⟨rfl, rfl, rfl, rfl⟩

theorem sameTraffic_polled (screen : Screen Rows Stats) (id : Nat)
    (load : RollupLoad) (jobId : Option Nat) (answer : PollAnswer Stats) :
    SameTraffic screen (screen.polled id load jobId answer) := by
  have moved : SameTraffic screen (screen.moveRollup id load .returned) :=
    ⟨rfl, rfl, rfl, rfl⟩
  unfold polled
  split
  · exact moved
  · cases answer with
    | failed message =>
        refine SameTraffic.rollupSettled ?_ id
        exact moved.trans ⟨rfl, rfl, rfl, rfl⟩
    | done result =>
        refine SameTraffic.renderRollup ?_ id result
        exact (moved.dropPair jobId).trans ⟨rfl, rfl, rfl, rfl⟩
    | stopped error =>
        refine SameTraffic.rollupSettled ?_ id
        exact (moved.dropPair jobId).trans ⟨rfl, rfl, rfl, rfl⟩
    | active activity => exact ⟨rfl, rfl, rfl, rfl⟩

theorem sameTraffic_poll (screen : Screen Rows Stats) (id : Nat)
    (load : RollupLoad) (jobId : Option Nat) :
    SameTraffic screen (screen.poll id load jobId) := by
  rw [poll]
  split <;> exact ⟨rfl, rfl, rfl, rfl⟩

theorem Tidy.cancelActiveRollup (tidy : screen.Tidy forgotten) :
    screen.cancelActiveRollup.Tidy forgotten :=
  tidy.frame screen.sameTraffic_cancelActiveRollup

theorem Tidy.navigate (tidy : screen.Tidy forgotten) (path : Text) :
    (screen.navigate path).Tidy forgotten := by
  let paged := (screen.setPath (normDir path)).setPage 1
  let unfiltered := { paged.setNameFilter [] with filterInput := [] }
  let reset := unfiltered.resetListing.write .navigate [.hideBanner]
  let emptied := reset.cancelActiveRollup.resetRollupPanels .navigate
  let blanked := emptied.write .navigate [.rollupStatus .blank]
  have cleared : reset.Tidy forgotten := tidy.reset rfl rfl rfl
  have quiet : emptied.Tidy forgotten :=
    cleared.cancelActiveRollup.frame (sameTraffic_write _ _ _)
  have ready : (blanked.updateExportLinks .navigate).Tidy forgotten :=
    quiet.frame ((sameTraffic_write _ _ _).trans (sameTraffic_write _ _ _))
  have same : screen.navigate path = (blanked.updateExportLinks
      .navigate).loadPage 1 (some paged.view.path) := rfl
  rw [same]
  exact ready.loadPage 1 (some paged.view.path)

theorem Tidy.render (tidy : screen.Tidy forgotten) {id : Nat} {load : PageLoad}
    (found : screen.loads[id]? = some load) (awaiting : load.place = .awaiting)
    (data : ListResponse Rows) :
    ((screen.render id load data).moveLoad id load (.returned .ok)).Tidy
      forgotten := by
  have painted := (paints_present screen id load data).sameTraffic
  have shown := tidy.frame painted
  have foundShown : (screen.present id load data).loads[id]? = some load := by
    rw [painted.loads]
    exact found
  have loads := @prefetch_loads _ _ (screen.present id load data) data
  have foundRender : ((screen.present id load data).prefetch data).loads[id]? =
      some load := by
    rw [loads]
    exact foundShown
  have notAwaiting : LoadPlace.returned .ok ≠ .awaiting := by simp
  have counted := awaiting_moveLoad foundRender notAwaiting
  have more := @length_prefetch _ _ (screen.present id load data) data
  have paid := shown.paid
  constructor
  · have kept := (shown.keeps.prefetch data).moveLoad id load (.returned .ok)
    exact kept.frame ⟨rfl, rfl, rfl, rfl⟩
  · have fewer : load.isAwaiting = true := by
      rw [PageLoad.isAwaiting, awaiting]
    rw [fewer, if_pos rfl] at counted
    have before : ((screen.present id load data).prefetch data).awaiting =
        (screen.present id load data).awaiting := by
      rw [Screen.awaiting, Screen.awaiting, loads]
    have settled : (((screen.present id load data).prefetch data).moveLoad id load
        (.returned .ok)).Paid := by
      have length : (((screen.present id load data).prefetch data).moveLoad id
          load (.returned .ok)).loads.length =
          (screen.present id load data).loads.length := by
        rw [Screen.moveLoad, List.length_set, loads]
      have fetches : (((screen.present id load data).prefetch data).moveLoad id
          load (.returned .ok)).fetches =
          ((screen.present id load data).prefetch data).fetches := rfl
      rw [Paid] at paid ⊢
      rw [length, fetches]
      omega
    exact settled.frame ⟨rfl, rfl, rfl, rfl⟩

theorem Tidy.resumeLoad (tidy : screen.Tidy forgotten) {id : Nat}
    {load : PageLoad} (found : screen.loads[id]? = some load)
    (awaiting : load.place = .awaiting)
    (answer : Except Text (ListResponse Rows)) :
    (screen.resumeLoad id load answer).Tidy forgotten := by
  have silent : (screen.moveLoad id load (.returned .superseded)).Tidy forgotten :=
    tidy.moveLoad found (by simp)
  cases answer with
  | error message =>
      rw [Screen.resumeLoad]
      split
      · exact silent
      · have cleared := (paints_clearListingUI screen id message).sameTraffic
        have found' := found
        rw [← cleared.loads] at found'
        exact (tidy.frame cleared).moveLoad found' (by simp)
  | ok data =>
      rw [Screen.resumeLoad]
      split
      · exact silent
      · exact tidy.render found awaiting data

theorem Tidy.settle (tidy : screen.Tidy forgotten) {id : Nat}
    {fetch : Fetch Rows} (outcome : Option (Except Text (ListResponse Rows))) :
    Tidy forgotten { screen with
      fetches := screen.fetches.set id { fetch with outcome := outcome } } := by
  have length : (screen.fetches.set id
      { fetch with outcome := outcome }).length = screen.fetches.length :=
    List.length_set
  constructor
  · refine ⟨tidy.keeps.size, tidy.keeps.keys, tidy.keeps.fresh, ?_⟩
    intro other was
    rw [length]
    exact tidy.keeps.known other was
  · have paid := tidy.paid
    rw [Paid] at paid ⊢
    rw [length]
    exact paid

end Events

end Screen

open Screen

/-- An event keeps no page of another listing and no failure it handles. -/
theorem handle_tidy {screen after : Screen Rows Stats} {forgotten : Nat → Prop}
    (linked : screen.Linked) (tidy : screen.Tidy forgotten)
    (label : Label Rows Stats) (handled : handle screen label = some after) :
    after.Tidy fun id => forgotten id ∨ label = .forget id := by
  have widen : ∀ next : Screen Rows Stats, next.Tidy forgotten →
      (∀ id, label ≠ .forget id) →
      next.Tidy fun id => forgotten id ∨ label = .forget id := by
    intro next tidy other
    refine ⟨⟨tidy.keeps.size, tidy.keeps.keys, ?_, ?_⟩, tidy.paid⟩
    · rintro key page id cached (was | isForget)
      · exact tidy.keeps.fresh key page id cached was
      · exact other id isForget
    · rintro id (was | isForget)
      · exact tidy.keeps.known id was
      · exact absurd isForget (other id)
  have streaked : ∀ streak : Nat,
      Tidy forgotten { screen with forwardStreak := streak } :=
    fun streak => tidy.frame ⟨rfl, rfl, rfl, rfl⟩
  cases label with
  | navigate path =>
      cases handled
      exact widen _ (tidy.navigate path) (by simp)
  | sortBy column =>
      cases handled
      exact widen _ (tidy.refreshListing ⟨rfl, rfl, rfl, rfl⟩) (by simp)
  | typeFilter type =>
      cases handled
      exact widen _ (tidy.refreshListing ⟨rfl, rfl, rfl, rfl⟩) (by simp)
  | pageSize size =>
      cases handled
      exact widen _ (tidy.refreshListing ⟨rfl, rfl, rfl, rfl⟩) (by simp)
  | prevPage =>
      cases handled
      refine widen _ ?_ (by simp)
      rw [prevPage]
      split
      · exact (streaked 0).loadPage _ none
      · exact streaked 0
  | nextPage =>
      cases handled
      exact widen _ ((streaked (screen.forwardStreak + 1)).loadPage _ none) (by simp)
  | jump page =>
      cases handled
      refine widen _ ?_ (by simp)
      cases page with
      | none => exact streaked 0
      | some page =>
          rw [jump]
          split
          · exact (streaked 0).loadPage page none
          · exact streaked 0
  | nameInput value =>
      cases handled
      exact widen _ (tidy.frame ⟨rfl, rfl, rfl, rfl⟩) (by simp)
  | filterTimeout =>
      simp only [handle] at handled
      split at handled
      · cases handled
        exact widen _ (tidy.refreshListing ⟨rfl, rfl, rfl, rfl⟩) (by simp)
      · cases handled
  | settle id outcome =>
      obtain ⟨fetch, found, handled⟩ := Option.bind_eq_some_iff.mp handled
      split at handled
      · cases handled
        exact widen _ (tidy.settle (some outcome)) (by simp)
      · cases handled
  | forget id =>
      obtain ⟨fetch, found, handled⟩ := Option.bind_eq_some_iff.mp handled
      split at handled
      · cases handled
        have kept := tidy.keeps.forget linked found
        refine ⟨⟨kept.size, kept.keys, ?_, ?_⟩, ?_⟩
        · rintro key page other cached (was | isForget)
          · exact kept.fresh key page other cached (.inl was)
          · cases isForget
            exact kept.fresh key page _ cached (.inr rfl)
        · rintro other (was | isForget)
          · exact kept.known other (.inl was)
          · cases isForget
            exact kept.known _ (.inr rfl)
        · rw [Screen.forget]
          split <;> exact tidy.paid
      · cases handled
  | resumeLoad id =>
      obtain ⟨load, found, handled⟩ := Option.bind_eq_some_iff.mp handled
      split at handled
      next awaiting =>
        obtain ⟨fetch, fetched, handled⟩ := Option.bind_eq_some_iff.mp handled
        obtain ⟨answer, answered, rfl⟩ := Option.map_eq_some_iff.mp handled
        exact widen _ (tidy.resumeLoad found awaiting answer) (by simp)
      · cases handled
  | navigated id =>
      obtain ⟨load, found, handled⟩ := Option.bind_eq_some_iff.mp handled
      split at handled
      next outcome target _ _ =>
        cases handled
        refine widen _ ?_ (by simp)
        have moved : (screen.moveLoad id load (.continued outcome)).Tidy forgotten :=
          tidy.moveLoad found (by simp)
        exact moved.frame ((SameTraffic.refl _).navigated target outcome)
      · cases handled
  | respond id answer =>
      obtain ⟨load, found, handled⟩ := Option.bind_eq_some_iff.mp handled
      split at handled
      · cases handled
        exact widen _ (tidy.frame (screen.sameTraffic_respond id load answer)) (by simp)
      · cases handled
  | poll id =>
      obtain ⟨load, found, handled⟩ := Option.bind_eq_some_iff.mp handled
      split at handled
      · cases handled
        exact widen _ (tidy.frame (screen.sameTraffic_poll id load _)) (by simp)
      · cases handled
  | polled id answer =>
      obtain ⟨load, found, handled⟩ := Option.bind_eq_some_iff.mp handled
      split at handled
      · cases handled
        exact widen _ (tidy.frame (screen.sameTraffic_polled id load _ answer))
          (by simp)
      · cases handled

theorem start_tidy :
    (Screen.new.navigate ['/'] : Screen Rows Stats).Tidy fun _ => False := by
  have new : (Screen.new : Screen Rows Stats).Tidy fun _ => False := by
    refine ⟨⟨Nat.zero_le _, ?_, ?_, ?_⟩, Nat.zero_le _⟩
    · intro key page id cached
      cases cached
    · exact fun _ _ _ _ => id
    · exact fun _ => False.elim
  exact new.navigate ['/']

/-- In every run of the page, at most `PAGE_CACHE_MAX` pages are kept, each of
them a page of the listing that the controls show, asked for under its own key,
and none whose failure was handled; and no call of `loadPage` costs more than
three requests. -/
theorem pageCache_run (schedule : List (Label Rows Stats))
    (screen : Screen Rows Stats)
    (ran : (system Rows Stats).run (Screen.new.navigate ['/']) schedule =
      some screen) :
    screen.pageCache.size ≤ pageCacheMax ∧
      (∀ key page id, screen.pageCache.get? (key, page) = some id →
        key = screen.listingKey ∧ screen.Requests id key page ∧
          .forget id ∉ schedule) ∧
      screen.fetches.length ≤ 3 * screen.loads.length := by
  have holds : screen.Sound ∧ screen.Tidy fun id => .forget id ∈ schedule := by
    have history : ∀ (past : List (Label Rows Stats)) (screen : Screen Rows Stats)
        (label : Label Rows Stats) (after : Screen Rows Stats),
        (screen.Sound ∧ screen.Tidy fun id => .forget id ∈ past) →
        StepSystem.AnyStep screen label →
        (system Rows Stats).step screen label = some after →
        after.Sound ∧ after.Tidy fun id => .forget id ∈ past ++ [label] := by
      rintro past screen label after ⟨sound, tidy⟩ _ stepped
      refine ⟨(step_sound sound stepped).1, ?_⟩
      have silenced : Tidy (fun id => .forget id ∈ past)
          { screen with writes := [] } := tidy.frame ⟨rfl, rfl, rfl, rfl⟩
      have linked : Linked { screen with writes := [] } :=
        sound.linked.frame rfl rfl rfl rfl
      have kept := handle_tidy linked silenced label stepped
      simpa [eq_comm] using kept
    have start : (Screen.new.navigate ['/'] : Screen Rows Stats).Tidy
        fun id => .forget id ∈ ([] : List (Label Rows Stats)) := by
      simpa using start_tidy
    exact StepSystem.run_history history (.any _ _ _) ran ⟨start_sound.1, start⟩
  obtain ⟨sound, tidy⟩ := holds
  refine ⟨tidy.keeps.size, ?_, ?_⟩
  · intro key page id cached
    exact ⟨tidy.keeps.keys key page id cached,
      sound.linked.caches key page id cached,
      tidy.keeps.fresh key page id cached⟩
  · exact (Nat.le_add_right _ _).trans tidy.paid

/-- The page after the first is prefetched, fails, and is asked for again. -/
def retried : List (Label Unit Unit) :=
  [.settle 0 (.ok sampleResponse), .resumeLoad 0, .settle 1 (.error []),
    .forget 1, .nextPage]

theorem retried_pageCache :
    ∃ screen : Screen Unit Unit,
      (system Unit Unit).run (Screen.new.navigate ['/']) retried = some screen ∧
        (screen.pageCache.get? (screen.listingKey, 2)) = some 2 ∧
        screen.fetches.length ≤ 3 * screen.loads.length := by
  refine ⟨_, rfl, by decide, ?_⟩
  exact (pageCache_run retried _ rfl).2.2

end Catwalk.Browser
