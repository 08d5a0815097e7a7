import Catwalk.Frontend.Repaint

/-! What the page offers for download: the export links of the listing that the
controls show, and a rollup only beside the panels of its own path. -/

namespace Catwalk.Browser

open Script (normDir)

variable {Rows Stats : Type}

/-- The elements that the writes left: the href of the export links, the rollup in
the panels, and whether its export is offered. -/
structure Shown (Stats : Type) where
  links : Option ListingKey
  panels : Option (RollupBody Stats)
  offered : Bool

namespace Shown

/-- The elements of `index.html`. -/
def blank : Shown Stats := ⟨none, none, false⟩

def receive (shown : Shown Stats) : Write Rows Stats → Shown Stats
  | .exportLinks key => { shown with links := some key }
  | .rollupPanels result => { shown with panels := result }
  | .exportRollup hidden => { shown with offered := !hidden }
  | .table _ _ _ | .pager _ | .clearListing | .showBanner _ | .hideBanner
  | .rollupStatus _ => shown

end Shown

/-- The elements after the writes of the last event. -/
def Screen.shows (screen : Screen Rows Stats) (shown : Shown Stats) :
    Shown Stats :=
  screen.writes.foldl (fun shown entry => shown.receive entry.2) shown

/-- The page together with its elements. -/
def display (Rows Stats : Type) :
    StepSystem (Screen Rows Stats × Shown Stats) (Label Rows Stats) where
  init := fun state => state.1 = Screen.new.navigate ['/'] ∧
    state.2 = state.1.shows .blank
  step := fun state label =>
    (step state.1 label).map fun after => (after, after.shows state.2)

namespace Screen

variable {screen after : Screen Rows Stats} {shown : Shown Stats}

theorem shows_of_quiet (quiet : screen.writes = []) (shown : Shown Stats) :
    screen.shows shown = shown := by
  rw [shows, quiet, List.foldl_nil]

theorem shows_of_writes (same : after.writes = screen.writes)
    (shown : Shown Stats) : after.shows shown = screen.shows shown := by
  rw [shows, shows, same]

theorem shows_write (writer : Writer) (writes : List (Write Rows Stats)) :
    (screen.write writer writes).shows shown =
      writes.foldl Shown.receive (screen.shows shown) := by
  rw [shows, write, List.foldl_append, List.foldl_map]
  rfl

@[simp] theorem shows_renderTable (writer : Writer) (data : ListResponse Rows) :
    (screen.renderTable writer data).shows shown = screen.shows shown :=
  shows_write _ _

@[simp] theorem shows_updateExportLinks (writer : Writer) :
    (screen.updateExportLinks writer).shows shown =
      { screen.shows shown with links := some screen.listingKey } :=
  shows_write _ _

@[simp] theorem shows_resetRollupPanels (writer : Writer) :
    (screen.resetRollupPanels writer).shows shown =
      { screen.shows shown with panels := none, offered := false } :=
  shows_write _ _

@[simp] theorem shows_repaintListing (id : Nat) :
    (screen.repaintListing id).shows shown = screen.shows shown := by
  rw [repaintListing]
  split
  · split
    · exact shows_renderTable _ _
    · rfl
  · rfl

@[simp] theorem shows_clearListingUI (writer : Writer) :
    (screen.clearListingUI writer).shows shown =
      { screen.shows shown with links := some screen.listingKey } := by
  rw [clearListingUI, shows_updateExportLinks, shows_write]
  rfl

@[simp] theorem shows_present (id : Nat) (load : PageLoad)
    (data : ListResponse Rows) :
    (screen.present id load data).shows shown = screen.shows shown := by
  have paged : ((({ screen with listing := some data }.setPage
      data.page).renderTable (.page id) data).write (.page id)
        [.pager data]).shows shown = screen.shows shown := by
    rw [shows_write, shows_renderTable]
    rfl
  rw [present]
  split
  · rw [shows_write, paged]
    rfl
  · split
    · rw [shows_write, paged]
      rfl
    · exact paged

@[simp] theorem shows_render (id : Nat) (load : PageLoad)
    (data : ListResponse Rows) :
    (screen.render id load data).shows shown =
      { screen.shows shown with links := some screen.listingKey } := by
  have key : ((screen.present id load data).prefetch data).listingKey =
      screen.listingKey := by
    rw [listingKey, prefetch_view]
    exact (paints_present screen id load data).key
  rw [render, shows_updateExportLinks, key,
    shows_of_writes (prefetch_writes data), shows_present]

/-- The rollup goes into the panels, and is offered where its path is shown. -/
theorem shows_renderRollup (id : Nat) (result : RollupBody Stats) :
    ((screen.renderRollup id result).shows shown).panels = some result ∧
      (((screen.renderRollup id result).shows shown).links =
          (screen.shows shown).links ∨
        ((screen.renderRollup id result).shows shown).links =
          some screen.listingKey) ∧
      (result.path ≠ screen.view.path →
        ((screen.renderRollup id result).shows shown).offered =
          (screen.shows shown).offered) := by
  let rollups :=
    (screen.rollups.erase result.path).set result.path result.stats
  let stored := { screen with
    rollups := rollups.dropOldest rollupsMax rollups.size }
  let told := stored.write (.rollup id)
    [.rollupStatus (.rollupOf result), .rollupPanels (some result)]
  have panels : told.shows shown =
      { screen.shows shown with panels := some result } :=
    shows_write _ _
  by_cases here : result.path = screen.view.path
  · have key : (told.repaintListing id).listingKey = screen.listingKey :=
      (paints_repaintListing id).key
    have path : (told.repaintListing id).view.path = screen.view.path :=
      congrArg ListingKey.path key
    have rendered : screen.renderRollup id result =
        ((told.repaintListing id).write (.rollup id)
          [.exportRollup false]).updateExportLinks (.rollup id) := by
      have inner : (if result.path = told.view.path then told.repaintListing id
          else told) = told.repaintListing id := if_pos here
      simp only [renderRollup]
      rw [inner, if_pos (here.trans path.symm)]
    have shows : (screen.renderRollup id result).shows shown =
        { links := some screen.listingKey, panels := some result,
          offered := true } := by
      rw [rendered, shows_updateExportLinks, shows_write, shows_repaintListing,
        panels]
      have same : ((told.repaintListing id).write (.rollup id)
          [.exportRollup false]).listingKey = screen.listingKey := key
      rw [same]
      rfl
    rw [shows]
    exact ⟨rfl, .inr rfl, fun other => absurd here other⟩
  · have rendered : screen.renderRollup id result = told := by
      have inner : (if result.path = told.view.path then told.repaintListing id
          else told) = told := if_neg here
      simp only [renderRollup]
      rw [inner]
      exact if_neg here
    rw [rendered, panels]
    exact ⟨rfl, .inl rfl, fun _ => rfl⟩

theorem prefetch_rollupLoads (data : ListResponse Rows) :
    (screen.prefetch data).rollupLoads = screen.rollupLoads := by
  have fetched : ∀ (screen : Screen Rows Stats) (page : Int),
      (screen.fetchPage page).2.rollupLoads = screen.rollupLoads := by
    intro screen page
    rw [fetchPage]
    split <;> rfl
  rw [prefetch]
  split <;> split <;> simp only [fetched]

theorem prefetch_rollupToken (data : ListResponse Rows) :
    (screen.prefetch data).rollupToken = screen.rollupToken := by
  have fetched : ∀ (screen : Screen Rows Stats) (page : Int),
      (screen.fetchPage page).2.rollupToken = screen.rollupToken := by
    intro screen page
    rw [fetchPage]
    split <;> rfl
  rw [prefetch]
  split <;> split <;> simp only [fetched]

/-- The call of `loadPage` that owns the listing awaits its page. -/
def Loading (screen : Screen Rows Stats) : Prop :=
  ∃ (id : Nat) (load : PageLoad), screen.loads[id]? = some load ∧
    load.token = screen.listingToken ∧ load.place = .awaiting

/-- What the elements show, given the calls that may still write to them. -/
structure Displays (screen : Screen Rows Stats) (shown : Shown Stats) :
    Prop where
  links : shown.links = some screen.listingKey ∨ screen.Loading
  here : shown.links.map ListingKey.path = some screen.view.path
  offered : shown.offered = true →
    ∃ result, shown.panels = some result ∧ result.path = screen.view.path
  pending : ∀ (id : Nat) (load : RollupLoad),
    screen.rollupLoads[id]? = some load → load.token = screen.rollupToken →
      load.place ≠ .returned → shown.offered = false
  unique : ∀ (id other : Nat) (load load' : RollupLoad),
    screen.rollupLoads[id]? = some load →
      screen.rollupLoads[other]? = some load' → load.token = load'.token →
        id = other

/-- The calls of `loadRollup` and the path are those of another screen. -/
structure SameRollups (before after : Screen Rows Stats) : Prop where
  rollupLoads : after.rollupLoads = before.rollupLoads
  rollupToken : after.rollupToken = before.rollupToken
  path : after.view.path = before.view.path

/-- An event on the listing leaves the panels alone. -/
theorem Displays.listing (displays : screen.Displays shown)
    (same : SameRollups screen after) {links : Option ListingKey}
    (linked : links = some after.listingKey ∨ after.Loading)
    (here : links.map ListingKey.path = some after.view.path) :
    after.Displays { shown with links := links } where
  links := linked
  here := here
  offered := by
    rw [same.path]
    exact displays.offered
  pending := by
    rw [same.rollupLoads, same.rollupToken]
    exact displays.pending
  unique := by
    rw [same.rollupLoads]
    exact displays.unique

theorem loading_loadPage (page : Int) (target : Option Text) :
    (screen.loadPage page target).Loading := by
  rw [loadPage_eq]
  exact ⟨_, _, List.getElem?_concat_length, rfl, rfl⟩

theorem sameRollups_loadPage (page : Int) (target : Option Text) :
    SameRollups screen (screen.loadPage page target) := by
  rw [loadPage_eq, Screen.fetchPage]
  split <;> exact ⟨rfl, rfl, rfl⟩

/-- An event that makes a new call of `loadPage`. -/
theorem Displays.loadPage {before : Screen Rows Stats}
    (displays : before.Displays shown) (same : SameRollups before screen)
    (quiet : screen.writes = []) (page : Int) (target : Option Text) :
    (screen.loadPage page target).Displays
      ((screen.loadPage page target).shows shown) := by
  have loaded := @sameRollups_loadPage _ _ screen page target
  have path := loaded.path.trans same.path
  rw [shows_of_quiet ((loadPage_writes page target).trans quiet)]
  exact displays.listing
    ⟨loaded.rollupLoads.trans same.rollupLoads,
      loaded.rollupToken.trans same.rollupToken, path⟩
    (.inr (loading_loadPage page target))
    (displays.here.trans (congrArg some path.symm))

theorem Displays.refreshListing {before : Screen Rows Stats}
    (displays : before.Displays shown) (same : SameRollups before screen)
    (quiet : screen.writes = []) :
    screen.refreshListing.Displays (screen.refreshListing.shows shown) := by
  have reset : SameRollups before (screen.setPage 1).resetListing :=
    ⟨same.rollupLoads, same.rollupToken, same.path⟩
  exact displays.loadPage reset quiet 1 none

theorem Loading.moveLoad (loading : screen.Loading) {id : Nat} {load : PageLoad}
    (found : screen.loads[id]? = some load)
    (other : load.token = screen.listingToken → load.place ≠ .awaiting)
    (place : LoadPlace) : (screen.moveLoad id load place).Loading := by
  obtain ⟨current, awaited, foundCurrent, newest, awaiting⟩ := loading
  refine ⟨current, awaited, ?_, newest, awaiting⟩
  have differ : id ≠ current := by
    rintro rfl
    cases found.symm.trans foundCurrent
    exact other newest awaiting
  rw [← foundCurrent]
  exact List.getElem?_set_ne differ

/-- The call of `loadPage` that owns the listing sets the links. -/
theorem Displays.resumeLoad (displays : screen.Displays shown)
    (sound : screen.Sound) (quiet : screen.writes = []) {id : Nat}
    {load : PageLoad} (found : screen.loads[id]? = some load)
    (answer : Except Text (ListResponse Rows)) :
    (screen.resumeLoad id load answer).Displays
      ((screen.resumeLoad id load answer).shows shown) := by
  have silent : load.token ≠ screen.listingToken →
      (screen.moveLoad id load (.returned .superseded)).Displays
        ((screen.moveLoad id load (.returned .superseded)).shows shown) := by
    intro superseded
    have unwritten : (screen.moveLoad id load
        (.returned .superseded)).writes = [] := quiet
    have same : SameRollups screen
        (screen.moveLoad id load (.returned .superseded)) := ⟨rfl, rfl, rfl⟩
    rw [shows_of_quiet unwritten]
    refine displays.listing same (displays.links.imp_right ?_) displays.here
    intro loading
    exact loading.moveLoad found (fun newest => absurd newest superseded) _
  cases answer with
  | error message =>
      rw [Screen.resumeLoad]
      split
      next superseded => exact silent superseded
      next =>
          have cleared := paints_clearListingUI screen id message
          have shows : (((screen.write (.page id)
              [.showBanner (.listingFailed message)]).clearListingUI
                (.page id)).moveLoad id load (.returned .failed)).shows shown =
              { shown with links := some screen.listingKey } := by
            refine (shows_clearListingUI (.page id)).trans ?_
            rw [shows_write, shows_of_quiet quiet]
            rfl
          have same : SameRollups screen (((screen.write (.page id)
              [.showBanner (.listingFailed message)]).clearListingUI
                (.page id)).moveLoad id load (.returned .failed)) :=
            ⟨cleared.rollupLoads, cleared.rollupToken, cleared.path⟩
          rw [shows]
          exact displays.listing same (.inl (congrArg some cleared.key.symm))
            (congrArg some same.path.symm)
  | ok data =>
      rw [Screen.resumeLoad]
      split
      next superseded =>
          refine silent ?_
          intro newest
          rcases superseded with older | otherKey
          · exact older newest
          · exact otherKey (sound.current id load found newest)
      next =>
          have painted := paints_present screen id load data
          have key : (screen.render id load data).listingKey =
              screen.listingKey := (render_spec sound id load data).2.2.1
          have shows : ((screen.render id load data).moveLoad id load
              (.returned .ok)).shows shown =
              { shown with links := some screen.listingKey } := by
            refine (shows_render id load data).trans ?_
            rw [shows_of_quiet quiet]
          have same : SameRollups screen ((screen.render id load data).moveLoad id
              load (.returned .ok)) :=
            ⟨(prefetch_rollupLoads _).trans painted.rollupLoads,
              (prefetch_rollupToken _).trans painted.rollupToken,
              congrArg ListingKey.path key⟩
          rw [shows]
          exact displays.listing same (.inl (congrArg some key.symm))
            (congrArg some same.path.symm)

/-- The calls of `loadPage` and the listing key are those of another screen. -/
structure SameLoads (before after : Screen Rows Stats) : Prop where
  key : after.listingKey = before.listingKey
  loads : after.loads = before.loads
  listingToken : after.listingToken = before.listingToken

theorem SameLoads.path (same : SameLoads screen after) :
    after.view.path = screen.view.path := congrArg ListingKey.path same.key

theorem SameLoads.loading (same : SameLoads screen after)
    (loading : screen.Loading) : after.Loading := by
  rw [Loading, same.loads, same.listingToken]
  exact loading

theorem cancelActiveRollup_keeps (screen : Screen Rows Stats) :
    SameLoads screen screen.cancelActiveRollup ∧
      screen.cancelActiveRollup.rollupLoads = screen.rollupLoads ∧
      screen.cancelActiveRollup.rollupToken = screen.rollupToken + 1 := by
  obtain ⟨deletes, cancelToken, same⟩ := screen.cancelActiveRollup_eq
  rw [same]
  exact ⟨⟨rfl, rfl, rfl⟩, rfl, rfl⟩

theorem Displays.navigate (displays : screen.Displays shown) (path : Text) :
    (screen.navigate path).Displays ((screen.navigate path).shows shown) := by
  let paged := (screen.setPath (normDir path)).setPage 1
  let unfiltered := { paged.setNameFilter [] with filterInput := [] }
  let hidden := unfiltered.resetListing.write .navigate [.hideBanner]
  let emptied := hidden.cancelActiveRollup.resetRollupPanels .navigate
  let blanked := emptied.write .navigate [.rollupStatus .blank]
  let cleared := blanked.updateExportLinks .navigate
  have shows : cleared.shows shown =
      { links := some blanked.listingKey, panels := none, offered := false } := by
    rw [shows_updateExportLinks, shows_write, shows_resetRollupPanels]
    rfl
  have rollupLoads := hidden.cancelActiveRollup_keeps.2.1
  have same : screen.navigate path =
      cleared.loadPage 1 (some paged.view.path) := rfl
  have loaded := @sameRollups_loadPage _ _ cleared 1 (some paged.view.path)
  rw [same, shows_of_writes (loadPage_writes 1 (some paged.view.path)), shows]
  refine ⟨.inr (loading_loadPage 1 _), ?_, nofun, fun _ _ _ _ _ => rfl, ?_⟩
  · exact congrArg some loaded.path.symm
  · have kept : cleared.rollupLoads = screen.rollupLoads := rollupLoads
    rw [loaded.rollupLoads, kept]
    exact displays.unique

/-- A new call of `loadRollup` finds the panels empty. -/
theorem Displays.loadRollup (displays : screen.Displays shown)
    (settled : screen.Settled) (quiet : screen.writes = []) (path : Text) :
    (screen.loadRollup path).Displays ((screen.loadRollup path).shows shown) := by
  obtain ⟨keeps, loads, token⟩ := screen.cancelActiveRollup_keeps
  have shows : (screen.loadRollup path).shows shown =
      { links := shown.links, panels := none, offered := false } := by
    refine (shows_write _ _).trans ?_
    simp only [List.foldl_cons, List.foldl_nil, Shown.receive]
    refine (shows_resetRollupPanels _).trans ?_
    have unwritten : screen.cancelActiveRollup.writes = [] :=
      (cancelActiveRollup_writes screen).trans quiet
    have before := shows_of_quiet unwritten shown
    exact congrArg (fun shown : Shown Stats =>
      { shown with panels := none, offered := false }) before
  have rollupLoads : (screen.loadRollup path).rollupLoads =
      screen.rollupLoads ++ [⟨path, screen.rollupToken + 1 + 1, .requested⟩] := by
    change screen.cancelActiveRollup.rollupLoads ++
      [⟨path, screen.cancelActiveRollup.rollupToken + 1, .requested⟩] = _
    rw [token, loads]
  have sameLoads : SameLoads screen (screen.loadRollup path) :=
    ⟨keeps.key, keeps.loads, keeps.listingToken⟩
  rw [shows]
  have path : (screen.loadRollup path).view.path = screen.view.path :=
    congrArg ListingKey.path sameLoads.key
  refine ⟨?_, ?_, nofun, fun _ _ _ _ _ => rfl, ?_⟩
  · rw [sameLoads.key]
    exact displays.links.imp_right sameLoads.loading
  · rw [path]
    exact displays.here
  · have older : ∀ (id : Nat) (load : RollupLoad),
        screen.rollupLoads[id]? = some load →
          load.token ≠ screen.rollupToken + 1 + 1 := by
      intro id load found same
      have issued := settled.issued id load found
      omega
    rw [rollupLoads]
    intro id other load load' found found' same
    rcases of_getElem?_concat found with before | ⟨rfl, rfl⟩
    · rcases of_getElem?_concat found' with before' | ⟨rfl, rfl⟩
      · exact displays.unique id other load load' before before' same
      · exact absurd same (older id load before)
    · rcases of_getElem?_concat found' with before' | ⟨rfl, rfl⟩
      · exact absurd same.symm (older other load' before')
      · rfl

/-- The listing, the path and the token are those of another screen. -/
structure SameView (before after : Screen Rows Stats) : Prop
    extends SameLoads before after where
  rollupToken : after.rollupToken = before.rollupToken

/-- A call of `loadRollup` that has not returned goes on without a result. -/
theorem Displays.moveRollup (displays : screen.Displays shown)
    (same : SameView screen after) {id : Nat} {load : RollupLoad}
    (found : screen.rollupLoads[id]? = some load) (going : load.place ≠ .returned)
    (place : RollupPlace)
    (rollupLoads : after.rollupLoads =
      screen.rollupLoads.set id { load with place := place }) :
    after.Displays shown where
  links := by
    rw [same.key]
    exact displays.links.imp_right same.toSameLoads.loading
  here := by
    rw [same.path]
    exact displays.here
  offered := by
    rw [same.path]
    exact displays.offered
  pending := by
    intro other moved foundOther newest further
    rw [rollupLoads] at foundOther
    rw [same.rollupToken] at newest
    rcases of_getElem?_set foundOther with ⟨rfl, rfl⟩ | before
    · exact displays.pending _ load found newest going
    · exact displays.pending other moved before newest further
  unique := by
    have origin : ∀ (other : Nat) (moved : RollupLoad),
        after.rollupLoads[other]? = some moved →
          ∃ before, screen.rollupLoads[other]? = some before ∧
            before.token = moved.token := by
      intro other moved foundOther
      rw [rollupLoads] at foundOther
      rcases of_getElem?_set foundOther with ⟨rfl, rfl⟩ | before
      · exact ⟨load, found, rfl⟩
      · exact ⟨moved, before, rfl⟩
    intro first second moved moved' foundFirst foundSecond same
    obtain ⟨before, atFirst, token⟩ := origin first moved foundFirst
    obtain ⟨before', atSecond, token'⟩ := origin second moved' foundSecond
    exact displays.unique first second before before' atFirst atSecond
      (token.trans (same.trans token'.symm))

/-- The rollup of the call that owns the panels, rendered as the call returns. -/
theorem Displays.renderRollup {moved : Screen Rows Stats}
    (displays : screen.Displays shown) (same : SameView screen moved)
    (quiet : moved.writes = []) {id : Nat} {load : RollupLoad}
    (found : screen.rollupLoads[id]? = some load)
    (newest : load.token = screen.rollupToken) (going : load.place ≠ .returned)
    (rollupLoads : moved.rollupLoads =
      screen.rollupLoads.set id { load with place := .returned })
    (result : RollupBody Stats) :
    (moved.renderRollup id result).Displays
      ((moved.renderRollup id result).shows shown) := by
  have returned := displays.moveRollup same found going _ rollupLoads
  have hidden := displays.pending id load found newest going
  have painted := @paints_renderRollup _ _ moved id result
  have path : (moved.renderRollup id result).view.path = moved.view.path :=
    congrArg ListingKey.path painted.key
  obtain ⟨panels, links, offered⟩ :=
    @shows_renderRollup _ _ moved shown id result
  rw [shows_of_quiet quiet] at links offered
  constructor
  · rw [painted.key]
    rcases links with kept | set
    · rw [kept]
      exact returned.links.imp_right
        (SameLoads.loading ⟨painted.key, painted.loads, painted.listingToken⟩)
    · exact .inl set
  · rw [path]
    rcases links with kept | set
    · rw [kept]
      exact returned.here
    · rw [set]
      rfl
  · intro shows
    refine ⟨result, panels, ?_⟩
    rw [path]
    by_contra elsewhere
    rw [offered elsewhere, hidden] at shows
    cases shows
  · intro other pending foundOther current further
    rw [painted.rollupLoads, rollupLoads] at foundOther
    rw [painted.rollupToken, same.rollupToken] at current
    rcases of_getElem?_set foundOther with ⟨rfl, rfl⟩ | before
    · exact absurd rfl further
    · have isLoad := displays.unique other id pending load before found
        (current.trans newest.symm)
      subst isLoad
      have inside := (List.getElem?_eq_some_iff.mp found).1
      rw [List.getElem?_set_self inside] at foundOther
      cases foundOther
      exact absurd rfl further
  · rw [painted.rollupLoads]
    exact returned.unique

theorem SameView.rollupSettled (same : SameView screen after) (id : Nat) :
    SameView screen (after.rollupSettled id) := by
  have painted := @paints_rollupSettled _ _ after id
  exact ⟨⟨painted.key.trans same.key, painted.loads.trans same.loads,
    painted.listingToken.trans same.listingToken⟩,
    painted.rollupToken.trans same.rollupToken⟩

theorem shows_rollupSettled (id : Nat) :
    (screen.rollupSettled id).shows shown = screen.shows shown :=
  shows_repaintListing id

theorem Displays.respond (displays : screen.Displays shown)
    (quiet : screen.writes = []) {id : Nat} {load : RollupLoad}
    (found : screen.rollupLoads[id]? = some load)
    (requested : load.place = .requested) (answer : RollupAnswer Stats) :
    (screen.respond id load answer).Displays
      ((screen.respond id load answer).shows shown) := by
  have going : load.place ≠ .returned := by
    rw [requested]
    nofun
  have unmoved : ∀ place, SameView screen (screen.moveRollup id load place) :=
    fun _ => ⟨⟨rfl, rfl, rfl⟩, rfl⟩
  have silent : ∀ place, (screen.moveRollup id load place).Displays
      ((screen.moveRollup id load place).shows shown) := by
    intro place
    have unwritten : (screen.moveRollup id load place).writes = [] := quiet
    rw [shows_of_quiet unwritten]
    exact displays.moveRollup (unmoved place) found going place rfl
  cases answer with
  | failed status message =>
      simp only [Screen.respond]
      split
      · exact silent _
      · rw [shows_rollupSettled, shows_write]
        have unwritten : (screen.moveRollup id load .returned).writes = [] := quiet
        rw [shows_of_quiet unwritten]
        refine displays.moveRollup (SameView.rollupSettled ?_ id) found going
            .returned ?_
        · exact ⟨⟨rfl, rfl, rfl⟩, rfl⟩
        · exact (@paints_rollupSettled _ _ _ id).rollupLoads
  | result result =>
      simp only [Screen.respond]
      split
      · exact silent _
      next newest =>
          have same : SameView screen
              { screen.moveRollup id load .returned with rollupInFlight := none } :=
            ⟨⟨rfl, rfl, rfl⟩, rfl⟩
          exact displays.renderRollup same quiet found (not_not.mp newest) going
            rfl result
  | accepted jobId cancelToken =>
      simp only [Screen.respond]
      split
      · cases jobId with
        | none => exact silent _
        | some jobId =>
            rw [shows_of_quiet (by exact quiet)]
            exact displays.moveRollup ⟨⟨rfl, rfl, rfl⟩, rfl⟩ found going _ rfl
      · rw [shows_of_quiet (by exact quiet)]
        exact displays.moveRollup ⟨⟨rfl, rfl, rfl⟩, rfl⟩ found going _ rfl

theorem dropPair_keeps (screen : Screen Rows Stats) (jobId : Option Nat) :
    SameView screen (screen.dropPair jobId) ∧
      (screen.dropPair jobId).rollupLoads = screen.rollupLoads ∧
      (screen.dropPair jobId).writes = screen.writes := by
  rw [dropPair]
  split
  · exact ⟨⟨⟨rfl, rfl, rfl⟩, rfl⟩, rfl, rfl⟩
  · exact ⟨⟨⟨rfl, rfl, rfl⟩, rfl⟩, rfl, rfl⟩

theorem Displays.polled (displays : screen.Displays shown)
    (quiet : screen.writes = []) {id : Nat} {load : RollupLoad}
    (found : screen.rollupLoads[id]? = some load) {jobId : Option Nat}
    (polling : load.place = .polling jobId) (answer : PollAnswer Stats) :
    (screen.polled id load jobId answer).Displays
      ((screen.polled id load jobId answer).shows shown) := by
  have going : load.place ≠ .returned := by
    rw [polling]
    nofun
  let returned := screen.moveRollup id load .returned
  have unwritten : returned.writes = [] := quiet
  obtain ⟨same, rollupLoads, writes⟩ := returned.dropPair_keeps jobId
  unfold Screen.polled
  split
  · rw [shows_of_quiet unwritten]
    exact displays.moveRollup ⟨⟨rfl, rfl, rfl⟩, rfl⟩ found going _ rfl
  next owner =>
      cases answer with
      | failed message =>
          simp only
          rw [shows_rollupSettled, shows_write, shows_of_quiet unwritten]
          refine displays.moveRollup (SameView.rollupSettled ?_ id) found going
            .returned ?_
          · exact ⟨⟨rfl, rfl, rfl⟩, rfl⟩
          · exact (@paints_rollupSettled _ _ _ id).rollupLoads
      | done result =>
          have settled : SameView screen
              { returned.dropPair jobId with rollupInFlight := none } :=
            ⟨⟨same.key, same.loads, same.listingToken⟩, same.rollupToken⟩
          exact displays.renderRollup settled (writes.trans unwritten) found
            (not_not.mp owner) going rollupLoads result
      | stopped error =>
          simp only
          rw [shows_rollupSettled, shows_write,
            shows_of_quiet (writes.trans unwritten)]
          refine displays.moveRollup (SameView.rollupSettled ?_ id) found going
            .returned ?_
          · exact ⟨⟨same.key, same.loads, same.listingToken⟩, same.rollupToken⟩
          · exact (@paints_rollupSettled _ _ _ id).rollupLoads.trans rollupLoads
      | active activity =>
          simp only
          have shows : ((screen.write (.rollup id) [.rollupStatus
              (.progress load.path activity)]).moveRollup id load
                (.sleeping jobId)).shows shown = shown := by
            refine (shows_write _ _).trans ?_
            rw [shows_of_quiet quiet]
            rfl
          rw [shows]
          exact displays.moveRollup ⟨⟨rfl, rfl, rfl⟩, rfl⟩ found going _ rfl

theorem Displays.poll (displays : screen.Displays shown)
    (quiet : screen.writes = []) {id : Nat} {load : RollupLoad}
    (found : screen.rollupLoads[id]? = some load) {jobId : Option Nat}
    (sleeping : load.place = .sleeping jobId) :
    (screen.poll id load jobId).Displays
      ((screen.poll id load jobId).shows shown) := by
  have going : load.place ≠ .returned := by
    rw [sleeping]
    nofun
  rw [Screen.poll]
  split <;> rw [shows_of_quiet (by exact quiet)]
  · exact displays.moveRollup ⟨⟨rfl, rfl, rfl⟩, rfl⟩ found going _ rfl
  · exact displays.moveRollup ⟨⟨rfl, rfl, rfl⟩, rfl⟩ found going _ rfl

/-- An event that touches neither the listing key nor a call. -/
theorem Displays.frame (displays : screen.Displays shown)
    (same : SameView screen after) (rollupLoads : after.rollupLoads =
      screen.rollupLoads) (writes : after.writes = []) :
    after.Displays (after.shows shown) := by
  rw [shows_of_quiet writes]
  constructor
  · rw [same.key]
    exact displays.links.imp_right same.toSameLoads.loading
  · rw [same.path]
    exact displays.here
  · rw [same.path]
    exact displays.offered
  · rw [rollupLoads, same.rollupToken]
    exact displays.pending
  · rw [rollupLoads]
    exact displays.unique

/-- The call of `navigate` that goes on may start a rollup. -/
theorem Displays.navigated (displays : screen.Displays shown)
    (settled : screen.Settled) (quiet : screen.writes = []) (target : Text)
    (outcome : LoadOutcome) :
    (screen.navigated target outcome).Displays
      ((screen.navigated target outcome).shows shown) := by
  have same : SameView screen screen := ⟨⟨rfl, rfl, rfl⟩, rfl⟩
  rw [Screen.navigated]
  split
  · exact displays.frame same rfl quiet
  · split
    · exact displays.frame same rfl quiet
    · exact displays.loadRollup settled quiet target

end Screen

open Screen

theorem handle_displays {screen after : Screen Rows Stats} {shown : Shown Stats}
    (sound : screen.Sound) (quiet : screen.writes = [])
    (displays : screen.Displays shown) (label : Label Rows Stats)
    (handled : handle screen label = some after) :
    after.Displays (after.shows shown) := by
  have settled := sound.settled
  have streaked : ∀ streak : Nat,
      SameRollups screen { screen with forwardStreak := streak } :=
    fun _ => ⟨rfl, rfl, rfl⟩
  cases label with
  | navigate path =>
      cases handled
      exact displays.navigate path
  | sortBy column =>
      cases handled
      exact displays.refreshListing ⟨rfl, rfl, rfl⟩ quiet
  | typeFilter type =>
      cases handled
      exact displays.refreshListing ⟨rfl, rfl, rfl⟩ quiet
  | pageSize size =>
      cases handled
      exact displays.refreshListing ⟨rfl, rfl, rfl⟩ quiet
  | prevPage =>
      cases handled
      rw [prevPage]
      split
      · exact displays.loadPage (streaked 0) quiet _ none
      · exact displays.frame ⟨⟨rfl, rfl, rfl⟩, rfl⟩ rfl quiet
  | nextPage =>
      cases handled
      exact displays.loadPage (streaked (screen.forwardStreak + 1)) quiet _ none
  | jump page =>
      cases handled
      cases page with
      | none => exact displays.frame ⟨⟨rfl, rfl, rfl⟩, rfl⟩ rfl quiet
      | some page =>
          rw [jump]
          split
          · exact displays.loadPage (streaked 0) quiet page none
          · exact displays.frame ⟨⟨rfl, rfl, rfl⟩, rfl⟩ rfl quiet
  | nameInput value =>
      cases handled
      exact displays.frame ⟨⟨rfl, rfl, rfl⟩, rfl⟩ rfl quiet
  | filterTimeout =>
      simp only [handle] at handled
      split at handled
      · cases handled
        exact displays.refreshListing ⟨rfl, rfl, rfl⟩ quiet
      · cases handled
  | settle id outcome =>
      obtain ⟨fetch, found, handled⟩ := Option.bind_eq_some_iff.mp handled
      split at handled
      · cases handled
        exact displays.frame ⟨⟨rfl, rfl, rfl⟩, rfl⟩ rfl quiet
      · cases handled
  | forget id =>
      obtain ⟨fetch, found, handled⟩ := Option.bind_eq_some_iff.mp handled
      split at handled
      · cases handled
        rw [Screen.forget]
        split <;> exact displays.frame ⟨⟨rfl, rfl, rfl⟩, rfl⟩ rfl quiet
      · cases handled
  | resumeLoad id =>
      obtain ⟨load, found, handled⟩ := Option.bind_eq_some_iff.mp handled
      split at handled
      · obtain ⟨fetch, fetched, handled⟩ := Option.bind_eq_some_iff.mp handled
        obtain ⟨answer, answered, rfl⟩ := Option.map_eq_some_iff.mp handled
        exact displays.resumeLoad sound quiet found answer
      · cases handled
  | navigated id =>
      obtain ⟨load, found, handled⟩ := Option.bind_eq_some_iff.mp handled
      split at handled
      next outcome target returned _ =>
        cases handled
        have unwritten : (screen.moveLoad id load (.continued outcome)).writes = [] :=
          quiet
        have moved : (screen.moveLoad id load (.continued outcome)).Displays
            shown := by
          have same : SameRollups screen
              (screen.moveLoad id load (.continued outcome)) := ⟨rfl, rfl, rfl⟩
          refine displays.listing same (displays.links.imp_right ?_) displays.here
          intro loading
          refine loading.moveLoad found (fun _ => ?_) _
          rw [returned]
          simp
        exact moved.navigated (settled.frame rfl rfl rfl rfl) unwritten target
          outcome
      · cases handled
  | respond id answer =>
      obtain ⟨load, found, handled⟩ := Option.bind_eq_some_iff.mp handled
      split at handled
      next requested =>
        cases handled
        exact displays.respond quiet found requested answer
      · cases handled
  | poll id =>
      obtain ⟨load, found, handled⟩ := Option.bind_eq_some_iff.mp handled
      split at handled
      next sleeping =>
        cases handled
        exact displays.poll quiet found sleeping
      · cases handled
  | polled id answer =>
      obtain ⟨load, found, handled⟩ := Option.bind_eq_some_iff.mp handled
      split at handled
      next polling =>
        cases handled
        exact displays.polled quiet found polling answer
      · cases handled

theorem step_displays {screen after : Screen Rows Stats} {shown : Shown Stats}
    (sound : screen.Sound) (displays : screen.Displays shown)
    {label : Label Rows Stats} (stepped : step screen label = some after) :
    after.Displays (after.shows shown) := by
  have silenced : Sound { screen with writes := [] } :=
    ⟨sound.linked.frame rfl rfl rfl rfl, sound.current,
      sound.settled.frame rfl rfl rfl rfl⟩
  have shows : Displays { screen with writes := [] } shown :=
    ⟨displays.links, displays.here, displays.offered, displays.pending,
      displays.unique⟩
  exact handle_displays silenced rfl shows label stepped

theorem start_displays :
    (Screen.new.navigate ['/'] : Screen Rows Stats).Displays
      ((Screen.new.navigate ['/'] : Screen Rows Stats).shows .blank) := by
  refine ⟨.inr (loading_loadPage 1 _), rfl, nofun, fun _ _ _ _ _ => rfl, ?_⟩
  intro id other load load' found
  cases found

theorem displays_of_reachable {state : Screen Rows Stats × Shown Stats}
    (reachable : (display Rows Stats).Reachable StepSystem.AnyStep state) :
    state.1.Sound ∧ state.1.Displays state.2 := by
  induction reachable with
  | start initial =>
      obtain ⟨page, elements⟩ := initial
      rw [elements, page]
      exact ⟨start_sound.1, start_displays⟩
  | next _ _ stepped ih =>
      obtain ⟨after, moved, rfl⟩ := Option.map_eq_some_iff.mp stepped
      exact ⟨(step_sound ih.1 moved).1, step_displays ih.1 ih.2 moved⟩

/-- Whatever the order of events, the export links are those of the controls
except while the page they ask for is awaited, and always lead to the path of the
page; the export of a rollup is offered only beside the panels of a rollup of
that path. -/
theorem page_shows {screen : Screen Rows Stats} {shown : Shown Stats}
    (reachable : (display Rows Stats).Reachable StepSystem.AnyStep
      (screen, shown)) :
    (shown.links = some screen.listingKey ∨ screen.Loading) ∧
      shown.links.map ListingKey.path = some screen.view.path ∧
      (shown.offered = true →
        ∃ result, shown.panels = some result ∧ result.path = screen.view.path) := by
  obtain ⟨_, displays⟩ := displays_of_reachable reachable
  exact ⟨displays.links, displays.here, displays.offered⟩

def sampleRollup : RollupBody Unit := ⟨['/'], ()⟩

/-- The rollup of `/` arrives, then a sort is chosen whose page is awaited. -/
def resorted : List (Label Unit Unit) :=
  [.settle 0 (.ok sampleResponse), .resumeLoad 0, .navigated 0,
    .respond 0 (.result sampleRollup), .sortBy .name]

theorem resorted_shows :
    ∃ (screen : Screen Unit Unit) (shown : Shown Unit),
      (display Unit Unit).Reachable StepSystem.AnyStep (screen, shown) ∧
        shown.offered = true ∧ shown.links ≠ some screen.listingKey ∧
        (∃ result, shown.panels = some result ∧ result.path = screen.view.path) := by
  let start : Screen Unit Unit := Screen.new.navigate ['/']
  have ran : ∃ final ∈ (display Unit Unit).run (start, start.shows .blank) resorted,
      final.2.offered = true ∧ final.2.links ≠ some final.1.listingKey := by decide
  obtain ⟨⟨screen, shown⟩, ran, offered, links⟩ := ran
  have reachable : (display Unit Unit).Reachable StepSystem.AnyStep (screen, shown) :=
    .of_run (.start ⟨rfl, rfl⟩) (.any _ _ _) ran
  exact ⟨screen, shown, reachable, offered, links,
    (page_shows reachable).2.2 offered⟩

end Catwalk.Browser
