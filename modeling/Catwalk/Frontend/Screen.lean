import Catwalk.Frontend.Machine
import Catwalk.Listing.Query

/-! The table and the rollup panels of one page of `static/app.js`: what its
event handlers do up to their first `await`, and what runs when one resumes. -/

namespace Catwalk.Browser

open Catwalk.Frontend (Detach)
open Script (normDir)

/-- `listingKey()` -/
structure ListingKey where
  path : Text
  sort : SortColumn
  order : SortOrder
  type : TypeFilter
  nameFilter : Text
  pageSize : Nat
  deriving DecidableEq

/-- `state` of the source. -/
structure View extends ListingKey where
  page : Int

/-- A response of `/api/ls`; only `renderTable` looks at the rows. -/
structure ListResponse (Rows : Type) where
  path : Text
  page : Int
  pages : Int
  truncated : Bool
  totalRows : Nat
  rows : Rows
  deriving DecidableEq

/-- A rollup and its path; only rendering looks at the stats. -/
structure RollupBody (Stats : Type) where
  path : Text
  stats : Stats
  deriving DecidableEq

/-- A request of `fetchPage` and the outcome of its promise, if it is settled:
the body, or the message of the error. -/
structure Fetch (Rows : Type) where
  request : ListingKey
  page : Int
  outcome : Option (Except Text (ListResponse Rows))

/-- `LOAD_OK`, `LOAD_FAILED` and `LOAD_SUPERSEDED` -/
inductive LoadOutcome
  | ok
  | failed
  | superseded
  deriving DecidableEq

/-- Where a `loadPage` stands: in its `await`, returned, or returned to a
`navigate` that went on. -/
inductive LoadPlace
  | awaiting
  | returned (outcome : LoadOutcome)
  | continued (outcome : LoadOutcome)

/-- One call of `loadPage`; `target` is that of the `navigate` behind it. -/
structure PageLoad where
  token : Nat
  expectedKey : ListingKey
  page : Int
  target : Option Text
  fetch : Nat
  place : LoadPlace

/-- Where a `loadRollup` stands: in its first `await`, before a poll, or in the
`await` of a poll.  A body may come without a job id. -/
inductive RollupPlace
  | requested
  | sleeping (jobId : Option Nat)
  | polling (jobId : Option Nat)
  | returned

/-- One call of `loadRollup`. -/
structure RollupLoad where
  path : Text
  token : Nat
  place : RollupPlace

/-- What `api("/api/rollup", …)` comes to: 200, 202, or an error, which has no
status when the network failed. -/
inductive RollupAnswer (Stats : Type)
  | result (result : RollupBody Stats)
  | accepted (jobId cancelToken : Option Nat)
  | failed (status : Option Nat) (message : Text)

/-- What a job that has not ended tells. -/
inductive Activity
  | queued (queuedS : Rat)
  | running (rowsScanned : Nat) (elapsedS : Rat)
  deriving DecidableEq

/-- What `api("/api/rollup/status", …)` comes to; `stopped` is a status of
`error` or `cancelled`. -/
inductive PollAnswer (Stats : Type)
  | done (result : RollupBody Stats)
  | stopped (error : Text)
  | active (activity : Activity)
  | failed (message : Text)

/-- `listing failed: …` and `showing first … entries — …` -/
inductive Banner
  | listingFailed (message : Text)
  | showingFirst (totalRows : Nat)
  deriving DecidableEq

/-- The texts of `rollup-status`, in the order of the source: nothing,
`rollup of … — scanned …`, `computing rollup of … …`, `rollup skipped at / …`,
`rollup unavailable: …`, `rollup failed: …` and `rollup of … running — …`. -/
inductive StatusLine (Stats : Type)
  | blank
  | rollupOf (result : RollupBody Stats)
  | computing (path : Text)
  | skipped
  | unavailable (message : Text)
  | failed (message : Text)
  | progress (path : Text) (activity : Activity)
  deriving DecidableEq

/-- A write to the page.  The rollup column of a table shows `rollup`, or a `…`
while `computing`; `rollupPanels` are the totals and the children. -/
inductive Write (Rows Stats : Type)
  | table (data : ListResponse Rows) (rollup : Option Stats) (computing : Bool)
  | pager (data : ListResponse Rows)
  | clearListing
  | showBanner (banner : Banner)
  | hideBanner
  | exportLinks (key : ListingKey)
  | rollupStatus (line : StatusLine Stats)
  | rollupPanels (result : Option (RollupBody Stats))
  | exportRollup (hidden : Bool)
  deriving DecidableEq

/-- The code that writes: a `navigate`, or the call of `loadPage` or
`loadRollup` with this index. -/
inductive Writer
  | navigate
  | page (load : Nat)
  | rollup (load : Nat)
  deriving DecidableEq

/-- The globals of the page, the calls that its handlers have made, and the
`writes` of the last event.  `filterInput` is the value of the name filter's
input and `filterTimer` tells whether its timeout is pending; `deletes` lists the
DELETEs sent. -/
structure Screen (Rows Stats : Type) where
  view : View
  listing : Option (ListResponse Rows)
  pageCache : OrderedDict (ListingKey × Int) Nat
  listingToken : Nat
  forwardStreak : Nat
  rollups : OrderedDict Text Stats
  rollupToken : Nat
  activeRollupJobId : Option Nat
  activeRollupCancelToken : Option Nat
  rollupInFlight : Option Text
  filterInput : Text
  filterTimer : Bool
  fetches : List (Fetch Rows)
  loads : List PageLoad
  rollupLoads : List RollupLoad
  deletes : List Detach
  writes : List (Writer × Write Rows Stats)

def pageCacheMax : Nat := 50

def rollupsMax : Nat := 50

/-- The white space and line ends that `String.prototype.trim` removes. -/
def isJsSpace (char : Char) : Bool :=
  let code := char.toNat
  (9 ≤ code ∧ code ≤ 13) ∨ code = 32 ∨ code = 0xa0 ∨ code = 0x1680 ∨
    (0x2000 ≤ code ∧ code ≤ 0x200a) ∨ code = 0x2028 ∨ code = 0x2029 ∨
    code = 0x202f ∨ code = 0x205f ∨ code = 0x3000 ∨ code = 0xfeff

def jsTrim (text : Text) : Text :=
  (text.dropWhile isJsSpace).rdropWhile isJsSpace

variable {Rows Stats : Type}

namespace Screen

/-- The globals before `init()`. -/
def new : Screen Rows Stats where
  view :=
    { path := ['/'], page := 1, pageSize := 20, sort := .name,
      order := .ascending, type := .all, nameFilter := [] }
  listing := none
  pageCache := .empty
  listingToken := 0
  forwardStreak := 0
  rollups := .empty
  rollupToken := 0
  activeRollupJobId := none
  activeRollupCancelToken := none
  rollupInFlight := none
  filterInput := []
  filterTimer := false
  fetches := []
  loads := []
  rollupLoads := []
  deletes := []
  writes := []

def listingKey (screen : Screen Rows Stats) : ListingKey :=
  screen.view.toListingKey

def write (screen : Screen Rows Stats) (writer : Writer)
    (writes : List (Write Rows Stats)) : Screen Rows Stats :=
  { screen with writes := screen.writes ++ writes.map (writer, ·) }

def setPath (screen : Screen Rows Stats) (path : Text) : Screen Rows Stats :=
  { screen with view := { screen.view with path := path } }

def setPage (screen : Screen Rows Stats) (page : Int) : Screen Rows Stats :=
  { screen with view := { screen.view with page := page } }

def setSort (screen : Screen Rows Stats) (sort : SortColumn)
    (order : SortOrder) : Screen Rows Stats :=
  { screen with view := { screen.view with sort := sort, order := order } }

def setType (screen : Screen Rows Stats) (type : TypeFilter) :
    Screen Rows Stats :=
  { screen with view := { screen.view with type := type } }

def setNameFilter (screen : Screen Rows Stats) (nameFilter : Text) :
    Screen Rows Stats :=
  { screen with view := { screen.view with nameFilter := nameFilter } }

def setPageSize (screen : Screen Rows Stats) (pageSize : Nat) :
    Screen Rows Stats :=
  { screen with view := { screen.view with pageSize := pageSize } }

/-- `fetchPage` up to its `await`: the fetch it waits for. -/
def fetchPage (screen : Screen Rows Stats) (page : Int) :
    Nat × Screen Rows Stats :=
  let key := (screen.listingKey, page)
  match screen.pageCache.get? key with
  | some fetch => (fetch, screen)
  | none =>
      let fetch := screen.fetches.length
      let pageCache := screen.pageCache.set key fetch
      (fetch, { screen with
        fetches := screen.fetches ++ [⟨screen.view.toListingKey, page, none⟩]
        pageCache := pageCache.dropOldest pageCacheMax pageCache.size })

/-- `fetchPage` after a failed `await`. -/
def forget (screen : Screen Rows Stats) (id : Nat) (fetch : Fetch Rows) :
    Screen Rows Stats :=
  let key := (fetch.request, fetch.page)
  if screen.pageCache.get? key = some id then
    { screen with pageCache := screen.pageCache.erase key }
  else screen

/-- `loadPage` up to its `await`. -/
def loadPage (screen : Screen Rows Stats) (page : Int)
    (target : Option Text) : Screen Rows Stats :=
  let token := screen.listingToken + 1
  let (fetch, screen) := { screen with listingToken := token }.fetchPage page
  { screen with
    loads := screen.loads ++
      [⟨token, screen.listingKey, page, target, fetch, .awaiting⟩] }

def moveLoad (screen : Screen Rows Stats) (id : Nat) (load : PageLoad)
    (place : LoadPlace) : Screen Rows Stats :=
  { screen with loads := screen.loads.set id { load with place := place } }

def renderTable (screen : Screen Rows Stats) (writer : Writer)
    (data : ListResponse Rows) : Screen Rows Stats :=
  screen.write writer
    [.table data (screen.rollups.get? screen.view.path)
      (screen.rollupInFlight = some screen.view.path)]

def updateExportLinks (screen : Screen Rows Stats) (writer : Writer) :
    Screen Rows Stats :=
  screen.write writer [.exportLinks screen.listingKey]

def clearListingUI (screen : Screen Rows Stats) (writer : Writer) :
    Screen Rows Stats :=
  ({ screen with listing := none }.write writer
    [.clearListing]).updateExportLinks writer

/-- The next page always, and the one after it on a forward streak. -/
def prefetch (screen : Screen Rows Stats) (data : ListResponse Rows) :
    Screen Rows Stats :=
  let screen := if data.page < data.pages then
    (screen.fetchPage (data.page + 1)).2 else screen
  if 2 ≤ screen.forwardStreak ∧ data.page + 2 ≤ data.pages then
    (screen.fetchPage (data.page + 2)).2 else screen

/-- `loadPage` with the data up to the prefetch. -/
def present (screen : Screen Rows Stats) (id : Nat) (load : PageLoad)
    (data : ListResponse Rows) : Screen Rows Stats :=
  let screen := { screen with listing := some data }.setPage data.page
  let screen := (screen.renderTable (.page id) data).write (.page id)
    [.pager data]
  if data.truncated then
    screen.write (.page id) [.showBanner (.showingFirst data.totalRows)]
  else if load.target = none then screen.write (.page id) [.hideBanner]
  else screen

def render (screen : Screen Rows Stats) (id : Nat) (load : PageLoad)
    (data : ListResponse Rows) : Screen Rows Stats :=
  ((screen.present id load data).prefetch data).updateExportLinks (.page id)

/-- `loadPage` after its `await`. -/
def resumeLoad (screen : Screen Rows Stats) (id : Nat) (load : PageLoad) :
    Except Text (ListResponse Rows) → Screen Rows Stats
  | .error message =>
      if load.token ≠ screen.listingToken then
        screen.moveLoad id load (.returned .superseded)
      else
        ((screen.write (.page id)
          [.showBanner (.listingFailed message)]).clearListingUI
            (.page id)).moveLoad id load (.returned .failed)
  | .ok data =>
      if load.token ≠ screen.listingToken ∨
          load.expectedKey ≠ screen.listingKey then
        screen.moveLoad id load (.returned .superseded)
      else (screen.render id load data).moveLoad id load (.returned .ok)

def resetListing (screen : Screen Rows Stats) : Screen Rows Stats :=
  { screen with pageCache := .empty, forwardStreak := 0 }

def refreshListing (screen : Screen Rows Stats) : Screen Rows Stats :=
  (screen.setPage 1).resetListing.loadPage 1 none

def cancelActiveRollup (screen : Screen Rows Stats) : Screen Rows Stats :=
  let screen := { screen with
    rollupToken := screen.rollupToken + 1
    rollupInFlight := none }
  match screen.activeRollupJobId with
  | none => screen
  | some jobId => { screen with
      deletes := ⟨jobId, screen.activeRollupCancelToken⟩ :: screen.deletes
      activeRollupJobId := none
      activeRollupCancelToken := none }

def resetRollupPanels (screen : Screen Rows Stats) (writer : Writer) :
    Screen Rows Stats :=
  screen.write writer [.rollupPanels none, .exportRollup true]

/-- `navigate` up to its `await`. -/
def navigate (screen : Screen Rows Stats) (path : Text) : Screen Rows Stats :=
  let screen := (screen.setPath (normDir path)).setPage 1
  let target := screen.view.path
  let screen := { screen.setNameFilter [] with filterInput := [] }
  let screen := screen.resetListing.write .navigate [.hideBanner]
  let screen := screen.cancelActiveRollup.resetRollupPanels .navigate
  let screen := screen.write .navigate [.rollupStatus .blank]
  (screen.updateExportLinks .navigate).loadPage 1 (some target)

/-- `if (listing && listing.path === state.path) renderTable(listing)` -/
def repaintListing (screen : Screen Rows Stats) (id : Nat) :
    Screen Rows Stats :=
  match screen.listing with
  | some data =>
      if data.path = screen.view.path then screen.renderTable (.rollup id) data
      else screen
  | none => screen

def renderRollup (screen : Screen Rows Stats) (id : Nat)
    (result : RollupBody Stats) : Screen Rows Stats :=
  let rollups := (screen.rollups.erase result.path).set result.path result.stats
  let screen := { screen with
    rollups := rollups.dropOldest rollupsMax rollups.size }
  let screen := screen.write (.rollup id)
    [.rollupStatus (.rollupOf result), .rollupPanels (some result)]
  let screen := if result.path = screen.view.path then
    screen.repaintListing id else screen
  if result.path = screen.view.path then
    (screen.write (.rollup id) [.exportRollup false]).updateExportLinks
      (.rollup id)
  else screen

def rollupSettled (screen : Screen Rows Stats) (id : Nat) :
    Screen Rows Stats :=
  { screen with rollupInFlight := none }.repaintListing id

def moveRollup (screen : Screen Rows Stats) (id : Nat) (load : RollupLoad)
    (place : RollupPlace) : Screen Rows Stats :=
  { screen with
    rollupLoads := screen.rollupLoads.set id { load with place := place } }

/-- `loadRollup` up to its first `await`. -/
def loadRollup (screen : Screen Rows Stats) (path : Text) :
    Screen Rows Stats :=
  let id := screen.rollupLoads.length
  let screen := screen.cancelActiveRollup
  let token := screen.rollupToken + 1
  let load : RollupLoad := ⟨path, token, .requested⟩
  let screen := { screen with
    rollupToken := token
    rollupInFlight := some path
    rollupLoads := screen.rollupLoads ++ [load] }
  (screen.resetRollupPanels (.rollup id)).write (.rollup id)
    [.rollupStatus (.computing path)]

/-- `navigate` after its `await`: a newer one may own the page, or the listing
failed. -/
def navigated (screen : Screen Rows Stats) (target : Text)
    (outcome : LoadOutcome) : Screen Rows Stats :=
  if screen.view.path ≠ target then screen
  else if outcome = .failed then screen
  else screen.loadRollup target

/-- `loadRollup` after its first `await`. -/
def respond (screen : Screen Rows Stats) (id : Nat) (load : RollupLoad) :
    RollupAnswer Stats → Screen Rows Stats
  | .failed status message =>
      let screen := screen.moveRollup id load .returned
      if load.token ≠ screen.rollupToken then screen
      else
        let line := if status = some 403 then .skipped
          else .unavailable message
        (screen.write (.rollup id) [.rollupStatus line]).rollupSettled id
  | .result result =>
      let screen := screen.moveRollup id load .returned
      if load.token ≠ screen.rollupToken then screen
      else { screen with rollupInFlight := none }.renderRollup id result
  | .accepted jobId cancelToken =>
      if load.token ≠ screen.rollupToken then
        let screen := screen.moveRollup id load .returned
        match jobId with
        | some jobId =>
            let detach : Detach := ⟨jobId, cancelToken⟩
            { screen with deletes := detach :: screen.deletes }
        | none => screen
      else
        { screen with
          activeRollupJobId := jobId
          activeRollupCancelToken := cancelToken }.moveRollup id load
            (.sleeping jobId)

/-- `poll` up to its `await`. -/
def poll (screen : Screen Rows Stats) (id : Nat) (load : RollupLoad)
    (jobId : Option Nat) : Screen Rows Stats :=
  if load.token ≠ screen.rollupToken then screen.moveRollup id load .returned
  else screen.moveRollup id load (.polling jobId)

/-- The job has ended, so its pair is dropped. -/
def dropPair (screen : Screen Rows Stats) (jobId : Option Nat) :
    Screen Rows Stats :=
  if screen.activeRollupJobId = jobId then
    { screen with activeRollupJobId := none, activeRollupCancelToken := none }
  else screen

/-- `poll` after its `await`. -/
def polled (screen : Screen Rows Stats) (id : Nat) (load : RollupLoad)
    (jobId : Option Nat) (answer : PollAnswer Stats) : Screen Rows Stats :=
  if load.token ≠ screen.rollupToken then screen.moveRollup id load .returned
  else
    match answer with
    | .failed message =>
        ((screen.moveRollup id load .returned).write (.rollup id)
          [.rollupStatus (.failed message)]).rollupSettled id
    | .done result =>
        let screen := (screen.moveRollup id load .returned).dropPair jobId
        { screen with rollupInFlight := none }.renderRollup id result
    | .stopped error =>
        let screen := (screen.moveRollup id load .returned).dropPair jobId
        (screen.write (.rollup id)
          [.rollupStatus (.failed error)]).rollupSettled id
    | .active activity =>
        (screen.write (.rollup id)
          [.rollupStatus (.progress load.path activity)]).moveRollup id load
            (.sleeping jobId)

/-- A click on a column head. -/
def sortBy (screen : Screen Rows Stats) (column : SortColumn) :
    Screen Rows Stats :=
  let order : SortOrder :=
    if screen.view.sort = column then
      if screen.view.order = .ascending then .descending else .ascending
    else if column = .name then .ascending else .descending
  (screen.setSort column order).refreshListing

def prevPage (screen : Screen Rows Stats) : Screen Rows Stats :=
  let screen := { screen with forwardStreak := 0 }
  if screen.view.page > 1 then screen.loadPage (screen.view.page - 1) none
  else screen

def nextPage (screen : Screen Rows Stats) : Screen Rows Stats :=
  let screen := { screen with forwardStreak := screen.forwardStreak + 1 }
  screen.loadPage (screen.view.page + 1) none

/-- The jump form is submitted; `page` is what `parseInt` made of its input,
`none` for NaN. -/
def jump (screen : Screen Rows Stats) (page : Option Int) :
    Screen Rows Stats :=
  let screen := { screen with forwardStreak := 0 }
  match page with
  | some page => if page ≥ 1 then screen.loadPage page none else screen
  | none => screen

/-- The timeout of the name filter. -/
def filterByName (screen : Screen Rows Stats) : Screen Rows Stats :=
  ({ screen with filterTimer := false }.setNameFilter
    (jsTrim screen.filterInput)).refreshListing

end Screen

/-- `navigate` to `filterTimeout` are handlers; `settle` is a promise of
`/api/ls`, `forget` to `polled` resume one call. -/
inductive Label (Rows Stats : Type)
  | navigate (path : Text)
  | sortBy (column : SortColumn)
  | typeFilter (type : TypeFilter)
  | pageSize (size : Nat)
  | prevPage
  | nextPage
  | jump (page : Option Int)
  | nameInput (value : Text)
  | filterTimeout
  | settle (fetch : Nat) (outcome : Except Text (ListResponse Rows))
  | forget (fetch : Nat)
  | resumeLoad (load : Nat)
  | navigated (load : Nat)
  | respond (load : Nat) (answer : RollupAnswer Stats)
  | poll (load : Nat)
  | polled (load : Nat) (answer : PollAnswer Stats)

/-- One event, on a page whose `writes` are still those of the one before. -/
def handle (screen : Screen Rows Stats) :
    Label Rows Stats → Option (Screen Rows Stats)
  | .navigate path => some (screen.navigate path)
  | .sortBy column => some (screen.sortBy column)
  | .typeFilter type => some (screen.setType type).refreshListing
  | .pageSize size => some (screen.setPageSize size).refreshListing
  | .prevPage => some screen.prevPage
  | .nextPage => some screen.nextPage
  | .jump page => some (screen.jump page)
  | .nameInput value =>
      some { screen with filterInput := value, filterTimer := true }
  | .filterTimeout =>
      if screen.filterTimer then some screen.filterByName else none
  | .settle id outcome =>
      (screen.fetches[id]?).bind fun fetch =>
        match fetch.outcome with
        | none => some { screen with
            fetches := screen.fetches.set id
              { fetch with outcome := some outcome } }
        | some _ => none
  | .forget id =>
      (screen.fetches[id]?).bind fun fetch =>
        match fetch.outcome with
        | some (.error _) => some (screen.forget id fetch)
        | _ => none
  | .resumeLoad id =>
      (screen.loads[id]?).bind fun load =>
        match load.place with
        | .awaiting =>
            (screen.fetches[load.fetch]?).bind fun fetch =>
              fetch.outcome.map (screen.resumeLoad id load)
        | _ => none
  | .navigated id =>
      (screen.loads[id]?).bind fun load =>
        match load.place, load.target with
        | .returned outcome, some target =>
            some ((screen.moveLoad id load
              (.continued outcome)).navigated target outcome)
        | _, _ => none
  | .respond id answer =>
      (screen.rollupLoads[id]?).bind fun load =>
        match load.place with
        | .requested => some (screen.respond id load answer)
        | _ => none
  | .poll id =>
      (screen.rollupLoads[id]?).bind fun load =>
        match load.place with
        | .sleeping jobId => some (screen.poll id load jobId)
        | _ => none
  | .polled id answer =>
      (screen.rollupLoads[id]?).bind fun load =>
        match load.place with
        | .polling jobId => some (screen.polled id load jobId answer)
        | _ => none

def step (screen : Screen Rows Stats) (label : Label Rows Stats) :
    Option (Screen Rows Stats) :=
  handle { screen with writes := [] } label

/-- `init()` ends with `navigate("/")`. -/
def system (Rows Stats : Type) :
    StepSystem (Screen Rows Stats) (Label Rows Stats) where
  init := fun screen => screen = Screen.new.navigate ['/']
  step := step

end Catwalk.Browser
