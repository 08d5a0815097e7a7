import Catwalk.Api.Rollup
import Catwalk.Frontend.Paths

/-! The pages of `static/app.js` and their server: rollups loaded, polled and
abandoned, and the watchers of the jobs behind them. -/

namespace Catwalk.Frontend

open Catwalk.Jobs (Status)
open Catwalk.Api (JobKey)
open Script (normDir)

/-- A DELETE of `/api/rollup/status`; `api` leaves a null token out. -/
structure Detach where
  jobId : Nat
  cancelToken : Option Nat
  deriving DecidableEq

/-- 200, 202, or a failed `/api/rollup`. -/
inductive Response
  | result
  | accepted (jobId cancelToken : Nat)
  | failure

/-- A request of `/api/rollup` that the page awaits: on its way, inside
`_wait_job`, or answered. -/
inductive Request
  | sent
  | waiting (jobId cancelToken : Nat)
  | answered (response : Response)

/-- A GET of `/api/rollup/status` that the page awaits; it fails without a
status. -/
inductive Poll
  | sent
  | found
  | answered (status : Option Status)

/-- Where one `loadRollup` stands: in its first `await`, before a poll, or in
the `await` of a poll. -/
inductive LoadPlace
  | requested (request : Request)
  | sleeping (jobId : Nat)
  | polling (jobId : Nat) (poll : Poll)
  | returned

/-- One `loadRollup` of a page.  `client` is the watcher the server has for it,
until it tells the end of the job in answer to the request; `received` is the
pair of its 202, and `observed` the last status a poll of it has read. -/
structure Load where
  page : Nat
  path : Text
  token : Nat
  place : LoadPlace
  client : Option (Nat × Nat)
  received : Option (Nat × Nat)
  observed : Option Status

/-- `navigations` holds the targets of `navigate` calls in `loadPage`. -/
structure Page where
  path : Text
  rollupToken : Nat
  activeRollupJobId : Option Nat
  activeRollupCancelToken : Option Nat
  navigations : List Text

/-- `deletes` lists every DELETE the pages have sent, `inFlight` those on their
way and `delivered` those the server has handled. -/
structure State (Result : Type) where
  manager : Jobs.State JobKey Result
  pages : Nat → Page
  loads : List Load
  deletes : List Detach
  inFlight : List Detach
  delivered : List Detach

def Page.new : Page where
  path := ['/']
  rollupToken := 0
  activeRollupJobId := none
  activeRollupCancelToken := none
  navigations := []

variable {Result : Type}

namespace State

def setPage (state : State Result) (id : Nat) (page : Page) : State Result :=
  { state with pages := Function.update state.pages id page }

def setLoad (state : State Result) (id : Nat) (load : Load) : State Result :=
  { state with loads := state.loads.set id load }

def moveTo (state : State Result) (id : Nat) (load : Load)
    (place : LoadPlace) : State Result :=
  state.setLoad id { load with place := place }

def sendDelete (state : State Result) (detach : Detach) : State Result :=
  { state with
    deletes := detach :: state.deletes
    inFlight := detach :: state.inFlight }

def cancelActiveRollup (state : State Result) (id : Nat) : State Result :=
  let page := state.pages id
  let page := { page with rollupToken := page.rollupToken + 1 }
  match page.activeRollupJobId with
  | none => state.setPage id page
  | some jobId =>
      (state.sendDelete ⟨jobId, page.activeRollupCancelToken⟩).setPage id
        { page with
          activeRollupJobId := none
          activeRollupCancelToken := none }

/-- `token = ++rollupToken`, and the request is sent. -/
def request (state : State Result) (id : Nat) (path : Text) : State Result :=
  let page := state.pages id
  let token := page.rollupToken + 1
  { state.setPage id { page with rollupToken := token } with
    loads := state.loads ++
      [⟨id, path, token, .requested .sent, none, none, none⟩] }

/-- `loadRollup` up to its first `await`. -/
def loadRollup (state : State Result) (id : Nat) (path : Text) :
    State Result :=
  (state.cancelActiveRollup id).request id path

/-- `navigate` up to its `await loadPage`. -/
def navigate (state : State Result) (id : Nat) (path : Text) : State Result :=
  let page := state.pages id
  let target := normDir path
  (state.setPage id { page with
    path := target
    navigations := page.navigations ++ [target] }).cancelActiveRollup id

/-- `navigate` after `loadPage`, which may have failed. -/
def navigated (state : State Result) (id index : Nat) (failed : Bool) :
    Option (State Result) :=
  let page := state.pages id
  (page.navigations[index]?).map fun target =>
    let state := state.setPage id { page with
      navigations := page.navigations.eraseIdx index }
    if page.path ≠ target ∨ failed then state else state.loadRollup id target

/-- `loadRollup` after its request: a token that was overtaken detaches its own
pair. -/
def respond (state : State Result) (id : Nat) (load : Load) :
    Response → State Result
  | .result | .failure => state.moveTo id load .returned
  | .accepted jobId cancelToken =>
      let page := state.pages load.page
      let load := { load with received := some (jobId, cancelToken) }
      if load.token ≠ page.rollupToken then
        (state.sendDelete ⟨jobId, some cancelToken⟩).moveTo id load .returned
      else
        (state.setPage load.page { page with
          activeRollupJobId := some jobId
          activeRollupCancelToken := some cancelToken }).moveTo id load
            (.sleeping jobId)

/-- `poll` up to its `await`. -/
def poll (state : State Result) (id : Nat) (load : Load) (jobId : Nat) :
    State Result :=
  if load.token ≠ (state.pages load.page).rollupToken then
    state.moveTo id load .returned
  else state.moveTo id load (.polling jobId .sent)

/-- The pair is dropped when its job has ended. -/
def settle (state : State Result) (id : Nat) (load : Load) (jobId : Nat) :
    State Result :=
  let page := state.pages load.page
  (if page.activeRollupJobId = some jobId then
    state.setPage load.page { page with
      activeRollupJobId := none
      activeRollupCancelToken := none }
  else state).moveTo id load .returned

/-- `poll` after its `await`. -/
def polled (state : State Result) (id : Nat) (load : Load) (jobId : Nat)
    (status : Option Status) : State Result :=
  if load.token ≠ (state.pages load.page).rollupToken then
    state.moveTo id load .returned
  else
    match status with
    | none => state.moveTo id load .returned
    | some status =>
        let load := { load with observed := some status }
        match status with
        | .done | .error | .cancelled => state.settle id load jobId
        | .queued | .running => state.moveTo id load (.sleeping jobId)

end State

/-- How `api_rollup` goes up to its `_wait_job`: refused, served from the cache,
or submitted. -/
inductive Arrival
  | refused
  | cached
  | submitted (fails : Bool)

namespace State

/-- The page asks for the default depth of 1. -/
def arrive (cfg : Jobs.Config) (state : State Result) (id : Nat)
    (load : Load) : Arrival → State Result
  | .refused => state.moveTo id load (.requested (.answered .failure))
  | .cached => state.moveTo id load (.requested (.answered .result))
  | .submitted fails =>
      let (outcome, manager) :=
        state.manager.submit cfg (normalizePrefix load.path, 1) fails
      let state := { state with manager := manager }
      match outcome with
      | .returned jobId watcher =>
          state.moveTo id { load with client := some (jobId, watcher) }
            (.requested (.waiting jobId watcher))
      | _ => state.moveTo id load (.requested (.answered .failure))

/-- `api_rollup` after a `_wait_job` that saw the job finish. -/
def finish (state : State Result) (id : Nat) (load : Load)
    (job : Jobs.Job JobKey Result) : State Result :=
  state.moveTo id { load with client := none } <|
    .requested <| .answered <|
      if job.status = .error ∨ job.status = .cancelled then .failure
      else .result

/-- `api_rollup_cancel`; without a token it is refused. -/
def detach (state : State Result) (detach : Detach) : State Result :=
  match detach.cancelToken with
  | none => state
  | some cancelToken =>
      { state with manager := state.manager.cancel detach.jobId cancelToken }

end State

/-- `navigate` to `polled` are steps of pages, `arrive` to `status` of the
server; `fail` breaks a request or a poll off, `detach` and `lose` are the fate
of a DELETE, and `manager` is a step of the jobs. -/
inductive Label (Result : Type)
  | navigate (page : Nat) (path : Text)
  | navigated (page index : Nat) (failed : Bool)
  | respond (load : Nat)
  | poll (load : Nat)
  | polled (load : Nat)
  | arrive (load : Nat) (arrival : Arrival)
  | finish (load : Nat)
  | timeout (load : Nat)
  | get (load : Nat)
  | status (load : Nat)
  | fail (load : Nat)
  | detach (index : Nat)
  | lose (index : Nat)
  | manager (label : Jobs.Label JobKey Result)

/-- Watchers come from requests and leave by DELETEs. -/
def permits : Jobs.Label JobKey Result → Bool
  | .submit _ _ | .cancel _ _ => false
  | _ => true

def step (cfg : Jobs.Config) (state : State Result) :
    Label Result → Option (State Result)
  | .navigate page path => some (state.navigate page path)
  | .navigated page index failed => state.navigated page index failed
  | .respond id =>
      (state.loads[id]?).bind fun load =>
        match load.place with
        | .requested (.answered response) => some (state.respond id load response)
        | _ => none
  | .poll id =>
      (state.loads[id]?).bind fun load =>
        match load.place with
        | .sleeping jobId => some (state.poll id load jobId)
        | _ => none
  | .polled id =>
      (state.loads[id]?).bind fun load =>
        match load.place with
        | .polling jobId (.answered status) =>
            some (state.polled id load jobId status)
        | _ => none
  | .arrive id arrival =>
      (state.loads[id]?).bind fun load =>
        match load.place with
        | .requested .sent => some (state.arrive cfg id load arrival)
        | _ => none
  | .finish id =>
      (state.loads[id]?).bind fun load =>
        match load.place with
        | .requested (.waiting jobId _) =>
            (state.manager.heap jobId).bind fun job =>
              if job.event then some (state.finish id load job) else none
        | _ => none
  | .timeout id =>
      (state.loads[id]?).bind fun load =>
        match load.place with
        | .requested (.waiting jobId watcher) =>
            some (state.moveTo id load
              (.requested (.answered (.accepted jobId watcher))))
        | _ => none
  | .get id =>
      (state.loads[id]?).bind fun load =>
        match load.place with
        | .polling jobId .sent =>
            match state.manager.get cfg jobId with
            | (some _, manager) =>
                some ({ state with manager := manager }.moveTo id load
                  (.polling jobId .found))
            | (none, manager) =>
                some ({ state with manager := manager }.moveTo id load
                  (.polling jobId (.answered none)))
        | _ => none
  | .status id =>
      (state.loads[id]?).bind fun load =>
        match load.place with
        | .polling jobId .found =>
            (state.manager.heap jobId).map fun job =>
              state.moveTo id load (.polling jobId (.answered (some job.status)))
        | _ => none
  | .fail id =>
      (state.loads[id]?).bind fun load =>
        match load.place with
        | .requested _ =>
            some (state.moveTo id load (.requested (.answered .failure)))
        | .polling jobId _ =>
            some (state.moveTo id load (.polling jobId (.answered none)))
        | _ => none
  | .detach index =>
      (state.inFlight[index]?).map fun detach =>
        { state.detach detach with
          inFlight := state.inFlight.eraseIdx index
          delivered := detach :: state.delivered }
  | .lose index =>
      if index < state.inFlight.length then
        some { state with inFlight := state.inFlight.eraseIdx index }
      else none
  | .manager label =>
      if permits label then
        (Jobs.step cfg state.manager label).map fun manager =>
          { state with manager := manager }
      else none

/-- New pages and a manager just created. -/
structure Initial (cfg : Jobs.Config) (state : State Result) : Prop where
  manager : Jobs.Initial cfg state.manager
  pages : ∀ id, state.pages id = .new
  loads : state.loads = []
  deletes : state.deletes = []
  inFlight : state.inFlight = []
  delivered : state.delivered = []

def system (cfg : Jobs.Config) : StepSystem (State Result) (Label Result) where
  init := Initial cfg
  step := step cfg

end Catwalk.Frontend
