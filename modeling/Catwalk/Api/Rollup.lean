import Catwalk.Catalog.Epoch
import Catwalk.Jobs.Steps
import Catwalk.Rollup.Compute

/-! `/api/rollup`: requests, the rollup cache and the shared jobs. -/

namespace Catwalk.Api

/-- The key of a rollup job, `("rollup", prefix, depth)`. -/
abbrev JobKey := Text × Nat

structure Config where
  jobs : Jobs.Config
  rollup : RollupConfig
  rollupResponseChildren : Nat

/-- What the requests run on; `epochAt` is the pinned snapshot over time. -/
structure Setting where
  cfg : Config
  arrow : Arrow
  deepSize : RollupResult → Nat
  epochAt : Int → Option String

/-- The API-sized copy of a result. -/
structure PublicResult where
  result : RollupResult
  totalChildren : Nat
  childrenTruncated : Bool

/-- `public_result`; `or` passes a limit of 0 over. -/
def publicResult (cfg : Config) (result : RollupResult)
    (childLimit : Option Nat) : PublicResult :=
  let limit := match childLimit with
    | none | some 0 => cfg.rollupResponseChildren
    | some limit => limit
  let limit := min limit cfg.rollup.rollupMaxGroups
  { result := { result with children := result.children.take limit }
    totalChildren := result.children.length
    childrenTruncated := limit < result.children.length }

/-- Where the `compute` of a job stands. -/
inductive Computing
  | unpinned
  | pinned (epoch : Option String)
  | computed (result : RollupResult)
  | failed (error : RollupError)

/-- Where one request stands. -/
inductive RequestPlace
  | made
  | keyed (epoch : Option String)
  | missed
  | waiting (job : Nat)
  | given (job : Nat)
  | polled (job : Nat)
  | ended

/-- `since` is the moment the request was made. -/
structure Request where
  pathPrefix : Text
  depth : Nat
  childLimit : Option Nat
  since : Int
  place : RequestPlace

/-- `answers` lists the results handed out, with the request. -/
structure State where
  manager : Jobs.State JobKey RollupResult
  computing : Nat → Computing
  cache : SharedCache RollupKey RollupResult Unit
  requests : Nat → Option Request
  nextRequest : Nat
  answers : List (Nat × PublicResult)

namespace State

def now (state : State) : Int := state.manager.now

def setRequest (state : State) (id : Nat) (request : Request) : State :=
  { state with requests := Function.update state.requests id (some request) }

def moveTo (state : State) (id : Nat) (request : Request)
    (place : RequestPlace) : State :=
  state.setRequest id { request with place := place }

def setComputing (state : State) (job : Nat) (computing : Computing) : State :=
  { state with computing := Function.update state.computing job computing }

def answer (cfg : Config) (state : State) (id : Nat) (request : Request)
    (result : RollupResult) : State :=
  { state with answers :=
      (id, publicResult cfg result request.childLimit) :: state.answers }

/-- `api_rollup` up to its first lookup; a refused request leaves no trace. -/
def request (cfg : Config) (state : State) (path : Text) (depth : Nat)
    (childLimit : Option Nat) : State :=
  let pathPrefix := normalizePrefix path
  if childLimit = some 0 ∨ depth < 1 ∨ cfg.rollup.rollupMaxDepth < depth ∨
      (pathPrefix = ['/'] ∧ ¬ cfg.rollup.allowRoot) then state
  else
    { state.setRequest state.nextRequest
        ⟨pathPrefix, depth, childLimit, state.now, .made⟩ with
      nextRequest := state.nextRequest + 1 }

/-- `self.cache.get` of `cached`, and the answer from the cache. -/
def cached (cfg : Config) (state : State) (id : Nat) (request : Request)
    (epoch : Option String) : State :=
  let (hit, cache) := state.cache.get state.now
    (epoch, normalizePrefix request.pathPrefix, request.depth)
  let looked := { state with cache := cache }
  match hit with
  | some result =>
      (looked.moveTo id request .ended).answer cfg id request
        { result with fromCache := true }
  | none => looked.moveTo id request .missed

/-- `jobs.submit`; anything but a job ends the request. -/
def submit (cfg : Config) (state : State) (id : Nat) (request : Request)
    (fails : Bool) : State :=
  let (outcome, manager) := state.manager.submit cfg.jobs
    (request.pathPrefix, request.depth) fails
  let submitted := { state with manager := manager }
  match outcome with
  | .returned job _ => submitted.moveTo id request (.waiting job)
  | _ => submitted.moveTo id request .ended

/-- The answer for a job that finished in time. -/
def finish (cfg : Config) (state : State) (id : Nat) (request : Request)
    (job : Jobs.Job JobKey RollupResult) : State :=
  let ended := state.moveTo id request .ended
  if job.status = .error ∨ job.status = .cancelled then ended
  else
    match job.result with
    | some result => ended.answer cfg id request result
    | none => ended

/-- The answer of `api_rollup_status` about a known job. -/
def status (cfg : Config) (state : State) (id : Nat) (request : Request)
    (target : Nat) (job : Jobs.Job JobKey RollupResult) : State :=
  let polling := state.moveTo id request (.given target)
  if job.status = .done then
    match job.result with
    | some result => polling.answer cfg id request result
    | none => polling
  else polling

end State

/-- `finish`, `timeout` end the wait for a job; `poll` and `status` are the two
halves of `api_rollup_status`; `pin` and `compute` are steps of a job's
`RollupService.compute`. -/
inductive Label
  | request (path : Text) (depth : Nat) (childLimit : Option Nat)
  | lookup (id : Nat)
  | cached (id : Nat)
  | submit (id : Nat) (fails : Bool)
  | finish (id : Nat)
  | timeout (id : Nat)
  | poll (id : Nat)
  | status (id : Nat)
  | pin (job : Nat)
  | compute (job : Nat) (backend : Backend) (input : RollupInput)
  | returns (job : Nat)
  | manager (label : Jobs.Label JobKey RollupResult)

def Computing.isComputed : Computing → Bool
  | .computed _ => true
  | _ => false

/-- Submits come from requests and results from `compute`, which neither
reports nor raises after it has put its result into the cache. -/
def permits (state : State) : Jobs.Label JobKey RollupResult → Bool
  | .submit _ _ | .returns _ _ => false
  | .progress job _ | .raises job _ => !(state.computing job).isComputed
  | _ => true

/-- The job executes `fn`, and no `progress` call has raised. -/
def running (state : State) (job : Nat) :
    Option (Jobs.Job JobKey RollupResult) :=
  (state.manager.heap job).filter fun job =>
    match job.run with
    | .computing refused => !refused
    | _ => false

def step (setting : Setting) (state : State) : Label → Option State
  | .request path depth childLimit =>
      some (state.request setting.cfg path depth childLimit)
  | .lookup id =>
      (state.requests id).bind fun request =>
        match request.place with
        | .made =>
            some (state.moveTo id request (.keyed (setting.epochAt state.now)))
        | _ => none
  | .cached id =>
      (state.requests id).bind fun request =>
        match request.place with
        | .keyed epoch => some (state.cached setting.cfg id request epoch)
        | _ => none
  | .submit id fails =>
      (state.requests id).bind fun request =>
        match request.place with
        | .missed => some (state.submit setting.cfg id request fails)
        | _ => none
  | .finish id =>
      (state.requests id).bind fun request =>
        match request.place with
        | .waiting target =>
            (state.manager.heap target).bind fun job =>
              if job.event then some (state.finish setting.cfg id request job)
              else none
        | _ => none
  | .timeout id =>
      (state.requests id).bind fun request =>
        match request.place with
        | .waiting target => some (state.moveTo id request (.given target))
        | _ => none
  | .poll id =>
      (state.requests id).bind fun request =>
        match request.place with
        | .given target =>
            match state.manager.get setting.cfg.jobs target with
            | (some _, manager) =>
                some ({ state with manager := manager }.moveTo id request
                  (.polled target))
            | (none, manager) => some { state with manager := manager }
        | _ => none
  | .status id =>
      (state.requests id).bind fun request =>
        match request.place with
        | .polled target =>
            (state.manager.heap target).map
              (state.status setting.cfg id request target)
        | _ => none
  | .pin job =>
      (running state job).bind fun _ =>
        match state.computing job with
        | .unpinned =>
            some (state.setComputing job (.pinned (setting.epochAt state.now)))
        | _ => none
  | .compute target backend input =>
      (running state target).bind fun job =>
        match state.computing target with
        | .pinned epoch =>
            match RollupService.compute setting.arrow backend setting.cfg.rollup
              setting.deepSize state.now job.key.1 job.key.2
              { input with epoch := epoch } state.cache with
            | (.ok result, cache) =>
                some { state.setComputing target (.computed result) with
                  cache := cache }
            | (.error error, cache) =>
                some { state.setComputing target (.failed error) with
                  cache := cache }
        | _ => none
  | .returns job =>
      match state.computing job with
      | .computed result =>
          (state.manager.modify job (Jobs.Job.returns result)).map
            fun manager => { state with manager := manager }
      | _ => none
  | .manager label =>
      if permits state label then
        (Jobs.step setting.cfg.jobs state.manager label).map
          fun manager => { state with manager := manager }
      else none

/-- No job and no request was there before. -/
structure Initial (setting : Setting) (state : State) : Prop where
  manager : Jobs.Initial setting.cfg.jobs state.manager
  computing : ∀ job, state.computing job = .unpinned
  cache : ∀ key, state.cache.cache.d.get? key = none
  requests : ∀ id, state.requests id = none
  answers : state.answers = []

def system (setting : Setting) : StepSystem State Label where
  init := Initial setting
  step := step setting

/-- The snapshot was the pinned one at some moment since the request. -/
def CurrentSince (setting : Setting) (state : State) (since : Int)
    (snapshot : Option String) : Prop :=
  ∃ moment, since ≤ moment ∧ moment ≤ state.now ∧
    setting.epochAt moment = snapshot

/-- Every result handed out describes a snapshot current since its request. -/
def Fresh (setting : Setting) (state : State) : Prop :=
  ∀ id answer request, (id, answer) ∈ state.answers →
    state.requests id = some request →
    CurrentSince setting state request.since answer.result.catalogSnapshot

/-- The snapshot a job's `compute` has read. -/
def Computing.snapshot : Computing → Option (Option String)
  | .pinned epoch => some epoch
  | .computed result => some result.catalogSnapshot
  | _ => none

/-- No request joins a job whose `compute` has read a snapshot that was not
current since the request. -/
def JoinsFresh (setting : Setting) (state : State) : Label → Prop
  | .submit id fails => ∀ request job watcher snapshot,
      state.requests id = some request →
      (state.manager.submit setting.cfg.jobs
        (request.pathPrefix, request.depth) fails).1 = .returned job watcher →
      (state.computing job).snapshot = some snapshot →
      CurrentSince setting state request.since snapshot
  | _ => True

end Catwalk.Api
