import Catwalk.Theory.StepSystem
import Mathlib.Data.Finset.Basic
import Mathlib.Logic.Function.Basic

/-! Background rollup jobs: the manager, its executor and its threads. -/

namespace Catwalk.Jobs

inductive Status
  | queued
  | running
  | done
  | error
  | cancelled
  deriving DecidableEq

/-- `status in ("queued", "running")` -/
def Status.Active (status : Status) : Prop :=
  status = .queued ∨ status = .running

instance (status : Status) : Decidable status.Active :=
  inferInstanceAs (Decidable (_ ∨ _))

/-- The state of a `concurrent.futures.Future`. -/
inductive FutureState
  | pending
  | running
  | cancelled
  | finished
  deriving DecidableEq

/-- What the worker does next in `run`; `refused` tells whether `progress` has
raised into `fn`, and `describe` is an exception whose text can be read and
whose `status_code` raises. -/
inductive RunState (Result : Type)
  | queued
  | start
  | setRunning
  | firstCheck
  | computing (refused : Bool)
  | lastCheck (result : Result)
  | store (result : Result)
  | fail (error : String) (errorStatus : Nat) (final : Status)
  | describe (error : String)
  | finish (final : Status)
  | publish (final : Status)
  | signal
  | complete
  | returning
  | ended

/-- What `fn` raises by itself: a `JobCancelledError`, another `Exception`, or
what is none.  `text` is `str(e)` and `status` its `status_code`; `none` where
reading it raises. -/
inductive Raised
  | cancelled (text : Option String) (status : Option Nat)
  | exception (text : Option String) (status : Option Nat)
  | base

/-- Where `run` goes on.  An exception in an `except` clause leaves
`final_status` at "done", and so does one that no clause is for. -/
def Raised.caught {Result : Type} : Raised → RunState Result
  | .cancelled (some error) (some errorStatus) =>
      .fail error errorStatus .cancelled
  | .exception (some error) (some errorStatus) => .fail error errorStatus .error
  | .cancelled (some error) none | .exception (some error) none =>
      .describe error
  | .cancelled none _ | .exception none _ | .base => .finish .done

/-- What the thread that ended the future does next in `_future_done`. -/
inductive CallbackState
  | waiting
  | check
  | fail
  | finish
  | publish
  | signal
  | release
  | done
  deriving DecidableEq

/-- A `Job` with its future and the threads at work on it; `cancelCalls` counts
the `cancel` calls that still have to call `future.cancel()`. -/
structure Job (Key Result : Type) where
  key : Key
  status : Status
  rowsScanned : Nat
  submitted : Int
  started : Option Int
  finished : Option Int
  result : Option Result
  error : Option String
  errorStatus : Nat
  event : Bool
  cancelRequested : Bool
  watchers : Finset Nat
  future : FutureState
  run : RunState Result
  callback : CallbackState
  cancelCalls : Nat

/-- What `close` does next. -/
inductive CloserState
  | open
  | cancelling (remaining : List Nat)
  | cancelFuture (job : Nat) (remaining : List Nat)
  | cancelCallback (job : Nat) (remaining : List Nat)
  | draining
  | drainCallback (job : Nat)
  | joining
  | returned
  deriving DecidableEq

/-- `retention` is `_DONE_RETENTION_SECS` in ticks of the clock. -/
structure Config where
  maxWorkers : Nat
  maxQueue : Nat
  retention : Int

/-- Jobs and watchers are numbered in the order of their creation; `jobs` holds
the ids in `_jobs`, `queue` the work items of the executor, `busy` its workers
that hold one. -/
structure State (Key Result : Type) where
  now : Int
  heap : Nat → Option (Job Key Result)
  nextJob : Nat
  nextWatcher : Nat
  jobs : List Nat
  byKey : Key → Option Nat
  slots : Nat
  queue : List Nat
  busy : Nat
  closer : CloserState
  closeWait : Bool

variable {Key Result : Type} [DecidableEq Key]

namespace Job

def new (key : Key) (now : Int) (watcher : Nat) : Job Key Result where
  key := key
  status := .queued
  rowsScanned := 0
  submitted := now
  started := none
  finished := none
  result := none
  error := none
  errorStatus := 502
  event := false
  cancelRequested := false
  watchers := {watcher}
  future := .pending
  run := .queued
  callback := .waiting
  cancelCalls := 0

/-- `JobCancelledError("rollup cancelled")` -/
def cancelledError : RunState Result := .fail "rollup cancelled" 409 .cancelled

/-- The worker's next step outside `fn`, up to the end of the future. -/
def work (now : Int) (job : Job Key Result) : Option (Job Key Result) :=
  match job.run with
  | .start => some { job with started := some now, run := .setRunning }
  | .setRunning => some { job with status := .running, run := .firstCheck }
  | .firstCheck =>
      some { job with
        run := if job.cancelRequested then cancelledError
          else .computing false }
  | .lastCheck result =>
      some { job with
        run := if job.cancelRequested then cancelledError else .store result }
  | .store result =>
      some { job with result := some result, run := .finish .done }
  | .fail error errorStatus final =>
      some { job with
        error := some error
        errorStatus := errorStatus
        run := .finish final }
  | .describe error =>
      some { job with error := some error, run := .finish .done }
  | .finish final =>
      some { job with finished := some now, run := .publish final }
  | .publish final => some { job with status := final, run := .signal }
  | .signal => some { job with event := true, run := .complete }
  | .complete =>
      some { job with
        future := .finished
        run := .returning
        callback := .check }
  | _ => none

/-- `fn` calls `progress(rows)`, which raises once cancelling is requested. -/
def progress (rows : Nat) (job : Job Key Result) : Option (Job Key Result) :=
  match job.run with
  | .computing _ =>
      some (if job.cancelRequested then { job with run := .computing true }
        else { job with rowsScanned := rows })
  | _ => none

def returns (result : Result) (job : Job Key Result) :
    Option (Job Key Result) :=
  match job.run with
  | .computing _ => some { job with run := .lastCheck result }
  | _ => none

/-- `fn` raises an exception of its own. -/
def raises (raised : Raised) (job : Job Key Result) : Option (Job Key Result) :=
  match job.run with
  | .computing _ => some { job with run := raised.caught }
  | _ => none

/-- `fn` lets the `JobCancelledError` of `progress` through. -/
def raisesCancelled (job : Job Key Result) : Option (Job Key Result) :=
  match job.run with
  | .computing true => some { job with run := cancelledError }
  | _ => none

/-- The next step of `_future_done`, up to the release of the slot. -/
def callbackStep (now : Int) (job : Job Key Result) : Option (Job Key Result) :=
  match job.callback with
  | .check =>
      some { job with callback :=
        if job.future = .cancelled ∧ job.event = false then .fail
        else .release }
  | .fail =>
      some { job with
        error := some "rollup cancelled"
        errorStatus := 409
        callback := .finish }
  | .finish => some { job with finished := some now, callback := .publish }
  | .publish => some { job with status := .cancelled, callback := .signal }
  | .signal => some { job with event := true, callback := .release }
  | _ => none

/-- `future.cancel()`: only a pending future is cancelled. -/
def cancelFuture (job : Job Key Result) : Job Key Result :=
  if job.future = .pending then
    { job with future := .cancelled, callback := .check }
  else job

/-- A `cancel` call outside the lock. -/
def endCancel (job : Job Key Result) : Option (Job Key Result) :=
  if job.cancelCalls = 0 then none
  else some { job.cancelFuture with cancelCalls := job.cancelCalls - 1 }

/-- The part of `cancel` under the lock, for an active job; tells whether
`future.cancel()` follows. -/
def detach (watcher : Option Nat) (job : Job Key Result) :
    Job Key Result × Bool :=
  match watcher with
  | none => ({ job with cancelRequested := true }, true)
  | some watcher =>
      let watchers := job.watchers.erase watcher
      if watchers = ∅ then
        ({ job with watchers := watchers, cancelRequested := true }, true)
      else ({ job with watchers := watchers }, false)

/-- What `cancel(id, watcher)` makes of an active job under the lock. -/
def leave (watcher : Nat) (job : Job Key Result) : Job Key Result :=
  let (detached, follows) := job.detach (some watcher)
  if follows then { detached with cancelCalls := detached.cancelCalls + 1 }
  else detached

end Job

inductive SubmitOutcome
  | returned (job watcher : Nat)
  | closed
  | queueFull
  | failed
  deriving DecidableEq

namespace State

def setJob (state : State Key Result) (id : Nat) (job : Job Key Result) :
    State Key Result :=
  { state with heap := Function.update state.heap id (some job) }

/-- A step of one job that touches nothing else. -/
def modify (state : State Key Result) (id : Nat)
    (change : Job Key Result → Option (Job Key Result)) :
    Option (State Key Result) :=
  (state.heap id).bind fun job => (change job).map (state.setJob id)

/-- Finished for longer than the retention. -/
def Stale (cfg : Config) (state : State Key Result) (id : Nat) : Prop :=
  ∃ job ∈ state.heap id, ∃ finished ∈ job.finished,
    cfg.retention < state.now - finished

instance (cfg : Config) (state : State Key Result) (id : Nat) :
    Decidable (state.Stale cfg id) :=
  inferInstanceAs (Decidable (∃ job ∈ state.heap id, _))

/-- `_prune_locked` -/
def prune (cfg : Config) (state : State Key Result) : State Key Result :=
  { state with
    jobs := state.jobs.filter fun id => ¬ state.Stale cfg id
    byKey := fun key =>
      match state.byKey key with
      | none => none
      | some id =>
          if id ∈ state.jobs ∧ state.Stale cfg id ∧
              (state.heap id).map (·.key) = some key then none
          else some id }

/-- A job of the key that a submit joins. -/
def joinable (state : State Key Result) (key : Key) :
    Option (Nat × Job Key Result) :=
  (state.byKey key).bind fun id => (state.heap id).bind fun job =>
    if job.status.Active ∧ job.cancelRequested = false then some (id, job)
    else none

/-- `submit`; `fails` tells whether `executor.submit` raises, which is taken to
have scheduled nothing. -/
def submit (cfg : Config) (state : State Key Result) (key : Key)
    (fails : Bool) : SubmitOutcome × State Key Result :=
  if state.closer ≠ .open then (.closed, state)
  else
    let pruned := state.prune cfg
    let watcher := pruned.nextWatcher
    let pruned := { pruned with nextWatcher := watcher + 1 }
    match pruned.joinable key with
    | some (id, job) =>
        (.returned id watcher, pruned.setJob id
          { job with watchers := insert watcher job.watchers })
    | none =>
        if pruned.slots = 0 then (.queueFull, pruned)
        else if fails then
          (.failed, { pruned with
            nextJob := pruned.nextJob + 1
            byKey := Function.update pruned.byKey key none })
        else
          (.returned pruned.nextJob watcher, { pruned with
            heap := Function.update pruned.heap pruned.nextJob
              (some (.new key pruned.now watcher))
            nextJob := pruned.nextJob + 1
            jobs := pruned.jobs ++ [pruned.nextJob]
            byKey := Function.update pruned.byKey key (some pruned.nextJob)
            slots := pruned.slots - 1
            queue := pruned.queue ++ [pruned.nextJob] })

/-- The job `get` returns, if it is known. -/
def get (cfg : Config) (state : State Key Result) (id : Nat) :
    Option (Job Key Result) × State Key Result :=
  let pruned := state.prune cfg
  (if id ∈ pruned.jobs then pruned.heap id else none, pruned)

/-- The active job of this id in `_jobs`. -/
def active (state : State Key Result) (id : Nat) : Option (Job Key Result) :=
  if id ∈ state.jobs then
    (state.heap id).filter fun job => job.status.Active
  else none

/-- `cancel(id, watcher)` under the lock. -/
def cancel (state : State Key Result) (id watcher : Nat) : State Key Result :=
  match state.active id with
  | none => state
  | some job => state.setJob id (job.leave watcher)

/-- An idle worker takes the oldest work item, and skips a cancelled one. -/
def take (cfg : Config) (state : State Key Result) :
    Option (State Key Result) :=
  match state.queue with
  | [] => none
  | id :: rest =>
      if state.busy < cfg.maxWorkers then
        (state.heap id).bind fun job =>
          match job.future with
          | .pending =>
              some { state.setJob id
                  { job with future := .running, run := .start } with
                queue := rest
                busy := state.busy + 1 }
          | .cancelled => some { state with queue := rest }
          | _ => none
      else none

/-- The next step of `_future_done`, the release of its slot included. -/
def callback (cfg : Config) (state : State Key Result) (id : Nat) :
    Option (State Key Result) :=
  (state.heap id).bind fun job =>
    if job.callback = .release then
      some { state.setJob id { job with callback := .done } with
        slots := min (state.slots + 1) (cfg.maxWorkers + cfg.maxQueue) }
    else (job.callbackStep state.now).map (state.setJob id)

/-- A worker whose future has run its callback is idle again. -/
def idle (state : State Key Result) (id : Nat) : Option (State Key Result) :=
  (state.heap id).bind fun job =>
    match job.run, job.callback with
    | .returning, .done =>
        some { state.setJob id { job with run := .ended } with
          busy := state.busy - 1 }
    | _, _ => none

def close (state : State Key Result) (wait : Bool) :
    Option (State Key Result) :=
  if state.closer = .open then
    some { state with
      closer := .cancelling
        (state.jobs.filter fun id => (state.active id).isSome)
      closeWait := wait }
  else none

/-- `future.cancel()` by the closing thread, which then runs the callback of a
future it cancelled. -/
def closerCancel (state : State Key Result) (id : Nat)
    (cancelled skipped : CloserState) : Option (State Key Result) :=
  (state.heap id).map fun job =>
    { state.setJob id job.cancelFuture with
      closer := if job.future = .pending then cancelled else skipped }

/-- The closing thread waits for the callback it runs. -/
def closerAwait (state : State Key Result) (id : Nat) (next : CloserState) :
    Option (State Key Result) :=
  (state.heap id).bind fun job =>
    if job.callback = .done then some { state with closer := next } else none

def closerStep (state : State Key Result) : Option (State Key Result) :=
  match state.closer with
  | .open | .returned => none
  | .cancelling [] => some { state with closer := .draining }
  | .cancelling (id :: rest) =>
      match state.active id with
      | none => some { state with closer := .cancelling rest }
      | some job =>
          some { state.setJob id (job.detach none).1 with
            closer := .cancelFuture id rest }
  | .cancelFuture id rest =>
      state.closerCancel id (.cancelCallback id rest) (.cancelling rest)
  | .cancelCallback id rest => state.closerAwait id (.cancelling rest)
  | .draining =>
      match state.queue with
      | [] =>
          some { state with
            closer := if state.closeWait then .joining else .returned }
      | id :: rest =>
          { state with queue := rest }.closerCancel id (.drainCallback id)
            .draining
  | .drainCallback id => state.closerAwait id .draining
  | .joining =>
      if state.busy = 0 then some { state with closer := .returned } else none

end State

inductive Label (Key Result : Type)
  | tick (elapsed : Nat)
  | submit (key : Key) (fails : Bool)
  | get (id : Nat)
  | cancel (id watcher : Nat)
  | endCancel (id : Nat)
  | take
  | work (id : Nat)
  | progress (id rows : Nat)
  | returns (id : Nat) (result : Result)
  | raises (id : Nat) (raised : Raised)
  | raisesCancelled (id : Nat)
  | callback (id : Nat)
  | idle (id : Nat)
  | close (wait : Bool)
  | closer

def step (cfg : Config) (state : State Key Result) :
    Label Key Result → Option (State Key Result)
  | .tick elapsed => some { state with now := state.now + elapsed }
  | .submit key fails => some (state.submit cfg key fails).2
  | .get id => some (state.get cfg id).2
  | .cancel id watcher => some (state.cancel id watcher)
  | .endCancel id => state.modify id Job.endCancel
  | .take => state.take cfg
  | .work id => state.modify id (Job.work state.now)
  | .progress id rows => state.modify id (Job.progress rows)
  | .returns id result => state.modify id (Job.returns result)
  | .raises id raised => state.modify id (Job.raises raised)
  | .raisesCancelled id => state.modify id Job.raisesCancelled
  | .callback id => state.callback cfg id
  | .idle id => state.idle id
  | .close wait => state.close wait
  | .closer => state.closerStep

/-- A manager just created. -/
structure Initial (cfg : Config) (state : State Key Result) : Prop where
  heap : ∀ id, state.heap id = none
  jobs : state.jobs = []
  byKey : ∀ key, state.byKey key = none
  slots : state.slots = cfg.maxWorkers + cfg.maxQueue
  queue : state.queue = []
  busy : state.busy = 0
  closer : state.closer = .open

def system (cfg : Config) : StepSystem (State Key Result) (Label Key Result) where
  init := Initial cfg
  step := step cfg

end Catwalk.Jobs
