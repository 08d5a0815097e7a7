import Catwalk.Rollup.Pipeline
import Catwalk.Theory.FuturePool
import Catwalk.Theory.StepSystem

/-! `VastBackend.rollup_groups` as it runs: the thread that reads and merges, and
the workers of its pool, in any order of their steps. -/

namespace Catwalk

namespace Pipeline

abbrev Partial := Except RollupError (Nat × Groups)

abbrev Aggregators := FuturePool BatchFuture Partial

/-- What `rollup_groups` returns or raises; `raised` is an exception of the
reader, of its transaction or of `rows_cb`. -/
inductive Outcome
  | computed (result : Except RollupError (Groups × Nat × List Nat))
  | raised

/-- Where the calling thread is; `ended` says that the reader has no more. -/
inductive Place
  | opening
  | reading
  | reporting
  | waiting (ended : Bool)
  | collecting (done : List Nat) (ended : Bool)
  | exiting (outcome : Outcome)
  | cancelling (rest : List Nat) (outcome : Outcome)
  | shutting (outcome : Outcome)
  | draining (outcome : Outcome)
  | returned (outcome : Outcome)

/-- The locals of `rollup_groups` and its pool; futures go by their numbers. -/
structure Overlap where
  place : Place
  pool : Aggregators
  pending : List Nat
  groups : Groups
  total : Nat
  fed : Nat
  reported : List Nat
  unread : List (List FileRow × Nat)

/-- `fail` is an exception from outside, `wait` an answer of `wait(pending, …)`. -/
inductive Label
  | proceed
  | fail
  | wait (done rest : List Nat)
  | cancel (index : Nat)
  | take
  | finish (index : Nat)

namespace Overlap

def initial (reader : List (List FileRow)) : Overlap where
  place := .opening
  pool := .fresh
  pending := []
  groups := .empty
  total := 0
  fed := 0
  reported := []
  unread := reader.zipIdx

/-- The body of the `with` is left, by its end or by an exception. -/
def leave (state : Overlap) (outcome : Outcome) : Overlap :=
  { state with place := .exiting outcome }

def isDone (state : Overlap) (index : Nat) : Bool :=
  match state.pool.futures[index]? with
  | some ⟨_, .done _⟩ => true
  | _ => false

def enqueue (state : Overlap) (pool : Aggregators) (batch : List FileRow) : Overlap :=
  { state with
    place := .reporting
    pool := pool
    pending := state.pending ++ [state.pool.futures.length]
    fed := state.fed + batch.length }

/-- `pending.add(pool.submit(aggregate_batch, batch))` -/
def submit (state : Overlap) (batch : List FileRow) (call : Nat) : Overlap :=
  match state.pool.submit ⟨call, batch⟩ with
  | some pool => state.enqueue pool batch
  | none => state.leave .raised

/-- One future of `collect`. -/
def collect (query : RollupQuery) (state : Overlap) (rest : List Nat)
    (ended : Bool) : Partial → Overlap
  | .error error => state.leave (.computed (.error error))
  | .ok (rows, partialGroups) =>
      match mergeGroups state.groups partialGroups query.maxGroups with
      | .error error => state.leave (.computed (.error error))
      | .ok groups =>
          { state with
            place := .collecting rest ended
            groups := groups
            total := state.total + rows }

/-- The next step of the calling thread. -/
def advance (query : RollupQuery) (state : Overlap) : Place → Option Overlap
  | .opening =>
      if query.threads = 0 then
        some { state with
          place := .returned (.computed
            (.error (.valueError "max_workers must be greater than 0"))) }
      else some { state with place := .reading }
  | .reading =>
      match state.unread with
      | [] => some { state with place := .waiting true }
      | (batch, call) :: rest =>
          if batch = [] then some { state with unread := rest }
          else some ({ state with unread := rest }.submit batch call)
  | .reporting =>
      some { state with
        reported := state.reported ++ [state.fed]
        place :=
          if query.threads * 2 ≤ state.pending.length then .waiting false
          else .reading }
  | .waiting false => none
  | .waiting true =>
      if state.pending = [] then
        some (state.leave
          (.computed (.ok (state.groups, state.total, state.reported))))
      else none
  | .collecting [] ended =>
      some { state with place := if ended then .waiting true else .reading }
  | .collecting (index :: rest) ended =>
      state.pool.futures[index]?.bind fun future =>
        match future.stage with
        | .done result => some (state.collect query rest ended result)
        | _ => none
  | .exiting outcome =>
      some { state with place := .cancelling state.pending outcome }
  | .cancelling [] outcome => some { state with place := .shutting outcome }
  | .cancelling (_ :: _) _ => none
  | .shutting outcome =>
      some { state with
        place := .draining outcome
        pool := state.pool.shutdown true }
  | .draining outcome =>
      if state.pool.Quiet then some { state with place := .returned outcome }
      else none
  | .returned _ => none

/-- Where an exception from outside can come up. -/
def failing (state : Overlap) : Place → Option Overlap
  | .reading | .reporting => some (state.leave .raised)
  | .exiting _ =>
      some { state with place := .cancelling state.pending .raised }
  | _ => none

/-- `done, pending = wait(pending, return_when=FIRST_COMPLETED)` -/
def awaken (state : Overlap) (done rest : List Nat) : Place → Option Overlap
  | .waiting ended =>
      if (done ++ rest).Perm state.pending ∧ done ≠ [] ∧
          ∀ index ∈ done, state.isDone index = true then
        some { state with place := .collecting done ended, pending := rest }
      else none
  | _ => none

def cancelOne (state : Overlap) (index : Nat) : Place → Option Overlap
  | .cancelling rest outcome =>
      if index ∈ rest then
        some { state with
          place := .cancelling (rest.erase index) outcome
          pool := state.pool.cancel index }
      else none
  | _ => none

def step (arrow : Arrow) (query : RollupQuery) (state : Overlap) :
    Label → Option Overlap
  | .proceed => state.advance query state.place
  | .fail => state.failing state.place
  | .wait done rest => state.awaken done rest state.place
  | .cancel index => state.cancelOne index state.place
  | .take =>
      (state.pool.take query.threads).map fun pool => { state with pool := pool }
  | .finish index =>
      state.pool.futures[index]?.bind fun future =>
        (state.pool.finish index (batchResult arrow query future.task)).map
          fun pool => { state with pool := pool }

end Overlap

def overlap (arrow : Arrow) (query : RollupQuery)
    (reader : List (List FileRow)) : StepSystem Overlap Label where
  init state := state = .initial reader
  step := Overlap.step arrow query

end Pipeline

end Catwalk
