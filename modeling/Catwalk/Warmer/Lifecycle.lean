import Catwalk.Theory.FuturePool
import Catwalk.Theory.StepSystem
import Catwalk.Warmer.Pass

/-! `CacheWarmer.start`, `stop` and `_loop`: the scheduler thread of each start,
its executor, and the thread that starts and stops the warmer. -/

namespace Catwalk

structure WarmerConfig extends WarmConfig where
  warmThreads : Nat

namespace WarmerConfig

def threads (cfg : WarmerConfig) : Nat := max 1 cfg.warmThreads

def enabled (cfg : WarmerConfig) : Bool := !cfg.paths.isEmpty

end WarmerConfig

namespace CacheWarmer

/-- The locals of `run_pass` at a level; `batches` went to the pool already. -/
structure Walk where
  pool : Nat
  own : Bool
  level : Nat
  seen : Finset Text
  frontier : List Text
  visited : Nat
  batches : List (List Text)
  deriving DecidableEq

/-- Where a scheduler thread is; `submitting` and `collecting` are the two halves
of `list(pool.map(…))`. -/
inductive Place
  | checking
  | entering
  | level (walk : Walk)
  | submitting (walk : Walk) (batch rest : List Text) (futures : List Nat)
  | collecting (walk : Walk) (batch : List Text) (futures : List Nat)
      (childrenPerDir : List (List Text))
  | closing (walk : Walk) (completed : Bool)
  | waiting
  | ended
  deriving DecidableEq

/-- Where the thread that calls `start` and `stop` is; `joining` is the join with
a timeout and `rejoining` the one without. -/
inductive Caller
  | idle
  | clearing
  | building
  | spawning
  | joining (thread : Option Nat)
  | shutting (thread : Option Nat)
  | draining (thread : Option Nat) (pool : Nat)
  | rejoining (thread : Option Nat)
  | releasing
  deriving DecidableEq

abbrev Executor := FuturePool Text (List Text)

/-- The fields of the warmer, its threads and its executors. -/
structure State where
  isSet : Bool
  thread : Option Nat
  pool : Option Nat
  caller : Caller
  loops : List Place
  pools : List Executor
  lastPass : Option Pass
  deriving DecidableEq

/-- `timeout` ends the first join and `wake` the wait between two passes; a worker
takes a path or gets the names that `_warm_one` returns for it. -/
inductive Label
  | start
  | stop
  | proceed
  | timeout
  | loop (id : Nat)
  | wake (id : Nat)
  | take (pool : Nat)
  | finish (pool index : Nat) (names : List Text)
  deriving DecidableEq

namespace State

def initial : State where
  isSet := false
  thread := none
  pool := none
  caller := .idle
  loops := []
  pools := []
  lastPass := none

def goto (state : State) (id : Nat) (place : Place) : State :=
  { state with loops := state.loops.set id place }

def setPool (state : State) (index : Nat) (pool : Executor) : State :=
  { state with pools := state.pools.set index pool }

/-- The thread is not there or returned from `_loop`. -/
def joined (state : State) : Option Nat → Bool
  | none => true
  | some id => state.loops[id]? = some .ended

/-- The end of `run_pass`, after which `_loop` waits. -/
def settle (state : State) (id : Nat) (walk : Walk) (completed : Bool) : State :=
  let state := state.goto id .waiting
  if completed then
    { state with lastPass := some ⟨walk.visited, walk.batches⟩ }
  else state

/-- `finally: if own_pool: pool.shutdown(wait=True)` -/
def leave (state : State) (id : Nat) (walk : Walk) (completed : Bool) :
    Option State :=
  if walk.own then
    state.pools[walk.pool]?.map fun pool =>
      (state.setPool walk.pool (pool.shutdown false)).goto id
        (.closing walk completed)
  else some (state.settle id walk completed)

end State

/-- The locals of `run_pass` before its first level. -/
def firstWalk (cfg : WarmConfig) (pool : Nat) (own : Bool) : Walk :=
  let frontier := (BreadthFirst.discover ∅ [] cfg.paths).2
  ⟨pool, own, 0, frontier.toFinset, frontier, 0, []⟩

/-- The locals of `run_pass` after a level. -/
def Walk.next (walk : Walk) (batch : List Text)
    (childrenPerDir : List (List Text)) : Walk :=
  let (seen, frontier) :=
    BreadthFirst.discover walk.seen [] (children batch childrenPerDir)
  { walk with
    level := walk.level + 1
    seen := seen
    frontier := frontier
    visited := walk.visited + batch.length
    batches := walk.batches ++ [batch] }

/-- The next step of `_loop` and the `run_pass` in it. -/
def loopStep (cfg : WarmerConfig) (state : State) (id : Nat) :
    Place → Option State
  | .checking => some (state.goto id (if state.isSet then .ended else .entering))
  | .entering =>
      match state.pool with
      | some pool =>
          some (state.goto id (.level (firstWalk cfg.toWarmConfig pool false)))
      | none =>
          let walk := firstWalk cfg.toWarmConfig state.pools.length true
          some ({ state with pools := state.pools ++ [FuturePool.fresh] }.goto id
            (.level walk))
  | .level walk =>
      let batch := walk.frontier.take (cfg.warmMaxDirs - walk.visited)
      if walk.level = cfg.warmDepth + 1 ∨ walk.frontier = [] ∨ state.isSet then
        state.leave id walk true
      else if batch = [] then state.leave id walk true
      else some (state.goto id (.submitting walk batch batch []))
  | .submitting walk batch [] futures =>
      some (state.goto id (.collecting walk batch futures []))
  | .submitting walk batch (path :: rest) futures =>
      state.pools[walk.pool]?.bind fun pool =>
        match pool.submit path with
        | some after =>
            some ((state.setPool walk.pool after).goto id
              (.submitting walk batch rest (futures ++ [pool.futures.length])))
        | none => state.leave id walk false
  | .collecting walk batch [] childrenPerDir =>
      some (state.goto id (.level (walk.next batch childrenPerDir)))
  | .collecting walk batch (index :: rest) childrenPerDir =>
      state.pools[walk.pool]?.bind fun pool =>
        pool.futures[index]?.bind fun future =>
          match future.stage with
          | .done names =>
              some (state.goto id
                (.collecting walk batch rest (childrenPerDir ++ [names])))
          | .cancelled =>
              (state.setPool walk.pool (pool.cancelEach rest)).leave id walk false
          | .waiting | .executing => none
  | .closing walk completed =>
      state.pools[walk.pool]?.bind fun pool =>
        if pool.Quiet then some (state.settle id walk completed) else none
  | .waiting => if state.isSet then some (state.goto id .checking) else none
  | .ended => none

/-- The next step of `start` or `stop`. -/
def callerStep (state : State) : Caller → Option State
  | .idle => none
  | .clearing => some { state with isSet := false, caller := .building }
  | .building =>
      some { state with
        pools := state.pools ++ [FuturePool.fresh]
        pool := some state.pools.length
        caller := .spawning }
  | .spawning =>
      some { state with
        loops := state.loops ++ [.checking]
        thread := some state.loops.length
        caller := .idle }
  | .joining thread =>
      if state.joined thread then some { state with caller := .shutting thread }
      else none
  | .shutting thread =>
      match state.pool with
      | none => some { state with caller := .rejoining thread }
      | some index =>
          state.pools[index]?.map fun pool =>
            { state.setPool index (pool.shutdown true) with
              caller := .draining thread index }
  | .draining thread index =>
      state.pools[index]?.bind fun pool =>
        if pool.Quiet then some { state with caller := .rejoining thread }
        else none
  | .rejoining thread =>
      if state.joined thread then some { state with caller := .releasing }
      else none
  | .releasing =>
      some { state with thread := none, pool := none, caller := .idle }

def lifecycleStep (cfg : WarmerConfig) (state : State) : Label → Option State
  | .start =>
      if state.caller = .idle then
        if cfg.enabled ∧ state.thread = none then
          some { state with caller := .clearing }
        else some state
      else none
  | .stop =>
      if state.caller = .idle then
        some { state with isSet := true, caller := .joining state.thread }
      else none
  | .proceed => callerStep state state.caller
  | .timeout =>
      match state.caller with
      | .joining thread => some { state with caller := .shutting thread }
      | _ => none
  | .loop id => state.loops[id]?.bind (loopStep cfg state id)
  | .wake id =>
      if state.loops[id]? = some .waiting then some (state.goto id .checking)
      else none
  | .take index =>
      state.pools[index]?.bind fun pool =>
        (pool.take cfg.threads).map (state.setPool index)
  | .finish index future names =>
      state.pools[index]?.bind fun pool =>
        (pool.finish future names).map (state.setPool index)

/-- All `start` and `stop` calls are made by one thread, one after the other. -/
def lifecycle (cfg : WarmerConfig) : StepSystem State Label where
  init state := state = .initial
  step := lifecycleStep cfg

end CacheWarmer

end Catwalk
