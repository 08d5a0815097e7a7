import Catwalk.Data.Updates
import Mathlib.Order.Basic

/-! An executor of a fixed number of workers: the futures in the order of their
submission, each of which waits, runs to a result or is cancelled. -/

universe u v

inductive Future.Stage (Result : Type v)
  | waiting
  | executing
  | done (result : Result)
  | cancelled
  deriving DecidableEq

structure Future (Task : Type u) (Result : Type v) where
  task : Task
  stage : Future.Stage Result
  deriving DecidableEq

structure FuturePool (Task : Type u) (Result : Type v) where
  shut : Bool
  futures : List (Future Task Result)
  deriving DecidableEq

namespace Future

variable {Task : Type u} {Result : Type v}

def isWaiting (future : Future Task Result) : Bool :=
  match future.stage with
  | .waiting => true
  | _ => false

def isExecuting (future : Future Task Result) : Bool :=
  match future.stage with
  | .executing => true
  | _ => false

def isLive (future : Future Task Result) : Bool :=
  future.isWaiting || future.isExecuting

def cancel (future : Future Task Result) : Future Task Result :=
  if future.isWaiting then { future with stage := .cancelled } else future

/-- The same call, with whatever result it had. -/
structure Extends (before after : Future Task Result) : Prop where
  task : after.task = before.task
  done : ∀ result, before.stage = .done result → after.stage = .done result

theorem Extends.refl (future : Future Task Result) : future.Extends future :=
  ⟨rfl, fun _ done => done⟩

theorem Extends.trans {before middle after : Future Task Result}
    (first : before.Extends middle) (second : middle.Extends after) :
    before.Extends after :=
  ⟨second.task.trans first.task,
    fun result done => second.done result (first.done result done)⟩

theorem isWaiting_iff {future : Future Task Result} :
    future.isWaiting = true ↔ future.stage = .waiting := by
  unfold isWaiting
  cases future.stage <;> simp

theorem isExecuting_iff {future : Future Task Result} :
    future.isExecuting = true ↔ future.stage = .executing := by
  unfold isExecuting
  cases future.stage <;> simp

@[simp] theorem cancel_isWaiting (future : Future Task Result) :
    future.cancel.isWaiting = false := by
  unfold cancel
  split
  next => rfl
  next idle => simpa using idle

@[simp] theorem cancel_isExecuting (future : Future Task Result) :
    future.cancel.isExecuting = future.isExecuting := by
  unfold cancel
  split
  next waits =>
      have stage := isWaiting_iff.mp waits
      simp [isExecuting, stage]
  next => rfl

theorem isLive_count (future : Future Task Result) :
    ((if future.isWaiting then 1 else 0) + if future.isExecuting then 1 else 0) =
      if future.isLive then 1 else 0 := by
  unfold isLive isWaiting isExecuting
  cases future.stage <;> rfl

theorem cancel_extends (future : Future Task Result) :
    future.Extends future.cancel := by
  unfold cancel
  split
  next waits =>
      have stage := isWaiting_iff.mp waits
      exact ⟨rfl, fun result done => by simp [stage] at done⟩
  next => exact .refl future

end Future

namespace FuturePool

variable {Task : Type u} {Result : Type v}
  {pool middle after : FuturePool Task Result}

def fresh : FuturePool Task Result where
  shut := false
  futures := []

def waiting (pool : FuturePool Task Result) : Nat :=
  pool.futures.countP Future.isWaiting

def executing (pool : FuturePool Task Result) : Nat :=
  pool.futures.countP Future.isExecuting

/-- The worker steps that are still to come. -/
def owed (pool : FuturePool Task Result) : Nat :=
  2 * pool.waiting + pool.executing

def put (pool : FuturePool Task Result) (index : Nat)
    (future : Future Task Result) : FuturePool Task Result :=
  { pool with futures := pool.futures.set index future }

/-- Refused by an executor that was shut down. -/
def submit (pool : FuturePool Task Result) (task : Task) :
    Option (FuturePool Task Result) :=
  if pool.shut then none
  else some { pool with futures := pool.futures ++ [⟨task, .waiting⟩] }

/-- A free worker takes the oldest future that waits. -/
def take (workers : Nat) (pool : FuturePool Task Result) :
    Option (FuturePool Task Result) :=
  if pool.executing < workers then
    (pool.futures.findIdx? Future.isWaiting).bind fun index =>
      pool.futures[index]?.map fun future =>
        pool.put index { future with stage := .executing }
  else none

def finish (pool : FuturePool Task Result) (index : Nat) (result : Result) :
    Option (FuturePool Task Result) :=
  pool.futures[index]?.bind fun future =>
    if future.isExecuting then
      some (pool.put index { future with stage := .done result })
    else none

/-- `future.cancel()` -/
def cancel (pool : FuturePool Task Result) (index : Nat) :
    FuturePool Task Result :=
  match pool.futures[index]? with
  | some future => pool.put index future.cancel
  | none => pool

def cancelEach (pool : FuturePool Task Result) (indices : List Nat) :
    FuturePool Task Result :=
  indices.foldl cancel pool

/-- `shutdown(cancel_futures=…)`, without the wait for the workers -/
def shutdown (pool : FuturePool Task Result) (cancelFutures : Bool) :
    FuturePool Task Result where
  shut := true
  futures :=
    if cancelFutures then pool.futures.map Future.cancel else pool.futures

/-- No future waits or executes. -/
def Quiet (pool : FuturePool Task Result) : Prop :=
  pool.waiting = 0 ∧ pool.executing = 0

instance (pool : FuturePool Task Result) : Decidable pool.Quiet :=
  inferInstanceAs (Decidable (_ ∧ _))

/-- The futures so far are still there, with their calls and results. -/
structure Extends (before after : FuturePool Task Result) : Prop where
  shut : before.shut = true → after.shut = true
  futures : ∀ (index : Nat) (future : Future Task Result),
    before.futures[index]? = some future →
      ∃ later, after.futures[index]? = some later ∧ future.Extends later

theorem Extends.refl (pool : FuturePool Task Result) : pool.Extends pool :=
  ⟨id, fun _ future found => ⟨future, found, .refl future⟩⟩

theorem Extends.trans (first : pool.Extends middle)
    (second : middle.Extends after) : pool.Extends after where
  shut := second.shut ∘ first.shut
  futures := by
    intro index future found
    obtain ⟨later, found, extends₁⟩ := first.futures index future found
    obtain ⟨last, found, extends₂⟩ := second.futures index later found
    exact ⟨last, found, extends₁.trans extends₂⟩

theorem Extends.length_le (extended : pool.Extends after) :
    pool.futures.length ≤ after.futures.length := by
  apply Nat.le_of_not_lt
  intro shorter
  have found := List.getElem?_eq_getElem shorter
  obtain ⟨later, missing, _⟩ := extended.futures _ _ found
  rw [List.getElem?_eq_none (Nat.le_refl _)] at missing
  cases missing

@[simp] theorem fresh_waiting : (fresh : FuturePool Task Result).waiting = 0 := rfl

@[simp] theorem fresh_executing :
    (fresh : FuturePool Task Result).executing = 0 := rfl

theorem waiting_add_executing :
    pool.waiting + pool.executing = pool.futures.countP Future.isLive := by
  unfold waiting executing
  induction pool.futures with
  | nil => rfl
  | cons future rest ih =>
      rw [List.countP_cons, List.countP_cons, List.countP_cons, ← ih,
        ← future.isLive_count]
      omega

/-- No more futures wait or execute than a cover of them has numbers. -/
theorem live_le_cover (cover : List Nat)
    (covered : ∀ (index : Nat) (future : Future Task Result),
      pool.futures[index]? = some future → future.isLive = true →
        index ∈ cover) :
    pool.waiting + pool.executing ≤ cover.length :=
  waiting_add_executing.trans_le
    (Updates.countP_le_cover Future.isLive cover covered)

section Put

variable {index : Nat} {future : Future Task Result}

theorem put_extends {other : Future Task Result} (found : pool.futures[index]? = some future)
    (extended : future.Extends other) : pool.Extends (pool.put index other) := by
  refine ⟨id, fun place before at_place => ?_⟩
  unfold put
  rw [List.getElem?_set]
  split
  next same =>
      subst same
      have inside := (List.getElem?_eq_some_iff.mp found).1
      have isFuture := Option.some.inj (at_place.symm.trans found)
      rw [if_pos inside]
      exact ⟨other, rfl, isFuture ▸ extended⟩
  next => exact ⟨before, at_place, .refl before⟩

theorem countP_put (found : pool.futures[index]? = some future)
    (kind : Future Task Result → Bool) (other : Future Task Result) :
    (pool.put index other).futures.countP kind +
        (if kind future then 1 else 0) =
      pool.futures.countP kind + if kind other then 1 else 0 :=
  Updates.countP_set_add kind found other

end Put

theorem submit_eq_some {task : Task} (submitted : pool.submit task = some after) :
    pool.shut = false ∧
      after = { pool with futures := pool.futures ++ [⟨task, .waiting⟩] } := by
  unfold submit at submitted
  split at submitted
  next => cases submitted
  next still => exact ⟨by simpa using still, (Option.some.inj submitted).symm⟩

theorem submit_eq_none (task : Task) :
    pool.submit task = none ↔ pool.shut = true := by
  unfold submit
  split
  next shut => simp [shut]
  next still => simpa using still

theorem submit_extends {task : Task} (submitted : pool.submit task = some after) :
    pool.Extends after := by
  obtain ⟨_, rfl⟩ := submit_eq_some submitted
  refine ⟨id, fun index future found => ⟨future, ?_, .refl future⟩⟩
  have inside := (List.getElem?_eq_some_iff.mp found).1
  rw [List.getElem?_append_left inside, found]

theorem submit_counts {task : Task} (submitted : pool.submit task = some after) :
    after.waiting = pool.waiting + 1 ∧ after.executing = pool.executing := by
  obtain ⟨_, rfl⟩ := submit_eq_some submitted
  unfold waiting executing
  rw [List.countP_append, List.countP_append]
  exact ⟨rfl, rfl⟩

theorem take_eq_some {workers : Nat} (taken : pool.take workers = some after) :
    pool.executing < workers ∧ ∃ index future,
      pool.futures[index]? = some future ∧ future.stage = .waiting ∧
      after = pool.put index { future with stage := .executing } := by
  unfold take at taken
  split at taken
  next free =>
      obtain ⟨index, first, taken⟩ := Option.bind_eq_some_iff.mp taken
      obtain ⟨future, found, rfl⟩ := Option.map_eq_some_iff.mp taken
      obtain ⟨inside, waits, _⟩ := List.findIdx?_eq_some_iff_getElem.mp first
      have isFuture := (List.getElem?_eq_some_iff.mp found).2
      rw [isFuture] at waits
      exact ⟨free, index, future, found, Future.isWaiting_iff.mp waits, rfl⟩
  next => cases taken

theorem take_isSome {workers : Nat} (free : pool.executing < workers)
    (some_waiting : 0 < pool.waiting) : (pool.take workers).isSome := by
  obtain ⟨future, member, waits⟩ := List.countP_pos_iff.mp some_waiting
  have found : (pool.futures.findIdx? Future.isWaiting).isSome := by
    rw [List.findIdx?_isSome]
    exact List.any_eq_true.mpr ⟨future, member, waits⟩
  obtain ⟨index, first⟩ := Option.isSome_iff_exists.mp found
  obtain ⟨inside, _⟩ := List.findIdx?_eq_some_iff_getElem.mp first
  unfold take
  rw [if_pos free, first, Option.bind_some, Option.isSome_map,
    List.getElem?_eq_getElem inside]
  rfl

theorem take_counts {workers : Nat} (taken : pool.take workers = some after) :
    after.waiting + 1 = pool.waiting ∧ after.executing = pool.executing + 1 := by
  obtain ⟨_, index, future, found, waits, rfl⟩ := take_eq_some taken
  have fewer := countP_put found Future.isWaiting
    { future with stage := .executing }
  have more := countP_put found Future.isExecuting
    { future with stage := .executing }
  simp only [Future.isWaiting, Future.isExecuting, waits] at fewer more
  exact ⟨fewer, more⟩

theorem take_extends {workers : Nat} (taken : pool.take workers = some after) :
    pool.Extends after := by
  obtain ⟨_, index, future, found, waits, rfl⟩ := take_eq_some taken
  exact put_extends found ⟨rfl, fun result done => by simp [waits] at done⟩

theorem finish_eq_some {index : Nat} {result : Result}
    (finished : pool.finish index result = some after) :
    ∃ future, pool.futures[index]? = some future ∧
      future.stage = .executing ∧
      after = pool.put index { future with stage := .done result } := by
  unfold finish at finished
  obtain ⟨future, found, finished⟩ := Option.bind_eq_some_iff.mp finished
  split at finished
  next executes =>
      exact ⟨future, found, Future.isExecuting_iff.mp executes,
        (Option.some.inj finished).symm⟩
  next => cases finished

theorem finish_isSome (some_executing : 0 < pool.executing) (result : Result) :
    ∃ index, (pool.finish index result).isSome := by
  obtain ⟨future, member, executes⟩ := List.countP_pos_iff.mp some_executing
  obtain ⟨index, found⟩ := List.mem_iff_getElem?.mp member
  refine ⟨index, ?_⟩
  unfold finish
  rw [found, Option.bind_some, if_pos executes]
  rfl

theorem finish_counts {index : Nat} {result : Result}
    (finished : pool.finish index result = some after) :
    after.waiting = pool.waiting ∧ after.executing + 1 = pool.executing := by
  obtain ⟨future, found, executes, rfl⟩ := finish_eq_some finished
  have same := countP_put found Future.isWaiting
    { future with stage := .done result }
  have fewer := countP_put found Future.isExecuting
    { future with stage := .done result }
  simp only [Future.isWaiting, Future.isExecuting, executes] at same fewer
  exact ⟨same, fewer⟩

theorem finish_extends {index : Nat} {result : Result}
    (finished : pool.finish index result = some after) :
    pool.Extends after := by
  obtain ⟨future, found, executes, rfl⟩ := finish_eq_some finished
  exact put_extends found ⟨rfl, fun other done => by simp [executes] at done⟩

theorem cancel_extends (index : Nat) : pool.Extends (pool.cancel index) := by
  unfold cancel
  split
  next future found => exact put_extends found future.cancel_extends
  next => exact .refl pool

theorem cancel_counts (index : Nat) :
    (pool.cancel index).waiting ≤ pool.waiting ∧
      (pool.cancel index).executing = pool.executing := by
  unfold cancel
  split
  next future found =>
      have fewer := countP_put found Future.isWaiting future.cancel
      have same := countP_put found Future.isExecuting future.cancel
      rw [Future.cancel_isWaiting, if_neg Bool.false_ne_true] at fewer
      rw [Future.cancel_isExecuting] at same
      exact ⟨Nat.le.intro fewer, Nat.add_right_cancel same⟩
  next => exact ⟨Nat.le_refl _, rfl⟩

theorem cancelEach_extends (indices : List Nat) :
    pool.Extends (pool.cancelEach indices) := by
  induction indices generalizing pool with
  | nil => exact .refl pool
  | cons index rest ih => exact (cancel_extends index).trans ih

theorem cancelEach_counts (indices : List Nat) :
    (pool.cancelEach indices).waiting ≤ pool.waiting ∧
      (pool.cancelEach indices).executing = pool.executing := by
  induction indices generalizing pool with
  | nil => exact ⟨Nat.le_refl _, rfl⟩
  | cons index rest ih =>
      have first := pool.cancel_counts index
      have later := @ih (pool.cancel index)
      exact ⟨Nat.le_trans later.1 first.1, later.2.trans first.2⟩

theorem shutdown_extends (cancelFutures : Bool) :
    pool.Extends (pool.shutdown cancelFutures) := by
  refine ⟨fun _ => rfl, fun index future found => ?_⟩
  cases cancelFutures with
  | false => exact ⟨future, found, .refl future⟩
  | true =>
      refine ⟨future.cancel, ?_, future.cancel_extends⟩
      simp [shutdown, found]

theorem shutdown_counts :
    (pool.shutdown true).waiting = 0 ∧
      (pool.shutdown true).executing = pool.executing := by
  unfold waiting executing shutdown
  simp only [if_true, List.countP_map]
  constructor
  · exact List.countP_eq_zero.mpr fun future _ => by simp
  · exact List.countP_congr fun future _ => by simp

end FuturePool
