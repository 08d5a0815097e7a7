import Catwalk.Service.Steps
import Catwalk.Theory.WorkPool

/-! The prefetch pool: its workers, its queue, and the futures that requests
look up and join. -/

namespace Catwalk.Service

/-- A prefetch that its worker has not begun, or never will. -/
def Place.pooled : Place → Bool
  | .queued | .cancelled => true
  | _ => false

/-- Where a prefetch stands while a worker serves it. -/
def Place.serving : Place → Bool
  | .keying | .caching _ | .query (some _) _ => true
  | _ => false

def Place.stage : Place → WorkPool.Stage
  | .queued => .waiting
  | .cancelled => .cancelled
  | .ended => .ended
  | _ => .executing

/-- The prefetch whose future is `id`. -/
def State.prefetch (state : State) (id : Nat) : Option Task :=
  (state.task id).filter fun task => task.kind = .prefetch

/-- The queue and the workers of the prefetch pool. -/
def State.workers (state : State) : WorkPool Nat where
  known := (Finset.range state.tasks.length).filter fun id =>
    (state.prefetch id).isSome
  queue := state.pool
  busy := state.busy
  stage := fun id =>
    (state.prefetch id).elim .ended fun task => task.place.stage

/-- Requests look up and join prefetches, and join only what is past its
queue. -/
def Place.Known (state : State) : Place → Prop
  | .cancel future => ∃ other, state.prefetch future = some other
  | .join future => ∃ other, state.prefetch future = some other ∧
      other.place ≠ .queued
  | _ => True

/-- Only prefetches are queued, and they never ask for other prefetches. -/
structure Task.Fits (state : State) (task : Task) : Prop where
  prefetch : task.kind = .prefetch →
    task.place.pooled = true ∨ task.place.serving = true ∨ task.place = .ended
  pooled : task.place.pooled = true → task.kind = .prefetch
  known : task.place.Known state

/-- The pool, its futures and all who wait for them. -/
structure Staffed (state : State) : Prop where
  workers : state.workers.Sound
  named : ∀ path id, state.prefetches path = some id →
    ∃ task, state.prefetch id = some task
  fits : ∀ id task, state.task id = some task → task.Fits state

/-- Prefetches go on, and none is queued again. -/
def Persists (state after : State) : Prop :=
  ∀ id task, state.prefetch id = some task →
    ∃ new, after.prefetch id = some new ∧
      (new.place = .queued → task.place = .queued)

variable {setting : Setting} {state after : State} {id : Nat}
  {task new : Task}

theorem State.prefetch_eq_some :
    state.prefetch id = some task ↔
      state.task id = some task ∧ task.kind = .prefetch := by
  simp [State.prefetch, Option.filter_eq_some_iff]

theorem State.prefetch_of_kind (found : state.task id = some task)
    (kind : task.kind = .prefetch) : state.prefetch id = some task :=
  State.prefetch_eq_some.mpr ⟨found, kind⟩

theorem State.prefetch_of_other (found : state.task id = some task)
    (kind : task.kind ≠ .prefetch) : state.prefetch id = none := by
  simp [State.prefetch, found, kind]

theorem State.mem_known :
    id ∈ state.workers.known ↔ ∃ task, state.prefetch id = some task := by
  rw [State.workers, Finset.mem_filter, Option.isSome_iff_exists,
    Finset.mem_range]
  constructor
  · exact And.right
  · intro known
    refine ⟨?_, known⟩
    obtain ⟨task, known⟩ := known
    have found := (State.prefetch_eq_some.mp known).1
    exact (List.getElem?_eq_some_iff.mp (State.task_eq_some.mp found)).1

theorem State.stage_of_found (found : state.prefetch id = some task) :
    state.workers.stage id = task.place.stage := by
  simp only [State.workers, found, Option.elim_some]

theorem State.workers_congr
    (prefetch : ∀ other, after.prefetch other = state.prefetch other)
    (pool : after.pool = state.pool) (busy : after.busy = state.busy) :
    after.workers = state.workers := by
  have known : after.workers.known = state.workers.known := by
    ext other
    rw [State.mem_known, State.mem_known, prefetch]
  have stage : after.workers.stage = state.workers.stage := by
    funext other
    simp only [State.workers, prefetch]
  rw [WorkPool.mk.injEq]
  exact ⟨known, pool, busy, stage⟩

theorem State.workers_move (found : state.prefetch id = some task)
    (prefetch : ∀ other, after.prefetch other =
      if other = id then some new else state.prefetch other) :
    after.workers = { state.workers.move id new.place.stage with
      queue := after.pool
      busy := after.busy } := by
  have known : after.workers.known = state.workers.known := by
    ext other
    rw [State.mem_known, State.mem_known, prefetch]
    split
    next same => simp [same, found]
    next => rfl
  have stage : after.workers.stage =
      Function.update state.workers.stage id new.place.stage := by
    funext other
    rw [Function.update_apply]
    simp only [State.workers, prefetch]
    split <;> rfl
  rw [WorkPool.mk.injEq]
  exact ⟨known, rfl, rfl, stage⟩

theorem Place.Known.mono {place : Place} (known : place.Known state)
    (persists : Persists state after) : place.Known after := by
  cases place with
  | cancel future =>
      obtain ⟨other, found⟩ := known
      obtain ⟨new, kept, _⟩ := persists future other found
      exact ⟨new, kept⟩
  | join future =>
      obtain ⟨other, found, begun⟩ := known
      obtain ⟨new, kept, requeued⟩ := persists future other found
      exact ⟨new, kept, fun queued => begun (requeued queued)⟩
  | _ => trivial

theorem Task.Fits.mono (fits : task.Fits state)
    (persists : Persists state after) : task.Fits after :=
  ⟨fits.prefetch, fits.pooled, fits.known.mono persists⟩

theorem Staffed.congr (staffed : Staffed state)
    (tasks : ∀ other, after.task other = state.task other)
    (pool : after.pool = state.pool) (busy : after.busy = state.busy)
    (prefetches : ∀ path future, after.prefetches path = some future →
      state.prefetches path = some future) : Staffed after := by
  have prefetch : ∀ other, after.prefetch other = state.prefetch other := by
    intro other
    rw [State.prefetch, tasks]
    rfl
  have persists : Persists state after := by
    intro other task found
    exact ⟨task, (prefetch other).trans found, fun queued => queued⟩
  constructor
  · rw [State.workers_congr prefetch pool busy]
    exact staffed.workers
  · intro path future named
    rw [prefetch]
    exact staffed.named path future (prefetches path future named)
  · intro other task found
    rw [tasks] at found
    exact (staffed.fits other task found).mono persists

/-- The prefetch pool and all tasks are left alone. -/
structure SameTasks (state after : State) : Prop where
  tasks : after.tasks = state.tasks
  pool : after.pool = state.pool
  busy : after.busy = state.busy
  prefetches : after.prefetches = state.prefetches

theorem Staffed.of_same (staffed : Staffed state)
    (same : SameTasks state after) : Staffed after :=
  staffed.congr (State.task_of_tasks same.tasks) same.pool same.busy
    fun _ _ named => same.prefetches ▸ named

theorem SameTasks.takeEpoch {epoch : Option String}
    (taken : state.takeEpoch id = some (epoch, after)) :
    SameTasks state after := by
  unfold State.takeEpoch at taken
  split at taken <;> cases taken
  exact ⟨rfl, rfl, rfl, rfl⟩

theorem SameTasks.acquire
    (acquired : state.acquire setting.cfg id = some after) :
    SameTasks state after := by
  unfold State.acquire at acquired
  split at acquired
  · cases acquired
    exact ⟨rfl, rfl, rfl, rfl⟩
  · split at acquired <;> cases acquired
    exact ⟨rfl, rfl, rfl, rfl⟩

theorem SameTasks.catalog {epoch : Option String} {usable : Bool}
    {source : Source}
    (chosen : state.catalog setting epoch usable = some (source, after)) :
    SameTasks state after := by
  unfold State.catalog at chosen
  split at chosen
  · cases chosen
    exact ⟨rfl, rfl, rfl, rfl⟩
  · split at chosen
    · cases chosen
      exact ⟨rfl, rfl, rfl, rfl⟩
    · obtain ⟨epochs, _, same⟩ := Option.map_eq_some_iff.mp chosen
      cases same
      exact ⟨rfl, rfl, rfl, rfl⟩

/-- A step that moves one task. -/
structure Turned (state after : State) (id : Nat) (task new : Task) : Prop where
  found : state.task id = some task
  kind : new.kind = task.kind
  tasks : after.tasks = state.tasks.set id (.listing new)
  prefetches : ∀ path future, after.prefetches path = some future →
    state.prefetches path = some future

theorem SameTasks.turned {middle : State} (same : SameTasks state middle)
    (found : state.task id = some task) (kind : new.kind = task.kind) :
    Turned state (middle.setTask id new) id task new where
  found := found
  kind := kind
  tasks := congrArg (fun tasks => tasks.set id (.listing new)) same.tasks
  prefetches _ _ named := (congrFun same.prefetches _).symm.trans named

theorem Turned.task_eq (turned : Turned state after id task new) (other : Nat) :
    after.task other = if other = id then some new else state.task other := by
  have activity : after.activity other =
      if other = id then some (.listing new) else state.activity other := by
    have same : after.activity other =
        (state.setActivity id (.listing new)).activity other := by
      rw [State.activity, turned.tasks]
      rfl
    rw [same, State.setActivity_activity (State.task_eq_some.mp turned.found)]
  unfold State.task
  rw [activity]
  by_cases same : other = id
  · rw [if_pos same, if_pos same]
  · rw [if_neg same, if_neg same]

theorem Turned.prefetch (turned : Turned state after id task new)
    (kind : task.kind = .prefetch) (other : Nat) :
    after.prefetch other =
      if other = id then some new else state.prefetch other := by
  rw [State.prefetch, turned.task_eq]
  split
  · simp [turned.kind, kind]
  · rfl

theorem Turned.prefetch_of_other (turned : Turned state after id task new)
    (kind : task.kind ≠ .prefetch) (other : Nat) :
    after.prefetch other = state.prefetch other := by
  rw [State.prefetch, turned.task_eq]
  split
  next same =>
    rw [same, State.prefetch_of_other turned.found kind]
    simp [turned.kind, kind]
  next => rfl

theorem Turned.persists (turned : Turned state after id task new)
    (requeued : new.place = .queued → task.place = .queued) :
    Persists state after := by
  intro other old found
  by_cases kind : task.kind = .prefetch
  · rw [turned.prefetch kind]
    split
    next same =>
      subst same
      cases (State.prefetch_of_kind turned.found kind).symm.trans found
      exact ⟨new, rfl, requeued⟩
    next => exact ⟨old, found, fun queued => queued⟩
  · rw [turned.prefetch_of_other kind]
    exact ⟨old, found, fun queued => queued⟩

theorem Turned.staffed (turned : Turned state after id task new)
    (staffed : Staffed state)
    (requeued : new.place = .queued → task.place = .queued)
    (fits : new.Fits state) (workers : after.workers.Sound) :
    Staffed after := by
  have persists := turned.persists requeued
  refine ⟨workers, ?_, ?_⟩
  · intro path future named
    obtain ⟨other, found⟩ :=
      staffed.named path future (turned.prefetches path future named)
    obtain ⟨kept, found, _⟩ := persists future other found
    exact ⟨kept, found⟩
  · intro other old found
    rw [turned.task_eq] at found
    split at found
    · cases found
      exact fits.mono persists
    · exact (staffed.fits other old found).mono persists

theorem Place.unpooled_of_begun {place : Place}
    (begun : place.stage = .executing) : place.pooled = false := by
  cases place <;> first | rfl | cases begun

theorem Staffed.serving_of_kind (staffed : Staffed state)
    (found : state.task id = some task) (kind : task.kind = .prefetch)
    (begun : task.place.stage = .executing) : task.place.serving = true := by
  rcases (staffed.fits id task found).prefetch kind with
    pooled | serving | ended
  · rw [Place.unpooled_of_begun begun] at pooled
    cases pooled
  · exact serving
  · rw [ended] at begun
    cases begun

theorem Staffed.kind_of_place (staffed : Staffed state)
    (found : state.task id = some task) (begun : task.place.stage = .executing)
    (elsewhere : task.place.serving = false) : task.kind ≠ .prefetch := by
  intro kind
  have serving := staffed.serving_of_kind found kind begun
  rw [elsewhere] at serving
  cases serving

/-- A task, perhaps a prefetch, goes on to a place of prefetches. -/
theorem Staffed.serve {middle : State} (staffed : Staffed state)
    (same : SameTasks state middle) (found : state.task id = some task)
    (kept : new.kind = task.kind) (begun : task.place.stage = .executing)
    (serving : new.place.serving = true) : Staffed (middle.setTask id new) := by
  have turned : Turned state (middle.setTask id new) id task new :=
    same.turned found kept
  have stands : new.place.stage = .executing ∧ new.place.pooled = false ∧
      new.place.Known state := by
    cases place : new.place <;> rw [place] at serving <;>
      first | exact ⟨rfl, rfl, trivial⟩ | cases serving
  obtain ⟨stage, unpooled, known⟩ := stands
  have fits : new.Fits state := by
    refine ⟨fun _ => .inr (.inl serving), fun pooled => ?_, known⟩
    rw [unpooled] at pooled
    cases pooled
  apply turned.staffed staffed ?_ fits
  · by_cases kind : task.kind = .prefetch
    · have before := State.prefetch_of_kind found kind
      have executing : state.workers.stage id = .executing :=
        (State.stage_of_found before).trans begun
      rw [State.workers_move before (turned.prefetch kind), stage, ← executing,
        WorkPool.move, Function.update_eq_self]
      exact same.pool ▸ same.busy ▸ staffed.workers
    · rw [State.workers_congr (turned.prefetch_of_other kind) same.pool
        same.busy]
      exact staffed.workers
  · intro queued
    rw [queued] at serving
    cases serving

theorem Staffed.move {middle : State} (staffed : Staffed state)
    (same : SameTasks state middle) (found : state.task id = some task)
    (kept : new.kind = task.kind) (kind : task.kind ≠ .prefetch)
    (unpooled : new.place.pooled = false) (known : new.place.Known state) :
    Staffed (middle.setTask id new) := by
  have turned : Turned state (middle.setTask id new) id task new :=
    same.turned found kept
  have fits : new.Fits state := by
    refine ⟨fun prefetch => absurd (kept.symm.trans prefetch) kind, ?_, known⟩
    intro pooled
    rw [unpooled] at pooled
    cases pooled
  apply turned.staffed staffed ?_ fits
  · rw [State.workers_congr (turned.prefetch_of_other kind) same.pool same.busy]
    exact staffed.workers
  · intro queued
    rw [queued] at unpooled
    cases unpooled

theorem Staffed.finish (staffed : Staffed state)
    (found : state.task id = some task) (kind : task.kind = .prefetch)
    (begun : task.place.stage = .executing) :
    Staffed { state.moveTo id task .ended with busy := state.busy - 1 } := by
  have turned : Turned state { state.moveTo id task .ended with
      busy := state.busy - 1 } id task { task with place := .ended } :=
    ⟨found, rfl, rfl, fun _ _ named => named⟩
  have before := State.prefetch_of_kind found kind
  apply turned.staffed staffed
  · intro queued
    cases queued
  · exact ⟨fun _ => .inr (.inr rfl), fun _ => kind, trivial⟩
  · rw [State.workers_move before (turned.prefetch kind)]
    exact staffed.workers.complete (State.mem_known.mpr ⟨task, before⟩)
      ((State.stage_of_found before).trans begun)

theorem Staffed.waiting_of_queued (staffed : Staffed state)
    (found : state.task id = some task) (queued : task.place = .queued) :
    task.kind = .prefetch ∧ state.workers.stage id = .waiting := by
  have kind := (staffed.fits id task found).pooled (by rw [queued]; rfl)
  refine ⟨kind, ?_⟩
  rw [State.stage_of_found (State.prefetch_of_kind found kind), queued]
  rfl

theorem Staffed.cancel (staffed : Staffed state)
    (found : state.task id = some task) (queued : task.place = .queued) :
    Staffed (state.moveTo id task .cancelled) := by
  have turned : Turned state (state.moveTo id task .cancelled) id task
      { task with place := .cancelled } :=
    ⟨found, rfl, rfl, fun _ _ named => named⟩
  obtain ⟨kind, waiting⟩ := staffed.waiting_of_queued found queued
  have before := State.prefetch_of_kind found kind
  apply turned.staffed staffed
  · intro queued
    cases queued
  · exact ⟨fun _ => .inl rfl, fun _ => kind, trivial⟩
  · rw [State.workers_move before (turned.prefetch kind)]
    exact staffed.workers.step (.cancel waiting)

theorem Staffed.take {rest : List Nat} (staffed : Staffed state)
    (pool : state.pool = id :: rest) (found : state.task id = some task)
    (queued : task.place = .queued) :
    Staffed { state.moveTo id task .keying with
      pool := rest
      busy := state.busy + 1 } := by
  have turned : Turned state { state.moveTo id task .keying with
      pool := rest
      busy := state.busy + 1 } id task { task with place := .keying } :=
    ⟨found, rfl, rfl, fun _ _ named => named⟩
  obtain ⟨kind, waiting⟩ := staffed.waiting_of_queued found queued
  have before := State.prefetch_of_kind found kind
  apply turned.staffed staffed
  · intro queued
    cases queued
  · refine ⟨fun _ => .inr (.inl rfl), fun pooled => ?_, trivial⟩
    cases pooled
  · rw [State.workers_move before (turned.prefetch kind)]
    exact staffed.workers.step (.take pool waiting)

theorem Staffed.skip {rest : List Nat} (staffed : Staffed state)
    (pool : state.pool = id :: rest) (found : state.task id = some task)
    (cancelled : task.place = .cancelled) :
    Staffed { state with pool := rest } := by
  have kind := (staffed.fits id task found).pooled (by rw [cancelled]; rfl)
  have notWaiting : state.workers.stage id ≠ .waiting := by
    rw [State.stage_of_found (State.prefetch_of_kind found kind), cancelled]
    simp [Place.stage]
  have persists : Persists state { state with pool := rest } :=
    fun other task found => ⟨task, found, fun queued => queued⟩
  constructor
  · exact staffed.workers.step (.skip pool notWaiting)
  · exact staffed.named
  · exact fun other task found => (staffed.fits other task found).mono persists

theorem State.task_length (state : State) :
    state.task state.tasks.length = none := by
  rw [State.task, State.activity, List.getElem?_eq_none le_rfl]

theorem State.prefetch_ne_length (found : state.prefetch id = some task) :
    id ≠ state.tasks.length := by
  rintro rfl
  have found := (State.prefetch_eq_some.mp found).1
  rw [State.task_length] at found
  cases found

theorem State.add_task (state : State) (new : Task) (other : Nat) :
    (state.add (.listing new)).task other =
      if other = state.tasks.length then some new else state.task other := by
  unfold State.task
  rw [State.add_activity]
  by_cases newest : other = state.tasks.length
  · rw [if_pos newest, if_pos newest]
  · rw [if_neg newest, if_neg newest]

theorem Staffed.add {new : Task} (staffed : Staffed state)
    (kind : new.kind ≠ .prefetch) (place : new.place = .keying) :
    Staffed (state.add (.listing new)) := by
  have prefetch : ∀ other, (state.add (.listing new)).prefetch other =
      state.prefetch other := by
    intro other
    unfold State.prefetch
    rw [State.add_task]
    split
    next newest =>
      rw [newest, State.task_length]
      simp [kind]
    next => rfl
  have persists : Persists state (state.add (.listing new)) :=
    fun other task found =>
      ⟨task, (prefetch other).trans found, fun queued => queued⟩
  constructor
  · rw [State.workers_congr prefetch rfl rfl]
    exact staffed.workers
  · intro path future named
    rw [prefetch]
    exact staffed.named path future named
  · intro other task found
    rw [State.add_task] at found
    split at found
    · cases found
      refine ⟨fun same => absurd same kind, fun pooled => ?_, ?_⟩
      · rw [place] at pooled
        cases pooled
      · rw [place]
        trivial
    · exact (staffed.fits other task found).mono persists

theorem Staffed.addRollup {task : RollupTask} (staffed : Staffed state) :
    Staffed (state.add (.rollup task)) := by
  refine staffed.congr (fun other => ?_) rfl rfl fun _ _ named => named
  rcases eq_or_ne other state.tasks.length with rfl | differs
  · rw [State.task_length, State.task, State.add_activity, if_pos rfl]
  · rw [State.task, State.add_activity, if_neg differs]
    rfl

/-- A new prefetch is queued under the path of its future. -/
theorem Staffed.submit (staffed : Staffed state) (child : Text) :
    Staffed (Task.submitPrefetch state child) := by
  unfold Task.submitPrefetch
  split
  · exact staffed
  let new : Task := ⟨.prefetch, child, .all, [], none, none, .queued⟩
  generalize afterIs : { state.add (.listing new) with
    prefetches :=
      Function.update state.prefetches child (some state.tasks.length)
    pool := state.pool ++ [state.tasks.length] } = after
  have tasks : ∀ other, after.task other =
      if other = state.tasks.length then some new else state.task other := by
    subst afterIs
    exact State.add_task state new
  have prefetch : ∀ other, after.prefetch other =
      if other = state.tasks.length then some new
      else state.prefetch other := by
    intro other
    unfold State.prefetch
    rw [tasks]
    split <;> rfl
  have newest := (prefetch state.tasks.length).trans (if_pos rfl)
  have persists : Persists state after := by
    intro other task found
    refine ⟨task, ?_, fun queued => queued⟩
    rw [prefetch, if_neg (State.prefetch_ne_length found), found]
  have workers : after.workers =
      state.workers.submit state.tasks.length := by
    rw [WorkPool.submit, WorkPool.mk.injEq]
    refine ⟨?_, ?_, ?_, ?_⟩
    · ext other
      rw [Finset.mem_insert, State.mem_known, State.mem_known, prefetch]
      split
      next same => simp [same]
      next differ => simp [differ]
    · subst afterIs
      rfl
    · subst afterIs
      rfl
    · funext other
      rw [Function.update_apply]
      simp only [State.workers, prefetch]
      split <;> rfl
  constructor
  · rw [workers]
    apply staffed.workers.submit
    intro known
    obtain ⟨task, found⟩ := State.mem_known.mp known
    exact State.prefetch_ne_length found rfl
  · intro path future named
    subst afterIs
    by_cases same : path = child
    · rw [same] at named
      cases (Function.update_self _ _ _).symm.trans named
      exact ⟨new, newest⟩
    · have before : state.prefetches path = some future :=
        (Function.update_of_ne same _ _).symm.trans named
      obtain ⟨task, found⟩ := staffed.named path future before
      obtain ⟨kept, found, _⟩ := persists future task found
      exact ⟨kept, found⟩
  · intro other task found
    rw [tasks] at found
    split at found
    · cases found
      exact ⟨fun _ => .inl rfl, fun _ => rfl, trivial⟩
    · exact (staffed.fits other task found).mono persists

theorem SameTasks.refl (state : State) : SameTasks state state :=
  ⟨rfl, rfl, rfl, rfl⟩

theorem Staffed.returned {value : Cached} {fromCache : Bool}
    (staffed : Staffed state) (found : state.task id = some task)
    (begun : task.place.stage = .executing) :
    Staffed (task.returned setting state id value fromCache) := by
  unfold Task.returned
  cases kind : task.kind with
  | prefetch => exact staffed.finish found kind begun
  | page =>
      refine staffed.move (.refl state) found rfl (by simp [kind]) ?_ ?_
      · simp only
        split <;> rfl
      · simp only
        split <;> trivial
  | table | warm minTtl =>
      exact staffed.move (.refl state) found rfl (by simp [kind]) rfl trivial

theorem Staffed.raised {error : String} (staffed : Staffed state)
    (found : state.task id = some task)
    (begun : task.place.stage = .executing) :
    Staffed (task.raised state id error) := by
  unfold Task.raised
  cases kind : task.kind with
  | prefetch => exact staffed.finish found kind begun
  | page | table | warm minTtl =>
      exact staffed.move (.refl state) found rfl (by simp [kind]) rfl trivial

theorem Task.cachingAt_serving (task : Task) (caller : Caller Cached String) :
    (task.cachingAt caller).serving = true := by
  cases caller <;> rfl

theorem Staffed.advanceCaching {caller : Caller Cached String}
    (staffed : Staffed state) (found : state.task id = some task)
    (place : task.place = .caching caller)
    (stepped : task.advanceCaching setting state id caller = some after) :
    Staffed after := by
  have begun : task.place.stage = .executing := by
    rw [place]
    rfl
  unfold Task.advanceCaching at stepped
  split at stepped
  · cases stepped
    exact staffed.returned found begun
  · cases stepped
    exact staffed.raised found begun
  · obtain ⟨moved, _, rfl⟩ := Option.map_eq_some_iff.mp stepped
    exact staffed.serve ⟨rfl, rfl, rfl, rfl⟩ found rfl begun
      (task.cachingAt_serving moved.1)

theorem Staffed.query_kind {flight : Option Nat} {stage : Stage}
    (staffed : Staffed state) (found : state.task id = some task)
    (place : task.place = .query flight stage) :
    flight.isSome = true ∨ task.kind ≠ .prefetch := by
  cases flight with
  | some flight => exact .inl rfl
  | none =>
      refine .inr (staffed.kind_of_place found ?_ ?_)
      · rw [place]
        rfl
      · rw [place]
        rfl

theorem Staffed.leaveQuery {middle : State} {flight : Option Nat}
    {stage : Stage} {next : Place} (staffed : Staffed state)
    (same : SameTasks state middle) (found : state.task id = some task)
    (place : task.place = .query flight stage)
    (leads : flight.isSome = true → next.serving = true)
    (unpooled : next.pooled = false) (known : next.Known state) :
    Staffed (middle.moveTo id task next) := by
  rcases staffed.query_kind found place with led | kind
  · refine staffed.serve same found rfl ?_ (leads led)
    rw [place]
    rfl
  · exact staffed.move same found rfl kind unpooled known

theorem Staffed.queried {middle : State} {flight : Option Nat} {stage : Stage}
    {outcome : Except String (Cached × Nat)} (staffed : Staffed state)
    (same : SameTasks state middle) (found : state.task id = some task)
    (place : task.place = .query flight stage) :
    Staffed (task.queried middle id flight outcome) := by
  unfold Task.queried
  apply staffed.leaveQuery same found place
  · intro led
    cases flight <;> cases outcome <;> first | rfl | cases led
  · cases flight <;> cases outcome <;> rfl
  · cases flight <;> cases outcome <;> trivial

theorem Staffed.queryOn {middle : State} {flight : Option Nat}
    {stage next : Stage} (staffed : Staffed state)
    (same : SameTasks state middle) (found : state.task id = some task)
    (place : task.place = .query flight stage) :
    Staffed (middle.moveTo id task (.query flight next)) := by
  refine staffed.leaveQuery same found place (fun led => ?_) rfl trivial
  cases flight <;> first | rfl | cases led

theorem Staffed.advanceQuery {flight : Option Nat} {stage : Stage}
    (staffed : Staffed state) (found : state.task id = some task)
    (place : task.place = .query flight stage)
    (stepped : task.advanceQuery setting state id flight stage = some after) :
    Staffed after := by
  unfold Task.advanceQuery at stepped
  split at stepped
  · generalize state.listings.get state.now task.fullKey = looked at stepped
    obtain ⟨full, listings⟩ := looked
    simp only at stepped
    split at stepped
    · split at stepped <;> cases stepped
      · exact staffed.queryOn ⟨rfl, rfl, rfl, rfl⟩ found place
      · exact staffed.queried ⟨rfl, rfl, rfl, rfl⟩ found place
    · cases stepped
      exact staffed.queryOn ⟨rfl, rfl, rfl, rfl⟩ found place
  · obtain ⟨middle, acquired, rfl⟩ := Option.map_eq_some_iff.mp stepped
    exact staffed.queryOn (.acquire acquired) found place
  · cases stepped
    exact staffed.queried ⟨rfl, rfl, rfl, rfl⟩ found place
  all_goals cases stepped

theorem Staffed.advancePrefetching {value : Cached} {fromCache : Bool}
    {epoch : Option String} (names : List Text) (staffed : Staffed state)
    (found : state.task id = some task) (kind : task.kind ≠ .prefetch) :
    Staffed (task.advancePrefetching state id value fromCache epoch names) := by
  cases names with
  | nil => exact staffed.move (.refl state) found rfl kind rfl trivial
  | cons name names =>
      refine staffed.move ⟨rfl, rfl, rfl, rfl⟩ found rfl kind ?_ ?_
      · simp only
        split <;> rfl
      · simp only
        split <;> trivial

theorem Staffed.cancelPrefetch {future : Nat} (staffed : Staffed state)
    (found : state.task id = some task) (place : task.place = .cancel future)
    (stepped : task.cancelPrefetch state id future = some after) :
    Staffed after := by
  have kind : task.kind ≠ .prefetch :=
    staffed.kind_of_place found (by rw [place]; rfl) (by rw [place]; rfl)
  have known := (staffed.fits id task found).known
  rw [place] at known
  obtain ⟨other, isPrefetch⟩ := known
  have known := (State.prefetch_eq_some.mp isPrefetch).1
  unfold Task.cancelPrefetch at stepped
  rw [known] at stepped
  cases stepped
  simp only
  split
  next queued =>
    have turned : Turned state (state.moveTo future other .cancelled) future
        other { other with place := .cancelled } :=
      ⟨known, rfl, rfl, fun _ _ named => named⟩
    have kept : (state.moveTo future other .cancelled).task id = some task := by
      rw [turned.task_eq, if_neg, found]
      rintro rfl
      cases found.symm.trans known
      rw [place] at queued
      cases queued
    exact (staffed.cancel known queued).move (.refl _) kept rfl kind rfl
      trivial
  next => exact staffed.move (.refl state) found rfl kind rfl trivial
  next notQueued _ =>
    exact staffed.move (.refl state) found rfl kind rfl
      ⟨other, isPrefetch, notQueued⟩

theorem Staffed.advance (staffed : Staffed state)
    (found : state.task id = some task)
    (stepped : task.advance setting state id = some after) :
    Staffed after := by
  have other : task.place.stage = .executing → task.place.serving = false →
      task.kind ≠ .prefetch := staffed.kind_of_place found
  unfold Task.advance at stepped
  split at stepped
  next place =>
    obtain ⟨⟨epoch, middle⟩, taken, rfl⟩ := Option.map_eq_some_iff.mp stepped
    have same := SameTasks.takeEpoch taken
    cases kind : task.kind with
    | prefetch =>
        refine staffed.serve same found kind.symm ?_ rfl
        rw [place]
        rfl
    | page | table | warm minTtl =>
        exact staffed.move same found kind.symm (by simp [kind]) rfl trivial
  next place =>
    rw [place] at other
    have kind := other rfl rfl
    split at stepped
    · cases stepped
      exact staffed.move (.refl state) found rfl kind rfl trivial
    next future named =>
      cases stepped
      exact staffed.move (.refl state) found rfl kind rfl
        (staffed.named task.path future named)
  next future place => exact staffed.cancelPrefetch found place stepped
  next place =>
    rw [place] at other
    cases stepped
    have forgotten : Staffed { state with
        prefetches := Function.update state.prefetches task.path none } := by
      refine staffed.congr (fun _ => rfl) rfl rfl fun path future named => ?_
      by_cases same : path = task.path
      · rw [same] at named
        cases (Function.update_self _ _ _).symm.trans named
      · exact (Function.update_of_ne same _ _).symm.trans named
    exact forgotten.move (.refl _) found rfl (other rfl rfl) rfl trivial
  next future place =>
    rw [place] at other
    obtain ⟨worker, _, stepped⟩ := Option.bind_eq_some_iff.mp stepped
    split at stepped <;> cases stepped
    exact staffed.move (.refl state) found rfl (other rfl rfl) rfl trivial
  next caller place => exact staffed.advanceCaching found place stepped
  next flight stage place => exact staffed.advanceQuery found place stepped
  next place =>
    rw [place] at other
    have kind := other rfl rfl
    generalize state.listings.expiresIn state.now task.key = expiry at stepped
    obtain ⟨remaining, listings⟩ := expiry
    have moved : ∀ (next : Place), next.pooled = false → next.Known state →
        Staffed ({ state with listings := listings }.moveTo id task next) :=
      fun next unpooled known =>
        staffed.move ⟨rfl, rfl, rfl, rfl⟩ found rfl kind unpooled known
    simp only at stepped
    split at stepped
    · split at stepped <;> cases stepped
      · exact moved .peek rfl trivial
      · exact moved (.query none .gate) rfl trivial
    · cases stepped
      exact moved (.query none .gate) rfl trivial
  next place =>
    rw [place] at other
    have kind := other rfl rfl
    generalize state.listings.get state.now task.key = peeked at stepped
    obtain ⟨cached, listings⟩ := peeked
    simp only at stepped
    split at stepped <;> cases stepped
    · exact staffed.move ⟨rfl, rfl, rfl, rfl⟩ found rfl kind rfl trivial
    · exact staffed.move ⟨rfl, rfl, rfl, rfl⟩ found rfl kind rfl trivial
  next value nbytes place =>
    rw [place] at other
    cases stepped
    exact staffed.move ⟨rfl, rfl, rfl, rfl⟩ found rfl (other rfl rfl) rfl
      trivial
  next value fromCache place =>
    rw [place] at other
    obtain ⟨⟨epoch, middle⟩, taken, rfl⟩ := Option.map_eq_some_iff.mp stepped
    exact staffed.move (.takeEpoch taken) found rfl (other rfl rfl) rfl trivial
  next value fromCache epoch names place =>
    rw [place] at other
    cases stepped
    exact staffed.advancePrefetching names found (other rfl rfl)
  next value fromCache epoch child names place =>
    rw [place] at other
    have kind := other rfl rfl
    cases stepped
    have kept : (Task.submitPrefetch state child).task id = some task := by
      unfold Task.submitPrefetch
      split
      · exact found
      · rw [← found]
        apply (State.add_task state _ id).trans (if_neg ?_)
        rintro rfl
        rw [State.task_length] at found
        cases found
    exact (staffed.submit child).move (.refl _) kept rfl kind rfl trivial
  next value fromCache place =>
    rw [place] at other
    obtain ⟨⟨epoch, middle⟩, taken, rfl⟩ := Option.map_eq_some_iff.mp stepped
    have ended : Staffed (middle.moveTo id task .ended) :=
      staffed.move (.takeEpoch taken) found rfl (other rfl rfl) rfl trivial
    exact ended.of_same ⟨rfl, rfl, rfl, rfl⟩
  all_goals cases stepped

theorem Staffed.setRollup {middle : State} {old new : RollupTask}
    (staffed : Staffed state) (same : SameTasks state middle)
    (found : state.activity id = some (.rollup old)) :
    Staffed (middle.setActivity id (.rollup new)) := by
  have moved : Staffed (state.setActivity id (.rollup new)) := by
    refine staffed.congr (fun other => ?_) rfl rfl fun _ _ named => named
    unfold State.task
    rw [State.setActivity_activity found]
    by_cases itself : other = id
    · rw [if_pos itself, itself, found]
    · rw [if_neg itself]
  have tasks : (middle.setActivity id (.rollup new)).tasks =
      (state.setActivity id (.rollup new)).tasks :=
    congrArg (fun tasks => tasks.set id (.rollup new)) same.tasks
  exact moved.of_same ⟨tasks, same.pool, same.busy, same.prefetches⟩

theorem Staffed.advanceRollup {task : RollupTask} (staffed : Staffed state)
    (found : state.activity id = some (.rollup task))
    (stepped : task.advance setting state id = some after) :
    Staffed after := by
  unfold RollupTask.advance at stepped
  split at stepped
  · obtain ⟨⟨epoch, middle⟩, taken, rfl⟩ := Option.map_eq_some_iff.mp stepped
    exact staffed.setRollup (.takeEpoch taken) found
  · obtain ⟨middle, acquired, rfl⟩ := Option.map_eq_some_iff.mp stepped
    exact staffed.setRollup (.acquire acquired) found
  · simp only at stepped
    split at stepped <;> cases stepped
    · exact staffed.setRollup ⟨rfl, rfl, rfl, rfl⟩ found
    · exact staffed.setRollup ⟨rfl, rfl, rfl, rfl⟩ found
  · cases stepped
    exact staffed.setRollup ⟨rfl, rfl, rfl, rfl⟩ found
  · cases stepped

theorem Staffed.stepCatalog {usable : Bool} (staffed : Staffed state)
    (stepped : stepCatalog setting state id usable = some after) :
    Staffed after := by
  obtain ⟨activity, found, stepped⟩ := Option.bind_eq_some_iff.mp stepped
  cases activity with
  | listing task =>
      simp only at stepped
      split at stepped
      next flight place =>
        obtain ⟨⟨source, middle⟩, chosen, rfl⟩ :=
          Option.map_eq_some_iff.mp stepped
        exact staffed.queryOn (.catalog chosen) (State.task_eq_some.mpr found)
          place
      · cases stepped
  | rollup task =>
      simp only at stepped
      split at stepped
      · obtain ⟨⟨source, middle⟩, chosen, rfl⟩ :=
          Option.map_eq_some_iff.mp stepped
        exact staffed.setRollup (.catalog chosen) found
      · obtain ⟨⟨source, middle⟩, chosen, rfl⟩ :=
          Option.map_eq_some_iff.mp stepped
        exact staffed.setRollup (.catalog chosen) found
      · cases stepped

theorem Staffed.stepFail {error : String} (staffed : Staffed state)
    (stepped : stepFail state id error = some after) : Staffed after := by
  obtain ⟨activity, found, stepped⟩ := Option.bind_eq_some_iff.mp stepped
  cases activity with
  | listing task =>
      have known := State.task_eq_some.mpr found
      simp only at stepped
      split at stepped
      next flight place =>
        cases stepped
        exact staffed.queryOn (.refl state) known place
      next flight source place =>
        cases stepped
        exact staffed.queryOn (.refl state) known place
      · cases stepped
  | rollup task =>
      simp only at stepped
      split at stepped
      all_goals cases stepped
      all_goals exact staffed.setRollup (.refl state) found

theorem Staffed.takePrefetch (staffed : Staffed state)
    (stepped : state.takePrefetch = some after) : Staffed after := by
  unfold State.takePrefetch at stepped
  split at stepped
  · cases stepped
  next oldest rest pool =>
    split at stepped
    · obtain ⟨task, found, stepped⟩ := Option.bind_eq_some_iff.mp stepped
      simp only at stepped
      split at stepped
      next queued =>
        cases stepped
        exact staffed.take pool found queued
      next cancelled =>
        cases stepped
        exact staffed.skip pool found cancelled
      · cases stepped
    · cases stepped

theorem Staffed.forgetPrefetch (staffed : Staffed state)
    (stepped : state.forgetPrefetch id = some after) : Staffed after := by
  obtain ⟨task, _, stepped⟩ := Option.bind_eq_some_iff.mp stepped
  split at stepped <;> cases stepped
  refine staffed.congr (fun _ => rfl) rfl rfl fun path future named => ?_
  simp only at named
  split at named
  · by_cases same : path = task.path
    · rw [same] at named
      cases (Function.update_self _ _ _).symm.trans named
    · exact (Function.update_of_ne same _ _).symm.trans named
  · exact named

theorem Staffed.step {label : Label} (staffed : Staffed state)
    (stepped : Service.step setting state label = some after) :
    Staffed after := by
  cases label with
  | epoch label =>
      simp only [Service.step] at stepped
      split at stepped
      · obtain ⟨epochs, _, rfl⟩ := Option.map_eq_some_iff.mp stepped
        exact staffed.of_same ⟨rfl, rfl, rfl, rfl⟩
      · cases stepped
  | list kind path type name =>
      simp only [Service.step] at stepped
      split at stepped <;> cases stepped
      · exact staffed.add (by simp) rfl
      · exact staffed.add (by simp) rfl
  | warm path minTtl =>
      cases stepped
      exact staffed.add (by simp) rfl
  | rollup path depth =>
      simp only [Service.step] at stepped
      split at stepped <;> cases stepped
      · exact staffed
      · exact staffed.addRollup
  | cached epoch path depth =>
      cases stepped
      exact staffed.of_same ⟨rfl, rfl, rfl, rfl⟩
  | take => exact staffed.takePrefetch stepped
  | forget id => exact staffed.forgetPrefetch stepped
  | advance id =>
      obtain ⟨activity, found, stepped⟩ := Option.bind_eq_some_iff.mp stepped
      cases activity with
      | listing task =>
          exact staffed.advance (State.task_eq_some.mpr found) stepped
      | rollup task => exact staffed.advanceRollup found stepped
  | timeout id =>
      obtain ⟨task, found, stepped⟩ := Option.bind_eq_some_iff.mp stepped
      split at stepped
      next future place =>
        obtain ⟨worker, _, stepped⟩ := Option.bind_eq_some_iff.mp stepped
        have kind : task.kind ≠ .prefetch :=
          staffed.kind_of_place found (by rw [place]; rfl) (by rw [place]; rfl)
        split at stepped <;> cases stepped
        exact staffed.move (.refl state) found rfl kind rfl trivial
      · cases stepped
  | catalog id usable => exact staffed.stepCatalog stepped
  | rows id batches elapsedS =>
      obtain ⟨task, found, stepped⟩ := Option.bind_eq_some_iff.mp stepped
      split at stepped
      next flight source place =>
        cases stepped
        exact staffed.queryOn (.refl state) found place
      · cases stepped
  | retry id =>
      obtain ⟨task, found, stepped⟩ := Option.bind_eq_some_iff.mp stepped
      split at stepped
      next flight source place =>
        split at stepped <;> cases stepped
        exact staffed.queryOn (.refl state) found place
      · cases stepped
  | fail id error => exact staffed.stepFail stepped
  | scanned id reader =>
      obtain ⟨task, source, found, place, rfl⟩ := step_scanned stepped
      unfold RollupTask.scanned
      split <;> exact staffed.setRollup (.refl state) found
  | seeded id childDirs computedAt elapsedS =>
      obtain ⟨task, scan, seed, reader, found, place, rfl⟩ :=
        step_seeded stepped
      unfold RollupTask.seeded
      split <;> exact staffed.setRollup (.refl state) found

theorem staffed_of_initial (initial : Initial state) : Staffed state := by
  have missing : ∀ id, state.task id = none := by
    intro id
    rw [State.task, State.activity, initial.tasks]
    rfl
  have none : ∀ id, state.prefetch id = none := by
    intro id
    rw [State.prefetch, missing]
    rfl
  refine ⟨⟨?_, ?_, ?_, ?_, ?_⟩, ?_, ?_⟩
  · rw [State.workers, initial.pool]
    exact List.nodup_nil
  · intro id queued
    rw [State.workers, initial.pool] at queued
    cases queued
  · intro id queued
    rw [State.workers, initial.pool] at queued
    cases queued
  · intro id known
    obtain ⟨task, found⟩ := State.mem_known.mp known
    rw [none] at found
    cases found
  · rw [State.workers, initial.busy]
    apply Eq.symm
    rw [Finset.card_eq_zero, Finset.eq_empty_iff_forall_notMem]
    intro id working
    obtain ⟨known, _⟩ := WorkPool.mem_within.mp working
    obtain ⟨task, found⟩ := State.mem_known.mp known
    rw [none] at found
    cases found
  · intro path id named
    rw [initial.prefetches] at named
    cases named
  · intro id task found
    rw [missing] at found
    cases found

theorem staffed_of_reachable
    (reachable : (system setting).Reachable StepSystem.AnyStep state) :
    Staffed state := by
  refine reachable.invariant ?_ ?_
  · exact fun _ initial => staffed_of_initial initial
  · exact fun _ _ _ _ staffed _ stepped => staffed.step stepped

end Catwalk.Service
