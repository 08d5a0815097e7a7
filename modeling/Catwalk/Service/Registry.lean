import Catwalk.Service.Waits

/-! The registry of prefetches, `_prefetch_futures`: under each child path the
future that is queued or running. -/

namespace Catwalk.Service

/-- The prefetch of the path that `id` is, queued or running. -/
def State.Live (state : State) (path : Text) (id : Nat) : Prop :=
  ∃ task, state.prefetch id = some task ∧ task.path = path ∧
    task.place.isDone = false

/-- One live prefetch for each path, and it is the one registered there. -/
structure Registered (state : State) : Prop where
  single : ∀ path first second, state.Live path first →
    state.Live path second → first = second
  named : ∀ path id, state.Live path id → state.prefetches path = some id

/-- A request that has cancelled a prefetch of its path finds no live prefetch
under the path when it pops the entry. -/
def PopsDone (state : State) : Label → Prop
  | .advance id => ∀ task future, state.task id = some task →
      task.place = .pop → state.prefetches task.path = some future →
        ¬ state.Live task.path future
  | _ => True

/-- No prefetch comes to life, and no entry changes. -/
structure KeepsRegistry (state after : State) : Prop where
  live : ∀ path id, after.Live path id → state.Live path id
  prefetches : after.prefetches = state.prefetches

/-- What a step may do to the registry. -/
inductive RegistryStep (state : State) : Label → State → Prop
  | keeps {label after} (keeps : KeepsRegistry state after)
      (popless : ∀ id task, label = .advance id → state.task id = some task →
        task.place ≠ .pop) :
      RegistryStep state label after
  | registers {id after} (child : Text)
      (popless : ∀ task, state.task id = some task → task.place ≠ .pop)
      (vacant : state.prefetches child = none)
      (prefetches : after.prefetches =
        Function.update state.prefetches child (some state.tasks.length))
      (live : ∀ path other, after.Live path other →
        path = child ∧ other = state.tasks.length ∨ state.Live path other) :
      RegistryStep state (.advance id) after
  | forgets {id task after} (found : state.task id = some task)
      (done : task.place.isDone = true)
      (prefetches : after.prefetches =
        if state.prefetches task.path = some id then
          Function.update state.prefetches task.path none
        else state.prefetches)
      (live : ∀ path other, after.Live path other → state.Live path other) :
      RegistryStep state (.forget id) after
  | pops {id task after} (found : state.task id = some task)
      (place : task.place = .pop)
      (prefetches : after.prefetches =
        Function.update state.prefetches task.path none)
      (live : ∀ path other, after.Live path other ↔ state.Live path other) :
      RegistryStep state (.advance id) after

variable {setting : Setting} {state after : State} {id : Nat}
  {task new : Task}

theorem State.Live.prefetch_eq {path : Text} (live : state.Live path id)
    (found : state.task id = some task) :
    task.kind = .prefetch ∧ task.path = path ∧ task.place.isDone = false := by
  obtain ⟨known, isPrefetch, path, pending⟩ := live
  obtain ⟨same, kind⟩ := State.prefetch_eq_some.mp isPrefetch
  cases found.symm.trans same
  exact ⟨kind, path, pending⟩

theorem State.live_of_task {path : Text}
    (same : after.task id = state.task id) :
    after.Live path id ↔ state.Live path id := by
  unfold State.Live State.prefetch
  rw [same]

theorem Turned.live_iff (turned : Turned state after id task new)
    (path : new.path = task.path)
    (pending : new.place.isDone = task.place.isDone) (other : Text) (index : Nat) :
    after.Live other index ↔ state.Live other index := by
  rcases eq_or_ne index id with rfl | differs
  · have known := (turned.task_eq index).trans (if_pos rfl)
    unfold State.Live State.prefetch
    rw [known, turned.found]
    simp [Option.filter, turned.kind, path, pending]
  · apply State.live_of_task
    rw [turned.task_eq, if_neg differs]

theorem Turned.live (turned : Turned state after id task new)
    (path : new.path = task.path) (pending : task.place.isDone = false)
    (other : Text) (index : Nat) (live : after.Live other index) :
    state.Live other index := by
  rcases eq_or_ne index id with rfl | differs
  · have known := (turned.task_eq index).trans (if_pos rfl)
    obtain ⟨kind, placed, _⟩ := live.prefetch_eq known
    refine ⟨task, ?_, path.symm.trans placed, pending⟩
    exact State.prefetch_of_kind turned.found (turned.kind.symm.trans kind)
  · apply (State.live_of_task ?_).mp live
    rw [turned.task_eq, if_neg differs]

theorem KeepsRegistry.of_tasks (tasks : ∀ id, after.task id = state.task id)
    (prefetches : after.prefetches = state.prefetches) :
    KeepsRegistry state after :=
  ⟨fun _ id => (State.live_of_task (tasks id)).mp, prefetches⟩

theorem KeepsRegistry.of_same (same : SameTasks state after) :
    KeepsRegistry state after :=
  .of_tasks (State.task_of_tasks same.tasks) same.prefetches

theorem KeepsRegistry.trans {middle : State}
    (former : KeepsRegistry state middle)
    (latter : KeepsRegistry middle after) : KeepsRegistry state after where
  live path id live := former.live path id (latter.live path id live)
  prefetches := latter.prefetches.trans former.prefetches

theorem KeepsRegistry.setTask {middle : State} (same : SameTasks state middle)
    (found : state.task id = some task) (kind : new.kind = task.kind)
    (path : new.path = task.path) (pending : task.place.isDone = false) :
    KeepsRegistry state (middle.setTask id new) where
  live := (same.turned found kind).live path pending
  prefetches := same.prefetches

theorem KeepsRegistry.moveTo {middle : State} {place : Place}
    (same : SameTasks state middle) (found : state.task id = some task)
    (pending : task.place.isDone = false) :
    KeepsRegistry state (middle.moveTo id task place) :=
  .setTask same found rfl rfl pending

theorem KeepsRegistry.add {task : Task} (kind : task.kind ≠ .prefetch) :
    KeepsRegistry state (state.add (.listing task)) where
  live path id live := by
    by_cases newest : id = state.tasks.length
    · have known := (State.add_task state task id).trans (if_pos newest)
      exact absurd (live.prefetch_eq known).1 kind
    · exact (State.live_of_task
        ((State.add_task state task id).trans (if_neg newest))).mp live
  prefetches := rfl

theorem KeepsRegistry.addRollup {task : RollupTask} :
    KeepsRegistry state (state.add (.rollup task)) := by
  refine .of_tasks (fun other => ?_) rfl
  rcases eq_or_ne other state.tasks.length with rfl | differs
  · rw [State.task_length, State.task, State.add_activity, if_pos rfl]
  · rw [State.task, State.add_activity, if_neg differs]
    rfl

theorem KeepsRegistry.setRollup {middle : State} {old new : RollupTask}
    (same : SameTasks state middle)
    (found : state.activity id = some (.rollup old)) :
    KeepsRegistry state (middle.setActivity id (.rollup new)) := by
  refine .of_tasks (fun other => ?_) same.prefetches
  have known : middle.activity id = some (.rollup old) :=
    (State.activity_of_tasks same.tasks id).trans found
  unfold State.task
  rw [State.setActivity_activity known, State.activity_of_tasks same.tasks]
  by_cases itself : other = id
  · rw [if_pos itself, itself, found]
  · rw [if_neg itself]

theorem KeepsRegistry.returned {value : Cached} {fromCache : Bool}
    (found : state.task id = some task)
    (pending : task.place.isDone = false) :
    KeepsRegistry state (task.returned setting state id value fromCache) := by
  have moved : ∀ place, KeepsRegistry state (state.moveTo id task place) :=
    fun _ => .moveTo (.refl state) found pending
  unfold Task.returned
  cases task.kind with
  | page => exact moved _
  | table | warm minTtl => exact moved .ended
  | prefetch => exact ⟨(moved .ended).live, rfl⟩

theorem KeepsRegistry.raised {error : String} (found : state.task id = some task)
    (pending : task.place.isDone = false) :
    KeepsRegistry state (task.raised state id error) := by
  have moved : ∀ place, KeepsRegistry state (state.moveTo id task place) :=
    fun _ => .moveTo (.refl state) found pending
  unfold Task.raised
  cases task.kind with
  | page | table | warm minTtl => exact moved (.failed error)
  | prefetch => exact ⟨(moved .ended).live, rfl⟩

theorem KeepsRegistry.advanceCaching {caller : Caller Cached String}
    (found : state.task id = some task)
    (pending : task.place.isDone = false)
    (stepped : task.advanceCaching setting state id caller = some after) :
    KeepsRegistry state after := by
  unfold Task.advanceCaching at stepped
  split at stepped
  · cases stepped
    exact .returned found pending
  · cases stepped
    exact .raised found pending
  · obtain ⟨moved, _, rfl⟩ := Option.map_eq_some_iff.mp stepped
    exact .moveTo ⟨rfl, rfl, rfl, rfl⟩ found pending

theorem KeepsRegistry.advanceQuery {flight : Option Nat} {stage : Stage}
    (found : state.task id = some task)
    (pending : task.place.isDone = false)
    (stepped : task.advanceQuery setting state id flight stage = some after) :
    KeepsRegistry state after := by
  unfold Task.advanceQuery at stepped
  split at stepped
  · generalize state.listings.get state.now task.fullKey = looked at stepped
    obtain ⟨full, listings⟩ := looked
    simp only at stepped
    split at stepped
    · split at stepped <;> cases stepped
      · exact .moveTo ⟨rfl, rfl, rfl, rfl⟩ found pending
      · exact .moveTo ⟨rfl, rfl, rfl, rfl⟩ found pending
    · cases stepped
      exact .moveTo ⟨rfl, rfl, rfl, rfl⟩ found pending
  · obtain ⟨middle, acquired, rfl⟩ := Option.map_eq_some_iff.mp stepped
    exact .moveTo (.acquire acquired) found pending
  · cases stepped
    exact .moveTo ⟨rfl, rfl, rfl, rfl⟩ found pending
  all_goals cases stepped

theorem KeepsRegistry.cancelPrefetch {future : Nat}
    (found : state.task id = some task) (place : task.place = .cancel future)
    (stepped : task.cancelPrefetch state id future = some after) :
    KeepsRegistry state after := by
  have pending : task.place.isDone = false := by rw [place]; rfl
  obtain ⟨other, known, rfl⟩ := Option.map_eq_some_iff.mp stepped
  split
  next queued =>
    have cancelled : KeepsRegistry state (state.moveTo future other .cancelled) :=
      .moveTo (.refl state) known (by rw [queued]; rfl)
    have kept : (state.moveTo future other .cancelled).task id = some task := by
      apply State.task_eq_some.mpr
      rw [State.moveTo_task rfl known, if_neg]
      · exact State.task_eq_some.mp found
      · intro same
        subst same
        cases found.symm.trans known
        cases place.symm.trans queued
    exact cancelled.trans (.moveTo (.refl _) kept pending)
  all_goals exact .moveTo (.refl state) found pending

theorem RegistryStep.submit {value : Cached} {fromCache : Bool}
    {epoch : Option String} {child : Text} {names : List Text}
    (found : state.task id = some task)
    (place : task.place = .submitting value fromCache epoch child names) :
    RegistryStep state (.advance id)
      ((Task.submitPrefetch state child).moveTo id task
        (.prefetching value fromCache epoch names)) := by
  have pending : task.place.isDone = false := by rw [place]; rfl
  have popless : ∀ task, state.task id = some task → task.place ≠ .pop := by
    intro other same
    cases found.symm.trans same
    rw [place]
    simp
  unfold Task.submitPrefetch
  split
  next registered =>
    refine .keeps (.moveTo (.refl state) found pending) ?_
    intro other known same
    cases same
    exact popless known
  next vacant =>
    generalize newIs : Task.mk .prefetch child .all [] none none .queued = new
    have added : ∀ other, (state.add (.listing new)).task other =
        if other = state.tasks.length then some new else state.task other :=
      State.add_task state new
    have kept : (state.add (.listing new)).task id = some task := by
      rw [added, if_neg, found]
      intro same
      rw [same, State.task_length] at found
      cases found
    refine .registers child popless vacant rfl fun path other live => ?_
    have before : (state.add (.listing new)).Live path other := by
      have moved : KeepsRegistry (state.add (.listing new))
          ((state.add (.listing new)).moveTo id task
            (.prefetching value fromCache epoch names)) :=
        .moveTo (.refl _) kept pending
      exact moved.live path other live
    by_cases newest : other = state.tasks.length
    · have known := (added other).trans (if_pos newest)
      obtain ⟨_, same, _⟩ := before.prefetch_eq known
      subst newIs
      exact .inl ⟨same.symm, newest⟩
    · right
      apply (State.live_of_task ?_).mp before
      exact (added other).trans (if_neg newest)

theorem Task.pending_of_advance
    (stepped : task.advance setting state id = some after) :
    task.place.isDone = false := by
  cases place : task.place with
  | cancelled | ended =>
      simp only [Task.advance, place] at stepped
      cases stepped
  | _ => rfl

theorem RegistryStep.advance (found : state.task id = some task)
    (stepped : task.advance setting state id = some after) :
    RegistryStep state (.advance id) after := by
  have pending := Task.pending_of_advance stepped
  have keep : KeepsRegistry state after → task.place ≠ .pop →
      RegistryStep state (.advance id) after := by
    intro keeps popless
    refine .keeps keeps fun other known same knownThere => ?_
    cases same
    cases found.symm.trans knownThere
    exact popless
  have moved : ∀ listings next, KeepsRegistry state
      ({ state with listings := listings }.moveTo id task next) :=
    fun _ _ => .moveTo ⟨rfl, rfl, rfl, rfl⟩ found pending
  unfold Task.advance at stepped
  split at stepped
  next place =>
    obtain ⟨⟨epoch, middle⟩, taken, rfl⟩ := Option.map_eq_some_iff.mp stepped
    exact keep (.setTask (.takeEpoch taken) found rfl rfl pending)
      (by simp [place])
  next place =>
    split at stepped <;> cases stepped
    · exact keep (.setTask (.refl state) found rfl rfl pending) (by simp [place])
    · exact keep (.moveTo (.refl state) found pending) (by simp [place])
  next future place =>
    exact keep (.cancelPrefetch found place stepped) (by simp [place])
  next place =>
    cases stepped
    have turned : Turned state ({ state with
        prefetches := Function.update state.prefetches task.path
          none }.enterCache id task none) id task
        { task with
          timedOut := none
          place := .caching .get } := by
      refine ⟨found, rfl, rfl, fun path future named => ?_⟩
      by_cases same : path = task.path
      · rw [same] at named
        cases (Function.update_self _ _ _).symm.trans named
      · exact (Function.update_of_ne same _ _).symm.trans named
    refine .pops found place rfl (turned.live_iff rfl ?_)
    rw [place]
    rfl
  next future place =>
    obtain ⟨other, _, stepped⟩ := Option.bind_eq_some_iff.mp stepped
    split at stepped <;> cases stepped
    exact keep (.setTask (.refl state) found rfl rfl pending) (by simp [place])
  next caller place =>
    exact keep (.advanceCaching found pending stepped) (by simp [place])
  next flight stage place =>
    exact keep (.advanceQuery found pending stepped) (by simp [place])
  next place =>
    generalize state.listings.expiresIn state.now task.key = expiry at stepped
    obtain ⟨remaining, listings⟩ := expiry
    simp only at stepped
    split at stepped
    · split at stepped <;> cases stepped
      · exact keep (moved listings .peek) (by simp [place])
      · exact keep (moved listings _) (by simp [place])
    · cases stepped
      exact keep (moved listings _) (by simp [place])
  next place =>
    generalize state.listings.get state.now task.key = peeked at stepped
    obtain ⟨cached, listings⟩ := peeked
    simp only at stepped
    split at stepped <;> cases stepped
    · exact keep (moved listings .ended) (by simp [place])
    · exact keep (moved listings _) (by simp [place])
  next value nbytes place =>
    cases stepped
    exact keep (.moveTo ⟨rfl, rfl, rfl, rfl⟩ found pending) (by simp [place])
  next value fromCache place =>
    obtain ⟨⟨epoch, middle⟩, taken, rfl⟩ := Option.map_eq_some_iff.mp stepped
    exact keep (.moveTo (.takeEpoch taken) found pending) (by simp [place])
  next value fromCache epoch names place =>
    cases stepped
    refine keep ?_ (by simp [place])
    cases names with
    | nil => exact .moveTo (.refl state) found pending
    | cons name names => exact .moveTo ⟨rfl, rfl, rfl, rfl⟩ found pending
  next value fromCache epoch child names place =>
    cases stepped
    exact .submit found place
  next value fromCache place =>
    obtain ⟨⟨epoch, middle⟩, taken, rfl⟩ := Option.map_eq_some_iff.mp stepped
    have moved : KeepsRegistry state (middle.moveTo id task .ended) :=
      .moveTo (.takeEpoch taken) found pending
    exact keep (moved.trans (.of_same ⟨rfl, rfl, rfl, rfl⟩)) (by simp [place])
  all_goals cases stepped

theorem KeepsRegistry.advanceRollup {task : RollupTask}
    (found : state.activity id = some (.rollup task))
    (stepped : task.advance setting state id = some after) :
    KeepsRegistry state after := by
  unfold RollupTask.advance at stepped
  split at stepped
  · obtain ⟨⟨epoch, middle⟩, taken, rfl⟩ := Option.map_eq_some_iff.mp stepped
    exact .setRollup (.takeEpoch taken) found
  · obtain ⟨middle, acquired, rfl⟩ := Option.map_eq_some_iff.mp stepped
    exact .setRollup (.acquire acquired) found
  · simp only at stepped
    split at stepped <;> cases stepped
    · exact .setRollup ⟨rfl, rfl, rfl, rfl⟩ found
    · exact .setRollup ⟨rfl, rfl, rfl, rfl⟩ found
  · cases stepped
    exact .setRollup ⟨rfl, rfl, rfl, rfl⟩ found
  · cases stepped

theorem KeepsRegistry.stepCatalog {usable : Bool}
    (stepped : stepCatalog setting state id usable = some after) :
    KeepsRegistry state after := by
  obtain ⟨activity, found, stepped⟩ := Option.bind_eq_some_iff.mp stepped
  cases activity with
  | listing task =>
      simp only at stepped
      split at stepped
      next flight place =>
        obtain ⟨⟨source, middle⟩, chosen, rfl⟩ :=
          Option.map_eq_some_iff.mp stepped
        refine .moveTo (.catalog chosen) (State.task_eq_some.mpr found) ?_
        rw [place]
        rfl
      · cases stepped
  | rollup task =>
      simp only at stepped
      split at stepped
      · obtain ⟨⟨source, middle⟩, chosen, rfl⟩ :=
          Option.map_eq_some_iff.mp stepped
        exact .setRollup (.catalog chosen) found
      · obtain ⟨⟨source, middle⟩, chosen, rfl⟩ :=
          Option.map_eq_some_iff.mp stepped
        exact .setRollup (.catalog chosen) found
      · cases stepped

theorem KeepsRegistry.stepFail {error : String}
    (stepped : stepFail state id error = some after) :
    KeepsRegistry state after := by
  obtain ⟨activity, found, stepped⟩ := Option.bind_eq_some_iff.mp stepped
  cases activity with
  | listing task =>
      have known := State.task_eq_some.mpr found
      simp only at stepped
      split at stepped
      next flight place =>
        cases stepped
        exact .moveTo (.refl state) known (by rw [place]; rfl)
      next flight source place =>
        cases stepped
        exact .moveTo (.refl state) known (by rw [place]; rfl)
      · cases stepped
  | rollup task =>
      simp only at stepped
      split at stepped
      all_goals cases stepped
      all_goals exact .setRollup (.refl state) found

theorem KeepsRegistry.takePrefetch
    (stepped : state.takePrefetch = some after) : KeepsRegistry state after := by
  unfold State.takePrefetch at stepped
  split at stepped
  · cases stepped
  next oldest rest pool =>
    split at stepped
    · obtain ⟨task, found, stepped⟩ := Option.bind_eq_some_iff.mp stepped
      simp only at stepped
      split at stepped
      next queued =>
        cases stepped
        have moved : KeepsRegistry state (state.moveTo oldest task .keying) :=
          .moveTo (.refl state) found (by rw [queued]; rfl)
        exact ⟨moved.live, rfl⟩
      next cancelled =>
        cases stepped
        exact .of_tasks (fun _ => rfl) rfl
      · cases stepped
    · cases stepped

/-- A step that neither goes on with an activity nor forgets a prefetch. -/
theorem KeepsRegistry.step {label : Label}
    (advances : ∀ id, label ≠ .advance id) (forgets : ∀ id, label ≠ .forget id)
    (stepped : Service.step setting state label = some after) :
    KeepsRegistry state after := by
  cases label with
  | epoch label =>
      simp only [Service.step] at stepped
      split at stepped
      · obtain ⟨epochs, _, rfl⟩ := Option.map_eq_some_iff.mp stepped
        exact .of_same ⟨rfl, rfl, rfl, rfl⟩
      · cases stepped
  | list kind path type name =>
      simp only [Service.step] at stepped
      split at stepped <;> cases stepped
      · exact .add (by simp)
      · exact .add (by simp)
  | warm path minTtl =>
      cases stepped
      exact .add (by simp)
  | rollup path depth =>
      simp only [Service.step] at stepped
      split at stepped <;> cases stepped
      · exact .of_same (.refl state)
      · exact .addRollup
  | cached epoch path depth =>
      cases stepped
      exact .of_same ⟨rfl, rfl, rfl, rfl⟩
  | take => exact .takePrefetch stepped
  | forget id => exact absurd rfl (forgets id)
  | advance id => exact absurd rfl (advances id)
  | timeout id =>
      obtain ⟨task, found, stepped⟩ := Option.bind_eq_some_iff.mp stepped
      split at stepped
      next future place =>
        obtain ⟨worker, _, stepped⟩ := Option.bind_eq_some_iff.mp stepped
        split at stepped <;> cases stepped
        refine .setTask (.refl state) found rfl rfl ?_
        rw [place]
        rfl
      · cases stepped
  | catalog id usable => exact .stepCatalog stepped
  | rows id batches elapsedS =>
      obtain ⟨task, found, stepped⟩ := Option.bind_eq_some_iff.mp stepped
      split at stepped
      next flight source place =>
        cases stepped
        exact .moveTo (.refl state) found (by rw [place]; rfl)
      · cases stepped
  | retry id =>
      obtain ⟨task, found, stepped⟩ := Option.bind_eq_some_iff.mp stepped
      split at stepped
      next flight source place =>
        split at stepped <;> cases stepped
        exact .moveTo (.refl state) found (by rw [place]; rfl)
      · cases stepped
  | fail id error => exact .stepFail stepped
  | scanned id reader =>
      obtain ⟨task, source, found, place, rfl⟩ := step_scanned stepped
      unfold RollupTask.scanned
      split <;> exact .setRollup (.refl state) found
  | seeded id childDirs computedAt elapsedS =>
      obtain ⟨task, scan, seed, reader, found, place, rfl⟩ :=
        step_seeded stepped
      unfold RollupTask.seeded
      split <;> exact .setRollup (.refl state) found

theorem registryStep_of_step {label : Label}
    (stepped : Service.step setting state label = some after) :
    RegistryStep state label after := by
  cases label with
  | advance id =>
      obtain ⟨activity, found, stepped⟩ := Option.bind_eq_some_iff.mp stepped
      cases activity with
      | listing task => exact .advance (State.task_eq_some.mpr found) stepped
      | rollup task =>
          refine .keeps (.advanceRollup found stepped) fun other known same => ?_
          cases same
          rw [State.task_of_rollup found]
          simp
  | forget id =>
      obtain ⟨task, found, stepped⟩ := Option.bind_eq_some_iff.mp stepped
      split at stepped <;> cases stepped
      next ended =>
        exact .forgets found ended.2 rfl fun _ _ live => live
  | _ => exact .keeps (.step (by simp) (by simp) stepped) (by simp)

theorem Registered.of_named
    (named : ∀ path id, state.Live path id → state.prefetches path = some id) :
    Registered state where
  single path first second isFirst isSecond :=
    Option.some.inj
      ((named path first isFirst).symm.trans (named path second isSecond))
  named := named

theorem Registered.keeps (registered : Registered state)
    (keeps : KeepsRegistry state after) : Registered after := by
  apply Registered.of_named
  intro path id live
  rw [keeps.prefetches]
  exact registered.named path id (keeps.live path id live)

/-- A prefetch is submitted only where none is registered. -/
theorem Registered.registers {child : Text} (registered : Registered state)
    (vacant : state.prefetches child = none)
    (prefetches : after.prefetches =
      Function.update state.prefetches child (some state.tasks.length))
    (live : ∀ path other, after.Live path other →
      path = child ∧ other = state.tasks.length ∨ state.Live path other) :
    Registered after := by
  apply Registered.of_named
  intro path other isLive
  rw [prefetches]
  rcases live path other isLive with submitted | before
  · obtain ⟨rfl, rfl⟩ := submitted
    exact Function.update_self ..
  · have entry := registered.named path other before
    have elsewhere : path ≠ child := by
      intro same
      rw [same, vacant] at entry
      cases entry
    rw [Function.update_of_ne elsewhere]
    exact entry

/-- `_forget_prefetch` compares the entry with its own future, which is done. -/
theorem Registered.forgets (registered : Registered state)
    (found : state.task id = some task) (done : task.place.isDone = true)
    (prefetches : after.prefetches =
      if state.prefetches task.path = some id then
        Function.update state.prefetches task.path none
      else state.prefetches)
    (live : ∀ path other, after.Live path other → state.Live path other) :
    Registered after := by
  apply Registered.of_named
  intro path other isLive
  have before := live path other isLive
  have entry := registered.named path other before
  rw [prefetches]
  split
  next own =>
    have elsewhere : path ≠ task.path := by
      intro same
      rw [same, own] at entry
      cases entry
      obtain ⟨_, _, pending⟩ := before.prefetch_eq found
      rw [done] at pending
      cases pending
    rw [Function.update_of_ne elsewhere]
    exact entry
  next => exact entry

/-- The pop of `_base_listing` compares nothing: it keeps the registry exactly
when the entry is not a live prefetch. -/
theorem Registered.pops_iff (registered : Registered state)
    (found : state.task id = some task) (place : task.place = .pop)
    (prefetches : after.prefetches =
      Function.update state.prefetches task.path none)
    (live : ∀ path other, after.Live path other ↔ state.Live path other) :
    Registered after ↔ PopsDone state (.advance id) := by
  constructor
  · intro kept other future known _ _ isLive
    cases found.symm.trans known
    have entry := kept.named task.path future ((live _ _).mpr isLive)
    rw [prefetches, Function.update_self] at entry
    cases entry
  · intro done
    apply Registered.of_named
    intro path other isLive
    have before := (live path other).mp isLive
    have entry := registered.named path other before
    have elsewhere : path ≠ task.path := by
      intro same
      subst same
      exact done task other found place entry before
    rw [prefetches, Function.update_of_ne elsewhere]
    exact entry

theorem Registered.step_iff {label : Label} (registered : Registered state)
    (stepped : Service.step setting state label = some after) :
    Registered after ↔ PopsDone state label := by
  have popless : (∀ id task, label = .advance id → state.task id = some task →
      task.place ≠ .pop) → PopsDone state label := by
    intro popless
    cases label with
    | advance id =>
        intro task future found place
        exact absurd place (popless id task rfl found)
    | _ => trivial
  cases registryStep_of_step stepped with
  | keeps keeps unpopped =>
      exact ⟨fun _ => popless unpopped, fun _ => registered.keeps keeps⟩
  | registers child unpopped vacant prefetches live =>
      refine ⟨fun _ => popless ?_, fun _ =>
        registered.registers vacant prefetches live⟩
      intro id task same found
      cases same
      exact unpopped task found
  | forgets found done prefetches live =>
      exact ⟨fun _ => trivial, fun _ =>
        registered.forgets found done prefetches live⟩
  | pops found place prefetches live =>
      exact registered.pops_iff found place prefetches live

theorem registered_of_initial (initial : Initial state) : Registered state := by
  apply Registered.of_named
  intro path id live
  obtain ⟨task, found, _, _⟩ := live
  have known := (State.prefetch_eq_some.mp found).1
  rw [State.task, State.activity, initial.tasks] at known
  cases known

/-- In every state of a run each live prefetch is the only one of its path and
registered under it, exactly when no request that cancelled a prefetch pops an
entry that has become live again. -/
theorem prefetches_registered_iff (setting : Setting) (start final : State)
    (schedule : List Label) (initial : Initial start)
    (ran : (system setting).run start schedule = some final) :
    (system setting).Throughout Registered start schedule ↔
      (system setting).Meets PopsDone start schedule := by
  have kept : ∀ state label after, True → Registered state →
      (system setting).step state label = some after →
        (Registered after ↔ PopsDone state label) := by
    intro state label after _ registered stepped
    exact registered.step_iff stepped
  exact StepSystem.throughout_iff_meets (fun _ _ _ _ _ => trivial) kept trivial
    (registered_of_initial initial) ran

/-! The prefetch of a child is still queued when the child is listed; the
listing cancels it, and other pages of the parent submit it again. -/

/-- A page of the parent, up to its prefetches. -/
def revisiting (id : Nat) : List Label :=
  .list .page ['a'] .all [] :: reading id ++ List.replicate 4 (.advance id) ++
    reading id ++ List.replicate 3 (.advance id)

/-- The request pops before anyone submits again. -/
def popped : List Label :=
  opening.dropLast ++ clicking ++ [.forget 1, .advance 2] ++ revisiting 3

/-- The prefetch is submitted again before the request pops, and once more
after. -/
def raced : List Label :=
  opening.dropLast ++ clicking ++ [.forget 1] ++ revisiting 3 ++ [.advance 2] ++
    revisiting 5

/-- Who a task is, and whether its future is done. -/
structure Standing where
  kind : Kind
  path : Text
  isDone : Bool
  deriving DecidableEq

def State.standing (state : State) (id : Nat) : Option Standing :=
  (state.task id).map fun task => ⟨task.kind, task.path, task.place.isDone⟩

theorem State.live_of_standing {path : Text}
    (stands : state.standing id = some ⟨.prefetch, path, false⟩) :
    state.Live path id := by
  obtain ⟨task, found, stands⟩ := Option.map_eq_some_iff.mp stands
  obtain ⟨kind, placed, pending⟩ := Standing.mk.inj stands
  exact ⟨task, State.prefetch_of_kind found kind, placed, pending⟩

theorem popped_registered_iff :
    (system sampleSetting).Throughout Registered sampleStart popped ↔
      (system sampleSetting).Meets PopsDone sampleStart popped := by
  have completes :
      ((system sampleSetting).run sampleStart popped).isSome := by decide +kernel
  obtain ⟨final, ran⟩ := Option.isSome_iff_exists.mp completes
  exact prefetches_registered_iff sampleSetting sampleStart final popped
    sampleStart_initial ran

/-- Two prefetches of one child are queued, and one of them is forgotten. -/
theorem raced_unregistered :
    Initial sampleStart ∧ ∃ final,
      (system sampleSetting).run sampleStart raced = some final ∧
      final.Live ['/', 'a', '/', 'd', '/'] 4 ∧
      final.Live ['/', 'a', '/', 'd', '/'] 6 ∧
      final.prefetches ['/', 'a', '/', 'd', '/'] = some 6 ∧
      ¬ Registered final := by
  have stands : ((system sampleSetting).run sampleStart raced).map (fun state =>
      (state.standing 4, state.standing 6,
        state.prefetches ['/', 'a', '/', 'd', '/'])) =
      some (some ⟨.prefetch, ['/', 'a', '/', 'd', '/'], false⟩,
        some ⟨.prefetch, ['/', 'a', '/', 'd', '/'], false⟩, some 6) := by
    decide +kernel
  obtain ⟨final, ran, stands⟩ := Option.map_eq_some_iff.mp stands
  obtain ⟨first, stands⟩ := Prod.mk.inj stands
  obtain ⟨second, entry⟩ := Prod.mk.inj stands
  have isFirst := State.live_of_standing first
  have isSecond := State.live_of_standing second
  refine ⟨sampleStart_initial, final, ran, isFirst, isSecond, entry, ?_⟩
  intro registered
  exact absurd (registered.single _ 4 6 isFirst isSecond) (by decide)

end Catwalk.Service
