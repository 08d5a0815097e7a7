import Catwalk.Service.Joins
import Catwalk.Service.Prefetches
import Catwalk.Theory.WaitFor

/-! Who waits for whom in the services: requests for prefetches and flights,
queries for the gate, and queued prefetches for a worker. -/

namespace Catwalk.Service

/-- A task that has neither answered nor failed. -/
def Place.unfinished : Place → Bool
  | .cancelled | .ended | .failed _ => false
  | _ => true

def RollupPlace.unfinished : RollupPlace → Bool
  | .ended | .failed _ => false
  | _ => true

def Activity.unfinished : Activity → Bool
  | .listing task => task.place.unfinished
  | .rollup task => task.place.unfinished

def State.Unfinished (state : State) (id : Nat) : Prop :=
  ∃ activity, state.activity id = some activity ∧ activity.unfinished = true

/-- Whom an activity waits for: the prefetch it joined, the leader of the flight
it follows, who is inside the full gate, and, while it is queued itself, the
prefetches ahead of it and those that keep all workers busy. -/
inductive Waits (cfg : Config) (state : State) : Nat → Nat → Prop
  | join {id future : Nat} {task other : Task}
      (found : state.task id = some task) (place : task.place = .join future)
      (known : state.task future = some other)
      (pending : other.place.isDone = false) : Waits cfg state id future
  | flight {id leader flight : Nat} {task : Task} {key : ListingKey}
      (found : state.task id = some task)
      (place : task.place = .caching (.follow flight))
      (pending : state.listings.futures flight = some ⟨key, .pending⟩)
      (leads : (state.view leader).leads = some flight) :
      Waits cfg state id leader
  | gate {id holder slots : Nat} {activity : Activity}
      (found : state.activity id = some activity)
      (atGate : activity.atGate = true) (gated : cfg.queryThreads = some slots)
      (full : slots ≤ state.gate.length) (inside : holder ∈ state.gate) :
      Waits cfg state id holder
  | worker {id other : Nat} {task serving : Task}
      (found : state.task id = some task) (queued : task.place = .queued)
      (full : prefetchWorkers ≤ state.busy)
      (known : state.prefetch other = some serving)
      (begun : serving.place.stage = .executing) : Waits cfg state id other
  | queue {id other : Nat} {task ahead : Task} {front back : List Nat}
      (found : state.task id = some task) (queued : task.place = .queued)
      (known : state.task other = some ahead) (waiting : ahead.place = .queued)
      (pool : state.pool = front ++ id :: back) (before : other ∈ front) :
      Waits cfg state id other

/-- The steps of the thread that runs an activity; a queued prefetch has the
workers of the pool. -/
def State.threadSteps (state : State) (id : Nat) : List Label :=
  match (state.task id).map Task.place with
  | some .queued => [.take]
  | _ => [.advance id, .epoch (.enter id), .epoch (.check id),
      .epoch (.store id)]

def State.CanStep (setting : Setting) (state : State) (id : Nat) : Prop :=
  ∃ label ∈ state.threadSteps id, (step setting state label).isSome = true

/-- A transaction of the activity is at the backend. -/
def Activity.querying : Activity → Bool
  | .listing task =>
      match task.place with
      | .query _ .catalog | .query _ (.read _) => true
      | _ => false
  | .rollup task =>
      match task.place with
      | .scanCatalog | .scan _ | .seedCatalog _ _ | .seed _ _ _ => true
      | _ => false

/-- A query of the activity, or its LIST of the snapshots, is executing. -/
def State.Querying (state : State) (id : Nat) : Prop :=
  (∃ activity, state.activity id = some activity ∧ activity.querying = true) ∨
    ∃ previous, state.epochs.calls id = .listing previous

/-- A queued prefetch, at its position, ranks above a join, a join above a
follower, and a follower above who asks for the gate. -/
def Place.rank (position : Nat) : Place → Nat
  | .queued => 4 + position
  | .join _ => 3
  | .caching (.follow _) => 2
  | .query _ .gate => 1
  | _ => 0

def RollupPlace.rank : RollupPlace → Nat
  | .gate => 1
  | _ => 0

def State.rank (state : State) (id : Nat) : Nat :=
  match state.activity id with
  | some (.listing task) => task.place.rank (state.pool.idxOf id)
  | some (.rollup task) => task.place.rank
  | none => 0

variable {setting : Setting} {state after : State} {id : Nat} {task : Task}

theorem State.rank_of_task (found : state.task id = some task) :
    state.rank id = task.place.rank (state.pool.idxOf id) := by
  rw [State.rank, State.task_eq_some.mp found]

theorem Place.rank_of_serving {place : Place} (position : Nat)
    (serving : place.serving = true) : place.rank position ≤ 2 := by
  cases place with
  | keying => exact Nat.zero_le 2
  | caching caller => cases caller <;> simp [Place.rank]
  | query flight stage => cases stage <;> simp [Place.rank]
  | _ => cases serving

theorem Place.rank_of_leads {place : Place} {flight : Nat} (position : Nat)
    (leads : place.leads = some flight) : place.rank position ≤ 1 := by
  cases place with
  | caching caller => cases caller <;> first | exact Nat.zero_le 1 | cases leads
  | query flight stage => cases stage <;> simp [Place.rank]
  | _ => cases leads

theorem State.rank_of_inGate (inGate : (state.view id).inGate = true) :
    state.rank id = 0 := by
  unfold State.view at inGate
  unfold State.rank
  split at inGate
  next activity found =>
    rw [found]
    cases activity with
    | listing task =>
        simp only [Activity.view, Task.view] at inGate ⊢
        cases place : task.place with
        | query flight stage =>
            rw [place] at inGate
            cases stage <;> first | rfl | cases inGate
        | _ =>
            rw [place] at inGate
            cases inGate
    | rollup task =>
        simp only [Activity.view] at inGate ⊢
        cases place : task.place <;> rw [place] at inGate <;>
          first | rfl | cases inGate
  · cases inGate

/-- A prefetch that waits or runs, but is not queued, is with a worker. -/
theorem Staffed.serving_of_prefetch (staffed : Staffed state)
    (found : state.prefetch id = some task) (begun : task.place ≠ .queued)
    (pending : task.place.isDone = false) : task.place.serving = true := by
  obtain ⟨found, kind⟩ := State.prefetch_eq_some.mp found
  rcases (staffed.fits id task found).prefetch kind with
    pooled | serving | ended
  · cases place : task.place with
    | queued => exact absurd place begun
    | cancelled =>
        rw [place] at pending
        cases pending
    | _ =>
        rw [place] at pooled
        cases pooled
  · exact serving
  · rw [ended] at pending
    cases pending

theorem Staffed.joined_serves {future : Nat} {other : Task}
    (staffed : Staffed state) (found : state.task id = some task)
    (place : task.place = .join future)
    (known : state.task future = some other)
    (pending : other.place.isDone = false) : other.place.serving = true := by
  have knows := (staffed.fits id task found).known
  rw [place] at knows
  obtain ⟨prefetch, isPrefetch, begun⟩ := knows
  cases known.symm.trans (State.prefetch_eq_some.mp isPrefetch).1
  exact staffed.serving_of_prefetch isPrefetch begun pending

theorem waits_ranked (staffed : Staffed state)
    (tended : Tended setting.cfg state) :
    Ranked (Waits setting.cfg state) state.rank := by
  intro waiter other waits
  cases waits with
  | join found place known pending =>
      have serving := staffed.joined_serves found place known pending
      rw [State.rank_of_task found, State.rank_of_task known, place]
      exact Nat.lt_succ_of_le (Place.rank_of_serving _ serving)
  | flight found place pending leads =>
      obtain ⟨leader, known, leads⟩ := State.view_leads leads
      rw [State.rank_of_task found, State.rank_of_task known, place]
      exact Nat.lt_succ_of_le (Place.rank_of_leads _ leads)
  | @gate _ activity found atGate gated full inside =>
      have inGate := ((tended.gate _ gated).held_iff other).mp inside
      rw [State.rank_of_inGate inGate, State.rank, found]
      cases activity with
      | listing task =>
          simp only [Activity.atGate] at atGate ⊢
          split at atGate
          next place =>
            rw [place]
            exact Nat.one_pos
          · cases atGate
      | rollup task =>
          simp only [Activity.atGate] at atGate ⊢
          split at atGate
          next place =>
            rw [place]
            exact Nat.one_pos
          · cases atGate
  | worker found queued full known begun =>
      obtain ⟨known, kind⟩ := State.prefetch_eq_some.mp known
      have serving := staffed.serving_of_kind known kind begun
      have low := Place.rank_of_serving (state.pool.idxOf other) serving
      rw [State.rank_of_task found, State.rank_of_task known, queued]
      exact low.trans_lt (Nat.lt_add_right _ (by decide))
  | @queue _ _ front back found queued known waiting pool before =>
      have nodup : (front ++ waiter :: back).Nodup :=
        pool ▸ staffed.workers.nodup
      have absent : waiter ∉ front := by
        intro member
        exact (List.nodup_append.mp nodup).2.2 waiter member waiter
          List.mem_cons_self rfl
      have earlier : state.pool.idxOf other < state.pool.idxOf waiter := by
        rw [pool, List.idxOf_append_of_mem before,
          List.idxOf_append_of_notMem absent]
        exact (List.idxOf_lt_length_iff.mpr before).trans_le
          (Nat.le_add_right _ _)
      rw [State.rank_of_task found, State.rank_of_task known, queued, waiting]
      exact Nat.add_lt_add_left earlier 4

/-- Whoever is unfinished and not blocked can go on, or is at the backend. -/
def State.Free (setting : Setting) (state : State) (id : Nat) : Prop :=
  state.CanStep setting id ∨ state.Querying id

/-- The activity is free, or waits for an unfinished one. -/
def State.Excused (setting : Setting) (state : State) (id : Nat) : Prop :=
  state.Free setting id ∨
    ∃ other, Waits setting.cfg state id other ∧ state.Unfinished other

theorem State.Free.excused (free : state.Free setting id) :
    state.Excused setting id :=
  .inl free

theorem State.unfinished_of_task (found : state.task id = some task)
    (unfinished : task.place.unfinished = true) : state.Unfinished id :=
  ⟨.listing task, State.task_eq_some.mp found, unfinished⟩

theorem State.unfinished_of_inGate (inGate : (state.view id).inGate = true) :
    state.Unfinished id := by
  unfold State.view at inGate
  split at inGate
  next activity found =>
    refine ⟨activity, found, ?_⟩
    cases activity with
    | listing task =>
        simp only [Activity.view, Task.view] at inGate
        simp only [Activity.unfinished]
        cases place : task.place <;> rw [place] at inGate <;>
          first | rfl | cases inGate
    | rollup task =>
        simp only [Activity.view] at inGate
        simp only [Activity.unfinished]
        cases place : task.place <;> rw [place] at inGate <;>
          first | rfl | cases inGate
  · cases inGate

theorem Place.unfinished_of_leads {place : Place} {flight : Nat}
    (leads : place.leads = some flight) : place.unfinished = true := by
  cases place <;> first | rfl | cases leads

theorem Place.unfinished_of_serving {place : Place}
    (serving : place.serving = true) : place.unfinished = true := by
  cases place <;> first | rfl | cases serving

theorem State.CanStep.of_step {label : Label}
    (begun : ∀ task, state.task id = some task → task.place ≠ .queued)
    (member : label ∈ [Label.advance id, .epoch (.enter id),
      .epoch (.check id), .epoch (.store id)])
    (enabled : (step setting state label).isSome = true) :
    state.CanStep setting id := by
  refine ⟨label, ?_, enabled⟩
  unfold State.threadSteps
  cases found : state.task id with
  | none => exact member
  | some task =>
      have running := begun task found
      cases place : task.place with
      | queued => exact absurd place running
      | _ =>
          simp only [Option.map_some, place]
          exact member

theorem free_of_advance (found : state.task id = some task)
    (begun : task.place ≠ .queued)
    (enabled : (task.advance setting state id).isSome = true) :
    state.Free setting id := by
  refine .inl (.of_step ?_ List.mem_cons_self ?_)
  · intro other known
    cases found.symm.trans known
    exact begun
  · rw [step_advance found]
    exact enabled

theorem free_of_advanceRollup {task : RollupTask}
    (found : state.activity id = some (.rollup task))
    (enabled : (task.advance setting state id).isSome = true) :
    state.Free setting id := by
  refine .inl (.of_step ?_ List.mem_cons_self ?_)
  · intro other known
    rw [State.task_of_rollup found] at known
    cases known
  · rw [step, found]
    exact enabled

/-- Whoever reads the epoch can go on, or its LIST is requested. -/
theorem free_of_reading {activity : Activity}
    (found : state.activity id = some activity)
    (reads : activity.readsEpoch = true)
    (taken : ∀ epoch, state.epochs.calls id = .returned epoch →
      (step setting state (.advance id)).isSome = true) :
    state.Free setting id := by
  have begun : ∀ task, state.task id = some task → task.place ≠ .queued := by
    intro task known queued
    cases (State.task_eq_some.mp known).symm.trans found
    rw [Activity.readsEpoch, queued] at reads
    cases reads
  have canStep : ∀ label ∈ [Label.advance id, .epoch (.enter id),
      .epoch (.check id), .epoch (.store id)],
      (step setting state label).isSome = true → state.Free setting id :=
    fun label member enabled => .inl (.of_step begun member enabled)
  cases call : state.epochs.calls id with
  | idle =>
      apply canStep (.epoch (.enter id)) (by simp)
      simp only [step, State.permits, found, call, reads, Epoch.step,
        ↓reduceIte, Option.isSome_map]
      split <;> rfl
  | clocked now =>
      apply canStep (.epoch (.check id)) (by simp)
      simp only [step, State.permits, call, Epoch.step, ↓reduceIte,
        Option.isSome_map]
      split <;> rfl
  | listing previous => exact .inr (.inr ⟨previous, call⟩)
  | answered previous moment fresh =>
      apply canStep (.epoch (.store id)) (by simp)
      simp [step, State.permits, call, Epoch.step]
  | returned epoch =>
      exact canStep (.advance id) List.mem_cons_self (taken epoch call)

/-- Whoever asks for the gate enters it, or waits for who is inside. -/
theorem excused_at_gate {activity : Activity}
    (tended : Tended setting.cfg state)
    (gateOpen : ∀ slots, setting.cfg.queryThreads = some slots → 0 < slots)
    (found : state.activity id = some activity)
    (atGate : activity.atGate = true)
    (entered : ∀ after, state.acquire setting.cfg id = some after →
      state.Free setting id) : state.Excused setting id := by
  cases acquired : state.acquire setting.cfg id with
  | some after => exact (entered after acquired).excused
  | none =>
      unfold State.acquire at acquired
      split at acquired
      · cases acquired
      next slots gated =>
        split at acquired
        · cases acquired
        next full =>
          rw [Nat.not_lt] at full
          obtain ⟨holder, inside⟩ :=
            List.exists_mem_of_length_pos ((gateOpen slots gated).trans_le full)
          refine .inr ⟨holder, .gate found atGate gated full inside, ?_⟩
          exact State.unfinished_of_inGate
            (((tended.gate slots gated).held_iff holder).mp inside)

theorem Staffed.excused_queued (staffed : Staffed state)
    (found : state.task id = some task) (queued : task.place = .queued) :
    state.Excused setting id := by
  have kind := (staffed.fits id task found).pooled (by rw [queued]; rfl)
  have prefetch := State.prefetch_of_kind found kind
  by_cases full : prefetchWorkers ≤ state.busy
  · have working : 0 < state.workers.working.card := by
      rw [← staffed.workers.busy]
      exact Nat.lt_of_lt_of_le (by decide) full
    obtain ⟨other, working⟩ := Finset.card_pos.mp working
    obtain ⟨known, begun⟩ := WorkPool.mem_within.mp working
    obtain ⟨serving, known⟩ := State.mem_known.mp known
    rw [State.stage_of_found known] at begun
    have begun : serving.place.stage = .executing := by
      rcases begun with executing | returning
      · exact executing
      · cases place : serving.place <;> rw [place] at returning <;>
          cases returning
    obtain ⟨worker, isPrefetch⟩ := State.prefetch_eq_some.mp known
    refine .inr ⟨other, .worker found queued full known begun, ?_⟩
    exact State.unfinished_of_task worker (Place.unfinished_of_serving
      (staffed.serving_of_kind worker isPrefetch begun))
  · have waiting : state.workers.stage id = .waiting := by
      rw [State.stage_of_found prefetch, queued]
      rfl
    have member : id ∈ state.pool :=
      staffed.workers.waits id (State.mem_known.mpr ⟨task, prefetch⟩) waiting
    refine .inl (.inl ⟨.take, ?_, ?_⟩)
    · simp [State.threadSteps, found, queued]
    · simp only [Service.step, State.takePrefetch]
      cases pool : state.pool with
      | nil =>
          rw [pool] at member
          cases member
      | cons oldest rest =>
          have first : oldest ∈ state.workers.queue := by
            show oldest ∈ state.pool
            rw [pool]
            exact List.mem_cons_self
          obtain ⟨ahead, known⟩ :=
            State.mem_known.mp (staffed.workers.known oldest first)
          have stage := staffed.workers.items oldest first
          rw [State.stage_of_found known] at stage
          simp only [if_pos (Nat.lt_of_not_le full),
            (State.prefetch_eq_some.mp known).1, Option.bind_some]
          cases place : ahead.place <;> rw [place] at stage <;>
            first | rfl | simp [Place.stage] at stage

theorem Staffed.excused_join {future : Nat} (staffed : Staffed state)
    (found : state.task id = some task) (place : task.place = .join future) :
    state.Excused setting id := by
  have knows := (staffed.fits id task found).known
  rw [place] at knows
  obtain ⟨other, isPrefetch, _⟩ := knows
  have known := (State.prefetch_eq_some.mp isPrefetch).1
  cases done : other.place.isDone with
  | true =>
      apply (free_of_advance found (by simp [place]) ?_).excused
      simp [Task.advance, place, known, done]
  | false =>
      refine .inr ⟨future, .join found place known done, ?_⟩
      exact State.unfinished_of_task known (Place.unfinished_of_serving
        (staffed.joined_serves found place known done))

theorem excused_caching {caller : Caller Cached String}
    (tended : Tended setting.cfg state) (holds : state.Holds valued)
    (found : state.task id = some task)
    (place : task.place = .caching caller) : state.Excused setting id := by
  have begun : task.place ≠ .queued := by simp [place]
  have carries := holds.task found
  rw [place] at carries
  have goes : (task.advanceCaching setting state id caller).isSome = true →
      state.Excused setting id := by
    intro enabled
    apply (free_of_advance found begun ?_).excused
    rw [Task.advance, place]
    exact enabled
  cases caller with
  | compute flight => exact carries.elim
  | returned value fromCache =>
      obtain ⟨value, rfl⟩ := Option.isSome_iff_exists.mp carries
      exact goes rfl
  | raised error => exact goes rfl
  | get =>
      apply goes
      simp only [Task.advanceCaching, Option.isSome_map,
        SharedCache.getOrCompute]
      split <;> rfl
  | lookup =>
      apply goes
      simp only [Task.advanceCaching, Option.isSome_map,
        SharedCache.getOrCompute]
      split <;> rfl
  | follow flight =>
      obtain ⟨outcome, future⟩ := carries
      cases outcome with
      | pending =>
          obtain ⟨leader, leads⟩ := tended.led flight _ future
          obtain ⟨other, known, led⟩ := State.view_leads leads
          refine .inr ⟨leader, .flight found place future leads, ?_⟩
          exact State.unfinished_of_task known (Place.unfinished_of_leads led)
      | result value =>
          apply goes
          simp [Task.advanceCaching, SharedCache.getOrCompute, future]
      | exception error =>
          apply goes
          simp [Task.advanceCaching, SharedCache.getOrCompute, future]
  | put | unregister | publish | unregisterFailed | publishFailed =>
      exact goes rfl

theorem excused_query {flight : Option Nat} {stage : Stage}
    (tended : Tended setting.cfg state)
    (gateOpen : ∀ slots, setting.cfg.queryThreads = some slots → 0 < slots)
    (found : state.task id = some task)
    (place : task.place = .query flight stage) : state.Excused setting id := by
  have begun : task.place ≠ .queued := by simp [place]
  have activity := State.task_eq_some.mp found
  cases stage with
  | derive =>
      apply (free_of_advance found begun ?_).excused
      simp only [Task.advance, place, Task.advanceQuery]
      split
      · split <;> rfl
      · rfl
  | gate =>
      refine excused_at_gate tended gateOpen activity ?_ fun after acquired => ?_
      · simp [Activity.atGate, place]
      · apply free_of_advance found begun
        simp [Task.advance, place, Task.advanceQuery, acquired]
  | catalog =>
      exact .inl (.inr (.inl ⟨_, activity, by simp [Activity.querying, place]⟩))
  | read source =>
      exact .inl (.inr (.inl ⟨_, activity, by simp [Activity.querying, place]⟩))
  | release outcome =>
      apply (free_of_advance found begun ?_).excused
      simp [Task.advance, place, Task.advanceQuery]

theorem excused_rollup {task : RollupTask} (tended : Tended setting.cfg state)
    (gateOpen : ∀ slots, setting.cfg.queryThreads = some slots → 0 < slots)
    (found : state.activity id = some (.rollup task))
    (unfinished : task.place.unfinished = true) : state.Excused setting id := by
  have atBackend : (Activity.rollup task).querying = true →
      state.Excused setting id :=
    fun querying => .inl (.inr (.inl ⟨_, found, querying⟩))
  cases place : task.place with
  | keying =>
      apply (free_of_reading found ?_ fun epoch call => ?_).excused
      · simp [Activity.readsEpoch, place]
      · simp [step, found, RollupTask.advance, place, State.takeEpoch, call]
  | gate =>
      refine excused_at_gate tended gateOpen found ?_ fun after acquired => ?_
      · simp [Activity.atGate, place]
      · apply free_of_advanceRollup found
        simp [RollupTask.advance, place, acquired]
  | scanCatalog | scan | seedCatalog | seed =>
      apply atBackend
      simp [Activity.querying, place]
  | release outcome =>
      apply (free_of_advanceRollup found ?_).excused
      simp only [RollupTask.advance, place]
      split <;> rfl
  | store value =>
      apply (free_of_advanceRollup found ?_).excused
      simp [RollupTask.advance, place]
  | ended | failed =>
      rw [place] at unfinished
      cases unfinished

theorem excused_listing (staffed : Staffed state)
    (tended : Tended setting.cfg state) (holds : state.Holds valued)
    (gateOpen : ∀ slots, setting.cfg.queryThreads = some slots → 0 < slots)
    (found : state.task id = some task)
    (unfinished : task.place.unfinished = true) : state.Excused setting id := by
  have reads : (Activity.listing task).readsEpoch = true →
      (∀ epoch, state.epochs.calls id = .returned epoch →
        (task.advance setting state id).isSome = true) →
      state.Excused setting id := by
    intro reads taken
    apply (free_of_reading (State.task_eq_some.mp found) reads ?_).excused
    intro epoch call
    rw [step_advance found]
    exact taken epoch call
  have goes : task.place ≠ .queued →
      (task.advance setting state id).isSome = true →
      state.Excused setting id :=
    fun begun enabled => (free_of_advance found begun enabled).excused
  cases place : task.place with
  | queued => exact staffed.excused_queued found place
  | join future => exact staffed.excused_join found place
  | caching caller => exact excused_caching tended holds found place
  | query flight stage => exact excused_query tended gateOpen found place
  | keying | children | reporting =>
      apply reads
      · simp [Activity.readsEpoch, place]
      · intro epoch call
        simp [Task.advance, place, State.takeEpoch, call]
  | lookup =>
      apply goes (by simp [place])
      simp only [Task.advance, place]
      split <;> rfl
  | cancel future =>
      have known := (staffed.fits id task found).known
      rw [place] at known
      obtain ⟨other, isPrefetch⟩ := known
      apply goes (by simp [place])
      simp [Task.advance, place, Task.cancelPrefetch,
        (State.prefetch_eq_some.mp isPrefetch).1]
  | expiresIn =>
      apply goes (by simp [place])
      simp only [Task.advance, place]
      split
      · split <;> rfl
      · rfl
  | peek =>
      apply goes (by simp [place])
      simp only [Task.advance, place]
      split <;> rfl
  | pop | store | prefetching | submitting =>
      apply goes (by simp [place])
      simp [Task.advance, place]
  | cancelled | ended | failed =>
      rw [place] at unfinished
      cases unfinished

theorem excused_of_unfinished (staffed : Staffed state)
    (tended : Tended setting.cfg state) (holds : state.Holds valued)
    (gateOpen : ∀ slots, setting.cfg.queryThreads = some slots → 0 < slots)
    (unfinished : state.Unfinished id) : state.Excused setting id := by
  obtain ⟨activity, found, unfinished⟩ := unfinished
  cases activity with
  | listing task =>
      exact excused_listing staffed tended holds gateOpen
        (State.task_eq_some.mpr found) unfinished
  | rollup task => exact excused_rollup tended gateOpen found unfinished

/-- Nobody waits in a circle; and as the gate has slots (`query_threads` is at
least 1), whoever is unfinished waits for somebody who can go on or has a query
at the backend. -/
theorem no_circular_wait (setting : Setting)
    (gateOpen : ∀ slots, setting.cfg.queryThreads = some slots → 0 < slots)
    (state : State)
    (reachable : (system setting).Reachable StepSystem.AnyStep state) :
    NoCircularWait (Waits setting.cfg state) ∧
      ∀ id, state.Unfinished id → ∃ other,
        Relation.ReflTransGen (Waits setting.cfg state) id other ∧
          (state.CanStep setting other ∨ state.Querying other) := by
  have staffed := staffed_of_reachable reachable
  have tended := tended_of_reachable reachable
  have holds := holds_of_reachable (valued_kept setting) reachable
  have ranked := waits_ranked staffed tended
  refine ⟨ranked.noCircularWait, fun id unfinished => ?_⟩
  exact ranked.exists_free
    (fun _ waiting => excused_of_unfinished staffed tended holds gateOpen waiting)
    unfinished

/-! A request that joined a prefetch, whose query waits while two rollups fill
the gate. -/

def Place.joins : Place → Option Nat
  | .join future => some future
  | _ => none

def crowding (id : Nat) : List Label :=
  .rollup ['b'] 1 :: reading id ++ List.replicate 2 (.advance id)

def crowded : List Label :=
  opening ++ reading 1 ++ List.replicate 3 (.advance 1) ++ clicking ++
    crowding 3 ++ crowding 4

theorem Place.eq_of_joins {place : Place} {future : Nat}
    (joins : place.joins = some future) : place = .join future := by
  cases place <;> cases joins
  rfl

theorem crowded_waits :
    ∃ final, (system sampleSetting).run sampleStart crowded = some final ∧
      Waits sampleSetting.cfg final 2 1 ∧ Waits sampleSetting.cfg final 1 3 ∧
      NoCircularWait (Waits sampleSetting.cfg final) ∧
      ∃ other, Relation.ReflTransGen (Waits sampleSetting.cfg final) 2 other ∧
        (final.CanStep sampleSetting other ∨ final.Querying other) := by
  have stands : ((system sampleSetting).run sampleStart crowded).map
      (fun state => ((state.task 2).bind (·.place.joins),
        (state.task 1).map (·.place.isDone),
        (state.activity 1).map Activity.atGate, state.gate)) =
      some (some 1, some false, some true, [4, 3]) := by decide +kernel
  obtain ⟨final, ran, stands⟩ := Option.map_eq_some_iff.mp stands
  simp only [Prod.mk.injEq] at stands
  obtain ⟨joins, done, atGate, gate⟩ := stands
  obtain ⟨request, found, joins⟩ := Option.bind_eq_some_iff.mp joins
  obtain ⟨prefetch, known, pending⟩ := Option.map_eq_some_iff.mp done
  obtain ⟨asking, activity, atGate⟩ := Option.map_eq_some_iff.mp atGate
  obtain ⟨acyclic, live⟩ := no_circular_wait sampleSetting
    (fun slots gated => by cases gated; decide) final
    (.of_run (.start sampleStart_initial) (.any _ _ _) ran)
  refine ⟨final, ran, .join found (Place.eq_of_joins joins) known pending,
    .gate activity atGate rfl ?_ ?_, acyclic, live 2 ?_⟩
  · rw [gate]
    exact le_rfl
  · rw [gate]
    decide
  · refine State.unfinished_of_task found ?_
    rw [Place.eq_of_joins joins]
    rfl

end Catwalk.Service
