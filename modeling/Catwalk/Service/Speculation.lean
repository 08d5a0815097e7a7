import Catwalk.Data.Updates
import Catwalk.Service.Joins
import Catwalk.Service.Prefetches

/-! How much a page may set in motion: speculation never feeds on itself, and
what runs at one time is bounded. -/

namespace Catwalk.Service

/-- How many prefetches the task may still submit, `children` being the most that
one page asks for. -/
def Place.owed (children : Nat) (ofPage : Bool) : Place → Nat
  | .children _ _ => children
  | .prefetching _ _ _ names => names.length
  | .submitting _ _ _ _ names => names.length + 1
  | .reporting _ _ | .cancelled | .ended | .failed _ => 0
  | _ => if ofPage then children else 0

def Kind.isPage (kind : Kind) : Bool := kind = .page

def Task.isPrefetch (task : Task) : Bool := task.kind = .prefetch

def Activity.isPage : Activity → Bool
  | .listing task => task.kind.isPage
  | .rollup _ => false

def Activity.isPrefetch : Activity → Bool
  | .listing task => task.isPrefetch
  | .rollup _ => false

/-- A prefetch that was submitted, or those that may follow. -/
def Task.charge (children : Nat) (task : Task) : Nat :=
  (if task.isPrefetch then 1 else 0) + task.place.owed children task.kind.isPage

def Activity.charge (children : Nat) : Activity → Nat
  | .listing task => task.charge children
  | .rollup _ => 0

namespace State

def charged (children : Nat) (state : State) : Nat :=
  (state.tasks.map (Activity.charge children)).sum

/-- The `list_page` calls so far. -/
def pages (state : State) : Nat := state.tasks.countP Activity.isPage

/-- The prefetches submitted so far. -/
def prefetched (state : State) : Nat := state.tasks.countP Activity.isPrefetch

end State

/-- What a step adds to the prefetches of others is paid for by a page, and no
worker starts beyond the size of the pool. -/
structure Thrifty (children : Nat) (state after : State) : Prop where
  charged : after.charged children + children * state.pages ≤
    state.charged children + children * after.pages
  busy : after.busy ≤ max state.busy prefetchWorkers

section Lists

theorem countP_le_sum_map {Item : Type} {test : Item → Bool} {weight : Item → Nat}
    (counts : ∀ item, test item = true → 1 ≤ weight item) (list : List Item) :
    list.countP test ≤ (list.map weight).sum := by
  induction list with
  | nil => exact le_rfl
  | cons item rest ih =>
      rw [List.countP_cons, List.map_cons, List.sum_cons]
      split
      next holds =>
        have one := counts item holds
        omega
      next => omega

end Lists

variable {setting : Setting} {children : Nat} {state after middle : State}
  {id : Nat} {task new : Task}

namespace Thrifty

theorem of_tasks (tasks : after.tasks = state.tasks) (busy : after.busy ≤ state.busy) :
    Thrifty children state after where
  charged := by rw [State.charged, State.pages, State.charged, State.pages, tasks]
  busy := busy.trans (le_max_left _ _)

theorem of_same (same : SameTasks state after) : Thrifty children state after :=
  of_tasks same.tasks same.busy.le

theorem refl (state : State) : Thrifty children state state :=
  of_tasks rfl le_rfl

theorem trans (first : Thrifty children state middle)
    (second : Thrifty children middle after) : Thrifty children state after where
  charged := by
    have former := first.charged
    have latter := second.charged
    omega
  busy := by
    have former := first.busy
    have latter := second.busy
    omega

theorem set {old : Activity} {new : Activity} (found : state.activity id = some old)
    (tasks : after.tasks = state.tasks.set id new)
    (busy : after.busy ≤ max state.busy prefetchWorkers)
    (charge : new.charge children ≤ old.charge children)
    (page : new.isPage = old.isPage) : Thrifty children state after where
  charged := by
    have sums := Updates.sum_map_set (Activity.charge children) found new
    have pages : after.pages = state.pages := by
      rw [State.pages, tasks]
      exact Updates.countP_set _ found page
    rw [pages, State.charged, State.charged, tasks]
    omega
  busy := busy

/-- A task goes on, and may submit no more prefetches than before. -/
theorem setTask (same : SameTasks state middle) (found : state.task id = some task)
    (kind : new.kind = task.kind)
    (owed : new.place.owed children task.kind.isPage ≤
      task.place.owed children task.kind.isPage) :
    Thrifty children state (middle.setTask id new) := by
  refine set (State.task_eq_some.mp found)
    (congrArg (fun tasks => tasks.set id (.listing new)) same.tasks)
    (same.busy.le.trans (le_max_left _ _)) ?_ ?_
  · have same : new.isPrefetch = task.isPrefetch := by simp [Task.isPrefetch, kind]
    simp only [Activity.charge, Task.charge, same, kind]
    exact Nat.add_le_add_left owed _
  · simp only [Activity.isPage, kind]

theorem move {old next : Place} (same : SameTasks state middle)
    (found : state.task id = some task) (place : task.place = old)
    (owed : ∀ ofPage, next.owed children ofPage ≤ old.owed children ofPage) :
    Thrifty children state (middle.moveTo id task next) := by
  refine setTask same found rfl ?_
  rw [place]
  exact owed _

theorem enterCache {old : Place} {timedOut : Option Nat} (same : SameTasks state middle)
    (found : state.task id = some task) (place : task.place = old)
    (owed : ∀ ofPage, (Place.caching .get).owed children ofPage ≤
      old.owed children ofPage) :
    Thrifty children state (middle.enterCache id task timedOut) := by
  refine setTask same found rfl ?_
  rw [place]
  exact owed _

theorem setRollup {old fresh : RollupTask} (same : SameTasks state middle)
    (found : state.activity id = some (.rollup old)) :
    Thrifty children state (middle.setActivity id (.rollup fresh)) := by
  have tasks : (middle.setActivity id (.rollup fresh)).tasks =
      state.tasks.set id (.rollup fresh) :=
    congrArg (fun tasks => tasks.set id (.rollup fresh)) same.tasks
  exact set found tasks (same.busy.le.trans (le_max_left _ _)) (Nat.le_refl 0) rfl

theorem add {activity : Activity}
    (charge : activity.charge children ≤ if activity.isPage then children else 0) :
    Thrifty children state (state.add activity) where
  charged := by
    have tasks : (state.add activity).tasks = state.tasks ++ [activity] := rfl
    rw [State.charged, State.charged, State.pages, State.pages, tasks, List.map_append,
      List.sum_append, List.countP_append, Nat.mul_add]
    cases page : activity.isPage with
    | true =>
        rw [page, if_pos rfl] at charge
        simp only [List.map_cons, List.map_nil, List.sum_singleton, List.countP_singleton,
          page, if_true, Nat.mul_one]
        omega
    | false => simp_all
  busy := le_max_left _ _

theorem returned {value : Cached} {fromCache : Bool} {caller : Caller Cached String}
    (found : state.task id = some task) (place : task.place = .caching caller) :
    Thrifty setting.cfg.prefetchChildren state
      (task.returned setting state id value fromCache) := by
  unfold Task.returned
  cases kind : task.kind with
  | page =>
      refine setTask (.refl state) found rfl ?_
      rw [place, kind]
      dsimp only
      split
      · exact Nat.zero_le _
      · exact le_rfl
  | prefetch =>
      have ended : Thrifty setting.cfg.prefetchChildren state
          (state.moveTo id task .ended) :=
        move (.refl state) found place fun _ => Nat.zero_le _
      exact ended.trans (of_tasks rfl (Nat.sub_le _ _))
  | table | warm minTtl =>
      exact move (.refl state) found place fun _ => Nat.zero_le _

theorem raised {error : String} {caller : Caller Cached String}
    (found : state.task id = some task) (place : task.place = .caching caller) :
    Thrifty children state (task.raised state id error) := by
  unfold Task.raised
  cases task.kind with
  | prefetch =>
      have ended : Thrifty children state (state.moveTo id task .ended) :=
        move (.refl state) found place fun _ => Nat.zero_le _
      exact ended.trans (of_tasks rfl (Nat.sub_le _ _))
  | page | table | warm minTtl =>
      exact move (.refl state) found place fun _ => Nat.zero_le _

theorem advanceCaching {caller : Caller Cached String}
    (found : state.task id = some task) (place : task.place = .caching caller)
    (stepped : task.advanceCaching setting state id caller = some after) :
    Thrifty setting.cfg.prefetchChildren state after := by
  unfold Task.advanceCaching at stepped
  split at stepped
  · cases stepped
    exact returned found place
  · cases stepped
    exact raised found place
  · obtain ⟨moved, _, rfl⟩ := Option.map_eq_some_iff.mp stepped
    refine move ⟨rfl, rfl, rfl, rfl⟩ found place fun ofPage => ?_
    cases moved.1 <;> exact le_rfl

theorem queried {flight : Option Nat} {stage : Stage}
    {outcome : Except String (Cached × Nat)} (same : SameTasks state middle)
    (found : state.task id = some task) (place : task.place = .query flight stage) :
    Thrifty children state (task.queried middle id flight outcome) := by
  unfold Task.queried
  refine move same found place fun ofPage => ?_
  cases flight <;> cases outcome <;> first | exact le_rfl | exact Nat.zero_le _

theorem advanceQuery {flight : Option Nat} {stage : Stage}
    (found : state.task id = some task) (place : task.place = .query flight stage)
    (stepped : task.advanceQuery setting state id flight stage = some after) :
    Thrifty children state after := by
  unfold Task.advanceQuery at stepped
  split at stepped
  · generalize state.listings.get state.now task.fullKey = looked at stepped
    obtain ⟨full, listings⟩ := looked
    simp only at stepped
    split at stepped
    · split at stepped <;> cases stepped
      · exact move ⟨rfl, rfl, rfl, rfl⟩ found place fun _ => le_rfl
      · exact queried ⟨rfl, rfl, rfl, rfl⟩ found place
    · cases stepped
      exact move ⟨rfl, rfl, rfl, rfl⟩ found place fun _ => le_rfl
  · obtain ⟨middle, acquired, rfl⟩ := Option.map_eq_some_iff.mp stepped
    exact move (.acquire acquired) found place fun _ => le_rfl
  · cases stepped
    exact queried ⟨rfl, rfl, rfl, rfl⟩ found place
  all_goals cases stepped

theorem advancePrefetching {value : Cached} {fromCache : Bool}
    {epoch : Option String} {names : List Text} (found : state.task id = some task)
    (place : task.place = .prefetching value fromCache epoch names) :
    Thrifty children state
      (task.advancePrefetching state id value fromCache epoch names) := by
  cases names with
  | nil => exact move (.refl state) found place fun _ => Nat.zero_le _
  | cons name names =>
      refine move ⟨rfl, rfl, rfl, rfl⟩ found place fun _ => ?_
      split
      · exact Nat.le_succ _
      · exact le_rfl

theorem cancelPrefetch {future : Nat} (found : state.task id = some task)
    (place : task.place = .cancel future)
    (stepped : task.cancelPrefetch state id future = some after) :
    Thrifty children state after := by
  obtain ⟨other, known, rfl⟩ := Option.map_eq_some_iff.mp stepped
  split
  next queued =>
    have cancelled : Thrifty children state (state.moveTo future other .cancelled) :=
      move (.refl state) known queued fun _ => Nat.zero_le _
    have kept : (state.moveTo future other .cancelled).task id = some task := by
      have turned : Turned state (state.moveTo future other .cancelled) future other
          { other with place := .cancelled } := ⟨known, rfl, rfl, fun _ _ named => named⟩
      rw [turned.task_eq, if_neg, found]
      rintro rfl
      cases found.symm.trans known
      rw [place] at queued
      cases queued
    exact cancelled.trans (move (.refl _) kept place fun _ => le_rfl)
  next => exact move (.refl state) found place fun _ => le_rfl
  next => exact move (.refl state) found place fun _ => le_rfl

/-- The new prefetch is paid for by the name that is taken off the list. -/
theorem submitting {value : Cached} {fromCache : Bool} {epoch : Option String}
    {child : Text} {names : List Text} (found : state.task id = some task)
    (place : task.place = .submitting value fromCache epoch child names) :
    Thrifty children state ((Task.submitPrefetch state child).moveTo id task
      (.prefetching value fromCache epoch names)) := by
  unfold Task.submitPrefetch
  split
  · exact move (.refl state) found place fun _ => Nat.le_succ _
  generalize fresh : Activity.listing ⟨.prefetch, child, .all, [], none, none, .queued⟩ =
    prefetch
  generalize next : { task with place := .prefetching value fromCache epoch names } = moved
  have tasks : (State.moveTo { state.add prefetch with
      prefetches := Function.update state.prefetches child (some state.tasks.length)
      pool := state.pool ++ [state.tasks.length] } id task
        (.prefetching value fromCache epoch names)).tasks =
      (state.tasks ++ [prefetch]).set id (.listing moved) := by
    subst next
    rfl
  have known : (state.tasks ++ [prefetch])[id]? = some (.listing task) := by
    have inside := (List.getElem?_eq_some_iff.mp (State.task_eq_some.mp found)).1
    rw [List.getElem?_append_left inside]
    exact State.task_eq_some.mp found
  have one : prefetch.charge children = 1 ∧ prefetch.isPage = false := by
    subst fresh
    exact ⟨rfl, rfl⟩
  have fewer : moved.charge children + 1 = task.charge children := by
    subst next
    rw [Task.charge, Task.charge, place]
    exact Nat.add_assoc ..
  have page : Activity.isPage (.listing moved) = Activity.isPage (.listing task) := by
    subst next
    rfl
  have sums := Updates.sum_map_set (Activity.charge children) known (.listing moved)
  have pages := Updates.countP_set _ known page
  rw [List.map_append, List.sum_append, List.map_singleton, List.sum_singleton, one.1] at sums
  rw [List.countP_append, List.countP_singleton, one.2] at pages
  constructor
  · rw [State.charged, State.charged, State.pages, State.pages, tasks, pages]
    simp only [Activity.charge] at sums ⊢
    simp only [Bool.false_eq_true, if_false, Nat.add_zero]
    omega
  · exact le_max_left _ _

theorem advance (found : state.task id = some task)
    (stepped : task.advance setting state id = some after) :
    Thrifty setting.cfg.prefetchChildren state after := by
  unfold Task.advance at stepped
  split at stepped
  next place =>
    obtain ⟨⟨epoch, middle⟩, taken, rfl⟩ := Option.map_eq_some_iff.mp stepped
    refine setTask (.takeEpoch taken) found rfl ?_
    rw [place]
    cases task.kind <;> exact le_rfl
  next place =>
    split at stepped <;> cases stepped
    · exact enterCache (.refl state) found place fun _ => le_rfl
    · exact move (.refl state) found place fun _ => le_rfl
  next future place => exact cancelPrefetch found place stepped
  next place =>
    cases stepped
    have forgotten : Thrifty setting.cfg.prefetchChildren state { state with
        prefetches := Function.update state.prefetches task.path none } :=
      of_tasks rfl le_rfl
    exact forgotten.trans (enterCache (.refl _) found place fun _ => le_rfl)
  next future place =>
    obtain ⟨worker, _, stepped⟩ := Option.bind_eq_some_iff.mp stepped
    split at stepped <;> cases stepped
    exact enterCache (.refl state) found place fun _ => le_rfl
  next caller place => exact advanceCaching found place stepped
  next flight stage place => exact advanceQuery found place stepped
  next place =>
    generalize state.listings.expiresIn state.now task.key = expiry at stepped
    obtain ⟨remaining, listings⟩ := expiry
    simp only at stepped
    split at stepped
    · split at stepped <;> cases stepped
      · exact move ⟨rfl, rfl, rfl, rfl⟩ found place fun _ => le_rfl
      · exact move ⟨rfl, rfl, rfl, rfl⟩ found place fun _ => le_rfl
    · cases stepped
      exact move ⟨rfl, rfl, rfl, rfl⟩ found place fun _ => le_rfl
  next place =>
    generalize state.listings.get state.now task.key = peeked at stepped
    obtain ⟨cached, listings⟩ := peeked
    simp only at stepped
    split at stepped <;> cases stepped
    · exact move ⟨rfl, rfl, rfl, rfl⟩ found place fun _ => Nat.zero_le _
    · exact move ⟨rfl, rfl, rfl, rfl⟩ found place fun _ => le_rfl
  next value nbytes place =>
    cases stepped
    exact move ⟨rfl, rfl, rfl, rfl⟩ found place fun _ => Nat.zero_le _
  next value fromCache place =>
    obtain ⟨⟨epoch, middle⟩, taken, rfl⟩ := Option.map_eq_some_iff.mp stepped
    exact move (.takeEpoch taken) found place fun _ => List.length_take_le _ _
  next value fromCache epoch names place =>
    cases stepped
    exact advancePrefetching found place
  next value fromCache epoch child names place =>
    cases stepped
    exact submitting found place
  next value fromCache place =>
    obtain ⟨⟨epoch, middle⟩, taken, rfl⟩ := Option.map_eq_some_iff.mp stepped
    have ended : Thrifty setting.cfg.prefetchChildren state (middle.moveTo id task .ended) :=
      move (.takeEpoch taken) found place fun _ => Nat.zero_le _
    exact ended.trans (of_tasks rfl le_rfl)
  all_goals cases stepped

theorem advanceRollup {task : RollupTask} (found : state.activity id = some (.rollup task))
    (stepped : task.advance setting state id = some after) :
    Thrifty children state after := by
  unfold RollupTask.advance at stepped
  split at stepped
  · obtain ⟨⟨epoch, middle⟩, taken, rfl⟩ := Option.map_eq_some_iff.mp stepped
    exact setRollup (.takeEpoch taken) found
  · obtain ⟨middle, acquired, rfl⟩ := Option.map_eq_some_iff.mp stepped
    exact setRollup (.acquire acquired) found
  · simp only at stepped
    split at stepped <;> cases stepped
    · exact setRollup ⟨rfl, rfl, rfl, rfl⟩ found
    · exact setRollup ⟨rfl, rfl, rfl, rfl⟩ found
  · cases stepped
    exact setRollup ⟨rfl, rfl, rfl, rfl⟩ found
  · cases stepped

theorem stepCatalog {usable : Bool}
    (stepped : stepCatalog setting state id usable = some after) :
    Thrifty children state after := by
  obtain ⟨activity, found, stepped⟩ := Option.bind_eq_some_iff.mp stepped
  cases activity with
  | listing task =>
      simp only at stepped
      split at stepped
      next flight place =>
        obtain ⟨⟨source, middle⟩, chosen, rfl⟩ := Option.map_eq_some_iff.mp stepped
        exact move (.catalog chosen) (State.task_eq_some.mpr found) place fun _ => le_rfl
      · cases stepped
  | rollup task =>
      simp only at stepped
      split at stepped
      · obtain ⟨⟨source, middle⟩, chosen, rfl⟩ := Option.map_eq_some_iff.mp stepped
        exact setRollup (.catalog chosen) found
      · obtain ⟨⟨source, middle⟩, chosen, rfl⟩ := Option.map_eq_some_iff.mp stepped
        exact setRollup (.catalog chosen) found
      · cases stepped

theorem stepFail {error : String} (stepped : stepFail state id error = some after) :
    Thrifty children state after := by
  obtain ⟨activity, found, stepped⟩ := Option.bind_eq_some_iff.mp stepped
  cases activity with
  | listing task =>
      have known := State.task_eq_some.mpr found
      simp only at stepped
      split at stepped
      next flight place =>
        cases stepped
        exact move (.refl state) known place fun _ => le_rfl
      next flight source place =>
        cases stepped
        exact move (.refl state) known place fun _ => le_rfl
      · cases stepped
  | rollup task =>
      simp only at stepped
      split at stepped
      all_goals cases stepped
      all_goals exact setRollup (.refl state) found

theorem takePrefetch (stepped : state.takePrefetch = some after) :
    Thrifty children state after := by
  unfold State.takePrefetch at stepped
  split at stepped
  · cases stepped
  next oldest rest pool =>
    split at stepped
    next free =>
      obtain ⟨task, found, stepped⟩ := Option.bind_eq_some_iff.mp stepped
      simp only at stepped
      split at stepped
      next queued =>
        cases stepped
        have begun : Thrifty children state (state.moveTo oldest task .keying) :=
          move (.refl state) found queued fun _ => le_rfl
        exact ⟨begun.charged, (Nat.succ_le_of_lt free).trans (le_max_right _ _)⟩
      next cancelled =>
        cases stepped
        exact of_tasks rfl le_rfl
      · cases stepped
    · cases stepped

theorem step {label : Label} (stepped : Service.step setting state label = some after) :
    Thrifty setting.cfg.prefetchChildren state after := by
  cases label with
  | epoch label =>
      simp only [Service.step] at stepped
      split at stepped
      · obtain ⟨epochs, _, rfl⟩ := Option.map_eq_some_iff.mp stepped
        exact of_tasks rfl le_rfl
      · cases stepped
  | list kind path type name =>
      simp only [Service.step] at stepped
      split at stepped <;> cases stepped
      · exact add (Nat.zero_add _).le
      · exact add le_rfl
  | warm path minTtl =>
      cases stepped
      exact add le_rfl
  | rollup path depth =>
      simp only [Service.step] at stepped
      split at stepped <;> cases stepped
      · exact refl state
      · exact add le_rfl
  | cached epoch path depth =>
      cases stepped
      exact of_tasks rfl le_rfl
  | take => exact takePrefetch stepped
  | forget id =>
      obtain ⟨task, _, stepped⟩ := Option.bind_eq_some_iff.mp stepped
      split at stepped <;> cases stepped
      exact of_tasks rfl le_rfl
  | advance id =>
      obtain ⟨activity, found, stepped⟩ := Option.bind_eq_some_iff.mp stepped
      cases activity with
      | listing task => exact advance (State.task_eq_some.mpr found) stepped
      | rollup task => exact advanceRollup found stepped
  | timeout id =>
      obtain ⟨task, found, stepped⟩ := Option.bind_eq_some_iff.mp stepped
      split at stepped
      next future place =>
        obtain ⟨worker, _, stepped⟩ := Option.bind_eq_some_iff.mp stepped
        split at stepped <;> cases stepped
        exact enterCache (.refl state) found place fun _ => le_rfl
      · cases stepped
  | catalog id usable => exact stepCatalog stepped
  | rows id batches elapsedS =>
      obtain ⟨task, found, stepped⟩ := Option.bind_eq_some_iff.mp stepped
      split at stepped
      next flight source place =>
        cases stepped
        exact move (.refl state) found place fun _ => le_rfl
      · cases stepped
  | retry id =>
      obtain ⟨task, found, stepped⟩ := Option.bind_eq_some_iff.mp stepped
      split at stepped
      next flight source place =>
        split at stepped <;> cases stepped
        exact move (.refl state) found place fun _ => le_rfl
      · cases stepped
  | fail id error => exact stepFail stepped
  | scanned id reader =>
      obtain ⟨task, source, found, place, rfl⟩ := step_scanned stepped
      unfold RollupTask.scanned
      split <;> exact setRollup (.refl state) found
  | seeded id childDirs computedAt elapsedS =>
      obtain ⟨task, scan, seed, reader, found, place, rfl⟩ := step_seeded stepped
      unfold RollupTask.seeded
      split <;> exact setRollup (.refl state) found

end Thrifty

/-- What holds of all that was started so far. -/
structure Bounded (children : Nat) (state : State) : Prop where
  charged : state.charged children ≤ children * state.pages
  busy : state.busy ≤ prefetchWorkers

theorem Thrifty.bounded (thrifty : Thrifty children state after)
    (bounded : Bounded children state) : Bounded children after where
  charged := by
    have paid := thrifty.charged
    have within := bounded.charged
    omega
  busy := thrifty.busy.trans (max_le bounded.busy le_rfl)

theorem bounded_of_reachable
    (reachable : (system setting).Reachable StepSystem.AnyStep state) :
    Bounded setting.cfg.prefetchChildren state := by
  refine reachable.invariant ?_ ?_
  · intro state initial
    constructor
    · rw [State.charged, initial.tasks]
      exact Nat.zero_le _
    · rw [initial.busy]
      exact Nat.zero_le _
  · exact fun _ _ _ _ bounded _ stepped => (Thrifty.step stepped).bounded bounded

/-- Who is inside a transaction with the backend. -/
def State.querying (state : State) : Finset Nat :=
  (Finset.range state.tasks.length).filter fun id => (state.view id).inGate

/-- The prefetches that a worker has taken and not finished. -/
def State.speculating (state : State) : Finset Nat :=
  (Finset.range state.tasks.length).filter fun id =>
    (state.prefetch id).any fun task => task.place.stage = .executing

theorem State.lt_of_inGate (inGate : (state.view id).inGate = true) :
    id < state.tasks.length := by
  by_contra beyond
  have missing : state.activity id = none :=
    List.getElem?_eq_none (Nat.le_of_not_lt beyond)
  rw [State.view, missing] at inGate
  cases inGate

theorem GateHeld.querying {slots : Nat} (held : GateHeld slots state) :
    state.querying = state.gate.toFinset := by
  ext id
  rw [State.querying, Finset.mem_filter, List.mem_toFinset, held.held_iff, Finset.mem_range]
  exact ⟨And.right, fun inGate => ⟨State.lt_of_inGate inGate, inGate⟩⟩

theorem Staffed.speculating (staffed : Staffed state) :
    state.speculating.card ≤ state.busy := by
  have working : state.busy = state.workers.working.card := staffed.workers.busy
  rw [working]
  apply Finset.card_le_card
  intro id member
  obtain ⟨_, executing⟩ := Finset.mem_filter.mp member
  cases found : state.prefetch id with
  | none =>
      rw [found] at executing
      cases executing
  | some task =>
      rw [found] at executing
      refine WorkPool.mem_within.mpr ⟨State.mem_known.mpr ⟨task, found⟩, .inl ?_⟩
      rw [State.stage_of_found found]
      exact of_decide_eq_true executing

/-- At any moment no more than `query_threads` activities are inside a query, no
more than two prefetches have a worker, and all prefetches ever submitted come from
`list_page` calls, at most `prefetch_children` from each. -/
theorem backend_load (setting : Setting) (state : State)
    (reachable : (system setting).Reachable StepSystem.AnyStep state) :
    (∀ slots, setting.cfg.queryThreads = some slots →
      state.querying = state.gate.toFinset ∧ state.querying.card ≤ slots) ∧
    state.speculating.card ≤ prefetchWorkers ∧
    state.prefetched ≤ setting.cfg.prefetchChildren * state.pages := by
  have bounded := bounded_of_reachable reachable
  refine ⟨?_, ?_, ?_⟩
  · intro slots gated
    have held := (tended_of_reachable reachable).gate slots gated
    refine ⟨held.querying, ?_⟩
    rw [held.querying]
    exact (List.toFinset_card_le _).trans held.within
  · exact (staffed_of_reachable reachable).speculating.trans bounded.busy
  · refine (countP_le_sum_map ?_ state.tasks).trans bounded.charged
    intro activity isPrefetch
    cases activity with
    | listing task =>
        rw [Activity.isPrefetch] at isPrefetch
        rw [Activity.charge, Task.charge, if_pos isPrefetch]
        exact Nat.le_add_right 1 _
    | rollup task => cases isPrefetch

/-- One page has been asked for, and a worker has its prefetch. -/
theorem opening_load :
    ∃ final, (system sampleSetting).run sampleStart opening = some final ∧
      final.prefetched = 1 ∧ final.pages = 1 ∧ final.busy = 1 ∧
      final.querying.card ≤ 2 ∧ final.speculating.card ≤ prefetchWorkers ∧
      final.prefetched ≤ 1 * final.pages := by
  have counted : ((system sampleSetting).run sampleStart opening).map
      (fun state => (state.prefetched, state.pages, state.busy)) = some (1, 1, 1) := by
    decide +kernel
  obtain ⟨final, ran, counts⟩ := Option.map_eq_some_iff.mp counted
  obtain ⟨prefetched, counts⟩ := Prod.mk.inj counts
  obtain ⟨pages, busy⟩ := Prod.mk.inj counts
  obtain ⟨gate, workers, paid⟩ := backend_load sampleSetting final
    (.of_run (.start sampleStart_initial) (.any _ _ _) ran)
  exact ⟨final, ran, prefetched, pages, busy, (gate 2 rfl).2, workers, paid⟩

end Catwalk.Service
