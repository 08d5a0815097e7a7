import Catwalk.Cache.Flight
import Catwalk.Catalog.Epoch
import Catwalk.Listing.Query
import Catwalk.Rollup.Compute

/-! The listing and rollup services over `VastBackend`: requests, prefetches,
warming and rollups, one step per lock section, wait and backend answer. -/

namespace Catwalk.Service

/-- `queryThreads` is the size of the query gate, if there is one. -/
structure Config where
  listingCap : Nat
  prefetchChildren : Nat
  queryThreads : Option Nat
  epochs : Epoch.Config
  rollup : RollupConfig

structure Setting where
  cfg : Config
  newestAt : Int → Option String
  arrow : Arrow
  backend : Backend
  nbytes : List ListingRow → Nat
  deepSize : RollupResult → Nat

/-- The catalog table a transaction reads; `unusable` is the snapshot whose
lookup failed. -/
inductive Source
  | snapshot (name : String)
  | live (unusable : Option String)
  deriving DecidableEq

/-- A cached listing, with the epoch its rows were asked for and the table they
were read from. -/
structure Cached where
  listing : Listing
  epoch : Option String
  source : Source

/-- A cached rollup, with the tables its two transactions read. -/
structure CachedRollup where
  result : RollupResult
  scan : Source
  seed : Source

structure ListingKey where
  epoch : Option String
  path : Text
  type : TypeFilter
  name : Text
  deriving DecidableEq

/-- Who lists: `list_page`, `listing_table`, `_prefetch_one` or `warm_listing`. -/
inductive Kind
  | page
  | table
  | prefetch
  | warm (minTtl : Int)
  deriving DecidableEq

/-- Inside the computation of a listing. -/
inductive Stage
  | derive
  | gate
  | catalog
  | read (source : Source)
  | release (outcome : Except String (Cached × Nat))

/-- Where a listing task stands.  A query belongs to the flight it leads, or to
none when `warm_listing` runs it. -/
inductive Place
  | queued
  | keying
  | lookup
  | cancel (future : Nat)
  | pop
  | join (future : Nat)
  | caching (caller : Caller Cached String)
  | query (flight : Option Nat) (stage : Stage)
  | expiresIn
  | peek
  | store (value : Cached) (nbytes : Nat)
  | children (value : Cached) (fromCache : Bool)
  | prefetching (value : Cached) (fromCache : Bool) (epoch : Option String)
      (names : List Text)
  | submitting (value : Cached) (fromCache : Bool) (epoch : Option String)
      (child : Text) (names : List Text)
  | reporting (value : Cached) (fromCache : Bool)
  | cancelled
  | ended
  | failed (error : String)

/-- `epoch` is the one the task was keyed with, `timedOut` the prefetch whose
join it left by the timeout. -/
structure Task where
  kind : Kind
  path : Text
  type : TypeFilter
  name : Text
  epoch : Option String
  timedOut : Option Nat
  place : Place

inductive RollupPlace
  | keying
  | gate
  | scanCatalog
  | scan (source : Source)
  | seedCatalog (scan : Source) (reader : List (List FileRow))
  | seed (scan seed : Source) (reader : List (List FileRow))
  | release (outcome : Except String CachedRollup)
  | store (value : CachedRollup)
  | ended
  | failed (error : String)

structure RollupTask where
  path : Text
  depth : Nat
  epoch : Option String
  place : RollupPlace

inductive Activity
  | listing (task : Task)
  | rollup (task : RollupTask)

/-- What a `list_page` response says about its rows. -/
structure Response where
  key : ListingKey
  catalogSnapshot : Option String
  fromCache : Bool
  value : Cached

/-- `prefetches` is `_prefetch_futures`, `pool` the queued prefetches and `busy`
the prefetch workers at work; `gate` holds who is inside the query gate, and
`tasks` all activities in the order they came. -/
structure State where
  epochs : Epoch.State Nat
  listings : SharedCache ListingKey Cached String
  rollups : SharedCache RollupKey CachedRollup String
  gate : List Nat
  prefetches : Text → Option Nat
  pool : List Nat
  busy : Nat
  tasks : List Activity
  responses : List Response

def Task.key (task : Task) : ListingKey :=
  ⟨task.epoch, task.path, task.type, task.name⟩

/-- The key of the unfiltered listing the task's listing may be derived from. -/
def Task.fullKey (task : Task) : ListingKey := ⟨task.epoch, task.path, .all, []⟩

def prefetchWorkers : Nat := 2

namespace State

def now (state : State) : Int := state.epochs.now

def activity (state : State) (id : Nat) : Option Activity := state.tasks[id]?

def setActivity (state : State) (id : Nat) (activity : Activity) : State :=
  { state with tasks := state.tasks.set id activity }

def setTask (state : State) (id : Nat) (task : Task) : State :=
  state.setActivity id (.listing task)

def moveTo (state : State) (id : Nat) (task : Task) (place : Place) : State :=
  state.setTask id { task with place := place }

/-- On to `get_or_compute`, perhaps after giving a join up. -/
def enterCache (state : State) (id : Nat) (task : Task)
    (timedOut : Option Nat) : State :=
  state.setTask id { task with
    timedOut := timedOut
    place := .caching .get }

def moveRollup (state : State) (id : Nat) (task : RollupTask)
    (place : RollupPlace) : State :=
  state.setActivity id (.rollup { task with place := place })

def task (state : State) (id : Nat) : Option Task :=
  match state.activity id with
  | some (.listing task) => some task
  | _ => none

def add (state : State) (activity : Activity) : State :=
  { state with tasks := state.tasks ++ [activity] }

/-- What the task's `current_epoch()` call has returned. -/
def takeEpoch (state : State) (id : Nat) : Option (Option String × State) :=
  match state.epochs.calls id with
  | .returned epoch =>
      some (epoch, { state with epochs := state.epochs.setCall id .idle })
  | _ => none

/-- `with self._query_context():` -/
def acquire (cfg : Config) (state : State) (id : Nat) : Option State :=
  match cfg.queryThreads with
  | none => some state
  | some slots =>
      if state.gate.length < slots then
        some { state with gate := id :: state.gate }
      else none

def leaveGate (state : State) (id : Nat) : State :=
  { state with gate := state.gate.erase id }

/-- `if epoch:` in `_catalog` -/
def pinned : Option String → Option String
  | some "" | none => none
  | some name => some name

/-- `_catalog`: a pinned lookup that fails drops the epoch and falls back to
the live table. -/
def catalog (setting : Setting) (state : State) (epoch : Option String)
    (usable : Bool) : Option (Source × State) :=
  match pinned epoch with
  | none => some (.live none, state)
  | some name =>
      if usable then some (.snapshot name, state)
      else
        (Epoch.step setting.cfg.epochs setting.newestAt state.epochs
          (.dropEpoch name)).map fun epochs =>
            (.live (some name), { state with epochs := epochs })

end State

/-- After the epoch is read; prefetch workers join no prefetch. -/
def Kind.keyed : Kind → Place
  | .page | .table => .lookup
  | .prefetch => .caching .get
  | .warm _ => .expiresIn

/-- The future of a prefetch is done. -/
def Place.isDone : Place → Bool
  | .cancelled | .ended => true
  | _ => false

namespace Task

/-- `_base_listing` has returned. -/
def returned (setting : Setting) (state : State) (id : Nat) (task : Task)
    (value : Cached) (fromCache : Bool) : State :=
  match task.kind with
  | .page =>
      state.moveTo id task
        (if setting.cfg.prefetchChildren = 0 then .reporting value fromCache
        else .children value fromCache)
  | .prefetch => { state.moveTo id task .ended with busy := state.busy - 1 }
  | .table | .warm _ => state.moveTo id task .ended

/-- `_base_listing` has raised; a prefetch suppresses it. -/
def raised (state : State) (id : Nat) (task : Task) (error : String) : State :=
  match task.kind with
  | .prefetch => { state.moveTo id task .ended with busy := state.busy - 1 }
  | .page | .table | .warm _ => state.moveTo id task (.failed error)

/-- The first step of `compute()`: only a filtered listing can be derived. -/
def computing (task : Task) (flight : Nat) : Place :=
  .query (some flight)
    (if task.type = .all ∧ task.name = [] then .gate else .derive)

/-- Where a caller of `get_or_compute` stands; inside `compute()` it is at its
query. -/
def cachingAt (task : Task) : Caller Cached String → Place
  | .compute flight => task.computing flight
  | caller => .caching caller

/-- A step of `get_or_compute`. -/
def advanceCaching (setting : Setting) (state : State) (id : Nat) (task : Task)
    (caller : Caller Cached String) : Option State :=
  match caller with
  | .returned (some value) fromCache =>
      some (task.returned setting state id value fromCache)
  | .raised error => some (task.raised state id error)
  | caller =>
      (state.listings.getOrCompute state.now task.key caller).map fun moved =>
        { state with listings := moved.2 }.moveTo id task
          (task.cachingAt moved.1)

/-- `compute()` or the query of `warm_listing` is over. -/
def queried (state : State) (id : Nat) (task : Task) (flight : Option Nat)
    (outcome : Except String (Cached × Nat)) : State :=
  state.moveTo id task <|
    match flight, outcome with
    | some flight, .ok (value, nbytes) =>
        .caching (.put flight (some value) nbytes)
    | some flight, .error error => .caching (.unregisterFailed flight error)
    | none, .ok (value, nbytes) => .store value nbytes
    | none, .error error => .failed error

/-- A step of `compute()` or of `_query_listing`, up to the backend. -/
def advanceQuery (setting : Setting) (state : State) (id : Nat) (task : Task)
    (flight : Option Nat) (stage : Stage) : Option State :=
  match stage with
  | .derive =>
      let (full, listings) := state.listings.get state.now task.fullKey
      let state := { state with listings := listings }
      match full with
      | some full =>
          if full.listing.truncated then
            some (state.moveTo id task (.query flight .gate))
          else
            let derived := deriveListing full.listing task.type task.name
            some (task.queried state id flight (.ok ({ full with
              listing := derived }, listingCost setting.nbytes derived.table)))
      | none => some (state.moveTo id task (.query flight .gate))
  | .gate =>
      (state.acquire setting.cfg id).map fun state =>
        state.moveTo id task (.query flight .catalog)
  | .release outcome =>
      some (task.queried (state.leaveGate id) id flight outcome)
  | .catalog | .read _ => none

/-- One round of the loop of `prefetch_children`. -/
def advancePrefetching (state : State) (id : Nat) (task : Task)
    (value : Cached) (fromCache : Bool) (epoch : Option String) :
    List Text → State
  | [] => state.moveTo id task (.reporting value fromCache)
  | name :: names =>
      let child := task.path ++ name ++ ['/']
      let (found, listings) :=
        state.listings.get state.now ⟨epoch, child, .all, []⟩
      { state with listings := listings }.moveTo id task
        (if found.isSome then .prefetching value fromCache epoch names
        else .submitting value fromCache epoch child names)

/-- The part of the round under the prefetch lock. -/
def submitPrefetch (state : State) (child : Text) : State :=
  match state.prefetches child with
  | some _ => state
  | none =>
      { state.add
          (.listing ⟨.prefetch, child, .all, [], none, none, .queued⟩) with
        prefetches :=
          Function.update state.prefetches child (some state.tasks.length)
        pool := state.pool ++ [state.tasks.length] }

/-- `fut.cancel()` of a prefetch: only a queued one is cancelled. -/
def cancelPrefetch (state : State) (id : Nat) (task : Task) (future : Nat) :
    Option State :=
  (state.task future).map fun other =>
    match other.place with
    | .queued => (state.moveTo future other .cancelled).moveTo id task .pop
    | .cancelled => state.moveTo id task .pop
    | _ => state.moveTo id task (.join future)

/-- The next step of a listing task that needs no answer from outside. -/
def advance (setting : Setting) (state : State) (id : Nat) (task : Task) :
    Option State :=
  match task.place with
  | .keying =>
      (state.takeEpoch id).map fun (epoch, state) =>
        state.setTask id { task with
          epoch := epoch
          timedOut := none
          place := task.kind.keyed }
  | .lookup =>
      match state.prefetches task.path with
      | none => some (state.enterCache id task none)
      | some future => some (state.moveTo id task (.cancel future))
  | .cancel future => task.cancelPrefetch state id future
  | .pop =>
      some ({ state with
        prefetches := Function.update state.prefetches task.path
          none }.enterCache id task none)
  | .join future =>
      (state.task future).bind fun other =>
        if other.place.isDone then some (state.enterCache id task none)
        else none
  | .caching caller => task.advanceCaching setting state id caller
  | .query flight stage => task.advanceQuery setting state id flight stage
  | .expiresIn =>
      let (remaining, listings) := state.listings.expiresIn state.now task.key
      let state := { state with listings := listings }
      match task.kind, remaining with
      | .warm minTtl, some remaining =>
          if minTtl ≤ remaining then some (state.moveTo id task .peek)
          else some (state.moveTo id task (.query none .gate))
      | _, _ => some (state.moveTo id task (.query none .gate))
  | .peek =>
      let (found, listings) := state.listings.get state.now task.key
      let state := { state with listings := listings }
      match found with
      | some _ => some (state.moveTo id task .ended)
      | none => some (state.moveTo id task (.query none .gate))
  | .store value nbytes =>
      some ({ state with
        listings := state.listings.put state.now task.key (some value)
          nbytes }.moveTo id task .ended)
  | .children value fromCache =>
      (state.takeEpoch id).map fun (epoch, state) =>
        state.moveTo id task (.prefetching value fromCache epoch
          ((childDirs value.listing.table).take setting.cfg.prefetchChildren))
  | .prefetching value fromCache epoch names =>
      some (task.advancePrefetching state id value fromCache epoch names)
  | .submitting value fromCache epoch child names =>
      some ((submitPrefetch state child).moveTo id task
        (.prefetching value fromCache epoch names))
  | .reporting value fromCache =>
      (state.takeEpoch id).map fun (epoch, state) =>
        { state.moveTo id task .ended with
          responses := ⟨task.key, epoch, fromCache, value⟩ :: state.responses }
  | .queued | .cancelled | .ended | .failed _ => none

end Task

namespace RollupTask

def advance (setting : Setting) (state : State) (id : Nat) (task : RollupTask) :
    Option State :=
  match task.place with
  | .keying =>
      (state.takeEpoch id).map fun (epoch, state) =>
        state.moveRollup id { task with epoch := epoch } .gate
  | .gate =>
      (state.acquire setting.cfg id).map fun state =>
        state.moveRollup id task .scanCatalog
  | .release outcome =>
      let state := state.leaveGate id
      match outcome with
      | .ok value => some (state.moveRollup id task (.store value))
      | .error error => some (state.moveRollup id task (.failed error))
  | .store value =>
      some ({ state with
        rollups := state.rollups.put state.now
          (task.epoch, normalizePrefix task.path, task.depth) (some value)
          (setting.deepSize value.result) }.moveRollup id task .ended)
  | _ => none

def errorText : RollupError → String
  | .tooWide message | .valueError message | .permissionError message => message

/-- The subtree scan has delivered its rows. -/
def scanned (setting : Setting) (state : State) (id : Nat) (task : RollupTask)
    (source : Source) (reader : List (List FileRow)) : State :=
  match RollupService.scan setting.arrow setting.backend setting.cfg.rollup
    (normalizePrefix task.path) task.depth reader with
  | .ok _ => state.moveRollup id task (.seedCatalog source reader)
  | .error error => state.moveRollup id task (.release (.error (errorText error)))

/-- The child directories are known; the result is what `compute` makes of all
that was read. -/
def seeded (setting : Setting) (state : State) (id : Nat) (task : RollupTask)
    (scan seed : Source) (input : RollupInput) : State :=
  match RollupService.rollup setting.arrow setting.backend setting.cfg.rollup
    task.path task.depth input with
  | .ok (result, _) =>
      state.moveRollup id task (.release (.ok ⟨result, scan, seed⟩))
  | .error error => state.moveRollup id task (.release (.error (errorText error)))

end RollupTask

/-- The activity reads `current_epoch()`. -/
def Activity.readsEpoch : Activity → Bool
  | .listing task =>
      match task.place with
      | .keying | .children _ _ | .reporting _ _ => true
      | _ => false
  | .rollup task =>
      match task.place with
      | .keying => true
      | _ => false

/-- `usable` tells whether the pinned lookup of a transaction succeeds; `rows`,
`scanned` and `seeded` carry what the backend delivers; `retry` is the second
transaction of a name-filtered `list_dir`. -/
inductive Label
  | epoch (label : Epoch.Label Nat)
  | list (kind : Kind) (path : Text) (type : TypeFilter) (name : Text)
  | warm (path : Text) (minTtl : Int)
  | rollup (path : Text) (depth : Nat)
  | cached (epoch : Option String) (path : Text) (depth : Nat)
  | take
  | forget (id : Nat)
  | advance (id : Nat)
  | timeout (id : Nat)
  | catalog (id : Nat) (usable : Bool)
  | rows (id : Nat) (batches : List (List ListingRow)) (elapsedS : Rat)
  | retry (id : Nat)
  | fail (id : Nat) (error : String)
  | scanned (id : Nat) (reader : List (List FileRow))
  | seeded (id : Nat) (childDirs : List Text) (computedAt : Text)
      (elapsedS : Rat)

/-- Steps of `current_epoch()` calls: only who reads the epoch enters one, and
epochs are dropped by `_catalog` alone. -/
def State.permits (state : State) : Epoch.Label Nat → Bool
  | .enter id =>
      match state.activity id, state.epochs.calls id with
      | some activity, .idle => activity.readsEpoch
      | _, _ => false
  | .dropEpoch _ => false
  | _ => true

/-- A free prefetch worker takes the oldest prefetch, and skips a cancelled
one. -/
def State.takePrefetch (state : State) : Option State :=
  match state.pool with
  | [] => none
  | id :: rest =>
      if state.busy < prefetchWorkers then
        (state.task id).bind fun task =>
          match task.place with
          | .queued =>
              some { state.moveTo id task .keying with
                pool := rest
                busy := state.busy + 1 }
          | .cancelled => some { state with pool := rest }
          | _ => none
      else none

/-- `_forget_prefetch`, the callback of a prefetch that is done. -/
def State.forgetPrefetch (state : State) (id : Nat) : Option State :=
  (state.task id).bind fun task =>
    if task.kind = .prefetch ∧ task.place.isDone then
      some { state with
        prefetches :=
          if state.prefetches task.path = some id then
            Function.update state.prefetches task.path none
          else state.prefetches }
    else none

def stepCatalog (setting : Setting) (state : State) (id : Nat)
    (usable : Bool) : Option State :=
  (state.activity id).bind fun activity =>
    match activity with
    | .listing task =>
        match task.place with
        | .query flight .catalog =>
            (state.catalog setting task.epoch usable).map fun (source, state) =>
              state.moveTo id task (.query flight (.read source))
        | _ => none
    | .rollup task =>
        match task.place with
        | .scanCatalog =>
            (state.catalog setting task.epoch usable).map fun (source, state) =>
              state.moveRollup id task (.scan source)
        | .seedCatalog scan reader =>
            (state.catalog setting task.epoch usable).map fun (source, state) =>
              state.moveRollup id task (.seed scan source reader)
        | _ => none

def stepFail (state : State) (id : Nat) (error : String) : Option State :=
  (state.activity id).bind fun activity =>
    match activity with
    | .listing task =>
        match task.place with
        | .query flight .catalog | .query flight (.read _) =>
            some (state.moveTo id task (.query flight (.release (.error error))))
        | _ => none
    | .rollup task =>
        match task.place with
        | .scanCatalog | .scan _ | .seedCatalog _ _ | .seed _ _ _ =>
            some (state.moveRollup id task (.release (.error error)))
        | _ => none

def step (setting : Setting) (state : State) : Label → Option State
  | .epoch label =>
      if state.permits label then
        (Epoch.step setting.cfg.epochs setting.newestAt state.epochs label).map
          fun epochs => { state with epochs := epochs }
      else none
  | .list kind path type name =>
      match kind with
      | .page | .table =>
          some (state.add (.listing
            ⟨kind, normalizePrefix path, type, strip name, none, none, .keying⟩))
      | _ => none
  | .warm path minTtl =>
      some (state.add (.listing
        ⟨.warm minTtl, normalizePrefix path, .all, [], none, none, .keying⟩))
  | .rollup path depth =>
      if depth < 1 ∨ setting.cfg.rollup.rollupMaxDepth < depth ∨
          (normalizePrefix path = ['/'] ∧ ¬ setting.cfg.rollup.allowRoot) then
        some state
      else some (state.add (.rollup ⟨path, depth, none, .keying⟩))
  | .cached epoch path depth =>
      some { state with rollups :=
        (state.rollups.get state.now (epoch, normalizePrefix path, depth)).2 }
  | .take => state.takePrefetch
  | .forget id => state.forgetPrefetch id
  | .advance id =>
      (state.activity id).bind fun activity =>
        match activity with
        | .listing task => task.advance setting state id
        | .rollup task => task.advance setting state id
  | .timeout id =>
      (state.task id).bind fun task =>
        match task.place with
        | .join future =>
            (state.task future).bind fun other =>
              if other.place.isDone then none
              else some (state.enterCache id task (some future))
        | _ => none
  | .catalog id usable => stepCatalog setting state id usable
  | .rows id batches elapsedS =>
      (state.task id).bind fun task =>
        match task.place with
        | .query flight (.read source) =>
            let listing := queryListing setting.cfg.listingCap batches elapsedS
            some (state.moveTo id task (.query flight (.release (.ok
              (⟨listing, task.epoch, source⟩,
                listingCost setting.nbytes listing.table)))))
        | _ => none
  | .retry id =>
      (state.task id).bind fun task =>
        match task.place with
        | .query flight (.read _) =>
            if task.name = [] then none
            else some (state.moveTo id task (.query flight .catalog))
        | _ => none
  | .fail id error => stepFail state id error
  | .scanned id reader =>
      (state.activity id).bind fun activity =>
        match activity with
        | .rollup task =>
            match task.place with
            | .scan source => some (task.scanned setting state id source reader)
            | _ => none
        | _ => none
  | .seeded id childDirs computedAt elapsedS =>
      (state.activity id).bind fun activity =>
        match activity with
        | .rollup task =>
            match task.place with
            | .seed scan seed reader =>
                some (task.seeded setting state id scan seed
                  ⟨task.epoch, computedAt, elapsedS, reader, childDirs⟩)
            | _ => none
        | _ => none

theorem step_scanned {setting : Setting} {state after : State} {id : Nat}
    {reader : List (List FileRow)}
    (stepped : step setting state (.scanned id reader) = some after) :
    ∃ task source, state.activity id = some (.rollup task) ∧
      task.place = .scan source ∧
      after = task.scanned setting state id source reader := by
  obtain ⟨activity, found, stepped⟩ := Option.bind_eq_some_iff.mp stepped
  cases activity with
  | listing task => cases stepped
  | rollup task =>
      simp only at stepped
      split at stepped
      next source place =>
        cases stepped
        exact ⟨task, source, found, place, rfl⟩
      · cases stepped

theorem step_seeded {setting : Setting} {state after : State} {id : Nat}
    {childDirs : List Text} {computedAt : Text} {elapsedS : Rat}
    (stepped : step setting state
      (.seeded id childDirs computedAt elapsedS) = some after) :
    ∃ task scan seed reader, state.activity id = some (.rollup task) ∧
      task.place = .seed scan seed reader ∧
      after = task.seeded setting state id scan seed
        ⟨task.epoch, computedAt, elapsedS, reader, childDirs⟩ := by
  obtain ⟨activity, found, stepped⟩ := Option.bind_eq_some_iff.mp stepped
  cases activity with
  | listing task => cases stepped
  | rollup task =>
      simp only at stepped
      split at stepped
      next scan seed reader place =>
        cases stepped
        exact ⟨task, scan, seed, reader, found, place, rfl⟩
      · cases stepped

/-- Both services have just been created. -/
structure Initial (state : State) : Prop where
  epochs : Epoch.Initial state.epochs
  listings : ∀ key, state.listings.cache.d.get? key = none
  inflight : ∀ key, state.listings.inflight key = none
  futures : ∀ flight, state.listings.futures flight = none
  rollups : ∀ key, state.rollups.cache.d.get? key = none
  gate : state.gate = []
  prefetches : ∀ path, state.prefetches path = none
  pool : state.pool = []
  busy : state.busy = 0
  tasks : state.tasks = []
  responses : state.responses = []

def system (setting : Setting) : StepSystem State Label where
  init := Initial
  step := step setting

namespace State

variable {state : State}

theorem task_eq_some {id : Nat} {task : Task} :
    state.task id = some task ↔ state.activity id = some (.listing task) := by
  unfold State.task
  constructor
  · intro found
    split at found
    · cases found
      assumption
    · cases found
  · intro found
    rw [found]

theorem setActivity_activity {id : Nat} {old : Activity}
    (found : state.activity id = some old) (other : Nat) (new : Activity) :
    (state.setActivity id new).activity other =
      if other = id then some new else state.activity other := by
  have inside : id < state.tasks.length := (List.getElem?_eq_some_iff.mp found).1
  unfold setActivity activity
  rw [List.getElem?_set]
  rcases eq_or_ne id other with rfl | differs
  · rw [if_pos rfl, if_pos inside, if_pos rfl]
  · rw [if_neg differs, if_neg (Ne.symm differs)]

theorem add_activity (state : State) (activity : Activity) (other : Nat) :
    (state.add activity).activity other =
      if other = state.tasks.length then some activity
      else state.activity other := by
  unfold add State.activity
  rcases lt_trichotomy other state.tasks.length with before | rfl | beyond
  · rw [List.getElem?_append_left before, if_neg before.ne]
  · simp
  · rw [if_neg beyond.ne', List.getElem?_eq_none (by simp; omega),
      List.getElem?_eq_none beyond.le]

end State

/-! Two query slots, one prefetched child and listings of at most two rows. -/

def sampleSetting : Setting where
  cfg := ⟨2, 1, some 2, ⟨true, 60⟩, ⟨1, 10, 8, false⟩⟩
  newestAt := Epoch.publishedAt30
  arrow := plainArrow
  backend := .sequential
  nbytes := List.length
  deepSize := fun _ => 0

def sampleStart : State where
  epochs :=
    { now := 0
      epoch := none
      epochChecked := none
      calls := fun _ => .idle
      held := [none]
      stored := [] }
  listings := .new 900 0
  rollups := .new 900 0
  gate := []
  prefetches := fun _ => none
  pool := []
  busy := 0
  tasks := []
  responses := []

theorem sampleStart_initial : Initial sampleStart where
  epochs := ⟨rfl, rfl, fun _ => rfl, rfl, rfl⟩
  listings _ := rfl
  inflight _ := rfl
  futures _ := rfl
  rollups _ := rfl
  gate := rfl
  prefetches _ := rfl
  pool := rfl
  busy := rfl
  tasks := rfl
  responses := rfl

/-- A `current_epoch()` call that polls. -/
def polling (id : Nat) : List Label :=
  [.epoch (.enter id), .epoch (.check id), .epoch (.answer id),
    .epoch (.store id)]

/-- A `current_epoch()` call soon after a poll. -/
def reading (id : Nat) : List Label := [.epoch (.enter id), .epoch (.check id)]

def sampleRow (name : Char) (elementType : String) : ListingRow where
  name := [name]
  elementType := some elementType
  size := none
  used := none
  mtime := none
  atime := none
  ownerName := none
  extension := none
  nlinks := none

end Catwalk.Service
