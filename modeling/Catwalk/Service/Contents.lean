import Catwalk.Cache.Contents
import Catwalk.Service.Machine

/-! What holds of all that is read, cached and handed out in a run. -/

namespace Catwalk.Service

/-- What is claimed of the listings and rollups under their keys, and of the
tables read for an epoch. -/
structure Contract where
  listing : ListingKey → Option Cached → Prop
  rollup : RollupKey → Option CachedRollup → Prop
  source : Option String → Source → Prop

variable (contract : Contract)

def Stage.Holds (key : ListingKey) : Stage → Prop
  | .read source => contract.source key.epoch source
  | .release (.ok (value, _)) => contract.listing key (some value)
  | _ => True

/-- A caller inside `compute()` is at its query. -/
def Place.Holds (listings : SharedCache ListingKey Cached String)
    (key : ListingKey) : Place → Prop
  | .caching (.compute _) => False
  | .caching caller => caller.Holds contract.listing listings key
  | .query flight stage => (∀ led, flight = some led → listings.Names led key) ∧
      stage.Holds contract key
  | .store value _ | .children value _ | .prefetching value _ _ _
  | .submitting value _ _ _ _ | .reporting value _ =>
      contract.listing key (some value)
  | _ => True

def RollupTask.key (task : RollupTask) : RollupKey :=
  (task.epoch, normalizePrefix task.path, task.depth)

def RollupPlace.Holds (key : RollupKey) : RollupPlace → Prop
  | .scan source | .seedCatalog source _ => contract.source key.1 source
  | .seed scanned seeded _ =>
      contract.source key.1 scanned ∧ contract.source key.1 seeded
  | .release (.ok value) | .store value => contract.rollup key (some value)
  | _ => True

def Activity.Holds (listings : SharedCache ListingKey Cached String) :
    Activity → Prop
  | .listing task => task.place.Holds contract listings task.key
  | .rollup task => task.place.Holds contract task.key

structure State.Holds (state : State) : Prop where
  listings : state.listings.Holds contract.listing
  rollups : state.rollups.cache.Holds contract.rollup
  tasks : ∀ id activity, state.activity id = some activity →
    activity.Holds contract state.listings
  responses : ∀ response ∈ state.responses,
    contract.listing response.key (some response.value)

/-- The permitted answers of the backend keep the contract, and so do the
services' own computations. -/
structure Contract.Kept (setting : Setting) (allowed : State → Label → Prop) :
    Prop where
  catalog : ∀ state after id usable epoch source,
    allowed state (.catalog id usable) →
    state.catalog setting epoch usable = some (source, after) →
    contract.source epoch source
  rows : ∀ state id batches elapsedS task flight source,
    allowed state (.rows id batches elapsedS) →
    state.task id = some task → task.place = .query flight (.read source) →
    contract.source task.epoch source →
    contract.listing task.key (some
      ⟨queryListing setting.cfg.listingCap batches elapsedS, task.epoch, source⟩)
  derive : ∀ (full : Cached) epoch path type name,
    contract.listing ⟨epoch, path, .all, []⟩ (some full) →
    full.listing.truncated = false →
    contract.listing ⟨epoch, path, type, name⟩ (some { full with
      listing := deriveListing full.listing type name })
  rollup : ∀ path depth input result reported scan seed,
    contract.source input.epoch scan → contract.source input.epoch seed →
    RollupService.rollup setting.arrow setting.backend setting.cfg.rollup path
      depth input = .ok (result, reported) →
    contract.rollup (input.epoch, normalizePrefix path, depth)
      (some ⟨result, scan, seed⟩)

variable {contract} {setting : Setting} {state after : State}

theorem Place.Holds.caller {listings : SharedCache ListingKey Cached String}
    {key : ListingKey} {caller : Caller Cached String}
    (holds : Place.Holds contract listings key (.caching caller)) :
    caller.Holds contract.listing listings key := by
  cases caller with
  | compute flight => exact holds.elim
  | _ => exact holds

theorem holds_of_initial (initial : Initial state) : state.Holds contract where
  listings :=
    { stored := fun key entry found => by
        rw [initial.listings] at found
        cases found
      flown := fun flight key value found => by
        rw [initial.futures] at found
        cases found
      registered := fun key flight found => by
        rw [initial.inflight] at found
        cases found
      fresh := fun flight _ => initial.futures flight }
  rollups key entry found := by
    rw [initial.rollups] at found
    cases found
  tasks id activity found := by
    rw [State.activity, initial.tasks] at found
    cases found
  responses response member := by
    rw [initial.responses] at member
    cases member

theorem Activity.Holds.mono
    {listings listings' : SharedCache ListingKey Cached String}
    {activity : Activity} (holds : activity.Holds contract listings)
    (extended : listings.Extends listings') :
    activity.Holds contract listings' := by
  cases activity with
  | rollup task => exact holds
  | listing task =>
      simp only [Activity.Holds] at holds ⊢
      cases place : task.place with
      | caching caller =>
          rw [place] at holds
          have carries := holds.caller.mono extended
          cases caller with
          | compute flight => exact holds.elim
          | _ => exact carries
      | query flight stage =>
          rw [place] at holds
          exact ⟨fun led same => extended led _ (holds.1 led same), holds.2⟩
      | _ =>
          rw [place] at holds
          exact holds

theorem State.Holds.setActivity {id : Nat} {activity : Activity}
    (holds : state.Holds contract)
    (new : activity.Holds contract state.listings) :
    (state.setActivity id activity).Holds contract where
  listings := holds.listings
  rollups := holds.rollups
  tasks other stored found := by
    rcases List.mem_or_eq_of_mem_set (List.mem_of_getElem? found) with
      member | rfl
    · obtain ⟨before, found⟩ := List.mem_iff_getElem?.mp member
      exact holds.tasks before stored found
    · exact new
  responses := holds.responses

theorem State.Holds.setListings
    {listings : SharedCache ListingKey Cached String}
    (holds : state.Holds contract)
    (good : listings.Holds contract.listing)
    (extended : state.listings.Extends listings) :
    { state with listings := listings }.Holds contract where
  listings := good
  rollups := holds.rollups
  tasks id activity found := (holds.tasks id activity found).mono extended
  responses := holds.responses

theorem State.Holds.add {activity : Activity} (holds : state.Holds contract)
    (new : activity.Holds contract state.listings) :
    (state.add activity).Holds contract where
  listings := holds.listings
  rollups := holds.rollups
  tasks other stored found := by
    rw [State.add_activity] at found
    split at found
    · cases found
      exact new
    · exact holds.tasks other stored found
  responses := holds.responses

theorem State.Holds.task {id : Nat} {task : Task} (holds : state.Holds contract)
    (found : state.task id = some task) :
    task.place.Holds contract state.listings task.key :=
  holds.tasks id _ (State.task_eq_some.mp found)

theorem State.Holds.of_same (holds : state.Holds contract)
    (listings : after.listings = state.listings)
    (rollups : after.rollups = state.rollups)
    (tasks : after.tasks = state.tasks)
    (responses : after.responses = state.responses) : after.Holds contract where
  listings := listings ▸ holds.listings
  rollups := rollups ▸ holds.rollups
  tasks := by
    unfold State.activity
    rw [tasks, listings]
    exact holds.tasks
  responses := responses ▸ holds.responses

theorem State.Holds.moveTo {id : Nat} {task : Task} {place : Place}
    (holds : state.Holds contract)
    (new : place.Holds contract state.listings task.key) :
    (state.moveTo id task place).Holds contract :=
  holds.setActivity new

theorem State.Holds.takeEpoch {id : Nat} {epoch : Option String}
    (holds : state.Holds contract)
    (took : state.takeEpoch id = some (epoch, after)) :
    after.Holds contract ∧ after.listings = state.listings := by
  unfold State.takeEpoch at took
  split at took <;> cases took
  exact ⟨holds.of_same rfl rfl rfl rfl, rfl⟩

theorem State.Holds.acquire {id : Nat} (holds : state.Holds contract)
    (acquired : state.acquire setting.cfg id = some after) :
    after.Holds contract ∧ after.listings = state.listings := by
  unfold State.acquire at acquired
  split at acquired
  · cases acquired
    exact ⟨holds, rfl⟩
  · split at acquired <;> cases acquired
    exact ⟨holds.of_same rfl rfl rfl rfl, rfl⟩

theorem State.Holds.catalog {epoch : Option String} {usable : Bool}
    {source : Source} (holds : state.Holds contract)
    (chosen : state.catalog setting epoch usable = some (source, after)) :
    after.Holds contract ∧ after.listings = state.listings := by
  unfold State.catalog at chosen
  split at chosen
  · cases chosen
    exact ⟨holds, rfl⟩
  · split at chosen
    · cases chosen
      exact ⟨holds, rfl⟩
    · obtain ⟨epochs, _, same⟩ := Option.map_eq_some_iff.mp chosen
      cases same
      exact ⟨holds.of_same rfl rfl rfl rfl, rfl⟩

theorem State.Holds.returned {id : Nat} {task : Task} {value : Cached}
    {fromCache : Bool} (holds : state.Holds contract)
    (good : contract.listing task.key (some value)) :
    (task.returned setting state id value fromCache).Holds contract := by
  have ended : (state.moveTo id task .ended).Holds contract :=
    holds.moveTo trivial
  unfold Task.returned
  split
  · refine holds.moveTo ?_
    split <;> exact good
  · exact ended.of_same rfl rfl rfl rfl
  · exact ended
  · exact ended

theorem State.Holds.raised {id : Nat} {task : Task} {error : String}
    (holds : state.Holds contract) :
    (task.raised state id error).Holds contract := by
  have ended : (state.moveTo id task .ended).Holds contract :=
    holds.moveTo trivial
  unfold Task.raised
  split
  · exact ended.of_same rfl rfl rfl rfl
  all_goals exact holds.moveTo trivial

theorem State.Holds.advanceCaching {id : Nat} {task : Task}
    {caller : Caller Cached String} (holds : state.Holds contract)
    (carries : caller.Holds contract.listing state.listings task.key)
    (stepped : task.advanceCaching setting state id caller = some after) :
    after.Holds contract := by
  unfold Task.advanceCaching at stepped
  split at stepped
  · cases stepped
    exact holds.returned carries
  · cases stepped
    exact holds.raised
  · obtain ⟨⟨next, listings⟩, moved, rfl⟩ :=
      Option.map_eq_some_iff.mp stepped
    obtain ⟨good, extended, carries⟩ := holds.listings.getOrCompute carries moved
    refine (holds.setListings good extended).moveTo ?_
    cases next with
    | compute flight =>
        have names : ∀ led, some flight = some led →
            listings.Names led task.key := by
          rintro led same
          cases same
          exact carries
        refine ⟨names, ?_⟩
        split <;> trivial
    | _ => exact carries

theorem State.Holds.queried {id : Nat} {task : Task} {flight : Option Nat}
    {outcome : Except String (Cached × Nat)} (holds : state.Holds contract)
    (names : ∀ led, flight = some led → state.listings.Names led task.key)
    (good : Stage.Holds contract task.key (.release outcome)) :
    (task.queried state id flight outcome).Holds contract := by
  refine holds.moveTo ?_
  split
  · exact ⟨names _ rfl, good⟩
  · exact names _ rfl
  · exact good
  · trivial

theorem State.Holds.advanceQuery {allowed : State → Label → Prop} {id : Nat}
    {task : Task} {flight : Option Nat} {stage : Stage}
    (kept : contract.Kept setting allowed) (holds : state.Holds contract)
    (names : ∀ led, flight = some led → state.listings.Names led task.key)
    (good : stage.Holds contract task.key)
    (stepped : task.advanceQuery setting state id flight stage = some after) :
    after.Holds contract := by
  unfold Task.advanceQuery at stepped
  split at stepped
  next =>
    generalize looking : state.listings.get state.now task.fullKey = looked
      at stepped
    obtain ⟨full, listings⟩ := looked
    obtain ⟨hit, same⟩ := Prod.mk.inj looking
    have extended : state.listings.Extends listings :=
      same ▸ .of_futures rfl
    have looked : { state with listings := listings }.Holds contract :=
      holds.setListings (same ▸ holds.listings.get _ _) extended
    have names : ∀ led, flight = some led → listings.Names led task.key :=
      fun led same => extended led _ (names led same)
    cases full with
    | none =>
        cases stepped
        exact looked.moveTo ⟨names, trivial⟩
    | some full =>
        have stored := holds.listings.stored.of_get hit
        simp only at stepped
        split at stepped <;> cases stepped
        next => exact looked.moveTo ⟨names, trivial⟩
        next complete =>
          refine looked.queried names ?_
          exact kept.derive full task.epoch task.path task.type task.name
            stored (Bool.eq_false_of_not_eq_true complete)
  next =>
    obtain ⟨entered, acquired, rfl⟩ := Option.map_eq_some_iff.mp stepped
    obtain ⟨holds, same⟩ := holds.acquire acquired
    exact holds.moveTo ⟨same ▸ names, trivial⟩
  next outcome =>
    cases stepped
    exact (holds.of_same rfl rfl rfl rfl : (state.leaveGate id).Holds
      contract).queried names good
  all_goals cases stepped

theorem State.Holds.advancePrefetching {id : Nat} {task : Task}
    {value : Cached} {fromCache : Bool} {epoch : Option String}
    (holds : state.Holds contract)
    (good : contract.listing task.key (some value)) (names : List Text) :
    (task.advancePrefetching state id value fromCache epoch names).Holds
      contract := by
  cases names with
  | nil => exact holds.moveTo good
  | cons name names =>
      have looked := holds.setListings (holds.listings.get state.now
        ⟨epoch, task.path ++ name ++ ['/'], .all, []⟩) (.of_futures rfl)
      refine looked.moveTo ?_
      split <;> exact good

theorem State.Holds.submitPrefetch (holds : state.Holds contract)
    (child : Text) : (Task.submitPrefetch state child).Holds contract := by
  unfold Task.submitPrefetch
  split
  · exact holds
  · have added : (state.add (.listing
        ⟨.prefetch, child, .all, [], none, none, .queued⟩)).Holds contract :=
      holds.add trivial
    exact added.of_same rfl rfl rfl rfl

theorem State.Holds.cancelPrefetch {id : Nat} {task : Task} {future : Nat}
    (holds : state.Holds contract)
    (stepped : task.cancelPrefetch state id future = some after) :
    after.Holds contract := by
  obtain ⟨other, _, rfl⟩ := Option.map_eq_some_iff.mp stepped
  split
  · have cancelled : (state.moveTo future other .cancelled).Holds contract :=
      holds.moveTo trivial
    exact cancelled.moveTo trivial
  all_goals exact holds.moveTo trivial

theorem State.Holds.expiresIn (holds : state.Holds contract)
    (key : ListingKey) :
    { state with listings := (state.listings.expiresIn state.now key).2 }.Holds
      contract :=
  holds.setListings (holds.listings.expiresIn _ _) (.of_futures rfl)

theorem State.Holds.peek (holds : state.Holds contract) (key : ListingKey) :
    { state with listings := (state.listings.get state.now key).2 }.Holds
      contract :=
  holds.setListings (holds.listings.get _ _) (.of_futures rfl)

theorem State.Holds.advance {allowed : State → Label → Prop} {id : Nat}
    {task : Task} (kept : contract.Kept setting allowed)
    (holds : state.Holds contract) (found : state.task id = some task)
    (stepped : task.advance setting state id = some after) :
    after.Holds contract := by
  have carries := holds.task found
  unfold Task.advance at stepped
  split at stepped
  next =>
    obtain ⟨⟨epoch, took⟩, taking, rfl⟩ := Option.map_eq_some_iff.mp stepped
    refine (holds.takeEpoch taking).1.setActivity ?_
    unfold Kind.keyed
    simp only [Activity.Holds]
    split <;> trivial
  next =>
    split at stepped <;> cases stepped <;> exact holds.setActivity trivial
  next => exact holds.cancelPrefetch stepped
  next =>
    cases stepped
    exact (holds.of_same rfl rfl rfl rfl : State.Holds contract { state with
      prefetches := Function.update state.prefetches task.path
        none }).setActivity trivial
  next =>
    obtain ⟨other, _, stepped⟩ := Option.bind_eq_some_iff.mp stepped
    split at stepped <;> cases stepped
    exact holds.setActivity trivial
  next caller place =>
    rw [place] at carries
    exact holds.advanceCaching carries.caller stepped
  next flight stage place =>
    rw [place] at carries
    exact holds.advanceQuery kept carries.1 carries.2 stepped
  next =>
    have looked := holds.expiresIn task.key
    generalize state.listings.expiresIn state.now task.key = expiry
      at looked stepped
    obtain ⟨remaining, listings⟩ := expiry
    have queries : ({ state with listings := listings }.moveTo id task
        (.query none .gate)).Holds contract :=
      looked.moveTo ⟨fun _ same => (nomatch same), trivial⟩
    simp only at stepped
    split at stepped
    · split at stepped <;> cases stepped
      · exact looked.moveTo trivial
      · exact queries
    · cases stepped
      exact queries
  next =>
    have looked := holds.peek task.key
    generalize state.listings.get state.now task.key = peeked
      at looked stepped
    obtain ⟨peeked, listings⟩ := peeked
    cases peeked with
    | none =>
        cases stepped
        exact looked.moveTo ⟨fun _ same => (nomatch same), trivial⟩
    | some entry =>
        cases stepped
        exact looked.moveTo trivial
  next value nbytes place =>
    cases stepped
    rw [place] at carries
    exact (holds.setListings (holds.listings.put state.now nbytes carries)
      (.of_futures rfl)).moveTo trivial
  next value fromCache place =>
    obtain ⟨⟨epoch, took⟩, taking, rfl⟩ := Option.map_eq_some_iff.mp stepped
    rw [place] at carries
    exact (holds.takeEpoch taking).1.moveTo carries
  next value fromCache epoch names place =>
    cases stepped
    rw [place] at carries
    exact holds.advancePrefetching carries names
  next value fromCache epoch child names place =>
    cases stepped
    rw [place] at carries
    exact (holds.submitPrefetch child).moveTo carries
  next value fromCache place =>
    obtain ⟨⟨epoch, took⟩, taking, rfl⟩ := Option.map_eq_some_iff.mp stepped
    rw [place] at carries
    have ended : (took.moveTo id task .ended).Holds contract :=
      (holds.takeEpoch taking).1.moveTo trivial
    refine ⟨ended.listings, ended.rollups, ended.tasks, ?_⟩
    intro response member
    rcases List.mem_cons.mp member with rfl | member
    · exact carries
    · exact ended.responses response member
  all_goals cases stepped

theorem State.Holds.setRollup {id : Nat} {task : RollupTask}
    {place : RollupPlace} (holds : state.Holds contract)
    (good : place.Holds contract task.key) :
    (state.moveRollup id task place).Holds contract :=
  holds.setActivity good

theorem State.Holds.advanceRollup {id : Nat} {task : RollupTask}
    (holds : state.Holds contract)
    (found : state.activity id = some (.rollup task))
    (stepped : task.advance setting state id = some after) :
    after.Holds contract := by
  have carries := holds.tasks id _ found
  unfold RollupTask.advance at stepped
  split at stepped
  next =>
    obtain ⟨⟨epoch, took⟩, taking, rfl⟩ := Option.map_eq_some_iff.mp stepped
    exact (holds.takeEpoch taking).1.setActivity trivial
  next =>
    obtain ⟨entered, acquired, rfl⟩ := Option.map_eq_some_iff.mp stepped
    exact (holds.acquire acquired).1.setRollup trivial
  next outcome place =>
    simp only [Activity.Holds, place] at carries
    have left : (state.leaveGate id).Holds contract :=
      holds.of_same rfl rfl rfl rfl
    simp only at stepped
    split at stepped <;> cases stepped
    · exact left.setRollup carries
    · exact left.setRollup trivial
  next value place =>
    cases stepped
    simp only [Activity.Holds, place] at carries
    have stored : { state with
        rollups := state.rollups.put state.now task.key (some value)
          (setting.deepSize value.result) }.Holds contract :=
      ⟨holds.listings,
        holds.rollups.put (state.rollups.putCache_spec ..) carries,
        holds.tasks, holds.responses⟩
    exact stored.setRollup trivial
  · cases stepped

theorem State.Holds.stepCatalog {allowed : State → Label → Prop} {id : Nat}
    {usable : Bool} (kept : contract.Kept setting allowed)
    (holds : state.Holds contract)
    (permitted : allowed state (.catalog id usable))
    (stepped : stepCatalog setting state id usable = some after) :
    after.Holds contract := by
  have good : ∀ {epoch source after},
      state.catalog setting epoch usable = some (source, after) →
        contract.source epoch source :=
    fun chosen => kept.catalog _ _ _ _ _ _ permitted chosen
  obtain ⟨activity, found, stepped⟩ := Option.bind_eq_some_iff.mp stepped
  have carries := holds.tasks id activity found
  cases activity with
  | listing task =>
      simp only at stepped
      split at stepped
      next flight place =>
        obtain ⟨⟨source, middle⟩, chosen, rfl⟩ :=
          Option.map_eq_some_iff.mp stepped
        obtain ⟨holds, same⟩ := holds.catalog chosen
        simp only [Activity.Holds, place] at carries
        exact holds.moveTo ⟨same ▸ carries.1, good chosen⟩
      · cases stepped
  | rollup task =>
      simp only at stepped
      split at stepped
      next place =>
        obtain ⟨⟨source, middle⟩, chosen, rfl⟩ :=
          Option.map_eq_some_iff.mp stepped
        exact (holds.catalog chosen).1.setRollup (good chosen)
      next scanned reader place =>
        obtain ⟨⟨source, middle⟩, chosen, rfl⟩ :=
          Option.map_eq_some_iff.mp stepped
        simp only [Activity.Holds, place] at carries
        exact (holds.catalog chosen).1.setRollup ⟨carries, good chosen⟩
      · cases stepped

theorem State.Holds.stepFail {id : Nat} {error : String}
    (holds : state.Holds contract)
    (stepped : stepFail state id error = some after) :
    after.Holds contract := by
  obtain ⟨activity, found, stepped⟩ := Option.bind_eq_some_iff.mp stepped
  have carries := holds.tasks id activity found
  cases activity with
  | listing task =>
      simp only at stepped
      split at stepped
      next flight place =>
        cases stepped
        simp only [Activity.Holds, place] at carries
        exact holds.moveTo ⟨carries.1, trivial⟩
      next flight source place =>
        cases stepped
        simp only [Activity.Holds, place] at carries
        exact holds.moveTo ⟨carries.1, trivial⟩
      · cases stepped
  | rollup task =>
      simp only at stepped
      split at stepped
      all_goals cases stepped
      all_goals exact holds.setRollup trivial

theorem State.Holds.step {allowed : State → Label → Prop} {label : Label}
    (kept : contract.Kept setting allowed) (holds : state.Holds contract)
    (permitted : allowed state label)
    (stepped : step setting state label = some after) :
    after.Holds contract := by
  cases label with
  | epoch label =>
      simp only [Service.step] at stepped
      split at stepped
      · obtain ⟨epochs, _, rfl⟩ := Option.map_eq_some_iff.mp stepped
        exact holds.of_same rfl rfl rfl rfl
      · cases stepped
  | list kind path type name =>
      simp only [Service.step] at stepped
      split at stepped <;> cases stepped <;> exact holds.add trivial
  | warm path minTtl =>
      cases stepped
      exact holds.add trivial
  | rollup path depth =>
      simp only [Service.step] at stepped
      split at stepped <;> cases stepped
      · exact holds
      · exact holds.add trivial
  | cached epoch path depth =>
      cases stepped
      exact ⟨holds.listings, holds.rollups.get _ _, holds.tasks,
        holds.responses⟩
  | take =>
      simp only [Service.step, State.takePrefetch] at stepped
      split at stepped
      · cases stepped
      next future rest pool =>
        split at stepped
        next free =>
          obtain ⟨task, _, stepped⟩ := Option.bind_eq_some_iff.mp stepped
          split at stepped <;> cases stepped
          · have moved : (state.moveTo future task .keying).Holds contract :=
              holds.moveTo trivial
            exact moved.of_same rfl rfl rfl rfl
          · exact holds.of_same rfl rfl rfl rfl
        next busy => cases stepped
  | forget id =>
      obtain ⟨task, _, stepped⟩ := Option.bind_eq_some_iff.mp stepped
      split at stepped <;> cases stepped
      exact holds.of_same rfl rfl rfl rfl
  | advance id =>
      obtain ⟨activity, found, stepped⟩ := Option.bind_eq_some_iff.mp stepped
      cases activity with
      | listing task =>
          exact holds.advance kept (State.task_eq_some.mpr found) stepped
      | rollup task => exact holds.advanceRollup found stepped
  | timeout id =>
      obtain ⟨task, _, stepped⟩ := Option.bind_eq_some_iff.mp stepped
      split at stepped
      · obtain ⟨other, _, stepped⟩ := Option.bind_eq_some_iff.mp stepped
        split at stepped <;> cases stepped
        exact holds.setActivity trivial
      · cases stepped
  | catalog id usable => exact holds.stepCatalog kept permitted stepped
  | rows id batches elapsedS =>
      obtain ⟨task, found, stepped⟩ := Option.bind_eq_some_iff.mp stepped
      have carries := holds.task found
      split at stepped
      next flight source place =>
        cases stepped
        rw [place] at carries
        exact holds.moveTo ⟨carries.1, kept.rows _ _ _ _ _ _ _ permitted found
          place carries.2⟩
      · cases stepped
  | retry id =>
      obtain ⟨task, found, stepped⟩ := Option.bind_eq_some_iff.mp stepped
      have carries := holds.task found
      split at stepped
      next flight source place =>
        split at stepped <;> cases stepped
        rw [place] at carries
        exact holds.moveTo ⟨carries.1, trivial⟩
      · cases stepped
  | fail id error => exact holds.stepFail stepped
  | scanned id reader =>
      obtain ⟨task, source, found, place, rfl⟩ := step_scanned stepped
      have carries := holds.tasks id _ found
      simp only [Activity.Holds, place] at carries
      unfold RollupTask.scanned
      split
      · exact holds.setRollup carries
      · exact holds.setRollup trivial
  | seeded id childDirs computedAt elapsedS =>
      obtain ⟨task, scan, seed, reader, found, place, rfl⟩ :=
        step_seeded stepped
      have carries := holds.tasks id _ found
      simp only [Activity.Holds, place] at carries
      unfold RollupTask.seeded
      split
      next result reported finished =>
        refine holds.setRollup ?_
        exact kept.rollup _ _ _ _ _ _ _ carries.1 carries.2 finished
      · exact holds.setRollup trivial

/-- In a run whose steps are permitted, all that is read, cached and handed out
meets the contract. -/
theorem holds_of_reachable {allowed : State → Label → Prop}
    (kept : contract.Kept setting allowed)
    (reachable : (system setting).Reachable allowed state) :
    state.Holds contract := by
  refine reachable.invariant ?_ ?_
  · exact fun _ initial => holds_of_initial initial
  · exact fun _ _ _ _ holds permitted stepped =>
      holds.step kept permitted stepped

end Catwalk.Service
