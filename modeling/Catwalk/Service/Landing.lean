import Catwalk.Service.Flights

/-! What a leader can still do while one worker does not move. -/

namespace Catwalk.Service

/-- The label is no step of the worker, and starts none. -/
def Label.Spares (worker : Nat) : Label → Prop
  | .epoch (.enter id) | .epoch (.check id) | .epoch (.answer id)
  | .epoch (.fail id) | .epoch (.store id) => id ≠ worker
  | .forget id | .advance id | .timeout id | .catalog id _ | .rows id _ _
  | .retry id | .fail id _ | .scanned id _ | .seeded id _ _ _ => id ≠ worker
  | .take => False
  | .epoch (.tick _) | .epoch (.dropEpoch _) | .list _ _ _ _ | .warm _ _
  | .rollup _ _ | .cached _ _ _ => True

/-- What can be reached without the worker. -/
def Without (setting : Setting) (worker : Nat) : State → State → Prop :=
  (system setting).Reaches (Label.Spares worker)

/-- The query behind the flight of the task has failed. -/
def Place.failing : Place → Bool
  | .query _ (.release (.error _)) => true
  | .caching (.unregisterFailed _ _) | .caching (.publishFailed _ _)
  | .caching (.raised _) => true
  | _ => false

variable {setting : Setting} {worker : Nat} {state : State}

theorem Without.refl : Without setting worker state state :=
  StepSystem.Reaches.refl _ _ _

theorem Without.step {after : State} {label : Label}
    (stepped : Service.step setting state label = some after)
    (spares : label.Spares worker) : Without setting worker state after :=
  StepSystem.Reaches.step stepped spares

theorem Without.trans {middle after : State}
    (first : Without setting worker state middle)
    (second : Without setting worker middle after) :
    Without setting worker state after :=
  StepSystem.Reaches.trans first second

theorem State.moveTo_task {middle : State} {id : Nat} {task : Task}
    (tasks : middle.tasks = state.tasks) (found : state.task id = some task)
    (place : Place) (other : Nat) :
    (middle.moveTo id task place).activity other =
      if other = id then some (.listing { task with place := place })
      else state.activity other := by
  have known : middle.activity id = some (.listing task) := by
    rw [State.activity_of_tasks tasks]
    exact State.task_eq_some.mp found
  rw [← State.activity_of_tasks tasks]
  exact State.setActivity_activity known other _

theorem State.moved_task {middle : State} {id : Nat} {task : Task}
    (tasks : middle.tasks = state.tasks) (found : state.task id = some task)
    (place : Place) : (middle.moveTo id task place).task id =
      some { task with place := place } :=
  State.task_eq_some.mpr
    ((State.moveTo_task tasks found place id).trans (if_pos rfl))

/-- How a leader ends. -/
def landing (outcome : Except String Cached) : Caller Cached String :=
  match outcome with
  | .ok value => .returned (some value) false
  | .error error => .raised error

def flown (outcome : Except String Cached) : Outcome Cached String :=
  match outcome with
  | .ok value => .result (some value)
  | .error error => .exception error

/-- Without the worker, the leader completes the flight with a value, or if
`failed` with an error, and the watched activity does not move meanwhile. -/
def Lands (setting : Setting) (worker leader flight watched : Nat)
    (failed : Bool) (state : State) : Prop :=
  ∃ final task key outcome, Without setting worker state final ∧
    final.task leader = some task ∧ task.place = .caching (landing outcome) ∧
    final.listings.futures flight = some ⟨key, flown outcome⟩ ∧
    (failed = true ∨ ∃ value, outcome = .ok value) ∧
    (watched ≠ leader → final.activity watched = state.activity watched)

variable {leader flight watched : Nat} {failed : Bool}

theorem Lands.next {middle : State} {task : Task} {place : Place} {label : Label}
    (found : state.task leader = some task)
    (stepped : step setting state label =
      some (middle.moveTo leader task place))
    (tasks : middle.tasks = state.tasks) (spares : label.Spares worker)
    (lands : ∀ after, after = middle.moveTo leader task place →
      after.task leader = some { task with place := place } →
        Lands setting worker leader flight watched failed after) :
    Lands setting worker leader flight watched failed state := by
  have moved := State.moveTo_task tasks found place
  obtain ⟨final, ended, key, outcome, reached, known, landed, future, fails,
    kept⟩ := lands _ rfl (State.moved_task tasks found place)
  refine ⟨final, ended, key, outcome, .trans (.step stepped spares) reached,
    known, landed, future, fails, fun differ => ?_⟩
  rw [kept differ, moved, if_neg differ]

theorem lands_published {task : Task} (key : ListingKey)
    (outcome : Except String Cached) (found : state.task leader = some task)
    (place : task.place = .caching (landing outcome))
    (future : state.listings.futures flight = some ⟨key, flown outcome⟩)
    (fails : failed = true ∨ ∃ value, outcome = .ok value) :
    Lands setting worker leader flight watched failed state :=
  ⟨state, task, key, outcome, .refl, found, place, future, fails,
    fun _ => rfl⟩

theorem lands_publish {task : Task} {value : Cached} (spared : leader ≠ worker)
    (found : state.task leader = some task)
    (place : task.place = .caching (.publish flight (some value))) :
    Lands setting worker leader flight watched failed state := by
  have stepped : step setting state (.advance leader) =
      some ({ state with
        listings := state.listings.complete task.key flight
          (.result (some value)) }.moveTo leader task
            (.caching (.returned (some value) false))) := by
    rw [step_advance found, Task.advance, place]
    rfl
  refine .next found stepped rfl spared ?_
  rintro after rfl known
  exact lands_published task.key (.ok value) known rfl
    (Function.update_self _ _ _) (.inr ⟨value, rfl⟩)

theorem lands_unregister {task : Task} {value : Cached}
    (spared : leader ≠ worker) (found : state.task leader = some task)
    (place : task.place = .caching (.unregister flight (some value))) :
    Lands setting worker leader flight watched failed state := by
  have stepped : step setting state (.advance leader) =
      some ({ state with
        listings := state.listings.unregister task.key }.moveTo leader task
          (.caching (.publish flight (some value)))) := by
    rw [step_advance found, Task.advance, place]
    rfl
  refine .next found stepped rfl spared ?_
  exact fun _ _ known => lands_publish spared known rfl

theorem lands_put {task : Task} {value : Cached} {nbytes : Nat}
    (spared : leader ≠ worker) (found : state.task leader = some task)
    (place : task.place = .caching (.put flight (some value) nbytes)) :
    Lands setting worker leader flight watched failed state := by
  have stepped : step setting state (.advance leader) =
      some ({ state with
        listings := state.listings.put state.now task.key (some value)
          nbytes }.moveTo leader task
            (.caching (.unregister flight (some value)))) := by
    rw [step_advance found, Task.advance, place]
    rfl
  refine .next found stepped rfl spared ?_
  exact fun _ _ known => lands_unregister spared known rfl

theorem lands_publishFailed {task : Task} {error : String}
    (spared : leader ≠ worker) (found : state.task leader = some task)
    (place : task.place = .caching (.publishFailed flight error)) :
    Lands setting worker leader flight watched true state := by
  have stepped : step setting state (.advance leader) =
      some ({ state with
        listings := state.listings.complete task.key flight
          (.exception error) }.moveTo leader task (.caching (.raised error))) := by
    rw [step_advance found, Task.advance, place]
    rfl
  refine .next found stepped rfl spared ?_
  rintro after rfl known
  exact lands_published task.key (.error error) known rfl
    (Function.update_self _ _ _) (.inl rfl)

theorem lands_unregisterFailed {task : Task} {error : String}
    (spared : leader ≠ worker) (found : state.task leader = some task)
    (place : task.place = .caching (.unregisterFailed flight error)) :
    Lands setting worker leader flight watched true state := by
  have stepped : step setting state (.advance leader) =
      some ({ state with
        listings := state.listings.unregister task.key }.moveTo leader task
          (.caching (.publishFailed flight error))) := by
    rw [step_advance found, Task.advance, place]
    rfl
  refine .next found stepped rfl spared ?_
  exact fun _ _ known => lands_publishFailed spared known rfl

theorem lands_release {task : Task} {outcome : Except String (Cached × Nat)}
    (spared : leader ≠ worker) (found : state.task leader = some task)
    (place : task.place = .query (some flight) (.release outcome))
    (fails : ∀ error, outcome = .error error → failed = true) :
    Lands setting worker leader flight watched failed state := by
  have stepped : step setting state (.advance leader) =
      some (task.queried (state.leaveGate leader) leader (some flight)
        outcome) := by
    rw [step_advance found, Task.advance, place]
    rfl
  cases outcome with
  | ok answer =>
      refine .next found stepped rfl spared ?_
      exact fun _ _ known => lands_put spared known rfl
  | error error =>
      rw [fails error rfl]
      refine .next found stepped rfl spared ?_
      exact fun _ _ known => lands_unregisterFailed spared known rfl

theorem lands_read {task : Task} {source : Source}
    (spared : leader ≠ worker) (found : state.task leader = some task)
    (place : task.place = .query (some flight) (.read source)) :
    Lands setting worker leader flight watched failed state := by
  have stepped : step setting state (.rows leader [] 0) =
      some (state.moveTo leader task (.query (some flight) (.release (.ok
        (⟨queryListing setting.cfg.listingCap [] 0, task.epoch, source⟩,
          listingCost setting.nbytes
            (queryListing setting.cfg.listingCap [] 0).table))))) := by
    simp [step, found, place]
  refine .next found stepped rfl spared ?_
  exact fun _ _ known => lands_release spared known rfl (by simp)

theorem lands_catalog {task : Task} (spared : leader ≠ worker)
    (found : state.task leader = some task)
    (place : task.place = .query (some flight) .catalog) :
    Lands setting worker leader flight watched failed state := by
  obtain ⟨source, chosen⟩ : ∃ source,
      state.catalog setting task.epoch true = some (source, state) := by
    unfold State.catalog
    split
    · exact ⟨_, rfl⟩
    · exact ⟨_, rfl⟩
  have stepped : step setting state (.catalog leader true) =
      some (state.moveTo leader task (.query (some flight) (.read source))) := by
    simp [step, stepCatalog, State.task_eq_some.mp found, place, chosen]
  refine .next found stepped rfl spared ?_
  exact fun _ _ known => lands_read spared known rfl

/-- A slot of the query gate is free. -/
def SlotFree (cfg : Config) (state : State) : Prop :=
  ∀ slots, cfg.queryThreads = some slots → state.gate.length < slots

theorem lands_gate {task : Task} (spared : leader ≠ worker)
    (found : state.task leader = some task)
    (place : task.place = .query (some flight) .gate)
    (free : SlotFree setting.cfg state) :
    Lands setting worker leader flight watched failed state := by
  obtain ⟨middle, acquired⟩ : ∃ middle,
      state.acquire setting.cfg leader = some middle := by
    unfold State.acquire
    split
    · exact ⟨_, rfl⟩
    next slots gated =>
      rw [if_pos (free slots gated)]
      exact ⟨_, rfl⟩
  have stepped : step setting state (.advance leader) =
      some (middle.moveTo leader task (.query (some flight) .catalog)) := by
    rw [step_advance found, Task.advance, place]
    simp [Task.advanceQuery, acquired]
  refine .next found stepped (State.acquire_same acquired).2.1 spared ?_
  exact fun _ _ known => lands_catalog spared known rfl

theorem lands_derive {task : Task} (spared : leader ≠ worker)
    (found : state.task leader = some task)
    (place : task.place = .query (some flight) .derive)
    (free : SlotFree setting.cfg state) :
    Lands setting worker leader flight watched failed state := by
  have toGate : step setting state (.advance leader) =
        some ({ state with
          listings := (state.listings.get state.now task.fullKey).2 }.moveTo
            leader task (.query (some flight) .gate)) →
      Lands setting worker leader flight watched failed state := by
    intro stepped
    refine .next found stepped rfl spared ?_
    rintro after rfl known
    exact lands_gate spared known rfl free
  have advanced : step setting state (.advance leader) =
      task.advanceQuery setting state leader (some flight) .derive := by
    rw [step_advance found, Task.advance, place]
  rw [advanced] at toGate
  cases full : (state.listings.get state.now task.fullKey).1 with
  | none =>
      refine toGate ?_
      simp [Task.advanceQuery, full]
  | some full' =>
      by_cases truncated : full'.listing.truncated = true
      · refine toGate ?_
        simp [Task.advanceQuery, full, truncated]
      · have stepped : step setting state (.advance leader) =
            some ({ state with
              listings := (state.listings.get state.now task.fullKey).2 }.moveTo
                leader task (.caching (.put flight (some { full' with
                  listing := deriveListing full'.listing task.type task.name })
                  (listingCost setting.nbytes (deriveListing full'.listing
                    task.type task.name).table)))) := by
          rw [advanced]
          simp [Task.advanceQuery, full, truncated, Task.queried]
        refine .next found stepped rfl spared ?_
        exact fun _ _ known => lands_put spared known rfl

/-- The holder of a slot has left the query gate. -/
structure Left (state after : State) (holder : Nat) : Prop where
  gate : after.gate = state.gate.erase holder
  listings : after.listings = state.listings
  others : ∀ other, other ≠ holder → after.activity other = state.activity other

theorem leaves_released {holder : Nat} {task : Task} {led : Option Nat}
    {outcome : Except String (Cached × Nat)} (spared : holder ≠ worker)
    (found : state.task holder = some task)
    (place : task.place = .query led (.release outcome)) :
    ∃ after, Without setting worker state after ∧ Left state after holder := by
  have stepped : step setting state (.advance holder) =
      some (task.queried (state.leaveGate holder) holder led outcome) := by
    rw [step_advance found, Task.advance, place]
    rfl
  refine ⟨_, .step stepped spared, ⟨rfl, rfl, fun other differ => ?_⟩⟩
  exact (State.moveTo_task rfl found _ other).trans (if_neg differ)

theorem leaves_released_rollup {holder : Nat} {task : RollupTask}
    {outcome : Except String CachedRollup} (spared : holder ≠ worker)
    (found : state.activity holder = some (.rollup task))
    (place : task.place = .release outcome) :
    ∃ after, Without setting worker state after ∧ Left state after holder := by
  have known : (state.leaveGate holder).activity holder =
      some (.rollup task) := found
  have left : ∀ new, Left state
      ((state.leaveGate holder).moveRollup holder task new) holder :=
    fun new => ⟨rfl, rfl, fun other differ =>
      (State.setActivity_activity known other _).trans (if_neg differ)⟩
  have leave : ∀ {new}, step setting state (.advance holder) =
        some ((state.leaveGate holder).moveRollup holder task new) →
      ∃ after, Without setting worker state after ∧ Left state after holder :=
    fun stepped => ⟨_, .step stepped spared, left _⟩
  cases outcome with
  | ok value => exact leave (by simp [step, found, RollupTask.advance, place]; rfl)
  | error error =>
      exact leave (by simp [step, found, RollupTask.advance, place]; rfl)

theorem Left.later {middle : State} {holder : Nat} (spared : holder ≠ worker)
    (stepped : step setting state (.fail holder "") = some middle)
    (gate : middle.gate = state.gate) (listings : middle.listings = state.listings)
    (others : ∀ other, other ≠ holder →
      middle.activity other = state.activity other)
    (leaves : ∃ after, Without setting worker middle after ∧
      Left middle after holder) :
    ∃ after, Without setting worker state after ∧ Left state after holder := by
  obtain ⟨after, reached, left⟩ := leaves
  refine ⟨after, .trans (.step stepped spared) reached, ?_, ?_, ?_⟩
  · rw [left.gate, gate]
  · rw [left.listings, listings]
  · intro other differ
    rw [left.others other differ, others other differ]

theorem leaves_listing {holder : Nat} {task : Task} (spared : holder ≠ worker)
    (found : state.task holder = some task)
    (inside : task.place.inGate = true) :
    ∃ after, Without setting worker state after ∧ Left state after holder := by
  have known := State.task_eq_some.mp found
  have moved := fun place other differ =>
    (State.moveTo_task rfl found place other).trans (if_neg differ)
  have failing : ∀ led, step setting state (.fail holder "") =
        some (state.moveTo holder task (.query led (.release (.error "")))) →
      ∃ after, Without setting worker state after ∧ Left state after holder := by
    intro led stepped
    have released := State.moved_task rfl found
      (.query led (.release (.error "")))
    exact Left.later spared stepped rfl rfl (moved _)
      (leaves_released spared released rfl)
  cases place : task.place with
  | query led stage =>
      cases stage with
      | catalog => exact failing led (by simp [step, stepFail, known, place])
      | read source => exact failing led (by simp [step, stepFail, known, place])
      | release outcome => exact leaves_released spared found place
      | _ =>
          rw [place] at inside
          cases inside
  | _ =>
      rw [place] at inside
      cases inside

theorem leaves_rollup {holder : Nat} {task : RollupTask}
    (spared : holder ≠ worker)
    (found : state.activity holder = some (.rollup task))
    (inside : task.place.inGate = true) :
    ∃ after, Without setting worker state after ∧ Left state after holder := by
  have failing : step setting state (.fail holder "") =
        some (state.moveRollup holder task (.release (.error ""))) →
      ∃ after, Without setting worker state after ∧ Left state after holder := by
    intro stepped
    have moved := State.setActivity_activity found
    refine Left.later spared stepped rfl rfl
      (fun other differ => (moved other _).trans (if_neg differ)) ?_
    exact leaves_released_rollup spared ((moved holder _).trans (if_pos rfl)) rfl
  cases place : task.place with
  | scanCatalog => exact failing (by simp [step, stepFail, found, place])
  | scan source => exact failing (by simp [step, stepFail, found, place])
  | seedCatalog source reader =>
      exact failing (by simp [step, stepFail, found, place])
  | seed scan seed reader =>
      exact failing (by simp [step, stepFail, found, place])
  | release outcome => exact leaves_released_rollup spared found place
  | _ =>
      rw [place] at inside
      cases inside

/-- Whoever holds a slot can leave the query gate: its query may fail. -/
theorem leaves {holder : Nat} (spared : holder ≠ worker)
    (inside : (state.view holder).inGate = true) :
    ∃ after, Without setting worker state after ∧ Left state after holder := by
  unfold State.view at inside
  split at inside
  next activity found =>
    cases activity with
    | listing task =>
        exact leaves_listing spared (State.task_eq_some.mpr found) inside
    | rollup task => exact leaves_rollup spared found inside
  · cases inside

/-- The worker does not hold all slots of the query gate. -/
def SlotLeft (cfg : Config) (worker : Nat) (state : State) : Prop :=
  ∀ slots, cfg.queryThreads = some slots → 0 < slots ∧ GateHeld slots state ∧
    (slots = 1 → (state.view worker).inGate = false)

theorem frees_slot (left : SlotLeft setting.cfg worker state) :
    ∃ after, Without setting worker state after ∧ SlotFree setting.cfg after ∧
      after.listings = state.listings ∧
      ∀ other, (state.view other).inGate = false →
        after.activity other = state.activity other := by
  by_cases free : SlotFree setting.cfg state
  · exact ⟨state, .refl, free, rfl, fun _ _ => rfl⟩
  · simp only [SlotFree, not_forall, Nat.not_lt] at free
    obtain ⟨slots, gated, full⟩ := free
    obtain ⟨some_, held, single⟩ := left slots gated
    obtain ⟨holder, member, spared⟩ : ∃ holder ∈ state.gate,
        holder ≠ worker := by
      by_contra all
      simp only [not_exists, not_and, not_not] at all
      have alone : state.gate ⊆ [worker] := by
        intro holder member
        exact List.mem_singleton.mpr (all holder member)
      have one := (List.subperm_of_subset held.nodup alone).length_le
      rw [List.length_singleton] at one
      have outside := single (by omega)
      obtain ⟨holder, member⟩ :=
        List.exists_mem_of_length_pos (some_.trans_le full)
      have inside := (held.held_iff holder).mp member
      rw [all holder member, outside] at inside
      cases inside
    have inside := (held.held_iff holder).mp member
    obtain ⟨after, reached, left⟩ := leaves spared inside
    refine ⟨after, reached, ?_, left.listings, fun other outside => ?_⟩
    · intro slots' gated'
      cases gated.symm.trans gated'
      rw [left.gate, List.length_erase_of_mem member]
      have := held.within
      omega
    · refine left.others other ?_
      rintro rfl
      rw [inside] at outside
      cases outside

/-- The value a caller carries is one. -/
def Place.Carries : Place → Prop
  | .caching (.compute _) => False
  | .caching (.put _ value _) | .caching (.unregister _ value)
  | .caching (.publish _ value) | .caching (.returned value _) =>
      value.isSome = true
  | _ => True

theorem Lands.of_reached {after : State}
    (reached : Without setting worker state after)
    (kept : watched ≠ leader →
      after.activity watched = state.activity watched)
    (lands : Lands setting worker leader flight watched failed after) :
    Lands setting worker leader flight watched failed state := by
  obtain ⟨final, task, key, outcome, later, found, landed, future, fails,
    kept'⟩ := lands
  exact ⟨final, task, key, outcome, reached.trans later, found, landed, future,
    fails, fun differ => (kept' differ).trans (kept differ)⟩

/-- A leader other than the worker can complete its flight. -/
theorem lands_of_leading {task : Task} (spared : leader ≠ worker)
    (left : ∀ led, task.place = .query led .derive ∨
      task.place = .query led .gate → SlotLeft setting.cfg worker state)
    (found : state.task leader = some task)
    (leads : task.place.leads = some flight) (carries : task.place.Carries)
    (outside : watched ≠ leader → (state.view watched).inGate = false)
    (fails : task.place.failing = true → failed = true) :
    Lands setting worker leader flight watched failed state := by
  have slotted : SlotLeft setting.cfg worker state →
      (∀ after, after.task leader = some task → SlotFree setting.cfg after →
        Lands setting worker leader flight watched failed after) →
      task.place.inGate = false →
      Lands setting worker leader flight watched failed state := by
    intro left lands before
    obtain ⟨after, reached, free, _, kept⟩ := frees_slot left
    refine .of_reached reached (fun differ => kept watched (outside differ))
      (lands after ?_ free)
    rw [State.task_eq_some] at found ⊢
    rw [kept leader ?_, found]
    rw [State.view_of_activity found]
    exact before
  cases place : task.place with
  | caching caller =>
      rw [place] at leads carries fails
      cases caller with
      | compute led => exact carries.elim
      | put led value nbytes =>
          cases leads
          obtain ⟨value, rfl⟩ := Option.isSome_iff_exists.mp carries
          exact lands_put spared found place
      | unregister led value =>
          cases leads
          obtain ⟨value, rfl⟩ := Option.isSome_iff_exists.mp carries
          exact lands_unregister spared found place
      | publish led value =>
          cases leads
          obtain ⟨value, rfl⟩ := Option.isSome_iff_exists.mp carries
          exact lands_publish spared found place
      | unregisterFailed led error =>
          cases leads
          rw [fails rfl]
          exact lands_unregisterFailed spared found place
      | publishFailed led error =>
          cases leads
          rw [fails rfl]
          exact lands_publishFailed spared found place
      | _ => cases leads
  | query led stage =>
      rw [place] at leads fails slotted
      cases leads
      cases stage with
      | derive =>
          exact slotted (left _ (.inl place)) (fun _ known free =>
            lands_derive spared known place free) rfl
      | gate =>
          exact slotted (left _ (.inr place)) (fun _ known free =>
            lands_gate spared known place free) rfl
      | catalog => exact lands_catalog spared found place
      | read source => exact lands_read spared found place
      | release outcome =>
          refine lands_release spared found place ?_
          rintro error rfl
          exact fails rfl
  | _ =>
      rw [place] at leads
      cases leads

end Catwalk.Service
