import Catwalk.Api.Rollup
import Catwalk.Cache.Contents
import Catwalk.Jobs.Watchers

/-! Which snapshots the answers to rollup requests describe. -/

namespace Catwalk.Api

variable {setting : Setting} {state after : State}

theorem CurrentSince.mono {since : Int} {snapshot : Option String}
    (current : CurrentSince setting state since snapshot)
    (later : state.now ≤ after.now) :
    CurrentSince setting after since snapshot := by
  obtain ⟨moment, made, passed, same⟩ := current
  exact ⟨moment, made, passed.trans later, same⟩

/-- The job a request waits for or polls. -/
def RequestPlace.job : RequestPlace → Option Nat
  | .waiting job | .given job | .polled job => some job
  | _ => none

/-- What a request has read is current since the request was made, and so is
what its job has read. -/
structure Request.Sound (setting : Setting) (state : State)
    (request : Request) : Prop where
  made : request.since ≤ state.now
  keyed : ∀ epoch, request.place = .keyed epoch →
    CurrentSince setting state request.since epoch
  known : ∀ job, request.place.job = some job →
    state.manager.heap job ≠ none
  holding : ∀ job snapshot, request.place.job = some job →
    (state.computing job).snapshot = some snapshot →
    CurrentSince setting state request.since snapshot

/-- A cached rollup describes the snapshot of its key. -/
def Named (key : RollupKey) (value : Option RollupResult) : Prop :=
  ∀ result, value = some result → result.catalogSnapshot = key.1

structure Sound (setting : Setting) (state : State) : Prop where
  fresh : Jobs.Fresh state.manager
  unborn : ∀ job, state.manager.heap job = none →
    state.computing job = .unpinned
  carried : ∀ id job result, state.manager.heap id = some job →
    job.Carries result → state.computing id = .computed result
  cache : state.cache.cache.Holds Named
  requests : ∀ id request, state.requests id = some request →
    request.Sound setting state
  unmade : ∀ id, state.nextRequest ≤ id → state.requests id = none
  answers : ∀ id answer, (id, answer) ∈ state.answers →
    ∃ request, state.requests id = some request ∧
      CurrentSince setting state request.since answer.result.catalogSnapshot

theorem Sound.fresh_answers (sound : Sound setting state) :
    Fresh setting state := by
  intro id answer request member found
  obtain ⟨request', found', current⟩ := sound.answers id answer member
  rw [found, Option.some.injEq] at found'
  exact found' ▸ current

theorem sound_of_initial (initial : Initial setting state) :
    Sound setting state where
  fresh id _ := initial.manager.heap id
  unborn job _ := initial.computing job
  carried id job result found := by
    rw [initial.manager.heap] at found
    cases found
  cache key entry found := by
    rw [initial.cache] at found
    cases found
  requests id request found := by
    rw [initial.requests] at found
    cases found
  unmade id _ := initial.requests id
  answers id answer member := by
    rw [initial.answers] at member
    cases member

theorem Request.Sound.mono {request : Request}
    (sound : request.Sound setting state) (later : state.now ≤ after.now)
    (jobs : ∀ job, state.manager.heap job ≠ none →
      after.manager.heap job ≠ none ∧
        after.computing job = state.computing job) :
    request.Sound setting after where
  made := sound.made.trans later
  keyed epoch place := (sound.keyed epoch place).mono later
  known job place := (jobs job (sound.known job place)).1
  holding job snapshot place read := by
    rw [(jobs job (sound.known job place)).2] at read
    exact (sound.holding job snapshot place read).mono later

/-- A step of the manager keeps the invariant when its results are those the
jobs have computed. -/
theorem Sound.manager {label : Jobs.Label JobKey RollupResult}
    {manager : Jobs.State JobKey RollupResult} (sound : Sound setting state)
    (stepped :
      Jobs.step setting.cfg.jobs state.manager label = some manager)
    (computed : ∀ id result, label = .returns id result →
      state.computing id = .computed result) :
    Sound setting { state with manager := manager } := by
  have heap := Jobs.step_heap (sound.fresh _ le_rfl) stepped
  have later : state.now ≤ manager.now := (Jobs.step_frame stepped).now
  constructor
  · exact sound.fresh.step stepped
  · intro job missing
    refine sound.unborn job ?_
    by_contra found
    obtain ⟨old, found⟩ := Option.ne_none_iff_exists'.mp found
    obtain ⟨new, found', _⟩ := heap.kept job old found
    rw [show manager.heap job = none from missing] at found'
    cases found'
  · intro id job result found carries
    rcases heap.origin found with
      ⟨old, before, changed⟩ | ⟨_, key, _, _, _, rfl, _⟩
    · rcases changed.carries carries with carries | returned
      · exact sound.carried id old result before carries
      · exact computed id result returned
    · exact absurd carries (Jobs.Job.not_carries_new _ _ _ result)
  · exact sound.cache
  · intro id request found
    refine (sound.requests id request found).mono later fun job known => ?_
    obtain ⟨old, found⟩ := Option.ne_none_iff_exists'.mp known
    obtain ⟨new, found', _⟩ := heap.kept job old found
    exact ⟨by simp [found'], rfl⟩
  · exact sound.unmade
  · intro id answer member
    obtain ⟨request, found, current⟩ := sound.answers id answer member
    exact ⟨request, found, current.mono later⟩

theorem State.setRequest_requests (state : State) (id other : Nat)
    (request : Request) : (state.setRequest id request).requests other =
      if other = id then some request else state.requests other := by
  simp [State.setRequest, Function.update_apply]

theorem Sound.setRequest {id : Nat} {request request' : Request}
    (sound : Sound setting state) (found : state.requests id = some request)
    (since : request'.since = request.since)
    (sound' : request'.Sound setting state) :
    Sound setting (state.setRequest id request') where
  fresh := sound.fresh
  unborn := sound.unborn
  carried := sound.carried
  cache := sound.cache
  requests other stored found' := by
    rw [State.setRequest_requests] at found'
    split at found'
    · cases found'
      exact sound'.mono le_rfl fun _ known => ⟨known, rfl⟩
    · exact (sound.requests other stored found').mono le_rfl
        fun _ known => ⟨known, rfl⟩
  unmade other later := by
    rw [State.setRequest_requests, if_neg]
    · exact sound.unmade other later
    · rintro rfl
      rw [sound.unmade _ later] at found
      cases found
  answers other answer member := by
    obtain ⟨answered, found', current⟩ := sound.answers other answer member
    rw [State.setRequest_requests]
    split
    next same =>
      rw [same, found, Option.some.injEq] at found'
      subst found'
      exact ⟨request', rfl, since.symm ▸ current⟩
    next => exact ⟨answered, found', current⟩

theorem Sound.setCache {cache : SharedCache RollupKey RollupResult Unit}
    (sound : Sound setting state) (named : cache.cache.Holds Named) :
    Sound setting { state with cache := cache } where
  fresh := sound.fresh
  unborn := sound.unborn
  carried := sound.carried
  cache := named
  requests id request found :=
    (sound.requests id request found).mono le_rfl
      fun _ known => ⟨known, rfl⟩
  unmade := sound.unmade
  answers := sound.answers

theorem Sound.answer {id : Nat} {request stored : Request}
    {result : RollupResult} (sound : Sound setting state)
    (found : state.requests id = some stored)
    (current : CurrentSince setting state stored.since
      result.catalogSnapshot) :
    Sound setting (state.answer setting.cfg id request result) where
  fresh := sound.fresh
  unborn := sound.unborn
  carried := sound.carried
  cache := sound.cache
  requests other request found :=
    (sound.requests other request found).mono le_rfl
      fun _ known => ⟨known, rfl⟩
  unmade := sound.unmade
  answers other answer member := by
    rcases List.mem_cons.mp member with same | member
    · cases same
      exact ⟨stored, found, current⟩
    · exact sound.answers other answer member

theorem Sound.request (sound : Sound setting state) (path : Text)
    (depth : Nat) (childLimit : Option Nat) :
    Sound setting (state.request setting.cfg path depth childLimit) := by
  unfold State.request
  simp only
  split
  · exact sound
  · have missing := sound.unmade _ le_rfl
    exact
      { fresh := sound.fresh
        unborn := sound.unborn
        carried := sound.carried
        cache := sound.cache
        requests := by
          intro id request found
          simp only [State.setRequest_requests] at found
          split at found
          · cases found
            exact
              { made := le_rfl
                keyed := fun _ place => by cases place
                known := fun _ place => by cases place
                holding := fun _ _ place => by cases place }
          · exact (sound.requests id request found).mono le_rfl
              fun _ known => ⟨known, rfl⟩
        unmade := by
          intro id later
          simp only [State.setRequest_requests]
          rw [if_neg (Nat.lt_of_succ_le later).ne']
          exact sound.unmade id (Nat.le_of_succ_le later)
        answers := by
          intro id answer member
          obtain ⟨request, found, current⟩ := sound.answers id answer member
          refine ⟨request, ?_, current⟩
          simp only [State.setRequest_requests]
          rw [if_neg, found]
          rintro rfl
          rw [missing] at found
          cases found }

theorem Sound.moveTo {id : Nat} {request : Request} {place : RequestPlace}
    (sound : Sound setting state) (found : state.requests id = some request)
    (keyed : ∀ epoch, place = .keyed epoch →
      CurrentSince setting state request.since epoch)
    (job : ∀ job, place.job = some job → request.place.job = some job) :
    Sound setting (state.moveTo id request place) := by
  have before := sound.requests id request found
  refine sound.setRequest found rfl ⟨before.made, keyed, ?_, ?_⟩
  · exact fun target place => before.known target (job target place)
  · exact fun target snapshot place =>
      before.holding target snapshot (job target place)

theorem Sound.moveAnswer {id : Nat} {request : Request}
    {place : RequestPlace} {result : RollupResult}
    (sound : Sound setting state) (found : state.requests id = some request)
    (keyed : ∀ epoch, place ≠ .keyed epoch)
    (job : ∀ job, place.job = some job → request.place.job = some job)
    (current : CurrentSince setting state request.since
      result.catalogSnapshot) :
    Sound setting
      ((state.moveTo id request place).answer setting.cfg id request result) := by
  have moved := sound.moveTo found
    (fun epoch same => absurd same (keyed epoch)) job
  have stored : (state.moveTo id request place).requests id =
      some { request with place := place } :=
    (State.setRequest_requests ..).trans (if_pos rfl)
  exact moved.answer stored current

theorem Sound.cached {id : Nat} {request : Request} {epoch : Option String}
    (sound : Sound setting state) (found : state.requests id = some request)
    (place : request.place = .keyed epoch) :
    Sound setting (state.cached setting.cfg id request epoch) := by
  have current := (sound.requests id request found).keyed epoch place
  unfold State.cached
  generalize looking : state.cache.get state.now
    (epoch, normalizePrefix request.pathPrefix, request.depth) = looked
  obtain ⟨hit, cache⟩ := looked
  have looked : Sound setting { state with cache := cache } :=
    sound.setCache ((Prod.mk.inj looking).2 ▸ sound.cache.get _ _)
  cases hit with
  | none =>
      exact looked.moveTo found (fun _ place => by cases place)
        (fun _ place => by cases place)
  | some result =>
      have named := sound.cache.of_get (Prod.mk.inj looking).1 result rfl
      refine looked.moveAnswer found (fun _ place => by cases place)
        (fun _ place => by cases place) ?_
      rw [named]
      exact current.mono le_rfl

theorem Sound.submit {id : Nat} {request : Request} {fails : Bool}
    (sound : Sound setting state) (found : state.requests id = some request)
    (joinsFresh : JoinsFresh setting state (.submit id fails)) :
    Sound setting (state.submit setting.cfg id request fails) := by
  have joins := joinsFresh request
  unfold State.submit
  generalize submitting : state.manager.submit setting.cfg.jobs
    (request.pathPrefix, request.depth) fails = submitted at joins
  obtain ⟨outcome, manager⟩ := submitted
  have stepped : Jobs.step setting.cfg.jobs state.manager
      (.submit (request.pathPrefix, request.depth) fails) = some manager := by
    rw [Jobs.step, submitting]
  have later : state.now ≤ manager.now := (Jobs.step_frame stepped).now
  have managed : Sound setting { state with manager := manager } :=
    sound.manager stepped fun _ _ same => by cases same
  have ended : Sound setting
      ({ state with manager := manager }.moveTo id request .ended) :=
    managed.moveTo found (fun _ place => by cases place)
      (fun _ place => by cases place)
  cases outcome with
  | returned job watcher =>
      have watched := Jobs.Watched.of_returned (congrArg Prod.fst submitting)
      rw [submitting] at watched
      obtain ⟨_, _, known, _⟩ := watched
      have known : manager.heap job ≠ none := by
        rw [show manager.heap job = _ from known]
        exact Option.some_ne_none _
      have before := managed.requests id request found
      refine managed.setRequest found rfl ⟨before.made, ?_, ?_, ?_⟩
      · exact fun _ place => by cases place
      · intro target place
        cases place
        exact known
      · intro target snapshot place read
        cases place
        exact (joins job watcher snapshot found rfl read).mono later
  | closed | queueFull | failed => exact ended

/-- What a job has computed is current for whoever waits for it. -/
theorem Sound.carried_current {id target : Nat} {request : Request}
    {job : Jobs.Job JobKey RollupResult} {result : RollupResult}
    (sound : Sound setting state) (found : state.requests id = some request)
    (joined : request.place.job = some target)
    (known : state.manager.heap target = some job)
    (carries : job.Carries result) :
    CurrentSince setting state request.since result.catalogSnapshot := by
  refine (sound.requests id request found).holding target _ joined ?_
  rw [sound.carried target job result known carries]
  rfl

theorem Sound.finish {id : Nat} {request : Request} {target : Nat}
    {job : Jobs.Job JobKey RollupResult} (sound : Sound setting state)
    (found : state.requests id = some request)
    (place : request.place = .waiting target)
    (known : state.manager.heap target = some job) :
    Sound setting (state.finish setting.cfg id request job) := by
  have ended : Sound setting (state.moveTo id request .ended) :=
    sound.moveTo found (fun _ place => by cases place)
      (fun _ place => by cases place)
  unfold State.finish
  simp only
  split
  · exact ended
  · split
    next result computed =>
      refine sound.moveAnswer found (fun _ place => by cases place)
        (fun _ place => by cases place) ?_
      exact sound.carried_current found (by rw [place]; rfl) known
        (.inr (.inr computed))
    next => exact ended

theorem Sound.status {id : Nat} {request : Request} {target : Nat}
    {job : Jobs.Job JobKey RollupResult} (sound : Sound setting state)
    (found : state.requests id = some request)
    (place : request.place = .polled target)
    (known : state.manager.heap target = some job) :
    Sound setting (state.status setting.cfg id request target job) := by
  have same : ∀ other, (RequestPlace.given target).job = some other →
      request.place.job = some other := by
    rw [place]
    exact fun _ same => same
  have polling : Sound setting (state.moveTo id request (.given target)) :=
    sound.moveTo found (fun _ place => by cases place) same
  unfold State.status
  simp only
  split
  · split
    next result computed =>
      refine sound.moveAnswer found (fun _ place => by cases place) same ?_
      exact sound.carried_current found (by rw [place]; rfl) known
        (.inr (.inr computed))
    next => exact polling
  · exact polling

theorem State.setComputing_computing (state : State) (job other : Nat)
    (computing : Computing) : (state.setComputing job computing).computing other =
      if other = job then computing else state.computing other := by
  simp [State.setComputing, Function.update_apply]

/-- What a job's `compute` does to its own place; a snapshot it reads now is
current for everybody. -/
theorem Sound.setComputing {job : Nat} {computing : Computing}
    (sound : Sound setting state) (known : state.manager.heap job ≠ none)
    (notComputed : ∀ result, state.computing job ≠ .computed result)
    (read : ∀ snapshot, computing.snapshot = some snapshot →
      (state.computing job).snapshot = some snapshot ∨
        snapshot = setting.epochAt state.now) :
    Sound setting (state.setComputing job computing) where
  fresh := sound.fresh
  unborn other missing := by
    rw [State.setComputing_computing, if_neg]
    · exact sound.unborn other missing
    · exact fun same => known (same ▸ missing)
  carried other stored result found carries := by
    have before := sound.carried other stored result found carries
    rw [State.setComputing_computing, if_neg]
    · exact before
    · exact fun same => notComputed result (same ▸ before)
  cache := sound.cache
  requests id request found := by
    have before := sound.requests id request found
    refine ⟨before.made, before.keyed, before.known, ?_⟩
    intro target snapshot place pinned
    rw [State.setComputing_computing] at pinned
    split at pinned
    next same =>
      subst same
      rcases read snapshot pinned with pinned | rfl
      · exact before.holding target snapshot place pinned
      · exact ⟨state.now, before.made, le_rfl, rfl⟩
    next => exact before.holding target snapshot place pinned
  unmade := sound.unmade
  answers := sound.answers

theorem compute_snapshot {arrow : Arrow} {backend : Backend}
    {cfg : RollupConfig} {deepSize : RollupResult → Nat} {now : Int}
    {path : Text} {depth : Nat} {input : RollupInput}
    {shared cache : SharedCache RollupKey RollupResult Unit}
    {outcome : Except RollupError RollupResult}
    (named : shared.cache.Holds Named)
    (computed : RollupService.compute arrow backend cfg deepSize now path depth
      input shared = (outcome, cache)) :
    cache.cache.Holds Named ∧
      ∀ result, outcome = .ok result → result.catalogSnapshot = input.epoch := by
  unfold RollupService.compute at computed
  split at computed
  next error failed =>
    cases computed
    exact ⟨named, fun _ same => by cases same⟩
  next result reported finished =>
    cases computed
    have snapshot := RollupService.rollup_snapshot finished
    refine ⟨?_, fun _ same => by cases same; exact snapshot⟩
    exact TTLCache.Holds.put named (shared.putCache_spec ..)
      fun _ same => by cases same; exact snapshot

theorem running_eq_some {target : Nat} {job : Jobs.Job JobKey RollupResult}
    (runs : running state target = some job) :
    state.manager.heap target = some job :=
  (Option.filter_eq_some_iff.mp runs).1

theorem Sound.step {label : Label} (sound : Sound setting state)
    (joinsFresh : JoinsFresh setting state label)
    (stepped : step setting state label = some after) :
    Sound setting after := by
  cases label with
  | request path depth childLimit =>
      cases stepped
      exact sound.request path depth childLimit
  | lookup id =>
      obtain ⟨request, found, stepped⟩ := Option.bind_eq_some_iff.mp stepped
      split at stepped <;> cases stepped
      refine sound.moveTo found ?_ (fun _ place => by cases place)
      rintro epoch same
      cases same
      exact ⟨state.now, (sound.requests id request found).made, le_rfl, rfl⟩
  | cached id =>
      obtain ⟨request, found, stepped⟩ := Option.bind_eq_some_iff.mp stepped
      split at stepped <;> cases stepped
      exact sound.cached found ‹_›
  | submit id fails =>
      obtain ⟨request, found, stepped⟩ := Option.bind_eq_some_iff.mp stepped
      split at stepped <;> cases stepped
      exact sound.submit found joinsFresh
  | finish id =>
      obtain ⟨request, found, stepped⟩ := Option.bind_eq_some_iff.mp stepped
      split at stepped
      next target place =>
        obtain ⟨job, known, stepped⟩ := Option.bind_eq_some_iff.mp stepped
        split at stepped <;> cases stepped
        exact sound.finish found place known
      · cases stepped
  | timeout id =>
      obtain ⟨request, found, stepped⟩ := Option.bind_eq_some_iff.mp stepped
      split at stepped
      next target place =>
        cases stepped
        refine sound.moveTo found (fun _ place => by cases place) ?_
        rw [place]
        exact fun _ same => same
      · cases stepped
  | poll id =>
      obtain ⟨request, found, stepped⟩ := Option.bind_eq_some_iff.mp stepped
      split at stepped
      next target place =>
        generalize polling : state.manager.get setting.cfg.jobs target =
          polled at stepped
        obtain ⟨job, manager⟩ := polled
        have managed : Sound setting { state with manager := manager } :=
          sound.manager (show Jobs.step _ _ (.get target) = some manager by
            rw [Jobs.step, polling]) fun _ _ same => by cases same
        cases job with
        | none =>
            cases stepped
            exact managed
        | some job =>
            cases stepped
            refine managed.moveTo found (fun _ place => by cases place) ?_
            rw [place]
            exact fun _ same => same
      · cases stepped
  | status id =>
      obtain ⟨request, found, stepped⟩ := Option.bind_eq_some_iff.mp stepped
      split at stepped
      next target place =>
        obtain ⟨job, known, rfl⟩ := Option.map_eq_some_iff.mp stepped
        exact sound.status found place known
      · cases stepped
  | pin target =>
      obtain ⟨job, runs, stepped⟩ := Option.bind_eq_some_iff.mp stepped
      have known := running_eq_some runs
      split at stepped <;> cases stepped
      next unpinned =>
        refine sound.setComputing (by simp [known]) (by simp [unpinned]) ?_
        intro snapshot read
        cases read
        exact .inr rfl
  | compute target backend input =>
      obtain ⟨job, runs, stepped⟩ := Option.bind_eq_some_iff.mp stepped
      have known := running_eq_some runs
      split at stepped
      next epoch pinned =>
        generalize computing : RollupService.compute _ _ _ _ _ _ _ _ _ =
          computed at stepped
        obtain ⟨outcome, cache⟩ := computed
        obtain ⟨named, snapshot⟩ := compute_snapshot sound.cache computing
        have cached := sound.setCache named
        cases outcome with
        | ok result =>
            cases stepped
            refine cached.setComputing (by simp [known]) (by simp [pinned]) ?_
            intro read same
            cases same
            rw [snapshot result rfl, pinned]
            exact .inl rfl
        | error error =>
            cases stepped
            exact cached.setComputing (by simp [known]) (by simp [pinned])
              fun _ read => by cases read
      · cases stepped
  | returns target =>
      simp only [Api.step] at stepped
      split at stepped
      next result computed =>
        obtain ⟨manager, modified, rfl⟩ := Option.map_eq_some_iff.mp stepped
        refine sound.manager
          (show Jobs.step _ _ (.returns target result) = _ from modified) ?_
        intro id other same
        cases same
        exact computed
      · cases stepped
  | manager label =>
      simp only [Api.step] at stepped
      split at stepped
      next permitted =>
        obtain ⟨manager, managed, rfl⟩ := Option.map_eq_some_iff.mp stepped
        refine sound.manager managed ?_
        rintro id result rfl
        cases permitted
      · cases stepped

/-- As long as no request joins a job that has read a snapshot older than the
request, every result handed out is of a snapshot current since its request;
so nobody is answered with less than was current when they asked. -/
theorem answers_fresh (setting : Setting) (state : State)
    (reachable : (system setting).Reachable (JoinsFresh setting) state) :
    Fresh setting state ∧
      (Epoch.Advances setting.epochAt →
        ∀ id answer request, (id, answer) ∈ state.answers →
          state.requests id = some request →
          ∀ name, setting.epochAt request.since = some name →
            ∃ newer, answer.result.catalogSnapshot = some newer ∧
              name ≤ newer) := by
  have sound : Sound setting state := by
    refine reachable.invariant ?_ ?_
    · exact fun _ initial => sound_of_initial initial
    · exact fun _ _ _ _ sound joinsFresh stepped =>
        sound.step joinsFresh stepped
  refine ⟨sound.fresh_answers, ?_⟩
  intro advances id answer request member found name current
  obtain ⟨moment, made, _, same⟩ :=
    sound.fresh_answers id answer request member found
  rw [← same]
  exact advances request.since moment made name current

/-! Two requests for one rollup, around a new snapshot. -/

def sampleSetting : Setting where
  cfg := ⟨⟨1, 1, 300⟩, ⟨1, 10, 8, false⟩, 500⟩
  arrow := plainArrow
  deepSize := fun _ => 0
  epochAt := Epoch.publishedAt30

def sampleStart : State where
  manager :=
    { now := 0
      heap := fun _ => none
      nextJob := 0
      nextWatcher := 0
      jobs := []
      byKey := fun _ => none
      slots := 2
      queue := []
      busy := 0
      closer := .open
      closeWait := false }
  computing := fun _ => .unpinned
  cache := .new 60 100
  requests := fun _ => none
  nextRequest := 0
  answers := []

theorem sampleStart_initial : Initial sampleSetting sampleStart where
  manager := ⟨fun _ => rfl, rfl, fun _ => rfl, rfl, rfl, rfl, rfl⟩
  computing _ := rfl
  cache _ := rfl
  requests _ := rfl
  answers := rfl

def sampleInput : RollupInput where
  epoch := none
  computedAt := []
  elapsedS := 0
  reader := []
  childDirs := []

def asking (id : Nat) : List Label :=
  [.request ['a'] 1 none, .lookup id, .cached id]

/-- The first job starts and reads its snapshot. -/
def pinning : List Label :=
  [.manager .take, .manager (.work 0), .manager (.work 0), .manager (.work 0),
    .pin 0]

def finishing : List Label :=
  [.compute 0 .sequential sampleInput, .returns 0, .manager (.work 0),
    .manager (.work 0), .manager (.work 0), .manager (.work 0),
    .manager (.work 0), .finish 1]

/-- The second request comes after the new snapshot. -/
def lateJoin : List Label :=
  asking 0 ++ .submit 0 false :: (pinning ++ .manager (.tick 30) ::
    (asking 1 ++ .submit 1 false :: finishing))

/-- The new snapshot comes while the second request waits. -/
def earlyJoin : List Label :=
  asking 0 ++ .submit 0 false :: (pinning ++
    (asking 1 ++ .submit 1 false :: .manager (.tick 30) :: finishing))

/-- The answers, and when the second request was made. -/
def State.observe (state : State) :
    List (Nat × Option String) × Option Int :=
  (state.answers.map fun answer =>
    (answer.1, answer.2.result.catalogSnapshot),
    (state.requests 1).map Request.since)

theorem lateJoin_stale :
    ∃ final, Initial sampleSetting sampleStart ∧
      (system sampleSetting).run sampleStart lateJoin = some final ∧
      ¬ Fresh sampleSetting final := by
  have observed :
      ((system sampleSetting).run sampleStart lateJoin).map State.observe =
        some ([(1, some Epoch.olderSnapshot)], some 30) := by decide
  obtain ⟨final, ran, observed⟩ := Option.map_eq_some_iff.mp observed
  refine ⟨final, sampleStart_initial, ran, fun fresh => ?_⟩
  obtain ⟨answers, request⟩ := Prod.mk.inj observed
  obtain ⟨request, found, since⟩ := Option.map_eq_some_iff.mp request
  obtain ⟨⟨id, answer⟩, single, handed⟩ := List.map_eq_singleton_iff.mp answers
  obtain ⟨rfl, snapshot⟩ := Prod.mk.inj handed
  obtain ⟨moment, made, _, same⟩ :=
    fresh _ answer request (single ▸ List.mem_singleton_self _) found
  rw [since] at made
  rw [snapshot] at same
  change Epoch.publishedAt30 moment = _ at same
  unfold Epoch.publishedAt30 at same
  rw [if_neg (by omega)] at same
  exact absurd same (by decide)

/-- When the request was made, what its submit returns, what the first job has
read, and the time. -/
def State.joining (id : Nat) (state : State) :
    Option (Int × Jobs.SubmitOutcome) × Option (Option String) × Int :=
  ((state.requests id).map fun request =>
    (request.since, (state.manager.submit sampleSetting.cfg.jobs
      (request.pathPrefix, request.depth) false).1),
    (state.computing 0).snapshot, state.now)

theorem joinsFresh_of_joining {before : List Label} {id watcher : Nat}
    {snapshot : Option (Option String)}
    (joining : ((system sampleSetting).run sampleStart before).map
      (State.joining id) = some (some (0, .returned 0 watcher), snapshot, 0))
    (atStart : ∀ read, snapshot = some read → Epoch.publishedAt30 0 = read)
    (middle : State)
    (ran : (system sampleSetting).run sampleStart before = some middle) :
    JoinsFresh sampleSetting middle (.submit id false) := by
  rw [ran, Option.map_some, Option.some.injEq] at joining
  obtain ⟨asked, joining⟩ := Prod.mk.inj joining
  obtain ⟨computed, now⟩ := Prod.mk.inj joining
  obtain ⟨request, found, submitted⟩ := Option.map_eq_some_iff.mp asked
  obtain ⟨since, outcome⟩ := Prod.mk.inj submitted
  intro other job joined read found' returned pinned
  rw [found, Option.some.injEq] at found'
  subst found'
  rw [outcome] at returned
  cases returned
  rw [computed] at pinned
  exact ⟨0, since.le, now.ge, atStart read pinned⟩

theorem earlyJoin_meets :
    (system sampleSetting).Meets (JoinsFresh sampleSetting) sampleStart
      earlyJoin := by
  have asks : ∀ id, ∀ label ∈ asking id, ∀ state,
      JoinsFresh sampleSetting state label := by
    simp [asking, JoinsFresh]
  have pins : ∀ label ∈ pinning, ∀ state,
      JoinsFresh sampleSetting state label := by
    simp [pinning, JoinsFresh]
  have finishes : ∀ label ∈ Label.manager (.tick 30) :: finishing, ∀ state,
      JoinsFresh sampleSetting state label := by
    simp [finishing, JoinsFresh]
  have creates : ((system sampleSetting).run sampleStart
      ([] ++ asking 0)).map (State.joining 0) =
        some (some (0, .returned 0 0), none, 0) := by decide
  have joins : ((system sampleSetting).run sampleStart
      ([] ++ asking 0 ++ [.submit 0 false] ++ pinning ++ asking 1)).map
        (State.joining 1) = some (some (0, .returned 0 1),
          some (some Epoch.olderSnapshot), 0) := by decide
  refine StepSystem.MeetsAfter.meets <| .quiet (asks 0) <|
    .cons (joinsFresh_of_joining creates fun _ read => by cases read) <|
    .quiet pins <| .quiet (asks 1) <|
    .cons (joinsFresh_of_joining joins ?_) <|
    List.append_nil (Label.manager (.tick 30) :: finishing) ▸
      .quiet finishes .nil
  rintro read same
  cases same
  decide

theorem earlyJoin_fresh :
    ∃ final, (system sampleSetting).run sampleStart earlyJoin = some final ∧
      final.observe = ([(1, some Epoch.olderSnapshot)], some 0) ∧
      Fresh sampleSetting final := by
  have observed :
      ((system sampleSetting).run sampleStart earlyJoin).map State.observe =
        some ([(1, some Epoch.olderSnapshot)], some 0) := by decide
  obtain ⟨final, ran, observed⟩ := Option.map_eq_some_iff.mp observed
  exact ⟨final, ran, observed, (answers_fresh sampleSetting final
    (.of_run (.start sampleStart_initial) earlyJoin_meets ran)).1⟩

end Catwalk.Api
