import Catwalk.Warmer.Stopping

/-! A pass spread over the workers of an executor visits what the pass that lists
one directory after the other does. -/

namespace Catwalk.CacheWarmer

variable {tree : WarmTree} {cfg : WarmerConfig} {may : Pass → Prop}
  {state after : State}

/-- Workers return what the tree has for the path they took. -/
def Answers (tree : WarmTree) (state : State) : Label → Prop
  | .finish index future names => ∀ pool ∈ state.pools[index]?,
      ∀ entry ∈ pool.futures[future]?, names = warmOne tree entry.task
  | _ => True

instance (tree : WarmTree) (state : State) (label : Label) :
    Decidable (Answers tree state label) :=
  match label with
  | .finish index future names =>
      inferInstanceAs (Decidable (∀ pool ∈ state.pools[index]?,
        ∀ entry ∈ pool.futures[future]?, names = warmOne tree entry.task))
  | .start | .stop | .proceed | .timeout | .loop _ | .wake _ | .take _ =>
      isTrue trivial

/-- The rest of `run_pass` after the levels of the walk. -/
def Walk.rest (tree : WarmTree) (cfg : WarmConfig) (isSet : Nat → Bool)
    (walk : Walk) : Pass :=
  let rest := runLevels tree cfg.warmMaxDirs isSet
    (List.range' walk.level (cfg.warmDepth + 1 - walk.level)) walk.seen
    walk.frontier walk.visited
  ⟨rest.visited, walk.batches ++ rest.batches⟩

/-- The walk is that of `run_pass`, as long as the event was not set. -/
structure Walk.Follows (tree : WarmTree) (cfg : WarmConfig) (walk : Walk) :
    Prop where
  level : walk.level ≤ cfg.warmDepth + 1
  pass : ∀ isSet : Nat → Bool, (∀ level, level < walk.level → isSet level = false) →
    runPass tree cfg isSet = walk.rest tree cfg isSet

/-- The level of the walk has this batch. -/
structure Walk.Lists (cfg : WarmConfig) (walk : Walk) (batch : List Text) :
    Prop where
  level : walk.level < cfg.warmDepth + 1
  frontier : walk.frontier ≠ []
  taken : batch = walk.frontier.take (cfg.warmMaxDirs - walk.visited)
  nonempty : batch ≠ []

/-- The futures were submitted for these paths. -/
def Tasks (pools : List Executor) (index : Nat) (futures : List Nat)
    (paths : List Text) : Prop :=
  List.Forall₂ (fun future path => ∃ pool entry, pools[index]? = some pool ∧
    pool.futures[future]? = some entry ∧ entry.task = path) futures paths

def Place.Follows (tree : WarmTree) (cfg : WarmConfig) (pools : List Executor) :
    Place → Prop
  | .level walk => walk.Follows tree cfg
  | .submitting walk batch rest futures =>
      walk.Follows tree cfg ∧ walk.Lists cfg batch ∧
        ∃ submitted, batch = submitted ++ rest ∧
          Tasks pools walk.pool futures submitted
  | .collecting walk batch futures childrenPerDir =>
      walk.Follows tree cfg ∧ walk.Lists cfg batch ∧
        ∃ listed rest, batch = listed ++ rest ∧
          childrenPerDir = listed.map (warmOne tree) ∧
          Tasks pools walk.pool futures rest
  | .checking | .entering | .closing _ _ | .waiting | .ended => True

/-- The executors keep their futures and results. -/
def Grows (pools later : List Executor) : Prop :=
  ∀ (index : Nat) (pool : Executor), pools[index]? = some pool →
    ∃ next, later[index]? = some next ∧ pool.Extends next

/-- Every result is an answer of the tree, every thread is where `run_pass` would
be, and the pass that was recorded is one that may be. -/
structure Faithful (tree : WarmTree) (cfg : WarmerConfig) (may : Pass → Prop)
    (state : State) : Prop where
  results : ∀ pool ∈ state.pools, ∀ entry ∈ pool.futures, ∀ names,
    entry.stage = .done names → names = warmOne tree entry.task
  places : ∀ place ∈ state.loops,
    Place.Follows tree cfg.toWarmConfig state.pools place
  recorded : ∀ pass, state.lastPass = some pass → may pass

/-- The pass over the tree, cut off at the level of the walk if the event is set
there. -/
def Walk.pass (tree : WarmTree) (cfg : WarmConfig) (walk : Walk) (isSet : Bool) :
    Pass :=
  runPass tree cfg fun level => decide (level = walk.level) && isSet

section Executors

variable {pools later : List Executor} {index : Nat} {pool next : Executor}

theorem Grows.set (found : pools[index]? = some pool)
    (extended : pool.Extends next) : Grows pools (pools.set index next) := by
  intro other entry atOther
  by_cases same : index = other
  · subst same
    have isPool : pool = entry := Option.some.inj (found.symm.trans atOther)
    subst isPool
    have inside := (List.getElem?_eq_some_iff.mp found).1
    exact ⟨next, List.getElem?_set_self inside, extended⟩
  · exact ⟨entry, by rw [List.getElem?_set_ne same, atOther], .refl entry⟩

theorem Grows.append (pools added : List Executor) :
    Grows pools (pools ++ added) := by
  intro index pool found
  have inside := (List.getElem?_eq_some_iff.mp found).1
  exact ⟨pool, by rw [List.getElem?_append_left inside, found], .refl pool⟩

theorem Tasks.grow {futures : List Nat} {paths : List Text}
    (tasks : Tasks pools index futures paths) (grows : Grows pools later) :
    Tasks later index futures paths := by
  refine tasks.imp ?_
  rintro future path ⟨pool, entry, found, atFuture, rfl⟩
  obtain ⟨next, found, extended⟩ := grows index pool found
  obtain ⟨last, atFuture, same⟩ := extended.futures future entry atFuture
  exact ⟨next, last, found, atFuture, same.task⟩

theorem Place.Follows.grow {cfg : WarmConfig} {place : Place}
    (follows : place.Follows tree cfg pools) (grows : Grows pools later) :
    place.Follows tree cfg later := by
  cases place with
  | submitting walk batch rest futures =>
      obtain ⟨walks, lists, submitted, split, tasks⟩ := follows
      exact ⟨walks, lists, submitted, split, tasks.grow grows⟩
  | collecting walk batch futures childrenPerDir =>
      obtain ⟨walks, lists, listed, rest, split, names, tasks⟩ := follows
      exact ⟨walks, lists, listed, rest, split, names, tasks.grow grows⟩
  | level => exact follows
  | checking | entering | closing | waiting | ended => trivial

end Executors

section Walks

variable {walk : Walk} {batch : List Text}

theorem firstWalk_follows (tree : WarmTree) (cfg : WarmConfig) (pool : Nat)
    (own : Bool) : (firstWalk cfg pool own).Follows tree cfg where
  level := Nat.zero_le _
  pass := by
    intro isSet _
    unfold runPass Walk.rest firstWalk
    rw [List.range_eq_range']
    rfl

/-- Beyond a batch that was listed, the walk goes on as the recursion does. -/
theorem Walk.Follows.next (follows : walk.Follows tree cfg.toWarmConfig)
    (lists : walk.Lists cfg.toWarmConfig batch) :
    (walk.next batch (batch.map (warmOne tree))).Follows tree
      cfg.toWarmConfig where
  level := lists.level
  pass := by
    intro isSet unset
    have before := follows.pass isSet fun level less =>
      unset level (Nat.lt_succ_of_lt less)
    have here : isSet walk.level = false := unset walk.level (Nat.lt_succ_self _)
    have remaining : cfg.warmDepth + 1 - walk.level =
        cfg.warmDepth + 1 - (walk.level + 1) + 1 := by
      have level := lists.level
      omega
    rw [before, Walk.rest, remaining, List.range'_succ, runLevels,
      if_neg (by simp [lists.frontier, here])]
    simp only [← lists.taken, if_neg lists.nonempty]
    simp only [Walk.rest, Walk.next, List.append_assoc, List.singleton_append]

/-- Where the loop over the levels ends, so does the recursion. -/
theorem Walk.Follows.ends (follows : walk.Follows tree cfg.toWarmConfig)
    (isSet : Bool)
    (finished : (walk.level = cfg.warmDepth + 1 ∨ walk.frontier = [] ∨ isSet = true) ∨
      walk.frontier.take (cfg.warmMaxDirs - walk.visited) = []) :
    (⟨walk.visited, walk.batches⟩ : Pass) =
      walk.pass tree cfg.toWarmConfig isSet := by
  rw [Walk.pass, follows.pass _ fun level less => by simp [Nat.ne_of_lt less],
    Walk.rest]
  rcases Nat.lt_or_ge walk.level (cfg.warmDepth + 1) with further | last
  · obtain ⟨count, remaining⟩ := Nat.exists_eq_succ_of_ne_zero
      (Nat.sub_ne_zero_of_lt further)
    rw [remaining, List.range'_succ, runLevels]
    split
    next => simp
    next goesOn =>
        have capped : walk.frontier.take (cfg.warmMaxDirs - walk.visited) = [] := by
          rcases finished with (atEnd | noFrontier | set) | capped
          · exact absurd atEnd (Nat.ne_of_lt further)
          · exact absurd (.inl noFrontier) goesOn
          · exact absurd (.inr (by simp [set])) goesOn
          · exact capped
        simp [capped]
  · rw [Nat.sub_eq_zero_of_le last]
    simp [runLevels]

end Walks

section Steps

variable {id index : Nat} {pool later : Executor} {place next : Place}

theorem Faithful.mono {must : Pass → Prop}
    (faithful : Faithful tree cfg may state) (weaker : ∀ pass, may pass → must pass) :
    Faithful tree cfg must state where
  results := faithful.results
  places := faithful.places
  recorded pass recorded := weaker pass (faithful.recorded pass recorded)

theorem Faithful.goto (faithful : Faithful tree cfg may state)
    (follows : next.Follows tree cfg.toWarmConfig state.pools) :
    Faithful tree cfg may (state.goto id next) where
  results := faithful.results
  places := by
    intro place member
    rcases List.mem_or_eq_of_mem_set member with before | rfl
    · exact faithful.places place before
    · exact follows
  recorded := faithful.recorded

theorem Faithful.setPool (faithful : Faithful tree cfg may state)
    (found : state.pools[index]? = some pool) (extended : pool.Extends later)
    (answered : ∀ entry ∈ later.futures, ∀ names, entry.stage = .done names →
      entry ∈ pool.futures ∨ names = warmOne tree entry.task) :
    Faithful tree cfg may (state.setPool index later) where
  results := by
    intro other member entry inside names done
    rcases List.mem_or_eq_of_mem_set member with before | rfl
    · exact faithful.results other before entry inside names done
    · rcases answered entry inside names done with before | answer
      · exact faithful.results pool (List.mem_of_getElem? found) entry before
          names done
      · exact answer
  places := by
    intro place member
    exact (faithful.places place member).grow (.set found extended)
  recorded := faithful.recorded

theorem Faithful.settle (faithful : Faithful tree cfg may state) {walk : Walk}
    {completed : Bool}
    (ends : completed = true → may ⟨walk.visited, walk.batches⟩) :
    Faithful tree cfg may (state.settle id walk completed) := by
  have gone : Faithful tree cfg may (state.goto id .waiting) :=
    faithful.goto trivial
  cases completed with
  | false => exact gone
  | true =>
      refine ⟨gone.results, gone.places, ?_⟩
      intro pass recorded
      exact Option.some.inj recorded ▸ ends rfl

theorem submit_answered {path : Text} (submitted : pool.submit path = some later)
    {entry : Future Text (List Text)} (member : entry ∈ later.futures)
    {names : List Text} (done : entry.stage = .done names) :
    entry ∈ pool.futures := by
  obtain ⟨_, rfl⟩ := FuturePool.submit_eq_some submitted
  rcases List.mem_append.mp member with before | new
  · exact before
  · rw [List.mem_singleton.mp new] at done
    cases done

theorem cancelEach_answered {indices : List Nat}
    {entry : Future Text (List Text)}
    (member : entry ∈ (pool.cancelEach indices).futures)
    {names : List Text} (done : entry.stage = .done names) :
    entry ∈ pool.futures := by
  induction indices generalizing pool with
  | nil => exact member
  | cons index rest ih =>
      have before := @ih (pool.cancel index) member
      unfold FuturePool.cancel at before
      split at before
      next future found =>
          rcases List.mem_or_eq_of_mem_set before with inside | rfl
          · exact inside
          · unfold Future.cancel at done ⊢
            split at done
            next => cases done
            next idle =>
                rw [if_neg idle]
                exact List.mem_of_getElem? found
      next => exact before

/-- Collecting the result of a future gives what the tree has for its path. -/
theorem Faithful.collect (faithful : Faithful tree cfg may state) {future : Nat}
    {entry : Future Text (List Text)} {names : List Text} {walk : Walk}
    {batch : List Text} {rest : List Nat} {childrenPerDir : List (List Text)}
    (found : state.pools[walk.pool]? = some pool)
    (atFuture : pool.futures[future]? = some entry)
    (done : entry.stage = .done names)
    (follows : (Place.collecting walk batch (future :: rest)
      childrenPerDir).Follows tree cfg.toWarmConfig state.pools) :
    (Place.collecting walk batch rest (childrenPerDir ++ [names])).Follows tree
      cfg.toWarmConfig state.pools := by
  obtain ⟨walks, lists, listed, paths, split, isNames, tasks⟩ := follows
  cases tasks with
  | @cons _ path _ paths task tasks =>
      obtain ⟨pool', entry', found', atFuture', isPath⟩ := task
      have samePool : pool = pool' := Option.some.inj (found.symm.trans found')
      subst samePool
      have sameEntry : entry = entry' :=
        Option.some.inj (atFuture.symm.trans atFuture')
      subst sameEntry
      have answer := faithful.results pool (List.mem_of_getElem? found) entry
        (List.mem_of_getElem? atFuture) names done
      refine ⟨walks, lists, listed ++ [path], paths, ?_, ?_, tasks⟩
      · rw [split, List.append_assoc, List.singleton_append]
      · rw [isNames, List.map_append, List.map_singleton, answer, isPath]

theorem Faithful.loop_step (faithful : Faithful tree cfg may state)
    (sound : Sound cfg state)
    (records : ∀ walk, state.loops[id]? = some (.level walk) →
      after.lastPass = some (walk.pass tree cfg.toWarmConfig state.isSet) →
      may (walk.pass tree cfg.toWarmConfig state.isSet))
    (stepped : lifecycleStep cfg state (.loop id) = some after) :
    Faithful tree cfg may after := by
  obtain ⟨place, found, stepped⟩ := Option.bind_eq_some_iff.mp stepped
  have alive : place ≠ .ended := by
    rintro rfl
    cases stepped
  obtain ⟨index, pool, held, present, fits⟩ := sound.current found alive
  have follows := faithful.places place (List.mem_of_getElem? found)
  have leaves : ∀ (walk : Walk) (state : State) (completed : Bool),
      walk.own = false → state.leave id walk completed =
        some (state.settle id walk completed) := by
    intro walk state completed notOwn
    rw [State.leave, notOwn]
    rfl
  cases place with
  | checking =>
      cases stepped
      refine faithful.goto ?_
      cases state.isSet <;> trivial
  | entering =>
      simp only [loopStep, held] at stepped
      cases stepped
      exact faithful.goto (firstWalk_follows tree cfg.toWarmConfig index false)
  | level walk =>
      simp only [loopStep, leaves walk state true fits.2] at stepped
      split at stepped
      next finished =>
          cases stepped
          have ends := follows.ends state.isSet (.inl finished)
          exact faithful.settle fun _ =>
            ends ▸ records walk found (congrArg some ends)
      next further =>
          obtain ⟨notLast, more⟩ := not_or.mp further
          obtain ⟨frontier, _⟩ := not_or.mp more
          split at stepped
          next capped =>
              cases stepped
              have ends := follows.ends state.isSet (.inr capped)
              exact faithful.settle fun _ =>
                ends ▸ records walk found (congrArg some ends)
          next nonempty =>
              cases stepped
              refine faithful.goto ⟨follows, ⟨?_, frontier, rfl, nonempty⟩, [],
                rfl, .nil⟩
              exact Nat.lt_of_le_of_ne follows.level notLast
  | submitting walk batch rest futures =>
      obtain ⟨⟨rfl, notOwn⟩, _⟩ := fits
      obtain ⟨walks, lists, submitted, split, tasks⟩ := follows
      cases rest with
      | nil =>
          cases stepped
          refine faithful.goto ⟨walks, lists, [], batch, rfl, rfl, ?_⟩
          rw [split, List.append_nil]
          exact tasks
      | cons path rest =>
          simp only [loopStep, present, Option.bind_some] at stepped
          split at stepped
          next later accepted =>
              have extended := FuturePool.submit_extends accepted
              obtain ⟨_, isLater⟩ := FuturePool.submit_eq_some accepted
              cases stepped
              refine (faithful.setPool present extended fun entry member names
                done => .inl (submit_answered accepted member done)).goto
                ⟨walks, lists, submitted ++ [path], ?_, ?_⟩
              · rw [split, List.append_assoc, List.singleton_append]
              · have inside := (List.getElem?_eq_some_iff.mp present).1
                refine List.rel_append (tasks.grow (.set present extended)) ?_
                refine .cons ⟨later, ⟨path, .waiting⟩,
                  List.getElem?_set_self inside, ?_, rfl⟩ .nil
                rw [isLater]
                exact List.getElem?_concat_length
          next =>
              rw [leaves walk state false notOwn] at stepped
              cases stepped
              exact faithful.settle fun completed => by cases completed
  | collecting walk batch futures childrenPerDir =>
      obtain ⟨⟨rfl, notOwn⟩, _⟩ := fits
      cases futures with
      | nil =>
          cases stepped
          obtain ⟨walks, lists, listed, rest, split, names, tasks⟩ := follows
          cases tasks
          rw [List.append_nil] at split
          subst split names
          exact faithful.goto (walks.next lists)
      | cons future rest =>
          simp only [loopStep, present, Option.bind_some] at stepped
          obtain ⟨entry, atFuture, stepped⟩ := Option.bind_eq_some_iff.mp stepped
          split at stepped
          next names done =>
              cases stepped
              exact faithful.goto (faithful.collect present atFuture done follows)
          next cancelled =>
              rw [leaves walk _ false notOwn] at stepped
              cases stepped
              refine Faithful.settle (faithful.setPool present
                (FuturePool.cancelEach_extends rest) fun entry member names
                done => .inl (cancelEach_answered member done)) ?_
              exact fun completed => by cases completed
          next => cases stepped
          next => cases stepped
  | closing => exact fits.elim
  | waiting =>
      simp only [loopStep] at stepped
      split at stepped
      next =>
          cases stepped
          exact faithful.goto trivial
      next => cases stepped
  | ended => exact absurd rfl alive

theorem Faithful.frame (faithful : Faithful tree cfg may state)
    (loops : after.loops = state.loops) (pools : after.pools = state.pools)
    (lastPass : after.lastPass = state.lastPass) : Faithful tree cfg may after where
  results := pools ▸ faithful.results
  places := by
    rw [loops, pools]
    exact faithful.places
  recorded := lastPass ▸ faithful.recorded

theorem shutdown_answered {cancelFutures : Bool}
    {entry : Future Text (List Text)}
    (member : entry ∈ (pool.shutdown cancelFutures).futures)
    {names : List Text} (done : entry.stage = .done names) :
    entry ∈ pool.futures := by
  cases cancelFutures with
  | false => exact member
  | true =>
      obtain ⟨before, inside, rfl⟩ := List.mem_map.mp member
      unfold Future.cancel at done ⊢
      split at done
      next => cases done
      next idle => rwa [if_neg idle]

theorem Faithful.caller_step (faithful : Faithful tree cfg may state)
    (stepped : lifecycleStep cfg state .proceed = some after) :
    Faithful tree cfg may after := by
  change callerStep state state.caller = some after at stepped
  cases isCaller : state.caller with
  | idle =>
      rw [isCaller] at stepped
      cases stepped
  | clearing | releasing =>
      rw [isCaller] at stepped
      cases stepped
      exact faithful.frame rfl rfl rfl
  | building =>
      rw [isCaller] at stepped
      cases stepped
      refine ⟨?_, fun place member => ?_, faithful.recorded⟩
      · intro pool member
        rcases List.mem_append.mp member with before | new
        · exact faithful.results pool before
        · rw [List.mem_singleton.mp new]
          exact fun entry inside => by cases inside
      · exact (faithful.places place member).grow (.append _ _)
  | spawning =>
      rw [isCaller] at stepped
      cases stepped
      refine ⟨faithful.results, fun place member => ?_, faithful.recorded⟩
      rcases List.mem_append.mp member with before | new
      · exact faithful.places place before
      · rw [List.mem_singleton.mp new]
        trivial
  | joining thread | rejoining thread =>
      rw [isCaller] at stepped
      simp only [callerStep] at stepped
      split at stepped
      next =>
          cases stepped
          exact faithful.frame rfl rfl rfl
      next => cases stepped
  | shutting thread =>
      rw [isCaller] at stepped
      simp only [callerStep] at stepped
      split at stepped
      next =>
          cases stepped
          exact faithful.frame rfl rfl rfl
      next index _ =>
          obtain ⟨pool, found, rfl⟩ := Option.map_eq_some_iff.mp stepped
          have shut := faithful.setPool found (pool.shutdown_extends true)
            fun entry member names done => .inl (shutdown_answered member done)
          exact shut.frame rfl rfl rfl
  | draining thread index =>
      rw [isCaller] at stepped
      obtain ⟨pool, _, stepped⟩ := Option.bind_eq_some_iff.mp stepped
      split at stepped
      next =>
          cases stepped
          exact faithful.frame rfl rfl rfl
      next => cases stepped

theorem Faithful.take_step (faithful : Faithful tree cfg may state)
    (stepped : lifecycleStep cfg state (.take index) = some after) :
    Faithful tree cfg may after := by
  obtain ⟨pool, found, stepped⟩ := Option.bind_eq_some_iff.mp stepped
  obtain ⟨later, taken, rfl⟩ := Option.map_eq_some_iff.mp stepped
  refine faithful.setPool found (FuturePool.take_extends taken) ?_
  obtain ⟨-, index, future, atIndex, -, rfl⟩ := FuturePool.take_eq_some taken
  intro entry member names done
  rcases List.mem_or_eq_of_mem_set member with before | rfl
  · exact .inl before
  · cases done

theorem Faithful.finish_step (faithful : Faithful tree cfg may state) {future : Nat}
    {names : List Text}
    (answers : Answers tree state (.finish index future names))
    (stepped : lifecycleStep cfg state (.finish index future names) = some after) :
    Faithful tree cfg may after := by
  obtain ⟨pool, found, stepped⟩ := Option.bind_eq_some_iff.mp stepped
  obtain ⟨later, finished, rfl⟩ := Option.map_eq_some_iff.mp stepped
  refine faithful.setPool found (FuturePool.finish_extends finished) ?_
  obtain ⟨entry, atFuture, -, rfl⟩ := FuturePool.finish_eq_some finished
  intro other member result done
  rcases List.mem_or_eq_of_mem_set member with before | rfl
  · exact .inl before
  · cases done
    exact .inr (answers pool found entry atFuture)

theorem Faithful.step {label : Label} (faithful : Faithful tree cfg may state)
    (sound : Sound cfg state) (answers : Answers tree state label)
    (records : ∀ id walk, label = .loop id →
      state.loops[id]? = some (.level walk) →
      after.lastPass = some (walk.pass tree cfg.toWarmConfig state.isSet) →
      may (walk.pass tree cfg.toWarmConfig state.isSet))
    (stepped : (lifecycle cfg).step state label = some after) :
    Faithful tree cfg may after := by
  cases label with
  | start =>
      simp only [lifecycle, lifecycleStep] at stepped
      split at stepped
      next =>
          split at stepped <;> cases stepped
          next => exact faithful.frame rfl rfl rfl
          next => exact faithful
      next => cases stepped
  | stop =>
      simp only [lifecycle, lifecycleStep] at stepped
      split at stepped
      next =>
          cases stepped
          exact faithful.frame rfl rfl rfl
      next => cases stepped
  | proceed => exact faithful.caller_step stepped
  | timeout =>
      simp only [lifecycle, lifecycleStep] at stepped
      split at stepped
      next =>
          cases stepped
          exact faithful.frame rfl rfl rfl
      next => cases stepped
  | loop id =>
      exact faithful.loop_step sound (fun walk => records id walk rfl) stepped
  | wake id =>
      simp only [lifecycle, lifecycleStep] at stepped
      split at stepped
      next =>
          cases stepped
          exact faithful.goto trivial
      next => cases stepped
  | take index => exact faithful.take_step stepped
  | finish index future names => exact faithful.finish_step answers stepped

theorem faithful_initial : Faithful tree cfg may .initial where
  results := fun _ member => by cases member
  places := fun _ member => by cases member
  recorded := fun _ recorded => by cases recorded

end Steps

/-- No later step of `start` or `stop` sets the event. -/
theorem callerStep_isSet {caller : Caller}
    (stepped : callerStep state caller = some after)
    (isSet : after.isSet = true) : state.isSet = true := by
  cases caller with
  | idle => cases stepped
  | clearing =>
      cases stepped
      cases isSet
  | building | spawning | releasing =>
      cases stepped
      exact isSet
  | joining | rejoining =>
      obtain ⟨_, same⟩ := Option.ite_none_right_eq_some.mp stepped
      cases same
      exact isSet
  | shutting =>
      simp only [callerStep] at stepped
      split at stepped
      next =>
          cases stepped
          exact isSet
      next =>
          obtain ⟨_, _, rfl⟩ := Option.map_eq_some_iff.mp stepped
          exact isSet
  | draining =>
      obtain ⟨_, _, stepped⟩ := Option.bind_eq_some_iff.mp stepped
      obtain ⟨_, same⟩ := Option.ite_none_right_eq_some.mp stepped
      cases same
      exact isSet

/-- Only `stop` sets the event. -/
theorem Sound.isSet_step {label : Label} (sound : Sound cfg state)
    (stepped : (lifecycle cfg).step state label = some after)
    (isSet : after.isSet = true) : state.isSet = true ∨ label = .stop := by
  cases label with
  | stop => exact .inr rfl
  | start =>
      simp only [lifecycle, lifecycleStep] at stepped
      split at stepped
      next => split at stepped <;> cases stepped <;> exact .inl isSet
      next => cases stepped
  | proceed => exact .inl (callerStep_isSet stepped isSet)
  | timeout =>
      simp only [lifecycle, lifecycleStep] at stepped
      split at stepped
      next =>
          cases stepped
          exact .inl isSet
      next => cases stepped
  | loop id =>
      obtain ⟨place, found, stepped⟩ := Option.bind_eq_some_iff.mp stepped
      obtain ⟨_, _, _, _, _, _, _, rfl, _⟩ := (sound.loop_move found stepped).moved
      exact .inl isSet
  | wake id =>
      obtain ⟨_, same⟩ := Option.ite_none_right_eq_some.mp stepped
      cases same
      exact .inl isSet
  | take index | finish index =>
      obtain ⟨_, _, stepped⟩ := Option.bind_eq_some_iff.mp stepped
      obtain ⟨_, _, rfl⟩ := Option.map_eq_some_iff.mp stepped
      exact .inl isSet

/-- After `past`, the thread checks a level and ends its pass there; the event is
what it sees. -/
structure Records (tree : WarmTree) (cfg : WarmerConfig) (past : List Label)
    (id : Nat) (state : State) (walk : Walk) (pass : Pass) : Prop where
  ran : (lifecycle cfg).run .initial past = some state
  place : state.loops[id]? = some (.level walk)
  recorded : ∃ after, (lifecycle cfg).step state (.loop id) = some after ∧
    after.lastPass = some pass
  cut : pass = walk.pass tree cfg.toWarmConfig state.isSet
  stopped : state.isSet = true → .stop ∈ past

/-- What the labels so far say of the event and of the recorded pass. -/
structure Told (tree : WarmTree) (cfg : WarmerConfig) (past : List Label)
    (state : State) : Prop where
  ran : (lifecycle cfg).run .initial past = some state
  sound : Sound cfg state
  stopped : state.isSet = true → .stop ∈ past
  faithful : Faithful tree cfg (fun pass => ∃ before id rest middle walk,
    past = before ++ .loop id :: rest ∧
      Records tree cfg before id middle walk pass) state

theorem Told.step {past : List Label} {label : Label}
    (told : Told tree cfg past state) (answers : Answers tree state label)
    (stepped : (lifecycle cfg).step state label = some after) :
    Told tree cfg (past ++ [label]) after where
  ran := StepSystem.run_append.mpr
    ⟨state, told.ran, StepSystem.run_cons.mpr ⟨after, stepped, rfl⟩⟩
  sound := told.sound.step stepped
  stopped := by
    intro isSet
    rcases told.sound.isSet_step stepped isSet with before | rfl
    · exact List.mem_append_left _ (told.stopped before)
    · exact List.mem_append_right _ List.mem_cons_self
  faithful := by
    refine (told.faithful.mono ?_).step told.sound answers ?_ stepped
    · rintro pass ⟨before, id, rest, middle, walk, rfl, records⟩
      exact ⟨before, id, rest ++ [label], middle, walk, by simp, records⟩
    · rintro id walk rfl place recorded
      exact ⟨past, id, [], state, walk, rfl, told.ran, place,
        ⟨after, stepped, recorded⟩, rfl, told.stopped⟩

/-- In whatever order the workers take and answer the paths of a level, a pass
that is recorded is the pass over the tree: the whole pass, or cut off at the level
at which its thread saw the event that a `stop` had set. -/
theorem recorded_pass (tree : WarmTree) (cfg : WarmerConfig)
    (schedule : List Label) (final : State)
    (answers : (lifecycle cfg).Meets (Answers tree) .initial schedule)
    (ran : (lifecycle cfg).run .initial schedule = some final) (pass : Pass)
    (recorded : final.lastPass = some pass) :
    ∃ before id rest state walk, schedule = before ++ .loop id :: rest ∧
      Records tree cfg before id state walk pass := by
  have start : Told tree cfg [] .initial :=
    ⟨rfl, sound_initial, fun isSet => absurd isSet Bool.false_ne_true,
      faithful_initial⟩
  have told : Told tree cfg schedule final := StepSystem.run_history
    (fun _ _ _ _ told answers stepped => told.step answers stepped) answers ran
    start
  exact told.faithful.recorded pass recorded

def sampleRow (name : String) : ListingRow where
  name := name.toList
  elementType := some "DIR"
  size := none
  used := none
  mtime := none
  atime := none
  ownerName := none
  extension := none
  nlinks := none

/-- `/a/` with two empty directories. -/
def sampleTree : WarmTree where
  listing path :=
    if path = "/a/".toList then
      .ok ⟨[sampleRow "x", sampleRow "y"], false, 0⟩
    else .ok ⟨[], false, 0⟩

/-- The second of the two paths of a level is answered first. -/
def swapped : List Label :=
  [.loop 0, .take 0, .finish 0 0 ["x".toList, "y".toList], .loop 0, .loop 0,
    .loop 0, .loop 0, .loop 0, .take 0, .loop 0, .take 0, .finish 0 2 [],
    .finish 0 1 [], .loop 0, .loop 0, .loop 0, .loop 0]

/-- `stop` comes while the first level is listed. -/
def cutShort : List Label :=
  [.take 0, .stop, .finish 0 0 ["x".toList, "y".toList], .loop 0, .loop 0,
    .loop 0, .loop 0]

theorem swapped_recorded :
    (∃ before id rest state walk, opening ++ swapped =
        before ++ .loop id :: rest ∧
      Records sampleTree sampleWarmer before id state walk
        ⟨3, [["/a/".toList], ["/a/x/".toList, "/a/y/".toList]]⟩) ∧
    ∃ before id rest state walk, opening ++ cutShort =
        before ++ .loop id :: rest ∧
      Records sampleTree sampleWarmer before id state walk
        ⟨1, [["/a/".toList]]⟩ := by
  have recorded : ∀ schedule pass, (lifecycle sampleWarmer).Meets
        (Answers sampleTree) .initial schedule →
      ((lifecycle sampleWarmer).run .initial schedule).bind State.lastPass =
        some pass →
      ∃ before id rest state walk, schedule = before ++ .loop id :: rest ∧
        Records sampleTree sampleWarmer before id state walk pass := by
    intro schedule pass answers last
    obtain ⟨final, ran, recorded⟩ := Option.bind_eq_some_iff.mp last
    exact recorded_pass sampleTree sampleWarmer schedule final answers ran pass
      recorded
  exact ⟨recorded _ _ (by decide +kernel) (by decide +kernel),
    recorded _ _ (by decide +kernel) (by decide +kernel)⟩

end Catwalk.CacheWarmer
