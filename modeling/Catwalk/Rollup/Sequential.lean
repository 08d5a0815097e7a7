import Catwalk.Rollup.Backlog
import Catwalk.Rollup.Compute

/-! Whatever order the threads of `rollup_groups` take, it computes what the
sequential `rollupGroups` does for some answers of its waits. -/

namespace Catwalk

deriving instance DecidableEq for BatchFuture

namespace Completion

/-- The same answers but for one call of `wait`. -/
def answering (completion : Completion) (call : Nat)
    (pending done rest : List BatchFuture) (perm : (done ++ rest).Perm pending)
    (some_done : done ≠ []) : Completion where
  wait call' pending' :=
    if call' = call ∧ pending' = pending then (done, rest)
    else completion.wait call' pending'
  perm call' pending' := by
    split
    next same => exact same.2 ▸ perm
    next => exact completion.perm call' pending'
  progress call' pending' some_pending := by
    split
    next => exact some_done
    next => exact completion.progress call' pending' some_pending

/-- The same answers to the first calls of `wait`. -/
def Agrees (calls : Nat) (completion other : Completion) : Prop :=
  ∀ call, call < calls → other.wait call = completion.wait call

theorem Agrees.of_answering {completion other : Completion} {calls : Nat}
    {pending done rest : List BatchFuture} {perm : (done ++ rest).Perm pending}
    {some_done : done ≠ []}
    (agrees : Agrees (calls + 1)
      (completion.answering calls pending done rest perm some_done) other) :
    Agrees calls completion other ∧ other.wait calls pending = (done, rest) := by
  constructor
  · intro call before
    rw [agrees call (Nat.lt_succ_of_lt before)]
    funext pending'
    simp [answering, Nat.ne_of_lt before]
  · rw [agrees calls (Nat.lt_succ_self calls)]
    simp [answering]

end Completion

namespace Pipeline

section Drain

variable {arrow : Arrow} {completion : Completion} {query : RollupQuery}

theorem waitAndCollect_shorter {state next : Pipeline}
    (waited : waitAndCollect arrow completion query state = .ok next)
    (some_pending : state.pending ≠ []) :
    next.pending.length < state.pending.length := by
  have lengths := (completion.perm state.waits state.pending).length_eq
  have some_done := List.length_pos_of_ne_nil
    (completion.progress state.waits state.pending some_pending)
  obtain ⟨_, _, same⟩ := bind_eq_ok.mp waited
  cases same
  rw [List.length_append] at lengths
  change (completion.wait state.waits state.pending).2.length < _
  omega

/-- More turns than futures change nothing. -/
theorem drain_enough {turns turns' : Nat} {state : Pipeline}
    (enough : state.pending.length ≤ turns)
    (enough' : state.pending.length ≤ turns') :
    drain arrow completion query turns state =
      drain arrow completion query turns' state := by
  induction turns generalizing turns' state with
  | zero =>
      have nothing := List.eq_nil_of_length_eq_zero (Nat.le_zero.mp enough)
      cases turns' with
      | zero => rfl
      | succ => simp [drain, nothing]
  | succ turns ih =>
      rcases eq_or_ne state.pending [] with nothing | some_pending
      · cases turns' <;> simp [drain, nothing]
      · cases turns' with
        | zero =>
            exact absurd (List.eq_nil_of_length_eq_zero (Nat.le_zero.mp enough'))
              some_pending
        | succ turns' =>
            rw [drain, drain, if_neg some_pending, if_neg some_pending]
            cases waited : waitAndCollect arrow completion query state with
            | error => rfl
            | ok next =>
                have shorter := waitAndCollect_shorter waited some_pending
                exact ih (by omega) (by omega)

end Drain

/-- `while pending: …` to its end, and the result. -/
def drainOn (arrow : Arrow) (completion : Completion) (query : RollupQuery)
    (state : Pipeline) : Except RollupError (Groups × Nat × List Nat) := do
  let drained ← drain arrow completion query state.pending.length state
  .ok (drained.groups, drained.total, drained.reported)

/-- The loop over the rest of the reader and what comes after it. -/
def readOn (arrow : Arrow) (completion : Completion) (query : RollupQuery)
    (unread : List (List FileRow × Nat)) (state : Pipeline) :
    Except RollupError (Groups × Nat × List Nat) := do
  let fed ← unread.foldlM (feed arrow completion query) state
  drainOn arrow completion query fed

/-- What comes after a submission. -/
def submitOn (arrow : Arrow) (completion : Completion) (query : RollupQuery)
    (unread : List (List FileRow × Nat)) (state : Pipeline) :
    Except RollupError (Groups × Nat × List Nat) :=
  if query.threads * 2 ≤ state.pending.length then do
    let next ← waitAndCollect arrow completion query state
    readOn arrow completion query unread next
  else readOn arrow completion query unread state

/-- What comes after a `collect`. -/
def carryOn (arrow : Arrow) (completion : Completion) (query : RollupQuery)
    (ended : Bool) (unread : List (List FileRow × Nat)) (state : Pipeline) :
    Except RollupError (Groups × Nat × List Nat) :=
  if ended then drainOn arrow completion query state
  else readOn arrow completion query unread state

/-- The batches of some futures of a pool. -/
def tasks (pool : Aggregators) (indices : List Nat) : List BatchFuture :=
  indices.filterMap fun index => pool.futures[index]?.map (·.task)

namespace Overlap

/-- The locals as the sequential program has them after so many waits. -/
def locals (state : Overlap) (waits : Nat) : Pipeline where
  pending := tasks state.pool state.pending
  groups := state.groups
  total := state.total
  fed := state.fed
  reported := state.reported
  waits := waits

/-- What the sequential program has still to compute; nothing is said once an
exception from outside ends it. -/
def remaining (arrow : Arrow) (completion : Completion) (query : RollupQuery)
    (state : Overlap) (waits : Nat) :
    Option (Except RollupError (Groups × Nat × List Nat)) :=
  match state.place with
  | .opening =>
      if query.threads = 0 then
        some (.error (.valueError "max_workers must be greater than 0"))
      else some (readOn arrow completion query state.unread (state.locals waits))
  | .reading =>
      some (readOn arrow completion query state.unread (state.locals waits))
  | .reporting =>
      some (submitOn arrow completion query state.unread
        { state.locals waits with reported := state.reported ++ [state.fed] })
  | .waiting ended =>
      if ended = true ∧ state.pending = [] then
        some (.ok (state.groups, state.total, state.reported))
      else
        some (do
          let next ← waitAndCollect arrow completion query (state.locals waits)
          carryOn arrow completion query ended state.unread next)
  | .collecting done ended =>
      some (do
        let (groups, total) ← (tasks state.pool done).foldlM
          (collectOne arrow query) (state.groups, state.total)
        carryOn arrow completion query ended state.unread
          { state.locals waits with groups := groups, total := total })
  | .exiting outcome | .cancelling _ outcome | .shutting outcome
  | .draining outcome | .returned outcome =>
      match outcome with
      | .computed result => some result
      | .raised => none

end Overlap

/-- The sequential program with the waits so far computes whatever is left. -/
def Follows (arrow : Arrow) (query : RollupQuery) (reader : List (List FileRow))
    (state : Overlap) : Prop :=
  ∃ waits completion, ∀ other, Completion.Agrees waits completion other →
    ∀ result, state.remaining arrow other query waits = some result →
      rollupGroups arrow other query reader = result

section Moves

variable {arrow : Arrow} {completion : Completion} {query : RollupQuery}
  {reader : List (List FileRow)} {state after : Overlap} {waits : Nat}
  {result : Except RollupError (Groups × Nat × List Nat)}

theorem drainOn_eq (state : Pipeline) :
    drainOn arrow completion query state =
      if state.pending = [] then .ok (state.groups, state.total, state.reported)
      else (do
        let next ← waitAndCollect arrow completion query state
        drainOn arrow completion query next) := by
  unfold drainOn
  split
  next nothing =>
      rw [nothing]
      rfl
  next some_pending =>
      obtain ⟨future, rest, isPending⟩ := List.exists_cons_of_ne_nil some_pending
      rw [isPending, List.length_cons, drain, if_neg some_pending]
      cases waited : waitAndCollect arrow completion query state with
      | error => rfl
      | ok next =>
          have shorter := waitAndCollect_shorter waited some_pending
          rw [isPending, List.length_cons] at shorter
          have same : drain arrow completion query rest.length next =
              drain arrow completion query next.pending.length next :=
            drain_enough (Nat.le_of_lt_succ shorter) (Nat.le_refl _)
          exact congrArg (fun turned : Except RollupError Pipeline =>
            turned.bind fun drained =>
              .ok (drained.groups, drained.total, drained.reported)) same

theorem readOn_nil (state : Pipeline) :
    readOn arrow completion query [] state =
      drainOn arrow completion query state := rfl

theorem readOn_cons (numbered : List FileRow × Nat)
    (rest : List (List FileRow × Nat)) (state : Pipeline) :
    readOn arrow completion query (numbered :: rest) state = (do
      let next ← feed arrow completion query state numbered
      readOn arrow completion query rest next) := by
  unfold readOn
  rw [List.foldlM_cons]
  cases feed arrow completion query state numbered <;> rfl

theorem readOn_submit {batch : List FileRow} (some_rows : batch ≠ [])
    (call : Nat) (rest : List (List FileRow × Nat)) (state : Pipeline) :
    readOn arrow completion query ((batch, call) :: rest) state =
      submitOn arrow completion query rest (state.submit batch call) := by
  rw [readOn_cons]
  simp only [feed, if_neg some_rows, submitOn]
  split <;> rfl

theorem tasks_cons {pool : Aggregators} {index : Nat}
    {future : Future BatchFuture Partial}
    (found : pool.futures[index]? = some future) (rest : List Nat) :
    tasks pool (index :: rest) = future.task :: tasks pool rest := by
  simp [tasks, found]

theorem tasks_extends {pool later : Aggregators} (extended : pool.Extends later)
    {indices : List Nat} (inside : ∀ index ∈ indices, index < pool.futures.length) :
    tasks later indices = tasks pool indices := by
  refine List.filterMap_congr fun index member => ?_
  have found := List.getElem?_eq_getElem (inside index member)
  obtain ⟨future, present, extends'⟩ := extended.futures index _ found
  rw [found, present]
  exact congrArg some extends'.task

theorem length_tasks {pool : Aggregators} {indices : List Nat}
    (inside : ∀ index ∈ indices, index < pool.futures.length) :
    (tasks pool indices).length = indices.length := by
  induction indices with
  | nil => rfl
  | cons index rest ih =>
      have found := List.getElem?_eq_getElem (inside index List.mem_cons_self)
      have later := ih fun other member => inside other (List.mem_cons_of_mem _ member)
      rw [tasks_cons found, List.length_cons, List.length_cons, later]

theorem tasks_perm {pool : Aggregators} {first second : List Nat}
    (perm : first.Perm second) : (tasks pool first).Perm (tasks pool second) :=
  perm.filterMap _

theorem tasks_append (pool : Aggregators) (first second : List Nat) :
    tasks pool (first ++ second) = tasks pool first ++ tasks pool second :=
  List.filterMap_append

theorem Sound.length_tasks (sound : Sound arrow query state) :
    (tasks state.pool state.pending).length = state.pending.length :=
  Pipeline.length_tasks fun index member =>
    sound.inside index (List.mem_append_right _ member)

theorem Sound.tasks_eq_nil (sound : Sound arrow query state) :
    tasks state.pool state.pending = [] ↔ state.pending = [] := by
  rw [← List.length_eq_zero_iff, sound.length_tasks, List.length_eq_zero_iff]

/-- A batch goes to the pool as the sequential program feeds it. -/
theorem Sound.remaining_submit (sound : Sound arrow query state)
    {batch : List FileRow} (some_rows : batch ≠ []) (call : Nat)
    (left : (state.submit batch call).remaining arrow completion query waits =
      some result) :
    readOn arrow completion query ((batch, call) :: state.unread)
      (state.locals waits) = result := by
  rw [readOn_submit some_rows]
  unfold Overlap.submit at left
  split at left
  next pool submitted =>
      have before := tasks_extends (FuturePool.submit_extends submitted)
        fun index member => sound.inside index (List.mem_append_right _ member)
      obtain ⟨_, isPool⟩ := FuturePool.submit_eq_some submitted
      have last : tasks pool [state.pool.futures.length] = [⟨call, batch⟩] := by
        simp [tasks, isPool]
      have same : { (state.enqueue pool batch).locals waits with
            reported := state.reported ++ [state.fed + batch.length] } =
          (state.locals waits).submit batch call := by
        simp only [Overlap.locals, Overlap.enqueue, Pipeline.submit]
        rw [tasks_append, before, last]
      rw [← same]
      exact Option.some.inj left
  next => cases left

/-- A future is merged as the sequential program collects it. -/
theorem Sound.remaining_collect (sound : Sound arrow query state) {index : Nat}
    {rest : List Nat} {ended : Bool} {future : Future BatchFuture Partial}
    {outcome : Partial} (isPlace : state.place = .collecting (index :: rest) ended)
    (found : state.pool.futures[index]? = some future)
    (done : future.stage = .done outcome)
    (left : (state.collect query rest ended outcome).remaining arrow completion
      query waits = some result) :
    state.remaining arrow completion query waits = some result := by
  have computed := sound.results future (List.mem_of_getElem? found) outcome done
  simp only [Overlap.remaining, isPlace, tasks_cons found, List.foldlM_cons,
    collectOne, ← computed]
  unfold Overlap.collect at left
  split at left
  next => exact left
  next rows partialGroups =>
      split at left
      next failed =>
          simp only [failed, bind, Except.bind] at left ⊢
          exact left
      next groups merged =>
          simp only [merged, bind, Except.bind] at left ⊢
          exact left

theorem Sound.remaining_advance (sound : Sound arrow query state)
    (stepped : state.advance query state.place = some after)
    (left : after.remaining arrow completion query waits = some result) :
    state.remaining arrow completion query waits = some result := by
  unfold Overlap.advance at stepped
  split at stepped
  next isPlace =>
      simp only [Overlap.remaining, isPlace]
      split at stepped
      next none =>
          cases stepped
          rw [if_pos none]
          exact left
      next some_threads =>
          cases stepped
          rw [if_neg some_threads]
          exact left
  next isPlace =>
      simp only [Overlap.remaining, isPlace]
      split at stepped
      next ended =>
          cases stepped
          rw [ended, readOn_nil, drainOn_eq]
          simp only [Overlap.remaining, true_and] at left
          have nothing : (state.locals waits).pending = [] ↔ state.pending = [] :=
            sound.tasks_eq_nil
          rw [← left]
          split
          next empty => rw [if_pos (nothing.mp empty)]; rfl
          next some_pending => rw [if_neg (mt nothing.mpr some_pending)]; rfl
      next batch call rest unread =>
          split at stepped
          next empty =>
              cases stepped
              rw [unread, readOn_cons, empty]
              simp only [Overlap.remaining, isPlace] at left
              exact left
          next some_rows =>
              cases stepped
              have skipped : Sound arrow query { state with unread := rest } := by
                have fits := sound.fits
                refine sound.keep rfl rfl ?_ id ?_
                · rw [isPlace]
                  rfl
                · rw [isPlace] at fits ⊢
                  exact fits
              rw [unread]
              exact congrArg some (skipped.remaining_submit some_rows call left)
  next isPlace =>
      cases stepped
      have lengths := sound.length_tasks
      simp only [Overlap.remaining, isPlace, submitOn]
      rw [← left]
      simp only [Overlap.locals, lengths]
      split
      next full => simp [Overlap.remaining, Overlap.locals, carryOn]
      next => rfl
  next => cases stepped
  next isPlace =>
      split at stepped
      next nothing =>
          cases stepped
          simp only [Overlap.remaining, isPlace]
          rw [if_pos ⟨trivial, nothing⟩]
          exact left
      next => cases stepped
  next ended isPlace =>
      cases stepped
      rw [← left]
      simp only [Overlap.remaining, isPlace]
      cases ended with
      | false => rfl
      | true =>
          have nothing : (state.locals waits).pending = [] ↔ state.pending = [] :=
            sound.tasks_eq_nil
          change some (drainOn arrow completion query (state.locals waits)) = _
          rw [drainOn_eq]
          simp only [if_true, true_and]
          split
          next empty => rw [if_pos (nothing.mp empty)]; rfl
          next some_pending => rw [if_neg (mt nothing.mpr some_pending)]; rfl
  next index rest ended isPlace =>
      obtain ⟨future, found, stepped⟩ := Option.bind_eq_some_iff.mp stepped
      split at stepped
      next outcome done =>
          cases stepped
          exact sound.remaining_collect isPlace found done left
      next => cases stepped
  next outcome isPlace =>
      cases stepped
      simp only [Overlap.remaining, isPlace]
      exact left
  next outcome isPlace =>
      cases stepped
      simp only [Overlap.remaining, isPlace]
      exact left
  next => cases stepped
  next outcome isPlace =>
      cases stepped
      simp only [Overlap.remaining, isPlace]
      exact left
  next outcome isPlace =>
      split at stepped
      next =>
          cases stepped
          simp only [Overlap.remaining, isPlace]
          exact left
      next => cases stepped
  next => cases stepped

theorem remaining_failing (stepped : state.failing state.place = some after) :
    after.remaining arrow completion query waits = none := by
  unfold Overlap.failing at stepped
  split at stepped
  next => cases stepped; rfl
  next => cases stepped; rfl
  next => cases stepped; rfl
  next => cases stepped

theorem remaining_cancelOne {index : Nat}
    (stepped : state.cancelOne index state.place = some after) :
    after.remaining arrow completion query waits =
      state.remaining arrow completion query waits := by
  unfold Overlap.cancelOne at stepped
  split at stepped
  next rest outcome isPlace =>
      split at stepped
      next =>
          cases stepped
          simp only [Overlap.remaining, isPlace]
      next => cases stepped
  next => cases stepped

/-- The workers do nothing that the sequential program would notice. -/
theorem Sound.remaining_work {pool : Aggregators} (sound : Sound arrow query state)
    (extended : state.pool.Extends pool) :
    Overlap.remaining arrow completion query { state with pool := pool } waits =
      state.remaining arrow completion query waits := by
  have pending := tasks_extends extended fun index member =>
    sound.inside index (List.mem_append_right _ member)
  have collected := tasks_extends extended fun index member =>
    sound.inside index (List.mem_append_left _ member)
  unfold Overlap.remaining
  simp only [Overlap.locals, pending]
  cases isPlace : state.place with
  | collecting done ended =>
      rw [isPlace] at collected
      simp only [Place.uncollected] at collected
      simp only [collected]
  | opening | reading | reporting | waiting => rfl
  | exiting | cancelling | shutting | draining | returned => rfl

/-- An answer of `wait` is one that the sequential program may get. -/
theorem remaining_awaken {done rest : List Nat}
    (stepped : state.awaken done rest state.place = some after)
    (answered : completion.wait waits (tasks state.pool state.pending) =
      (tasks state.pool done, tasks state.pool rest)) :
    after.remaining arrow completion query (waits + 1) =
      state.remaining arrow completion query waits := by
  unfold Overlap.awaken at stepped
  split at stepped
  next ended isPlace =>
      split at stepped
      next allowed =>
          obtain ⟨perm, some_done, _⟩ := allowed
          cases stepped
          have some_pending : state.pending ≠ [] := by
            intro nothing
            rw [nothing] at perm
            exact some_done (List.append_eq_nil_iff.mp perm.eq_nil).1
          simp only [Overlap.remaining, isPlace]
          rw [if_neg (fun both => some_pending both.2)]
          simp only [waitAndCollect, Overlap.locals, answered]
          cases (tasks state.pool done).foldlM (collectOne arrow query)
            (state.groups, state.total) <;> rfl
      next => cases stepped
  next => cases stepped

theorem follows_step {label : Label} (sound : Sound arrow query state)
    (follows : Follows arrow query reader state)
    (stepped : (overlap arrow query reader).step state label = some after) :
    Follows arrow query reader after := by
  obtain ⟨waits, completion, computes⟩ := follows
  cases label with
  | proceed =>
      exact ⟨waits, completion, fun other agrees result left =>
        computes other agrees result (sound.remaining_advance stepped left)⟩
  | fail =>
      refine ⟨waits, completion, fun other _ result left => ?_⟩
      rw [remaining_failing stepped] at left
      cases left
  | wait done rest =>
      change state.awaken done rest state.place = some after at stepped
      have allowed : (done ++ rest).Perm state.pending ∧ done ≠ [] ∧
          ∀ index ∈ done, state.isDone index = true := by
        unfold Overlap.awaken at stepped
        split at stepped
        next =>
            split at stepped
            next allowed => exact allowed
            next => cases stepped
        next => cases stepped
      obtain ⟨perm, some_done, allDone⟩ := allowed
      have perm' := @tasks_perm state.pool _ _ perm
      rw [tasks_append] at perm'
      have some_tasks : tasks state.pool done ≠ [] := by
        obtain ⟨index, others, isDone⟩ := List.exists_cons_of_ne_nil some_done
        obtain ⟨future, _, found, _⟩ :=
          isDone_eq_true.mp (allDone index (isDone ▸ List.mem_cons_self))
        rw [isDone, tasks_cons found]
        exact List.cons_ne_nil _ _
      refine ⟨waits + 1, completion.answering waits _ _ _ perm' some_tasks,
        fun other agrees result left => ?_⟩
      obtain ⟨agrees, answered⟩ := agrees.of_answering
      rw [remaining_awaken stepped answered] at left
      exact computes other agrees result left
  | cancel index =>
      refine ⟨waits, completion, fun other agrees result left => ?_⟩
      rw [remaining_cancelOne stepped] at left
      exact computes other agrees result left
  | take =>
      obtain ⟨pool, taken, rfl⟩ := Option.map_eq_some_iff.mp stepped
      refine ⟨waits, completion, fun other agrees result left => ?_⟩
      rw [sound.remaining_work (FuturePool.take_extends taken)] at left
      exact computes other agrees result left
  | finish index =>
      obtain ⟨future, _, stepped⟩ := Option.bind_eq_some_iff.mp stepped
      obtain ⟨pool, finished, rfl⟩ := Option.map_eq_some_iff.mp stepped
      refine ⟨waits, completion, fun other agrees result left => ?_⟩
      rw [sound.remaining_work (FuturePool.finish_extends finished)] at left
      exact computes other agrees result left

theorem follows_initial (arrow : Arrow) (query : RollupQuery)
    (reader : List (List FileRow)) : Follows arrow query reader (.initial reader) := by
  refine ⟨0, latestFirst, fun other _ result left => ?_⟩
  simp only [Overlap.remaining, Overlap.initial] at left
  unfold rollupGroups
  split at left
  next none => rw [if_pos none, ← Option.some.inj left]
  next some_threads =>
      rw [if_neg some_threads, ← Option.some.inj left]
      rfl

theorem follows_of_reachable
    (reachable : (overlap arrow query reader).Reachable StepSystem.AnyStep state) :
    Follows arrow query reader state := by
  induction reachable with
  | start initial => exact initial ▸ follows_initial arrow query reader
  | next reachable _ stepped ih =>
      exact follows_step (sound_of_reachable reachable) ih stepped

end Moves

/-- The rows and the reports of a rollup that returned. -/
def Place.counts : Place → Option (Nat × List Nat)
  | .returned (.computed (.ok (_, total, reported))) => some (total, reported)
  | _ => none

theorem counts_eq_some {place : Place} {total : Nat} {reported : List Nat}
    (counts : place.counts = some (total, reported)) :
    ∃ groups, place = .returned (.computed (.ok (groups, total, reported))) := by
  unfold Place.counts at counts
  split at counts
  next groups _ _ =>
      cases counts
      exact ⟨groups, rfl⟩
  next => cases counts

/-- Whatever the order of the steps, a rollup that no exception from outside ends
returns or raises what the sequential one does for some answers of its waits. -/
theorem overlap_computes (arrow : Arrow) (query : RollupQuery)
    (reader : List (List FileRow)) (state : Overlap)
    (reachable : (overlap arrow query reader).Reachable StepSystem.AnyStep state)
    (result : Except RollupError (Groups × Nat × List Nat))
    (returned : state.place = .returned (.computed result)) :
    ∃ completion, rollupGroups arrow completion query reader = result := by
  obtain ⟨waits, completion, computes⟩ := follows_of_reachable reachable
  refine ⟨completion, computes completion (fun _ _ => rfl) result ?_⟩
  simp only [Overlap.remaining, returned]

/-- Both batches in the pool at once, and the second one finished first. -/
def overtaking : List Label :=
  [.proceed, .proceed, .proceed, .take, .proceed, .proceed, .take, .finish 1,
    .proceed, .wait [1] [0], .proceed, .proceed, .finish 0, .wait [0] [],
    .proceed, .proceed, .proceed, .proceed, .proceed, .proceed, .proceed]

theorem overtaking_computes :
    ∃ final groups reported,
      (overlap plainArrow ⟨"/data/".toList, 1, 2, 2⟩
        [sampleRows.take 2, sampleRows.drop 2]).run
          (.initial [sampleRows.take 2, sampleRows.drop 2]) overtaking =
        some final ∧
      final.place = .returned (.computed (.ok (groups, 3, reported))) ∧
      ∃ completion, rollupGroups plainArrow completion ⟨"/data/".toList, 1, 2, 2⟩
        [sampleRows.take 2, sampleRows.drop 2] = .ok (groups, 3, reported) := by
  have ran : ((overlap plainArrow ⟨"/data/".toList, 1, 2, 2⟩
      [sampleRows.take 2, sampleRows.drop 2]).run
        (.initial [sampleRows.take 2, sampleRows.drop 2]) overtaking).isSome := by
    decide +kernel
  have counts : ∀ final ∈ (overlap plainArrow ⟨"/data/".toList, 1, 2, 2⟩
      [sampleRows.take 2, sampleRows.drop 2]).run
        (.initial [sampleRows.take 2, sampleRows.drop 2]) overtaking,
      final.place.counts = some (3, [2, 3]) := by
    decide +kernel
  obtain ⟨final, ran⟩ := Option.isSome_iff_exists.mp ran
  obtain ⟨groups, returned⟩ := counts_eq_some (counts final ran)
  refine ⟨final, groups, [2, 3], ran, returned, ?_⟩
  refine overlap_computes plainArrow _ _ final ?_ _ returned
  exact .of_run (.start rfl) (StepSystem.Meets.any _ _ _) ran

end Pipeline

end Catwalk
