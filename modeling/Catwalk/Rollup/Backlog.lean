import Catwalk.Rollup.Compute
import Catwalk.Rollup.Overlap

/-! What `rollup_groups` holds in memory while it runs and what it leaves behind
when it returns or raises. -/

namespace Catwalk.Pipeline

variable {arrow : Arrow} {query : RollupQuery} {reader : List (List FileRow)}

/-- The futures that the running `collect` has still to merge. -/
def Place.uncollected : Place → List Nat
  | .collecting done _ => done
  | _ => []

def Place.inBody : Place → Bool
  | .opening | .reading | .reporting | .waiting _ | .collecting _ _ => true
  | .exiting _ | .cancelling _ _ | .shutting _ | .draining _ | .returned _ =>
      false

/-- A bound of the steps to the end, when so many futures are pending. -/
def Place.left (pending : Nat) : Place → Nat
  | .opening => 7 + 5 * pending
  | .reading => 6 + 5 * pending
  | .reporting => 7 + 5 * pending
  | .waiting _ => 5 + 5 * pending
  | .collecting done _ => 8 + done.length + 5 * pending
  | .exiting _ => 4 + pending
  | .cancelling rest _ => 3 + rest.length
  | .shutting _ => 2
  | .draining _ => 1
  | .returned _ => 0

def Place.isReturned : Place → Bool
  | .returned _ => true
  | _ => false

namespace Overlap

variable {state after : Overlap}

/-- The futures whose rows are not merged yet. -/
def backlog (state : Overlap) : List Nat :=
  state.place.uncollected ++ state.pending

def rowsAt (state : Overlap) (index : Nat) : Nat :=
  match state.pool.futures[index]? with
  | some future => future.task.batch.length
  | none => 0

/-- The rows that were read and are not merged yet. -/
def heldRows (state : Overlap) : Nat := (state.backlog.map state.rowsAt).sum

def left (state : Overlap) : Nat :=
  9 * state.unread.length + state.pool.owed +
    state.place.left state.pending.length

def Returned (state : Overlap) : Prop := state.place.isReturned = true

instance (state : Overlap) : Decidable state.Returned :=
  inferInstanceAs (Decidable (_ = true))

end Overlap

/-- What a place says about the pool and the pending futures. -/
def Place.Fits (query : RollupQuery) (state : Overlap) : Place → Prop
  | .opening => state.pending = []
  | .reading | .collecting _ false =>
      query.threads ≠ 0 ∧ state.pending.length < query.threads * 2
  | .waiting false => query.threads ≠ 0 ∧ state.pending ≠ []
  | .reporting | .waiting true | .collecting _ true | .exiting _
  | .cancelling _ _ | .shutting _ => query.threads ≠ 0
  | .draining _ => query.threads ≠ 0 ∧ state.pool.waiting = 0
  | .returned _ => state.pool.Quiet

/-- A batch that no worker is done with is in the backlog, which is bounded. -/
structure Sound (arrow : Arrow) (query : RollupQuery) (state : Overlap) :
    Prop where
  results : ∀ future ∈ state.pool.futures, ∀ result,
    future.stage = .done result → result = batchResult arrow query future.task
  covers : ∀ index future, state.pool.futures[index]? = some future →
    future.isLive = true → index ∈ state.backlog
  inside : ∀ index ∈ state.backlog, index < state.pool.futures.length
  uncancelled : state.place.inBody = true → ∀ future ∈ state.pool.futures,
    future.stage ≠ .cancelled
  collected : ∀ index ∈ state.place.uncollected, state.isDone index = true
  bounded : state.backlog.length ≤ query.threads * 2
  executing : state.pool.executing ≤ query.threads
  fits : state.place.Fits query state

/-- What workers and cancellations do to the pool. -/
structure Worked (arrow : Arrow) (query : RollupQuery)
    (before after : Aggregators) : Prop where
  extended : before.Extends after
  back : ∀ (index : Nat) (later : Future BatchFuture Partial),
    after.futures[index]? = some later →
      ∃ future, before.futures[index]? = some future ∧
        (later.isLive = true → future.isLive = true) ∧
        ∀ result, later.stage = .done result →
          future.stage = .done result ∨
            result = batchResult arrow query later.task

section Pool

variable {pool later : Aggregators} {index : Nat}
  {future other : Future BatchFuture Partial}

theorem isDone_eq_true {state : Overlap} {index : Nat} :
    state.isDone index = true ↔ ∃ future result,
      state.pool.futures[index]? = some future ∧ future.stage = .done result := by
  unfold Overlap.isDone
  constructor
  · intro isDone
    split at isDone
    next task result found => exact ⟨_, result, found, rfl⟩
    next => cases isDone
  · rintro ⟨⟨task, stage⟩, result, found, done⟩
    cases done
    rw [found]

theorem not_isLive_of_done {result : Partial} (done : future.stage = .done result) :
    future.isLive = false := by
  simp [Future.isLive, Future.isWaiting, Future.isExecuting, done]

theorem Worked.refl (pool : Aggregators) : Worked arrow query pool pool :=
  ⟨.refl pool, fun _ future found => ⟨future, found, id, fun _ => .inl⟩⟩

theorem Worked.of_put (found : pool.futures[index]? = some future)
    (extended : future.Extends other)
    (live : other.isLive = true → future.isLive = true)
    (computed : ∀ result, other.stage = .done result →
      future.stage = .done result ∨ result = batchResult arrow query other.task) :
    Worked arrow query pool (pool.put index other) := by
  refine ⟨FuturePool.put_extends found extended, fun place last at_place => ?_⟩
  rcases eq_or_ne index place with rfl | differs
  · have shorter := (List.getElem?_eq_some_iff.mp found).1
    unfold FuturePool.put at at_place
    rw [List.getElem?_set_self shorter] at at_place
    cases at_place
    exact ⟨future, found, live, computed⟩
  · unfold FuturePool.put at at_place
    rw [List.getElem?_set_ne differs] at at_place
    exact ⟨last, at_place, id, fun _ => .inl⟩

theorem cancel_live (live : future.cancel.isLive = true) :
    future.isLive = true := by
  unfold Future.isLive at live ⊢
  rw [Future.cancel_isWaiting, Future.cancel_isExecuting, Bool.false_or] at live
  rw [live, Bool.or_true]

theorem cancel_computed {result : Partial}
    (done : future.cancel.stage = .done result) : future.stage = .done result := by
  unfold Future.cancel at done
  split at done
  next => cases done
  next => exact done

theorem Worked.cancel (pool : Aggregators) (index : Nat) :
    Worked arrow query pool (pool.cancel index) := by
  unfold FuturePool.cancel
  split
  next future found =>
      exact .of_put found future.cancel_extends cancel_live fun _ done =>
        .inl (cancel_computed done)
  next => exact .refl pool

theorem Worked.shutdown (pool : Aggregators) :
    Worked arrow query pool (pool.shutdown true) := by
  refine ⟨pool.shutdown_extends true, fun index last found => ?_⟩
  simp only [FuturePool.shutdown, if_true, List.getElem?_map] at found
  obtain ⟨future, present, rfl⟩ := Option.map_eq_some_iff.mp found
  exact ⟨future, present, cancel_live, fun _ done => .inl (cancel_computed done)⟩

theorem Worked.take {workers : Nat} (taken : pool.take workers = some later) :
    Worked arrow query pool later := by
  obtain ⟨_, index, future, found, waits, rfl⟩ := FuturePool.take_eq_some taken
  refine .of_put found ⟨rfl, fun result done => ?_⟩ (fun _ => ?_)
    fun result done => ?_
  · rw [waits] at done
    cases done
  · rw [Future.isLive, Future.isWaiting_iff.mpr waits, Bool.true_or]
  · cases done

theorem Worked.finish {result : Partial}
    (found : pool.futures[index]? = some future)
    (computed : result = batchResult arrow query future.task)
    (finished : pool.finish index result = some later) :
    Worked arrow query pool later := by
  obtain ⟨same, present, executes, rfl⟩ := FuturePool.finish_eq_some finished
  have isFuture := Option.some.inj (found.symm.trans present)
  subst isFuture
  refine .of_put found ⟨rfl, fun result done => ?_⟩ (fun live => ?_)
    fun other done => ?_
  · rw [executes] at done
    cases done
  · cases live
  · cases done
    exact .inr computed

end Pool

namespace Sound

variable {state after : Overlap}

/-- The workers and the calls of `cancel` leave the backlog as it is. -/
theorem work {pool : Aggregators} (sound : Sound arrow query state)
    (worked : Worked arrow query state.pool pool)
    (executing : pool.executing ≤ query.threads)
    (uncancelled : state.place.inBody = true → ∀ future ∈ pool.futures,
      future.stage ≠ .cancelled)
    (fits : state.place.Fits query { state with pool := pool }) :
    Sound arrow query { state with pool := pool } where
  results := by
    intro last member result done
    obtain ⟨index, found⟩ := List.mem_iff_getElem?.mp member
    obtain ⟨future, before, _, computed⟩ := worked.back index last found
    obtain ⟨later, present, extended⟩ := worked.extended.futures index future before
    have isLast := Option.some.inj (found.symm.trans present)
    subst isLast
    rcases computed result done with earlier | computed
    · rw [extended.task]
      exact sound.results future (List.mem_of_getElem? before) result earlier
    · exact computed
  covers := by
    intro index last found live
    obtain ⟨future, before, wasLive, _⟩ := worked.back index last found
    exact sound.covers index future before (wasLive live)
  inside := by
    intro index member
    exact Nat.lt_of_lt_of_le (sound.inside index member) worked.extended.length_le
  uncancelled := uncancelled
  collected := by
    intro index member
    obtain ⟨future, result, found, done⟩ :=
      isDone_eq_true.mp (sound.collected index member)
    obtain ⟨later, found, extended⟩ := worked.extended.futures index future found
    exact isDone_eq_true.mpr ⟨later, result, found, extended.done result done⟩
  bounded := sound.bounded
  executing := executing
  fits := fits

/-- The calling thread moves; what leaves the backlog is done. -/
theorem relocate (sound : Sound arrow query state) (pool : after.pool = state.pool)
    (fewer : ∀ index ∈ after.backlog, index ∈ state.backlog)
    (dropped : ∀ index ∈ state.backlog,
      index ∈ after.backlog ∨ state.isDone index = true)
    (bounded : after.backlog.length ≤ query.threads * 2)
    (inBody : after.place.inBody = true → state.place.inBody = true)
    (collected : ∀ index ∈ after.place.uncollected, state.isDone index = true)
    (fits : after.place.Fits query after) : Sound arrow query after where
  results := pool ▸ sound.results
  covers := by
    intro index future found live
    rw [pool] at found
    refine (dropped index (sound.covers index future found live)).resolve_right ?_
    intro isDone
    obtain ⟨same, result, present, done⟩ := isDone_eq_true.mp isDone
    have isFuture := Option.some.inj (found.symm.trans present)
    subst isFuture
    rw [not_isLive_of_done done] at live
    cases live
  inside := by
    intro index member
    rw [pool]
    exact sound.inside index (fewer index member)
  uncancelled := by
    intro isBody
    rw [pool]
    exact sound.uncancelled (inBody isBody)
  collected := by
    intro index member
    have isDone := collected index member
    rw [isDone_eq_true] at isDone ⊢
    rw [pool]
    exact isDone
  bounded := bounded
  executing := pool ▸ sound.executing
  fits := fits

/-- The calling thread moves on without a change of the backlog. -/
theorem keep (sound : Sound arrow query state) (pool : after.pool = state.pool)
    (same : after.backlog = state.backlog) (nothing : after.place.uncollected = [])
    (inBody : after.place.inBody = true → state.place.inBody = true)
    (fits : after.place.Fits query after) : Sound arrow query after :=
  sound.relocate pool (fun _ => same ▸ id) (fun _ => same ▸ .inl)
    (same ▸ sound.bounded) inBody (by rw [nothing]; simp) fits

theorem leave (sound : Sound arrow query state) (some_threads : query.threads ≠ 0)
    (outcome : Outcome) : Sound arrow query (state.leave outcome) := by
  refine sound.relocate rfl (fun index member => ?_) (fun index member => ?_) ?_
    (fun isBody => ?_) (fun index member => ?_) some_threads
  · exact List.mem_append_right _ member
  · exact (List.mem_append.mp member).symm.imp id (sound.collected index)
  · have bounded := sound.bounded
    rw [Overlap.backlog, List.length_append] at bounded
    exact Nat.le_trans (Nat.le_add_left _ _) bounded
  · cases isBody
  · cases member

theorem quiet_of_backlog (sound : Sound arrow query state)
    (nothing : state.backlog = []) : state.pool.Quiet := by
  have live := FuturePool.live_le_cover state.backlog sound.covers
  rw [nothing, List.length_nil] at live
  exact Nat.add_eq_zero_iff.mp (Nat.le_zero.mp live)

/-- A place that waits for nobody to be merged. -/
theorem backlog_eq_pending (nothing : state.place.uncollected = []) :
    state.backlog = state.pending := by
  rw [Overlap.backlog, nothing, List.nil_append]

theorem submit (sound : Sound arrow query state) (isPlace : state.place = .reading)
    (batch : List FileRow) (call : Nat) :
    Sound arrow query (state.submit batch call) := by
  have fits := sound.fits
  rw [isPlace] at fits
  have isBacklog : state.backlog = state.pending :=
    backlog_eq_pending (by rw [isPlace]; rfl)
  have isBody : state.place.inBody = true := by rw [isPlace]; rfl
  unfold Overlap.submit
  split
  next pool submitted =>
      obtain ⟨_, rfl⟩ := FuturePool.submit_eq_some submitted
      have counts := FuturePool.submit_counts submitted
      unfold Overlap.enqueue
      constructor
      · intro future member result done
        rcases List.mem_append.mp member with before | isNew
        · exact sound.results future before result done
        · cases List.mem_singleton.mp isNew
          cases done
      · intro index future found live
        simp only [Overlap.backlog, Place.uncollected, List.nil_append]
        rcases Nat.lt_or_ge index state.pool.futures.length with before | isNew
        · rw [List.getElem?_append_left before] at found
          have member := sound.covers index future found live
          rw [isBacklog] at member
          exact List.mem_append_left _ member
        · have shorter := (List.getElem?_eq_some_iff.mp found).1
          rw [List.length_append, List.length_singleton] at shorter
          have isLast : index = state.pool.futures.length := by omega
          rw [isLast]
          exact List.mem_append_right _ List.mem_cons_self
      · intro index member
        simp only [Overlap.backlog, Place.uncollected, List.nil_append] at member
        rw [List.length_append, List.length_singleton]
        rcases List.mem_append.mp member with before | isNew
        · rw [← isBacklog] at before
          exact Nat.lt_succ_of_lt (sound.inside index before)
        · rw [List.mem_singleton.mp isNew]
          exact Nat.lt_succ_self _
      · intro _ future member
        rcases List.mem_append.mp member with before | isNew
        · exact sound.uncancelled isBody future before
        · cases List.mem_singleton.mp isNew
          exact fun isCancelled => nomatch isCancelled
      · intro index member
        cases member
      · simp only [Overlap.backlog, Place.uncollected, List.nil_append,
          List.length_append, List.length_singleton]
        exact fits.2
      · exact counts.2.trans_le sound.executing
      · exact fits.1
  next => exact sound.leave fits.1 _

theorem collect (sound : Sound arrow query state) {index : Nat} {rest : List Nat}
    {ended : Bool} (isPlace : state.place = .collecting (index :: rest) ended)
    (result : Partial) :
    Sound arrow query (state.collect query rest ended result) := by
  have fits := sound.fits
  rw [isPlace] at fits
  have some_threads : query.threads ≠ 0 := by
    cases ended with
    | false => exact fits.1
    | true => exact fits
  have isBacklog : state.backlog = index :: (rest ++ state.pending) := by
    rw [Overlap.backlog, isPlace]
    rfl
  have collected := sound.collected
  rw [isPlace] at collected
  unfold Overlap.collect
  split
  next => exact sound.leave some_threads _
  next rows partialGroups =>
      split
      next => exact sound.leave some_threads _
      next groups merged =>
          refine sound.relocate rfl (fun other member => ?_)
            (fun other member => ?_) ?_ (fun _ => by rw [isPlace]; rfl)
            (fun other member => ?_) ?_
          · rw [isBacklog]
            exact List.mem_cons_of_mem _ member
          · rw [isBacklog] at member
            rcases List.mem_cons.mp member with rfl | later
            · exact .inr (collected other List.mem_cons_self)
            · exact .inl later
          · have bounded := sound.bounded
            rw [isBacklog] at bounded
            exact Nat.le_of_succ_le bounded
          · exact collected other (List.mem_cons_of_mem _ member)
          · cases ended with
            | false => exact fits
            | true => exact fits

theorem advance (sound : Sound arrow query state)
    (stepped : state.advance query state.place = some after) :
    Sound arrow query after := by
  have fits := sound.fits
  cases isPlace : state.place with
  | opening =>
      rw [isPlace] at stepped fits
      have isBacklog : state.backlog = [] := by
        rw [backlog_eq_pending (by rw [isPlace]; rfl), fits]
      simp only [Overlap.advance] at stepped
      split at stepped
      next =>
          cases stepped
          refine sound.keep rfl ?_ rfl (fun isBody => nomatch isBody)
            (sound.quiet_of_backlog isBacklog)
          rw [isBacklog]
          exact fits
      next some_threads =>
          cases stepped
          refine sound.keep rfl ?_ rfl (fun _ => by rw [isPlace]; rfl)
            ⟨some_threads, ?_⟩
          · rw [isBacklog]
            exact fits
          · change state.pending.length < _
            rw [fits, List.length_nil]
            omega
  | reading =>
      rw [isPlace] at stepped fits
      have isBacklog : state.backlog = state.pending :=
        backlog_eq_pending (by rw [isPlace]; rfl)
      have isBody : state.place.inBody = true := by rw [isPlace]; rfl
      simp only [Overlap.advance] at stepped
      split at stepped
      next =>
          cases stepped
          exact sound.keep rfl isBacklog.symm rfl (fun _ => isBody) fits.1
      next batch call rest unread =>
          have skipped : Sound arrow query { state with unread := rest } := by
            refine sound.keep rfl rfl ?_ id ?_
            · rw [isPlace]
              rfl
            · rw [isPlace]
              exact fits
          split at stepped
          next =>
              cases stepped
              exact skipped
          next =>
              cases stepped
              exact skipped.submit isPlace batch call
  | reporting =>
      rw [isPlace] at stepped fits
      have isBacklog : state.backlog = state.pending :=
        backlog_eq_pending (by rw [isPlace]; rfl)
      have isBody : state.place.inBody = true := by rw [isPlace]; rfl
      simp only [Overlap.advance, Option.some.injEq] at stepped
      subst stepped
      split
      next full =>
          refine sound.keep rfl isBacklog.symm rfl (fun _ => isBody) ⟨fits, ?_⟩
          intro nothing
          rw [nothing, List.length_nil] at full
          exact fits (by omega)
      next free =>
          exact sound.keep rfl isBacklog.symm rfl (fun _ => isBody)
            ⟨fits, Nat.lt_of_not_le free⟩
  | waiting ended =>
      rw [isPlace] at stepped fits
      cases ended with
      | false => cases stepped
      | true =>
          simp only [Overlap.advance] at stepped
          split at stepped
          next =>
              cases stepped
              exact sound.leave fits _
          next => cases stepped
  | collecting done ended =>
      cases done with
      | nil =>
          have isBacklog : state.backlog = state.pending :=
            backlog_eq_pending (by rw [isPlace]; rfl)
          have isBody : state.place.inBody = true := by rw [isPlace]; rfl
          rw [isPlace] at stepped fits
          cases stepped
          cases ended with
          | false => exact sound.keep rfl isBacklog.symm rfl (fun _ => isBody) fits
          | true => exact sound.keep rfl isBacklog.symm rfl (fun _ => isBody) fits
      | cons index rest =>
          rw [isPlace] at stepped
          obtain ⟨future, _, stepped⟩ := Option.bind_eq_some_iff.mp stepped
          split at stepped
          next result _ =>
              cases stepped
              exact sound.collect isPlace result
          next => cases stepped
  | exiting outcome =>
      have isBacklog : state.backlog = state.pending :=
        backlog_eq_pending (by rw [isPlace]; rfl)
      rw [isPlace] at stepped fits
      cases stepped
      exact sound.keep rfl isBacklog.symm rfl (fun isBody => nomatch isBody) fits
  | cancelling rest outcome =>
      have isBacklog : state.backlog = state.pending :=
        backlog_eq_pending (by rw [isPlace]; rfl)
      rw [isPlace] at stepped fits
      cases rest with
      | nil =>
          cases stepped
          exact sound.keep rfl isBacklog.symm rfl (fun isBody => nomatch isBody) fits
      | cons => cases stepped
  | shutting outcome =>
      have isBacklog : state.backlog = state.pending :=
        backlog_eq_pending (by rw [isPlace]; rfl)
      have counts := state.pool.shutdown_counts
      have shut : Sound arrow query { state with pool := state.pool.shutdown true } := by
        refine sound.work (.shutdown _) (counts.2.trans_le sound.executing) ?_ ?_
        · rw [isPlace]
          exact fun isBody => nomatch isBody
        · rw [isPlace] at fits ⊢
          exact fits
      rw [isPlace] at stepped fits
      cases stepped
      exact shut.keep rfl isBacklog.symm rfl (fun isBody => nomatch isBody)
        ⟨fits, counts.1⟩
  | draining outcome =>
      have isBacklog : state.backlog = state.pending :=
        backlog_eq_pending (by rw [isPlace]; rfl)
      rw [isPlace] at stepped
      simp only [Overlap.advance] at stepped
      split at stepped
      next quiet =>
          cases stepped
          exact sound.keep rfl isBacklog.symm rfl (fun isBody => nomatch isBody) quiet
      next => cases stepped
  | returned outcome =>
      rw [isPlace] at stepped
      cases stepped

theorem failing (sound : Sound arrow query state)
    (stepped : state.failing state.place = some after) :
    Sound arrow query after := by
  have fits := sound.fits
  unfold Overlap.failing at stepped
  split at stepped
  next isPlace =>
      rw [isPlace] at fits
      cases stepped
      exact sound.leave fits.1 _
  next isPlace =>
      rw [isPlace] at fits
      cases stepped
      exact sound.leave fits _
  next outcome isPlace =>
      rw [isPlace] at fits
      cases stepped
      refine sound.keep rfl ?_ rfl (fun isBody => nomatch isBody) fits
      exact (backlog_eq_pending (by rw [isPlace]; rfl)).symm
  next => cases stepped

theorem awaken (sound : Sound arrow query state) {done rest : List Nat}
    (stepped : state.awaken done rest state.place = some after) :
    Sound arrow query after := by
  have fits := sound.fits
  unfold Overlap.awaken at stepped
  split at stepped
  next ended isPlace =>
      rw [isPlace] at fits
      have isBacklog : state.backlog = state.pending :=
        backlog_eq_pending (by rw [isPlace]; rfl)
      have bounded := sound.bounded
      rw [isBacklog] at bounded
      split at stepped
      next answered =>
          obtain ⟨perm, some_done, allDone⟩ := answered
          cases stepped
          have lengths := perm.length_eq
          have fewer : rest.length < state.pending.length := by
            have := List.length_pos_of_ne_nil some_done
            rw [List.length_append] at lengths
            omega
          refine sound.relocate rfl (fun index member => ?_)
            (fun index member => .inl ?_) ?_ (fun _ => by rw [isPlace]; rfl)
            allDone ?_
          · rw [isBacklog]
            exact perm.subset member
          · rw [isBacklog] at member
            exact perm.symm.subset member
          · exact lengths.trans_le bounded
          · cases ended with
            | false => exact ⟨fits.1, Nat.lt_of_lt_of_le fewer bounded⟩
            | true => exact fits
      next => cases stepped
  next => cases stepped

theorem fits_pool {place : Place} {pool : Aggregators}
    (fits : place.Fits query state)
    (calm : state.pool.waiting = 0 → pool.waiting = 0 ∧
      (state.pool.executing = 0 → pool.executing = 0)) :
    place.Fits query { state with pool := pool } := by
  cases place with
  | draining => exact ⟨fits.1, (calm fits.2).1⟩
  | returned =>
      exact ⟨(calm fits.1).1, (calm fits.1).2 fits.2⟩
  | collecting _ ended =>
      cases ended <;> exact fits
  | waiting ended =>
      cases ended <;> exact fits
  | opening | reading | reporting => exact fits
  | exiting | cancelling | shutting => exact fits

theorem cancelOne (sound : Sound arrow query state) {index : Nat}
    (stepped : state.cancelOne index state.place = some after) :
    Sound arrow query after := by
  have fits := sound.fits
  unfold Overlap.cancelOne at stepped
  split at stepped
  next rest outcome isPlace =>
      have isBacklog : state.backlog = state.pending :=
        backlog_eq_pending (by rw [isPlace]; rfl)
      have counts := state.pool.cancel_counts index
      have cancelled : Sound arrow query
          { state with pool := state.pool.cancel index } := by
        refine sound.work (.cancel _ _) (counts.2.trans_le sound.executing) ?_ ?_
        · rw [isPlace]
          exact fun isBody => nomatch isBody
        · exact fits_pool fits fun idle =>
            ⟨Nat.le_zero.mp (idle ▸ counts.1), counts.2.trans⟩
      rw [isPlace] at fits
      split at stepped
      next =>
          cases stepped
          exact cancelled.keep rfl isBacklog.symm rfl (fun isBody => nomatch isBody)
            fits
      next => cases stepped
  next => cases stepped

theorem take {pool : Aggregators} (sound : Sound arrow query state)
    (taken : state.pool.take query.threads = some pool) :
    Sound arrow query { state with pool := pool } := by
  have counts := FuturePool.take_counts taken
  obtain ⟨free, index, future, found, waits, isPool⟩ := FuturePool.take_eq_some taken
  refine sound.work (.take taken) (counts.2.trans_le free) (fun isBody last member => ?_)
    (fits_pool sound.fits fun idle => by omega)
  rw [isPool] at member
  rcases List.mem_or_eq_of_mem_set member with before | rfl
  · exact sound.uncancelled isBody last before
  · exact fun isCancelled => nomatch isCancelled

theorem finish {pool : Aggregators} {index : Nat} {future : Future BatchFuture Partial}
    (sound : Sound arrow query state) (found : state.pool.futures[index]? = some future)
    (finished : state.pool.finish index (batchResult arrow query future.task) =
      some pool) :
    Sound arrow query { state with pool := pool } := by
  have counts := FuturePool.finish_counts finished
  have fewer := sound.executing
  obtain ⟨same, present, executes, isPool⟩ := FuturePool.finish_eq_some finished
  refine sound.work (.finish found rfl finished) (by omega)
    (fun isBody last member => ?_) (fits_pool sound.fits fun idle => by omega)
  rw [isPool] at member
  rcases List.mem_or_eq_of_mem_set member with before | rfl
  · exact sound.uncancelled isBody last before
  · exact fun isCancelled => nomatch isCancelled

theorem step {label : Label} (sound : Sound arrow query state)
    (stepped : (overlap arrow query reader).step state label = some after) :
    Sound arrow query after := by
  cases label with
  | proceed => exact sound.advance stepped
  | fail => exact sound.failing stepped
  | wait => exact sound.awaken stepped
  | cancel => exact sound.cancelOne stepped
  | take =>
      obtain ⟨pool, taken, rfl⟩ := Option.map_eq_some_iff.mp stepped
      exact sound.take taken
  | finish =>
      obtain ⟨future, found, stepped⟩ := Option.bind_eq_some_iff.mp stepped
      obtain ⟨pool, finished, rfl⟩ := Option.map_eq_some_iff.mp stepped
      exact sound.finish found finished

end Sound

theorem sound_initial (arrow : Arrow) (query : RollupQuery)
    (reader : List (List FileRow)) : Sound arrow query (.initial reader) where
  results := by intro future member; cases member
  covers := by intro index future found; cases found
  inside := by intro index member; cases member
  uncancelled := by intro _ future member; cases member
  collected := by intro index member; cases member
  bounded := Nat.zero_le _
  executing := Nat.zero_le _
  fits := rfl

theorem sound_of_reachable {state : Overlap}
    (reachable : (overlap arrow query reader).Reachable StepSystem.AnyStep state) :
    Sound arrow query state := by
  induction reachable with
  | start initial => exact initial ▸ sound_initial arrow query reader
  | next _ _ stepped ih => exact ih.step stepped

section Rows

variable {state after : Overlap}

/-- Every row that was read is merged or in the backlog. -/
def Overlap.Held (state : Overlap) : Prop :=
  state.place.inBody = true → state.fed = state.total + state.heldRows

theorem rowsAt_congr {index : Nat} (inside : index < state.pool.futures.length)
    (same : ∀ future, state.pool.futures[index]? = some future →
      ∃ later, after.pool.futures[index]? = some later ∧ later.task = future.task) :
    after.rowsAt index = state.rowsAt index := by
  have found := List.getElem?_eq_getElem inside
  obtain ⟨later, present, task⟩ := same _ found
  unfold Overlap.rowsAt
  rw [found, present]
  exact congrArg (·.batch.length) task

theorem Overlap.Held.keep (held : state.Held) (pool : after.pool = state.pool)
    (same : after.backlog = state.backlog) (fed : after.fed = state.fed)
    (total : after.total = state.total)
    (inBody : after.place.inBody = true → state.place.inBody = true) :
    after.Held := by
  intro isBody
  have rows : after.rowsAt = state.rowsAt := by
    funext index
    unfold Overlap.rowsAt
    rw [pool]
  rw [fed, total, Overlap.heldRows, rows, same]
  exact held (inBody isBody)

theorem Sound.held_work {pool : Aggregators} (sound : Sound arrow query state)
    (held : state.Held) (extended : state.pool.Extends pool) :
    Overlap.Held { state with pool := pool } := by
  intro isBody
  have sums : (state.backlog.map (Overlap.rowsAt { state with pool := pool })) =
      state.backlog.map state.rowsAt := by
    refine List.map_congr_left fun index member => ?_
    refine rowsAt_congr (sound.inside index member) fun future found => ?_
    obtain ⟨later, present, extends'⟩ := extended.futures index future found
    exact ⟨later, present, extends'.task⟩
  exact (held isBody).trans (congrArg (fun rows => state.total + rows.sum) sums.symm)

theorem Sound.held_submit (sound : Sound arrow query state) (held : state.Held)
    (isPlace : state.place = .reading) (batch : List FileRow) (call : Nat) :
    (state.submit batch call).Held := by
  have isBacklog : state.backlog = state.pending :=
    Sound.backlog_eq_pending (by rw [isPlace]; rfl)
  have before := held (by rw [isPlace]; rfl)
  unfold Overlap.submit
  split
  next pool submitted =>
      have extended := FuturePool.submit_extends submitted
      have later : state.pending.map (state.enqueue pool batch).rowsAt =
          state.pending.map state.rowsAt := by
        refine List.map_congr_left fun index member => ?_
        refine rowsAt_congr (sound.inside index (isBacklog ▸ member))
          fun future found => ?_
        obtain ⟨later, present, extends'⟩ := extended.futures index future found
        exact ⟨later, present, extends'.task⟩
      obtain ⟨_, rfl⟩ := FuturePool.submit_eq_some submitted
      have last : (state.enqueue { state.pool with
          futures := state.pool.futures ++ [⟨⟨call, batch⟩, .waiting⟩] }
          batch).rowsAt state.pool.futures.length = batch.length := by
        simp [Overlap.rowsAt, Overlap.enqueue]
      intro _
      rw [Overlap.heldRows, isBacklog] at before
      rw [Overlap.heldRows, Sound.backlog_eq_pending rfl]
      change state.fed + batch.length = state.total +
        ((state.pending ++ [state.pool.futures.length]).map _).sum
      rw [List.map_append, List.sum_append, later, List.map_singleton, last,
        List.sum_singleton, before, Nat.add_assoc]
  next => exact fun isBody => nomatch isBody

theorem Sound.held_collect (documented : arrow.Documented)
    (sound : Sound arrow query state) (held : state.Held) {index : Nat}
    {rest : List Nat} {ended : Bool} {future : Future BatchFuture Partial}
    {result : Partial} (isPlace : state.place = .collecting (index :: rest) ended)
    (found : state.pool.futures[index]? = some future)
    (done : future.stage = .done result) :
    (state.collect query rest ended result).Held := by
  have before := held (by rw [isPlace]; rfl)
  have computed := sound.results future (List.mem_of_getElem? found) result done
  unfold Overlap.collect
  split
  next => exact fun isBody => nomatch isBody
  next rows partialGroups =>
      have counted := (batchResult_eq_ok documented computed.symm).2
      split
      next => exact fun isBody => nomatch isBody
      next groups _ =>
          intro _
          have split : state.heldRows =
              rows + ((rest ++ state.pending).map state.rowsAt).sum := by
            rw [Overlap.heldRows, Overlap.backlog, isPlace]
            have isRows : state.rowsAt index = rows := by
              rw [Overlap.rowsAt, found, counted]
            simp only [Place.uncollected, List.cons_append, List.map_cons,
              List.sum_cons, isRows]
          rw [split, ← Nat.add_assoc] at before
          exact before

theorem Sound.held_advance (documented : arrow.Documented)
    (sound : Sound arrow query state) (held : state.Held)
    (stepped : state.advance query state.place = some after) : after.Held := by
  have isBacklog : state.place.uncollected = [] → state.backlog = state.pending :=
    backlog_eq_pending
  unfold Overlap.advance at stepped
  split at stepped
  next isPlace =>
      rw [isPlace] at isBacklog
      split at stepped
      next =>
          cases stepped
          exact fun isBody => nomatch isBody
      next =>
          cases stepped
          exact held.keep rfl (isBacklog rfl).symm rfl rfl fun _ => by rw [isPlace]; rfl
  next isPlace =>
      rw [isPlace] at isBacklog
      split at stepped
      next =>
          cases stepped
          exact held.keep rfl (isBacklog rfl).symm rfl rfl fun _ => by rw [isPlace]; rfl
      next batch call rest unread =>
          split at stepped
          next =>
              cases stepped
              exact held.keep rfl rfl rfl rfl id
          next =>
              cases stepped
              have skipped : Sound arrow query { state with unread := rest } := by
                have fits := sound.fits
                refine sound.keep rfl rfl ?_ id ?_
                · rw [isPlace]
                  rfl
                · rw [isPlace] at fits ⊢
                  exact fits
              exact skipped.held_submit (held.keep rfl rfl rfl rfl id) isPlace batch call
  next isPlace =>
      rw [isPlace] at isBacklog
      cases stepped
      refine held.keep rfl ?_ rfl rfl fun _ => by rw [isPlace]; rfl
      rw [isBacklog rfl]
      refine Sound.backlog_eq_pending ?_
      simp only
      split <;> rfl
  next => cases stepped
  next =>
      split at stepped
      next =>
          cases stepped
          exact fun isBody => nomatch isBody
      next => cases stepped
  next ended isPlace =>
      rw [isPlace] at isBacklog
      cases stepped
      refine held.keep rfl ?_ rfl rfl fun _ => by rw [isPlace]; rfl
      rw [isBacklog rfl]
      refine Sound.backlog_eq_pending ?_
      simp only
      split <;> rfl
  next index rest ended isPlace =>
      obtain ⟨future, found, stepped⟩ := Option.bind_eq_some_iff.mp stepped
      split at stepped
      next result done =>
          cases stepped
          exact sound.held_collect documented held isPlace found done
      next => cases stepped
  next =>
      cases stepped
      exact fun isBody => nomatch isBody
  next =>
      cases stepped
      exact fun isBody => nomatch isBody
  next => cases stepped
  next =>
      cases stepped
      exact fun isBody => nomatch isBody
  next =>
      split at stepped
      next =>
          cases stepped
          exact fun isBody => nomatch isBody
      next => cases stepped
  next => cases stepped

theorem Sound.held_step {label : Label} (documented : arrow.Documented)
    (sound : Sound arrow query state) (held : state.Held)
    (stepped : (overlap arrow query reader).step state label = some after) :
    after.Held := by
  cases label with
  | proceed => exact sound.held_advance documented held stepped
  | fail =>
      change state.failing state.place = some after at stepped
      unfold Overlap.failing at stepped
      split at stepped
      next =>
          cases stepped
          exact fun isBody => nomatch isBody
      next =>
          cases stepped
          exact fun isBody => nomatch isBody
      next =>
          cases stepped
          exact fun isBody => nomatch isBody
      next => cases stepped
  | wait done rest =>
      change state.awaken done rest state.place = some after at stepped
      unfold Overlap.awaken at stepped
      split at stepped
      next ended isPlace =>
          split at stepped
          next answered =>
              cases stepped
              intro _
              have before := held (by rw [isPlace]; rfl)
              rw [Overlap.heldRows,
                backlog_eq_pending (by rw [isPlace]; rfl)] at before
              exact before.trans (congrArg (state.total + ·)
                (answered.1.map state.rowsAt).sum_eq.symm)
          next => cases stepped
      next => cases stepped
  | cancel index =>
      change state.cancelOne index state.place = some after at stepped
      unfold Overlap.cancelOne at stepped
      split at stepped
      next =>
          split at stepped
          next =>
              cases stepped
              exact fun isBody => nomatch isBody
          next => cases stepped
      next => cases stepped
  | take =>
      obtain ⟨pool, taken, rfl⟩ := Option.map_eq_some_iff.mp stepped
      exact sound.held_work held (FuturePool.take_extends taken)
  | finish index =>
      obtain ⟨future, _, stepped⟩ := Option.bind_eq_some_iff.mp stepped
      obtain ⟨pool, finished, rfl⟩ := Option.map_eq_some_iff.mp stepped
      exact sound.held_work held (FuturePool.finish_extends finished)

theorem held_of_reachable {state : Overlap} (documented : arrow.Documented)
    (reachable : (overlap arrow query reader).Reachable StepSystem.AnyStep state) :
    state.Held := by
  induction reachable with
  | start initial =>
      rw [initial]
      exact fun _ => rfl
  | next reachable _ stepped ih =>
      exact (sound_of_reachable reachable).held_step documented ih stepped

end Rows

/-- Two batches read, none merged, and one worker at the first. -/
def crowded : List Label :=
  [.proceed, .proceed, .proceed, .take, .proceed, .proceed]

/-- However the threads interleave, a rollup holds the rows of at most twice as
many batches as it has workers, and leaves none of their work behind. -/
theorem backlog_bounded (documented : arrow.Documented) (state : Overlap)
    (reachable : (overlap arrow query reader).Reachable StepSystem.AnyStep state) :
    state.backlog.length ≤ query.threads * 2 ∧
      state.pool.executing ≤ query.threads ∧
      state.pool.waiting + state.pool.executing ≤ state.backlog.length ∧
      (state.place.inBody = true → state.fed = state.total + state.heldRows) ∧
      (state.Returned → state.pool.Quiet) := by
  have sound := sound_of_reachable reachable
  refine ⟨sound.bounded, sound.executing,
    FuturePool.live_le_cover state.backlog sound.covers,
    held_of_reachable documented reachable, fun returned => ?_⟩
  have fits := sound.fits
  unfold Overlap.Returned Place.isReturned at returned
  split at returned
  next outcome isPlace =>
      rw [isPlace] at fits
      exact fits
  next => cases returned

theorem crowded_bounded :
    ∃ middle, (overlap plainArrow ⟨"/data/".toList, 1, 1, 2⟩
        [sampleRows.take 2, sampleRows.drop 2]).run
          (.initial [sampleRows.take 2, sampleRows.drop 2]) crowded =
        some middle ∧
      middle.backlog.length = 2 ∧ middle.total = 0 ∧
      3 = 0 + middle.heldRows ∧ middle.pool.executing ≤ 1 := by
  have ran : ((overlap plainArrow ⟨"/data/".toList, 1, 1, 2⟩
      [sampleRows.take 2, sampleRows.drop 2]).run
        (.initial [sampleRows.take 2, sampleRows.drop 2]) crowded).isSome := by
    decide +kernel
  have holds : ∀ middle ∈ (overlap plainArrow ⟨"/data/".toList, 1, 1, 2⟩
      [sampleRows.take 2, sampleRows.drop 2]).run
        (.initial [sampleRows.take 2, sampleRows.drop 2]) crowded,
      middle.backlog.length = 2 ∧ middle.total = 0 ∧ middle.fed = 3 ∧
        middle.place.inBody = true := by
    decide +kernel
  obtain ⟨middle, ran⟩ := Option.isSome_iff_exists.mp ran
  obtain ⟨held, merged, read, inBody⟩ := holds middle ran
  have reachable : (overlap plainArrow ⟨"/data/".toList, 1, 1, 2⟩
      [sampleRows.take 2, sampleRows.drop 2]).Reachable StepSystem.AnyStep middle :=
    .of_run (.start rfl) (StepSystem.Meets.any _ _ _) ran
  have bounded := backlog_bounded plainArrow_documented middle reachable
  refine ⟨middle, ran, held, merged, ?_, bounded.2.1⟩
  rw [← read, ← merged]
  exact bounded.2.2.2.1 inBody

end Catwalk.Pipeline
