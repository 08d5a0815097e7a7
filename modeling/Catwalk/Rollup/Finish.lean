import Catwalk.Rollup.Backlog

/-! `rollup_groups` comes to its end, whatever its workers and its reader do. -/

namespace Catwalk.Pipeline

variable {arrow : Arrow} {query : RollupQuery} {reader : List (List FileRow)}
  {state after : Overlap}

theorem left_leave (outcome : Outcome) :
    (state.leave outcome).left =
      9 * state.unread.length + state.pool.owed + (4 + state.pending.length) := rfl

theorem left_submit (isPlace : state.place = .reading) (batch : List FileRow)
    (call : Nat) : (state.submit batch call).left < 9 + state.left := by
  unfold Overlap.submit
  split
  next pool submitted =>
      have counts := FuturePool.submit_counts submitted
      simp only [Overlap.left, Overlap.enqueue, Place.left, isPlace, FuturePool.owed,
        List.length_append, List.length_singleton]
      omega
  next =>
      rw [left_leave, Overlap.left, isPlace]
      simp only [Place.left]
      omega

theorem left_collect {index : Nat} {rest : List Nat} {ended : Bool}
    (isPlace : state.place = .collecting (index :: rest) ended) (result : Partial) :
    (state.collect query rest ended result).left < state.left := by
  have before : state.left = 9 * state.unread.length + state.pool.owed +
      (8 + (rest.length + 1) + 5 * state.pending.length) := by
    rw [Overlap.left, isPlace]
    rfl
  unfold Overlap.collect
  split
  next =>
      rw [left_leave, before]
      omega
  next =>
      split
      next =>
          rw [left_leave, before]
          omega
      next =>
          simp only [Overlap.left, Place.left] at before ⊢
          omega

theorem left_advance (stepped : state.advance query state.place = some after) :
    after.left < state.left := by
  have counts := state.pool.shutdown_counts
  unfold Overlap.advance at stepped
  split at stepped
  next isPlace =>
      split at stepped
      next =>
          cases stepped
          simp only [Overlap.left, Place.left, isPlace]
          omega
      next =>
          cases stepped
          simp only [Overlap.left, Place.left, isPlace]
          omega
  next isPlace =>
      split at stepped
      next =>
          cases stepped
          simp only [Overlap.left, Place.left, isPlace]
          omega
      next batch call rest unread =>
          have skipped : Overlap.left { state with unread := rest } + 9 =
              state.left := by
            simp only [Overlap.left, unread, List.length_cons]
            omega
          split at stepped
          next =>
              cases stepped
              omega
          next =>
              cases stepped
              have submitted := @left_submit { state with unread := rest } isPlace
                batch call
              omega
  next isPlace =>
      cases stepped
      simp only [Overlap.left, isPlace]
      split
      next =>
          simp only [Place.left]
          omega
      next =>
          simp only [Place.left]
          omega
  next => cases stepped
  next isPlace =>
      split at stepped
      next =>
          cases stepped
          rw [left_leave]
          simp only [Overlap.left, Place.left, isPlace]
          omega
      next => cases stepped
  next ended isPlace =>
      cases stepped
      simp only [Overlap.left, isPlace]
      split
      next =>
          simp only [Place.left]
          omega
      next =>
          simp only [Place.left]
          omega
  next index rest ended isPlace =>
      obtain ⟨future, _, stepped⟩ := Option.bind_eq_some_iff.mp stepped
      split at stepped
      next result _ =>
          cases stepped
          exact left_collect isPlace result
      next => cases stepped
  next isPlace =>
      cases stepped
      simp only [Overlap.left, Place.left, isPlace]
      omega
  next isPlace =>
      cases stepped
      simp only [Overlap.left, Place.left, isPlace]
      omega
  next => cases stepped
  next isPlace =>
      cases stepped
      simp only [Overlap.left, Place.left, isPlace, FuturePool.owed]
      omega
  next isPlace =>
      split at stepped
      next =>
          cases stepped
          simp only [Overlap.left, Place.left, isPlace]
          omega
      next => cases stepped
  next => cases stepped

/-- What is left falls with every step of every thread. -/
theorem left_step {label : Label}
    (stepped : (overlap arrow query reader).step state label = some after) :
    after.left < state.left := by
  cases label with
  | proceed => exact left_advance stepped
  | fail =>
      change state.failing state.place = some after at stepped
      unfold Overlap.failing at stepped
      split at stepped
      next isPlace =>
          cases stepped
          rw [left_leave]
          simp only [Overlap.left, Place.left, isPlace]
          omega
      next isPlace =>
          cases stepped
          rw [left_leave]
          simp only [Overlap.left, Place.left, isPlace]
          omega
      next isPlace =>
          cases stepped
          simp only [Overlap.left, Place.left, isPlace]
          omega
      next => cases stepped
  | wait done rest =>
      change state.awaken done rest state.place = some after at stepped
      unfold Overlap.awaken at stepped
      split at stepped
      next ended isPlace =>
          split at stepped
          next answered =>
              obtain ⟨perm, some_done, _⟩ := answered
              cases stepped
              have lengths := perm.length_eq
              have positive := List.length_pos_of_ne_nil some_done
              rw [List.length_append] at lengths
              simp only [Overlap.left, Place.left, isPlace]
              omega
          next => cases stepped
      next => cases stepped
  | cancel index =>
      change state.cancelOne index state.place = some after at stepped
      unfold Overlap.cancelOne at stepped
      split at stepped
      next rest outcome isPlace =>
          split at stepped
          next member =>
              cases stepped
              have counts := state.pool.cancel_counts index
              have positive := List.length_pos_of_mem member
              simp only [Overlap.left, Place.left, isPlace, FuturePool.owed,
                List.length_erase_of_mem member]
              omega
          next => cases stepped
      next => cases stepped
  | take =>
      obtain ⟨pool, taken, rfl⟩ := Option.map_eq_some_iff.mp stepped
      have counts := FuturePool.take_counts taken
      simp only [Overlap.left, FuturePool.owed]
      omega
  | finish index =>
      obtain ⟨future, _, stepped⟩ := Option.bind_eq_some_iff.mp stepped
      obtain ⟨pool, finished, rfl⟩ := Option.map_eq_some_iff.mp stepped
      have counts := FuturePool.finish_counts finished
      simp only [Overlap.left, FuturePool.owed]
      omega

/-- A worker that runs an aggregation comes to its result. -/
theorem free_of_executing (some_executing : 0 < state.pool.executing) :
    ∃ label, ((overlap arrow query reader).step state label).isSome := by
  obtain ⟨future, member, executes⟩ := List.countP_pos_iff.mp some_executing
  obtain ⟨index, found⟩ := List.mem_iff_getElem?.mp member
  refine ⟨.finish index, ?_⟩
  simp [overlap, Overlap.step, FuturePool.finish, found, executes]

theorem free_of_waiting (some_threads : query.threads ≠ 0)
    (some_waiting : 0 < state.pool.waiting) :
    ∃ label, ((overlap arrow query reader).step state label).isSome := by
  rcases Nat.eq_zero_or_pos state.pool.executing with idle | busy
  · refine ⟨.take, ?_⟩
    have taken := FuturePool.take_isSome
      (idle ▸ Nat.pos_of_ne_zero some_threads) some_waiting
    change ((state.pool.take query.threads).map _).isSome
    rw [Option.isSome_map]
    exact taken
  · exact free_of_executing busy

theorem Sound.free_of_pending (sound : Sound arrow query state)
    (some_threads : query.threads ≠ 0) {ended : Bool}
    (isPlace : state.place = .waiting ended) (some_pending : state.pending ≠ []) :
    ∃ label, ((overlap arrow query reader).step state label).isSome := by
  obtain ⟨index, rest, isPending⟩ := List.exists_cons_of_ne_nil some_pending
  have inside := sound.inside index (by
    rw [backlog_eq_pending (by rw [isPlace]; rfl), isPending]
    exact List.mem_cons_self)
  have found := List.getElem?_eq_getElem inside
  have member := List.getElem_mem inside
  have uncancelled := sound.uncancelled (by rw [isPlace]; rfl) _ member
  cases isStage : state.pool.futures[index].stage with
  | waiting =>
      exact free_of_waiting some_threads (List.countP_pos_iff.mpr
        ⟨_, member, Future.isWaiting_iff.mpr isStage⟩)
  | executing =>
      exact free_of_executing (List.countP_pos_iff.mpr
        ⟨_, member, Future.isExecuting_iff.mpr isStage⟩)
  | done result =>
      have isDone : state.isDone index = true :=
        isDone_eq_true.mpr ⟨_, result, found, isStage⟩
      refine ⟨.wait [index] rest, ?_⟩
      change (state.awaken [index] rest state.place).isSome
      rw [isPlace]
      simp [Overlap.awaken, isPending, isDone]
  | cancelled => exact absurd isStage uncancelled

theorem Sound.free (sound : Sound arrow query state) (short : ¬ state.Returned) :
    ∃ label, ((overlap arrow query reader).step state label).isSome := by
  have fits := sound.fits
  have proceeds : (state.advance query state.place).isSome →
      ∃ label, ((overlap arrow query reader).step state label).isSome :=
    fun moves => ⟨.proceed, moves⟩
  cases isPlace : state.place with
  | opening =>
      apply proceeds
      rw [isPlace]
      simp only [Overlap.advance]
      split <;> rfl
  | reading =>
      apply proceeds
      rw [isPlace]
      simp only [Overlap.advance]
      split
      next => rfl
      next => split <;> rfl
  | reporting | exiting =>
      apply proceeds
      rw [isPlace]
      rfl
  | waiting ended =>
      rw [isPlace] at fits
      rcases eq_or_ne state.pending [] with nothing | some_pending
      · cases ended with
        | false => exact absurd nothing fits.2
        | true =>
            apply proceeds
            rw [isPlace]
            simp [Overlap.advance, nothing]
      · have some_threads : query.threads ≠ 0 := by
          cases ended with
          | false => exact fits.1
          | true => exact fits
        exact sound.free_of_pending some_threads isPlace some_pending
  | collecting done ended =>
      apply proceeds
      cases done with
      | nil =>
          rw [isPlace]
          rfl
      | cons index rest =>
          have collected := sound.collected
          rw [isPlace] at collected
          obtain ⟨future, result, found, done⟩ :=
            isDone_eq_true.mp (collected index List.mem_cons_self)
          rw [isPlace]
          simp [Overlap.advance, found, done]
  | cancelling rest outcome =>
      cases rest with
      | nil =>
          apply proceeds
          rw [isPlace]
          rfl
      | cons index rest =>
          refine ⟨.cancel index, ?_⟩
          change (state.cancelOne index state.place).isSome
          rw [isPlace]
          simp [Overlap.cancelOne]
  | shutting outcome =>
      apply proceeds
      rw [isPlace]
      rfl
  | draining outcome =>
      rw [isPlace] at fits
      rcases Nat.eq_zero_or_pos state.pool.executing with idle | busy
      · apply proceeds
        rw [isPlace]
        simp [Overlap.advance, FuturePool.Quiet, fits.2, idle]
      · exact free_of_executing busy
  | returned outcome =>
      refine absurd ?_ short
      rw [Overlap.Returned, isPlace]
      rfl

/-- A rollup of so many batches returns or raises within that many steps of all
threads, in whatever order they take them, and none of them is stuck before. -/
theorem overlap_completes (arrow : Arrow) (query : RollupQuery)
    (reader : List (List FileRow)) :
    (overlap arrow query reader).Completes Overlap.Returned (.initial reader)
      (9 * reader.length + 7) := by
  have initial : (Overlap.initial reader).left = 9 * reader.length + 7 := by
    change 9 * reader.zipIdx.length + 0 + 7 = _
    rw [List.length_zipIdx]
  rw [← initial]
  apply @StepSystem.Completes.of_measure _ _ (overlap arrow query reader)
    Overlap.Returned (Sound arrow query)
  · intro state label after sound _ stepped
    exact ⟨sound.step stepped, left_step stepped⟩
  · intro state sound short
    exact sound.free short
  · exact sound_initial arrow query reader

end Catwalk.Pipeline
