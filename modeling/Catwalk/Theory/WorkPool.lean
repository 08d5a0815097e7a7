import Mathlib.Data.Finset.Card
import Mathlib.Data.List.Nodup
import Mathlib.Logic.Function.Basic

/-! A pool of workers and its FIFO of work items.

Workers take the oldest item and skip it when it was cancelled; cancelling an
item leaves it in the queue. -/

universe u

/-- Where a work item is; `returning` still has its worker. -/
inductive WorkPool.Stage
  | waiting
  | executing
  | returning
  | ended
  | cancelled
  deriving DecidableEq

/-- A worker holds the item. -/
def WorkPool.Stage.Working (stage : WorkPool.Stage) : Prop :=
  stage = .executing ∨ stage = .returning

instance (stage : WorkPool.Stage) : Decidable stage.Working :=
  inferInstanceAs (Decidable (_ ∨ _))

/-- The items submitted so far, the queue, and the workers that are busy. -/
structure WorkPool (Item : Type u) where
  known : Finset Item
  queue : List Item
  busy : Nat
  stage : Item → WorkPool.Stage

namespace WorkPool

variable {Item : Type u} [DecidableEq Item] {pool after : WorkPool Item}

/-- The known items in the stages of a kind. -/
def within (pool : WorkPool Item) (kind : Stage → Prop) [DecidablePred kind] :
    Finset Item :=
  pool.known.filter fun item => kind (pool.stage item)

abbrev executing (pool : WorkPool Item) : Finset Item :=
  pool.within (· = .executing)

abbrev working (pool : WorkPool Item) : Finset Item :=
  pool.within Stage.Working

/-- The items that wait or execute. -/
def backlog (pool : WorkPool Item) : Nat :=
  pool.queue.length + pool.executing.card

def move (pool : WorkPool Item) (item : Item) (stage : Stage) :
    WorkPool Item :=
  { pool with stage := Function.update pool.stage item stage }

def submit (pool : WorkPool Item) (item : Item) : WorkPool Item where
  known := insert item pool.known
  queue := pool.queue ++ [item]
  busy := pool.busy
  stage := Function.update pool.stage item .waiting

/-- A step of a worker, or of a thread that cancels an item or drains the
queue. -/
inductive Step (pool : WorkPool Item) : WorkPool Item → Prop
  | stutter : Step pool pool
  | take {item rest} (queued : pool.queue = item :: rest)
      (waiting : pool.stage item = .waiting) :
      Step pool { pool.move item .executing with
        queue := rest
        busy := pool.busy + 1 }
  | skip {item rest} (queued : pool.queue = item :: rest)
      (notWaiting : pool.stage item ≠ .waiting) :
      Step pool { pool with queue := rest }
  | finish {item} (member : item ∈ pool.known)
      (executing : pool.stage item = .executing) :
      Step pool (pool.move item .returning)
  | idle {item} (member : item ∈ pool.known)
      (returning : pool.stage item = .returning) :
      Step pool { pool.move item .ended with busy := pool.busy - 1 }
  | cancel {item} (waiting : pool.stage item = .waiting) :
      Step pool (pool.move item .cancelled)
  | drain {item rest} (queued : pool.queue = item :: rest)
      (waiting : pool.stage item = .waiting) :
      Step pool { pool.move item .cancelled with queue := rest }

theorem Step.of_eq {result : WorkPool Item}
    (step : pool.Step result) (same : after = result) : pool.Step after :=
  same ▸ step

/-- Queued items wait or are cancelled, all waiting ones are queued, and the
busy workers are those that hold an item. -/
structure Sound (pool : WorkPool Item) : Prop where
  nodup : pool.queue.Nodup
  known : ∀ item ∈ pool.queue, item ∈ pool.known
  items : ∀ item ∈ pool.queue,
    pool.stage item = .waiting ∨ pool.stage item = .cancelled
  waits : ∀ item ∈ pool.known, pool.stage item = .waiting → item ∈ pool.queue
  busy : pool.busy = pool.working.card

section Kinds

variable {item : Item} {stage : Stage} {kind : Stage → Prop}
  [DecidablePred kind]

omit [DecidableEq Item] in
theorem mem_within :
    item ∈ pool.within kind ↔ item ∈ pool.known ∧ kind (pool.stage item) := by
  rw [within, Finset.mem_filter]

theorem within_move_same (same : kind stage ↔ kind (pool.stage item)) :
    (pool.move item stage).within kind = pool.within kind := by
  apply Finset.filter_congr
  intro other _
  simp only [move, Function.update_apply]
  split
  next isItem => rw [isItem, same]
  next => rfl

theorem within_move_enter (member : item ∈ pool.known)
    (enters : kind stage) :
    (pool.move item stage).within kind = insert item (pool.within kind) := by
  ext other
  simp only [within, move, Finset.mem_filter, Finset.mem_insert,
    Function.update_apply]
  split
  next isItem => simp [isItem, member, enters]
  next differ => simp [differ]

theorem within_move_leave (leaves : ¬ kind stage) :
    (pool.move item stage).within kind = (pool.within kind).erase item := by
  ext other
  simp only [within, move, Finset.mem_filter, Finset.mem_erase,
    Function.update_apply]
  split
  next isItem => simp [isItem, leaves]
  next differ => simp [differ]

theorem within_submit (unknown : item ∉ pool.known)
    (elsewhere : ¬ kind .waiting) :
    (pool.submit item).within kind = pool.within kind := by
  ext other
  simp only [within, submit, Finset.mem_filter, Finset.mem_insert,
    Function.update_apply]
  split
  next isItem => simp [isItem, elsewhere, unknown]
  next differ => simp [differ]

end Kinds

theorem Sound.submit (sound : pool.Sound) {item : Item}
    (unknown : item ∉ pool.known) : (pool.submit item).Sound := by
  have unqueued : item ∉ pool.queue :=
    fun member => unknown (sound.known item member)
  constructor
  · apply List.Nodup.append sound.nodup (List.nodup_singleton item)
    intro other member isItem
    rw [List.mem_singleton] at isItem
    exact unqueued (isItem ▸ member)
  · intro other member
    rcases List.mem_append.mp member with before | isItem
    · exact Finset.mem_insert_of_mem (sound.known other before)
    · rw [List.mem_singleton] at isItem
      exact Finset.mem_insert.mpr (.inl isItem)
  · intro other member
    simp only [WorkPool.submit, Function.update_apply]
    split
    next => exact .inl rfl
    next differ =>
      rcases List.mem_append.mp member with before | isItem
      · exact sound.items other before
      · exact absurd (List.mem_singleton.mp isItem) differ
  · intro other member waiting
    simp only [WorkPool.submit, Function.update_apply] at waiting
    split at waiting
    next isItem =>
      subst isItem
      exact List.mem_append_right _ List.mem_cons_self
    next differ =>
      have before := Finset.mem_of_mem_insert_of_ne member differ
      exact List.mem_append_left _ (sound.waits other before waiting)
  · rw [working, within_submit unknown (by simp [Stage.Working])]
    exact sound.busy

omit [DecidableEq Item] in
theorem Sound.unqueued (sound : pool.Sound) {item : Item}
    (working : (pool.stage item).Working) : item ∉ pool.queue := by
  intro queued
  rcases sound.items item queued with waiting | cancelled
  · rw [waiting] at working
    simp [Stage.Working] at working
  · rw [cancelled] at working
    simp [Stage.Working] at working

theorem Sound.waits_move (sound : pool.Sound) {item other : Item}
    {stage : Stage} (moved : stage ≠ .waiting) (member : other ∈ pool.known)
    (waiting : (pool.move item stage).stage other = .waiting) :
    other ≠ item ∧ other ∈ pool.queue := by
  simp only [move, Function.update_apply] at waiting
  split at waiting
  next => exact absurd waiting moved
  next differ => exact ⟨differ, sound.waits other member waiting⟩

theorem Sound.items_move (sound : pool.Sound) {item other : Item}
    {rest : List Item} {stage : Stage} (queued : pool.queue = item :: rest)
    (member : other ∈ rest) :
    (pool.move item stage).stage other = .waiting ∨
      (pool.move item stage).stage other = .cancelled := by
  have nodup := sound.nodup
  rw [queued] at nodup
  have differ : other ≠ item := by
    rintro rfl
    exact (List.nodup_cons.mp nodup).1 member
  simp only [move, Function.update_of_ne differ]
  apply sound.items
  rw [queued]
  exact List.mem_cons_of_mem item member

theorem Sound.items_unqueued (sound : pool.Sound) {item other : Item}
    {stage : Stage} (unqueued : item ∉ pool.queue)
    (place : other ∈ pool.queue) :
    (pool.move item stage).stage other = .waiting ∨
      (pool.move item stage).stage other = .cancelled := by
  have differ : other ≠ item := by
    rintro rfl
    exact unqueued place
  simp only [move, Function.update_of_ne differ]
  exact sound.items other place

omit [DecidableEq Item] in
theorem Sound.nodup_rest (sound : pool.Sound) {item : Item}
    {rest : List Item} (queued : pool.queue = item :: rest) : rest.Nodup := by
  have nodup := sound.nodup
  rw [queued] at nodup
  exact (List.nodup_cons.mp nodup).2

omit [DecidableEq Item] in
theorem Sound.known_queued (sound : pool.Sound) {item : Item}
    {rest : List Item} (queued : pool.queue = item :: rest) :
    item ∈ pool.known ∧ ∀ other ∈ rest, other ∈ pool.known := by
  have known := sound.known
  rw [queued] at known
  exact List.forall_mem_cons.mp known

theorem Sound.waits_rest (sound : pool.Sound) {item other : Item}
    {rest : List Item} {stage : Stage} (queued : pool.queue = item :: rest)
    (moved : stage ≠ .waiting) (member : other ∈ pool.known)
    (waiting : (pool.move item stage).stage other = .waiting) :
    other ∈ rest := by
  obtain ⟨differ, place⟩ := sound.waits_move moved member waiting
  rw [queued] at place
  exact (List.mem_cons.mp place).resolve_left differ

theorem Sound.step (sound : pool.Sound) (step : pool.Step after) :
    after.Sound := by
  have busy := sound.busy
  cases step with
  | stutter => exact sound
  | @take item rest queued waiting =>
      obtain ⟨member, known⟩ := sound.known_queued queued
      constructor
      · exact sound.nodup_rest queued
      · exact known
      · intro other later
        exact sound.items_move queued later
      · intro other member waits
        exact sound.waits_rest queued (by decide) member waits
      · have idle : item ∉ pool.working := by
          rw [working, mem_within, waiting]
          simp [Stage.Working]
        have enters : (pool.move item .executing).working =
            insert item pool.working := within_move_enter member (.inl rfl)
        have card := Finset.card_insert_of_notMem idle
        rw [← enters, ← busy] at card
        exact card.symm
  | @skip item rest queued notWaiting =>
      have items := sound.items
      have waits := sound.waits
      rw [queued] at items waits
      constructor
      · exact sound.nodup_rest queued
      · exact (sound.known_queued queued).2
      · intro other later
        exact items other (List.mem_cons_of_mem item later)
      · intro other member waiting
        have differ : other ≠ item := by
          rintro rfl
          exact notWaiting waiting
        exact (List.mem_cons.mp (waits other member waiting)).resolve_left
          differ
      · exact busy
  | @finish item member executing =>
      constructor
      · exact sound.nodup
      · exact sound.known
      · intro other place
        exact sound.items_unqueued (sound.unqueued (.inl executing)) place
      · intro other member waiting
        exact (sound.waits_move (by decide) member waiting).2
      · have same : (pool.move item .returning).working = pool.working := by
          apply within_move_same
          simp [Stage.Working, executing]
        rw [same]
        exact busy
  | @idle item member returning =>
      constructor
      · exact sound.nodup
      · exact sound.known
      · intro other place
        exact sound.items_unqueued (sound.unqueued (.inr returning)) place
      · intro other member waiting
        exact (sound.waits_move (by decide) member waiting).2
      · have leaves : (pool.move item .ended).working =
            pool.working.erase item :=
          within_move_leave (by simp [Stage.Working])
        have working : item ∈ pool.working :=
          mem_within.mpr ⟨member, .inr returning⟩
        have card := Finset.card_erase_of_mem working
        rw [← leaves, ← busy] at card
        exact card.symm
  | @cancel item waiting =>
      constructor
      · exact sound.nodup
      · exact sound.known
      · intro other place
        simp only [move, Function.update_apply]
        split
        next => exact .inr rfl
        next => exact sound.items other place
      · intro other member waits
        exact (sound.waits_move (by decide) member waits).2
      · have same : (pool.move item .cancelled).working = pool.working := by
          apply within_move_same
          simp [Stage.Working, waiting]
        rw [same]
        exact busy
  | @drain item rest queued waiting =>
      constructor
      · exact sound.nodup_rest queued
      · exact (sound.known_queued queued).2
      · intro other later
        exact sound.items_move queued later
      · intro other member waits
        exact sound.waits_rest queued (by decide) member waits
      · have same : (pool.move item .cancelled).working = pool.working := by
          apply within_move_same
          simp [Stage.Working, waiting]
        exact busy.trans (congrArg Finset.card same).symm

theorem Sound.complete (sound : pool.Sound) {item : Item}
    (member : item ∈ pool.known) (executing : pool.stage item = .executing) :
    { pool.move item .ended with busy := pool.busy - 1 }.Sound := by
  have finished := sound.step (.finish member executing)
  have returning : (pool.move item .returning).stage item = .returning := by
    simp only [move, Function.update_self]
  have idle := finished.step (.idle member returning)
  simpa only [move, Function.update_idem] using idle

theorem card_executing_move_le {item : Item} {stage : Stage}
    (moved : stage ≠ .executing) :
    (pool.move item stage).executing.card ≤ pool.executing.card := by
  have leaves : (pool.move item stage).executing =
      pool.executing.erase item := within_move_leave moved
  rw [leaves]
  apply Finset.card_erase_le

/-- Only a submission lengthens the backlog. -/
theorem Step.backlog_le (sound : pool.Sound) (step : pool.Step after) :
    after.backlog ≤ pool.backlog := by
  have shorter : ∀ {item rest}, pool.queue = item :: rest →
      rest.length ≤ pool.queue.length := by
    intro item rest queued
    rw [queued, List.length_cons]
    exact Nat.le_succ _
  cases step with
  | stutter => exact le_rfl
  | @take item rest queued waiting =>
      have member := sound.known item (queued ▸ List.mem_cons_self)
      have enters : (pool.move item .executing).executing =
          insert item pool.executing := within_move_enter member rfl
      have card := Finset.card_insert_le item pool.executing
      have length : pool.queue.length = rest.length + 1 := by
        rw [queued, List.length_cons]
      rw [← enters] at card
      apply (Nat.add_le_add_left card rest.length).trans
      rw [backlog, length]
      omega
  | skip queued => exact Nat.add_le_add_right (shorter queued) _
  | finish => exact Nat.add_le_add_left (card_executing_move_le (by decide)) _
  | idle => exact Nat.add_le_add_left (card_executing_move_le (by decide)) _
  | cancel => exact Nat.add_le_add_left (card_executing_move_le (by decide)) _
  | drain queued =>
      exact Nat.add_le_add (shorter queued)
        (card_executing_move_le (by decide))

theorem backlog_submit {item : Item} (unknown : item ∉ pool.known) :
    (pool.submit item).backlog = pool.backlog + 1 := by
  have same : (pool.submit item).executing = pool.executing :=
    within_submit unknown (by decide)
  unfold backlog
  rw [same]
  simp only [submit, List.length_append, List.length_singleton]
  omega

/-- The items that wait or execute, against any other set of items. -/
theorem Sound.backlog_add (sound : pool.Sound) (holders : Finset Item)
    (executing : pool.executing ⊆ holders) :
    pool.backlog +
        (holders \ (pool.queue.toFinset ∪ pool.executing)).card =
      holders.card + (pool.queue.toFinset \ holders).card := by
  have apart : Disjoint pool.queue.toFinset pool.executing := by
    apply Finset.disjoint_left.mpr
    intro item queued executes
    have stage := (mem_within.mp executes).2
    exact sound.unqueued (.inl stage) (List.mem_toFinset.mp queued)
  have held : pool.backlog =
      (pool.queue.toFinset ∪ pool.executing).card := by
    rw [Finset.card_union_of_disjoint apart,
      List.toFinset_card_of_nodup sound.nodup]
    rfl
  have outside : (pool.queue.toFinset ∪ pool.executing) \ holders =
      pool.queue.toFinset \ holders := by
    rw [Finset.union_sdiff_distrib, Finset.sdiff_eq_empty_iff_subset.mpr
      executing, Finset.union_empty]
  rw [held, ← outside, Nat.add_comm, Nat.add_comm holders.card,
    Finset.card_sdiff_add_card, Finset.card_sdiff_add_card, Finset.union_comm]

end WorkPool
