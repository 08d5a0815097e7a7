import Catwalk.Service.Epochs
import Catwalk.Service.Steps

/-! The snapshot a `list_page` response names and the one its rows are from. -/

namespace Catwalk.Service

/-- The values `_epoch` had had, newest first, when the latest `current_epoch()`
call of an activity took its value, and when its keying call did. -/
structure Reads where
  latest : Nat → List (Option String)
  keying : Nat → List (Option String)

namespace Reads

def empty : Reads := ⟨fun _ => [], fun _ => []⟩

/-- A call takes its value when it checks `_epoch`, and again when it stores the
answer of its LIST; when the LIST fails, it keeps to what it found at its
check. -/
def note (state : State) (label : Label) (after : State) (reads : Reads) :
    Reads where
  latest :=
    match label with
    | .epoch (.enter id) | .epoch (.check id) | .epoch (.store id) =>
        Function.update reads.latest id after.epochs.held
    | _ => reads.latest
  keying id :=
    if ((state.task id).bind Task.keyed).isNone ∧
        ((after.task id).bind Task.keyed).isSome then reads.latest id
    else reads.keying id

/-- What was written to `_epoch` between the two calls, newest first. -/
def written (reads : Reads) (id : Nat) : List (Option String) :=
  (reads.latest id).take
    ((reads.latest id).length - (reads.keying id).length)

end Reads

/-- When a `list_page` responds, nothing was written to `_epoch` between its
keying read and its last one, or what was written last is what `_epoch` was at
the keying read. -/
def PutBack (moment : State × Reads) : Label → Prop
  | .advance id => ∀ task value fromCache, moment.1.task id = some task →
      task.place = .reporting value fromCache →
        ∀ last ∈ (moment.2.written id).head?,
          last ∈ (moment.2.keying id).head?
  | _ => True

/-- Every response names the snapshot of its key, for which its rows were asked
of the backend. -/
def ReportsRead (state : State) : Prop :=
  ∀ response ∈ state.responses,
    response.catalogSnapshot = response.key.epoch ∧
      response.catalogSnapshot = response.value.epoch

/-- The value a call goes on with, unless a LIST answers it. -/
def taken : Epoch.Call → Option (Option String)
  | .listing previous | .answered previous _ _ => some previous
  | .returned epoch => some epoch
  | .idle | .clocked _ => none

/-- What is noted of the reads tells what they took. -/
structure Remembered (cfg : Epoch.Config) (moment : State × Reads) : Prop where
  recorded : moment.1.epochs.held.head? = some moment.1.epochs.epoch
  latest : ∀ id epoch, taken (moment.1.view id).call = some epoch →
    (moment.2.latest id).head? = some epoch
  keying : ∀ id epoch, (moment.1.view id).keyed = some epoch →
    (moment.2.keying id).head? = some epoch
  ordered : ∀ id, moment.2.keying id <:+ moment.2.latest id
  past : ∀ id, moment.2.latest id <:+ moment.1.epochs.held
  unpinned : cfg.snapshotPin = false → moment.1.epochs.epoch = none ∧
    ∀ id, (moment.1.view id).call = .idle ∨
      (moment.1.view id).call = .returned none

variable {setting : Setting} {state after : State} {reads : Reads}

theorem State.view_call (state : State) (id : Nat) :
    (state.view id).call = state.epochs.calls id := by
  unfold State.view
  rcases state.activity id with _ | _ | _ <;> rfl

theorem State.view_keyed (state : State) (id : Nat) :
    (state.view id).keyed = (state.task id).bind Task.keyed := by
  unfold State.view State.task
  rcases state.activity id with _ | _ | _ <;> rfl

/-- The history at the last read begins with the history at the keying read. -/
theorem Reads.written_iff {id : Nat} {epoch : Option String}
    (ordered : reads.keying id <:+ reads.latest id)
    (keyed : (reads.keying id).head? = some epoch) :
    (∀ last ∈ (reads.written id).head?, last ∈ (reads.keying id).head?) ↔
      (reads.latest id).head? = some epoch := by
  obtain ⟨newer, history⟩ := ordered
  have written : reads.written id = newer := by
    rw [Reads.written, ← history, List.length_append, Nat.add_sub_cancel,
      List.take_left]
  rw [written, keyed, ← history, List.head?_append, keyed]
  cases newer with
  | nil => simp
  | cons last rest => simp [eq_comm]

theorem Reads.note_keying (reads : Reads) {label : Label}
    (tasks : after.tasks = state.tasks) :
    (reads.note state label after).keying = reads.keying := by
  funext id
  refine if_neg fun ⟨unkeyed, keyed⟩ => ?_
  rw [State.task_of_tasks tasks, Option.isSome_iff_ne_none] at keyed
  exact keyed (Option.isNone_iff_eq_none.mp unkeyed)

section Epoch

variable {cfg : Epoch.Config} {epochs : Epoch.State Nat}

/-- One call goes on, and takes its value or leaves it. -/
theorem Remembered.turn {thread : Nat} {call : Epoch.Call}
    {history : List (Option String)} {note : Reads}
    (remembered : Remembered cfg (state, reads))
    (calls : epochs.calls = Function.update state.epochs.calls thread call)
    (held : state.epochs.held <:+ epochs.held)
    (recorded : epochs.held.head? = some epochs.epoch)
    (keying : note.keying = reads.keying)
    (latest : note.latest = Function.update reads.latest thread history)
    (grows : reads.latest thread <:+ history) (past : history <:+ epochs.held)
    (takes : ∀ epoch, taken call = some epoch → history.head? = some epoch)
    (unpinned : cfg.snapshotPin = false → epochs.epoch = none ∧
      (call = .idle ∨ call = .returned none)) :
    Remembered cfg ({ state with epochs := epochs }, note) := by
  have view : ∀ id, (State.view { state with epochs := epochs } id).call =
      if id = thread then call else (state.view id).call := by
    intro id
    rw [State.view_call, State.view_call, ← Function.update_apply, ← calls]
  have noted : ∀ id, note.latest id =
      if id = thread then history else reads.latest id := by
    intro id
    rw [latest, Function.update_apply]
  refine ⟨recorded, ?_, ?_, ?_, ?_, ?_⟩
  · intro id epoch took
    simp only [view, noted] at took ⊢
    split at took
    next same => rw [if_pos same, takes epoch took]
    next differs => rw [if_neg differs, remembered.latest id epoch took]
  · intro id epoch keyed
    rw [State.view_keyed] at keyed
    simp only [keying]
    exact remembered.keying id epoch ((state.view_keyed id).trans keyed)
  · intro id
    simp only [keying, noted]
    split
    next same => exact same ▸ (remembered.ordered id).trans (same ▸ grows)
    next => exact remembered.ordered id
  · intro id
    simp only [noted]
    split
    next => exact past
    next => exact (remembered.past id).trans held
  · intro noPin
    refine ⟨(unpinned noPin).1, fun id => ?_⟩
    simp only [view]
    split
    next => exact (unpinned noPin).2
    next => exact (remembered.unpinned noPin).2 id

/-- The call leaves the value it has taken. -/
theorem Remembered.pass {thread : Nat} {call : Epoch.Call} {note : Reads}
    (remembered : Remembered cfg (state, reads))
    (calls : epochs.calls = Function.update state.epochs.calls thread call)
    (held : epochs.held = state.epochs.held)
    (epoch : epochs.epoch = state.epochs.epoch)
    (keying : note.keying = reads.keying) (latest : note.latest = reads.latest)
    (takes : taken call = taken (state.epochs.calls thread))
    (pinned : cfg.snapshotPin = true) :
    Remembered cfg ({ state with epochs := epochs }, note) := by
  refine remembered.turn calls (held ▸ List.suffix_rfl) ?_ keying
    (latest.trans (Function.update_eq_self thread reads.latest).symm)
    List.suffix_rfl (held ▸ remembered.past thread) ?_ ?_
  · rw [held, epoch]
    exact remembered.recorded
  · intro epoch took
    refine remembered.latest thread epoch ?_
    rw [State.view_call, ← takes, took]
  · intro noPin
    rw [pinned] at noPin
    cases noPin

theorem Remembered.pinned (remembered : Remembered cfg (state, reads))
    (thread : Nat) (calls : state.epochs.calls thread ≠ .idle ∧
      ∀ epoch, state.epochs.calls thread ≠ .returned epoch) :
    cfg.snapshotPin = true := by
  by_contra noPin
  have rest := (remembered.unpinned (by simpa using noPin)).2 thread
  rw [State.view_call] at rest
  exact rest.elim calls.1 (calls.2 none)

end Epoch

theorem Remembered.epoch {label : Epoch.Label Nat} {epochs : Epoch.State Nat}
    (remembered : Remembered setting.cfg.epochs (state, reads))
    (permitted : state.permits label = true)
    (read : Epoch.step setting.cfg.epochs setting.newestAt state.epochs label =
      some epochs) :
    Remembered setting.cfg.epochs ({ state with epochs := epochs },
      reads.note state (.epoch label) { state with epochs := epochs }) := by
  have keying : (reads.note state (.epoch label)
      { state with epochs := epochs }).keying = reads.keying :=
    reads.note_keying rfl
  have past := remembered.past
  cases label with
  | tick elapsed =>
      cases read
      exact remembered.turn (Function.update_eq_self 0 _).symm List.suffix_rfl
        remembered.recorded keying
        (Function.update_eq_self _ _).symm List.suffix_rfl (past 0)
        (fun epoch took => remembered.latest 0 epoch
          (by rw [State.view_call, took]))
        fun noPin => ⟨(remembered.unpinned noPin).1, by
          have rest := (remembered.unpinned noPin).2 0
          rwa [State.view_call] at rest⟩
  | dropEpoch name => cases permitted
  | enter thread =>
      simp only [Epoch.step] at read
      split at read
      case h_3 => cases read
      all_goals
        split at read <;> cases read
        next pinned =>
          exact remembered.turn rfl List.suffix_rfl remembered.recorded keying
            rfl (past thread) List.suffix_rfl (fun _ took => by cases took)
            fun noPin => absurd pinned (by simp [noPin])
        next unpinned =>
          have none := (remembered.unpinned (by simpa using unpinned)).1
          refine remembered.turn rfl List.suffix_rfl remembered.recorded keying
            rfl (past thread) List.suffix_rfl ?_ fun _ => ⟨none, .inr rfl⟩
          rintro epoch ⟨⟩
          exact none ▸ remembered.recorded
  | check thread =>
      simp only [Epoch.step] at read
      split at read
      next now call =>
        have pinned := remembered.pinned thread (by simp [call])
        split at read <;> cases read
        all_goals
          refine remembered.turn rfl List.suffix_rfl remembered.recorded keying
            rfl (past thread) List.suffix_rfl ?_ (by simp [pinned])
          rintro epoch ⟨⟩
          exact remembered.recorded
      · cases read
  | answer thread =>
      simp only [Epoch.step] at read
      split at read
      next previous call =>
        have pinned := remembered.pinned thread (by simp [call])
        cases read
        exact remembered.pass rfl rfl rfl keying rfl (by rw [call]; rfl) pinned
      · cases read
  | fail thread =>
      simp only [Epoch.step] at read
      split at read
      case h_3 => cases read
      all_goals
        next call =>
          have pinned := remembered.pinned thread (by simp [call])
          cases read
          exact remembered.pass rfl rfl rfl keying rfl (by rw [call]; rfl) pinned
  | store thread =>
      simp only [Epoch.step] at read
      split at read
      next previous moment fresh call =>
        have pinned := remembered.pinned thread (by simp [call])
        cases read
        refine remembered.turn rfl (List.suffix_cons _ _) rfl keying rfl
          ((past thread).trans (List.suffix_cons _ _)) List.suffix_rfl ?_
          (by simp [pinned])
        rintro epoch ⟨⟩
        rfl
      · cases read

/-- A step that reads no epoch keys a listing with what its call returned. -/
theorem Remembered.keep {label : Label}
    (remembered : Remembered setting.cfg.epochs (state, reads))
    (silent : ∀ read, label ≠ .epoch read)
    (epochs : KeepsEpoch state.epochs after.epochs)
    (call : ∀ id, (after.view id).call = (state.view id).call ∨
      (after.view id).call = .idle)
    (keys : ∀ id, (state.view id).Keys (after.view id)) :
    Remembered setting.cfg.epochs (after, reads.note state label after) := by
  have latest : (reads.note state label after).latest = reads.latest := by
    cases label with
    | epoch read => exact absurd rfl (silent read)
    | _ => rfl
  have keying : ∀ id, (reads.note state label after).keying id =
      if (state.view id).keyed.isNone ∧ (after.view id).keyed.isSome then
        reads.latest id
      else reads.keying id := by
    intro id
    rw [State.view_keyed, State.view_keyed]
    rfl
  refine ⟨epochs.recorded remembered.recorded, ?_, ?_, ?_, ?_, ?_⟩
  · intro id epoch took
    simp only [latest]
    rcases call id with same | idle
    · exact remembered.latest id epoch (same ▸ took)
    · rw [idle] at took
      cases took
  · intro id epoch keyed
    simp only [keying, keyed]
    rcases keys id with same | ⟨unkeyed, other, answered, keyed'⟩
    · rw [same] at keyed
      rw [keyed, if_neg (by simp)]
      exact remembered.keying id epoch keyed
    · rw [keyed] at keyed'
      cases keyed'
      rw [unkeyed, if_pos (by simp)]
      exact remembered.latest id epoch (by rw [answered]; rfl)
  · intro id
    simp only [latest, keying]
    split
    · exact List.suffix_rfl
    · exact remembered.ordered id
  · intro id
    simp only [latest]
    exact (remembered.past id).trans epochs.held
  · intro noPin
    obtain ⟨none, rest⟩ := remembered.unpinned noPin
    refine ⟨epochs.epoch.elim (·.trans none) id, fun id => ?_⟩
    rcases call id with same | idle
    · exact same ▸ rest id
    · exact .inl idle

theorem Remembered.move {id : Nat} {view : View} {label : Label}
    (remembered : Remembered setting.cfg.epochs (state, reads))
    (silent : ∀ read, label ≠ .epoch read)
    (epochs : KeepsEpoch state.epochs after.epochs)
    (turns : Turns state after id view)
    (call : view.call = (state.view id).call ∨ view.call = .idle)
    (keyed : view.keyed = (state.view id).keyed) :
    Remembered setting.cfg.epochs (after, reads.note state label after) := by
  refine remembered.keep silent epochs (fun other => ?_) fun other => ?_
  · by_cases same : other = id
    · rw [same, turns.self]
      exact call
    · exact .inl (by rw [turns.others other same])
  · by_cases same : other = id
    · rw [same, turns.self]
      exact .inl keyed
    · exact .inl (by rw [turns.others other same])

/-- A keyed listing goes on under its key. -/
theorem Remembered.moveTask {middle : State} {id : Nat} {task new : Task}
    {label : Label} (remembered : Remembered setting.cfg.epochs (state, reads))
    (silent : ∀ read, label ≠ .epoch read) (tasks : middle.tasks = state.tasks)
    (epochs : middle.epochs = state.epochs) (found : state.task id = some task)
    (keyed : new.keyed = task.keyed) :
    Remembered setting.cfg.epochs (middle.setTask id new,
      reads.note state label (middle.setTask id new)) := by
  have turns : Turns state (middle.setActivity id (.listing new)) id _ :=
    .of_setActivity tasks (congrArg Epoch.State.calls epochs)
      (State.task_eq_some.mp found)
  refine remembered.move silent (.of_same ?_ ?_) turns (.inl ?_) ?_
  · exact congrArg Epoch.State.epoch epochs
  · exact congrArg Epoch.State.held epochs
  · exact (state.view_call id).symm
  · rw [State.view_of_task found]
    exact keyed

theorem Remembered.step {label : Label}
    (remembered : Remembered setting.cfg.epochs (state, reads))
    (stepped : Service.step setting state label = some after) :
    Remembered setting.cfg.epochs (after, reads.note state label after) := by
  cases step_cases stepped with
  | epoch permitted read => exact remembered.epoch permitted read
  | quiet silent quiet responses =>
      exact remembered.keep silent quiet.epochs (fun id => (quiet.view id).call)
        fun id => (quiet.view id).keys
  | report found place answered flights gate epochs turns responses =>
      exact remembered.move (by simp) epochs turns (.inr rfl) rfl
  | @caching _ task _ moved found place steps =>
      refine remembered.moveTask (by simp) rfl rfl found ?_
      have keyed : (task.cachingAt moved.1).isKeyed = true := by
        cases moved.1 <;> rfl
      rw [Task.keyed, Task.keyed, place, if_pos keyed]
      rfl
  | enter found atGate acquired flights gate epochs before turns responses =>
      exact remembered.move (by simp) (epochs ▸ .of_same rfl rfl) turns
        (.inl rfl) rfl
  | leave flights gate epochs turns responses =>
      exact remembered.move (by simp) (epochs ▸ .of_same rfl rfl) turns
        (.inl rfl) rfl
  | timeout found place =>
      refine remembered.moveTask (by simp) rfl rfl found ?_
      rw [Task.keyed, Task.keyed, place]
      rfl

theorem remembered_of_initial {cfg : Epoch.Config} (initial : Initial state) :
    Remembered cfg (state, .empty) := by
  obtain ⟨epoch, _, idle, held, _⟩ := initial.epochs
  have call : ∀ id, (state.view id).call = .idle := fun id =>
    (state.view_call id).trans (idle id)
  refine ⟨?_, ?_, ?_, fun _ => List.suffix_rfl, fun _ => List.nil_suffix, ?_⟩
  · rw [held, epoch]
    rfl
  · intro id epoch took
    rw [call] at took
    cases took
  · intro id epoch keyed
    rw [State.view_keyed, State.task, State.activity, initial.tasks] at keyed
    cases keyed
  · exact fun _ => ⟨epoch, fun id => .inl (call id)⟩

/-- The rows of a value were asked for at the epoch of its key. -/
abbrev asked : Contract := readAs Source.ReadsFor

theorem asked_kept (setting : Setting) :
    asked.Kept setting StepSystem.AnyStep :=
  readAs_kept fun _ _ _ _ _ _ _ chosen => readsFor_of_catalog chosen

/-- A response is sent with what the last read returned. -/
theorem report_of_advance {id : Nat} {task : Task} {value : Cached}
    {fromCache : Bool} (found : state.task id = some task)
    (place : task.place = .reporting value fromCache)
    (stepped : step setting state (.advance id) = some after) :
    ∃ epoch, state.epochs.calls id = .returned epoch ∧
      after.responses =
        ⟨task.key, epoch, fromCache, value⟩ :: state.responses := by
  rw [step_advance found, Task.advance, place] at stepped
  obtain ⟨⟨epoch, middle⟩, taking, rfl⟩ := Option.map_eq_some_iff.mp stepped
  have took := TookEpoch.of_takeEpoch taking
  exact ⟨epoch, took.answered, congrArg _ took.responses⟩

theorem reports_step {label : Label}
    (remembered : Remembered setting.cfg.epochs (state, reads))
    (holds : state.Holds asked)
    (stepped : step setting state label = some after) :
    ReportsRead after ↔ ReportsRead state ∧ PutBack (state, reads) label := by
  by_cases reporting : ∃ id task value fromCache, label = .advance id ∧
      state.task id = some task ∧ task.place = .reporting value fromCache
  · obtain ⟨id, task, value, fromCache, rfl, found, place⟩ := reporting
    obtain ⟨epoch, answered, responses⟩ := report_of_advance found place stepped
    have rows : value.epoch = task.epoch := by
      have carries := holds.task found
      rw [place] at carries
      exact (carries value rfl).1
    have keyed : (state.view id).keyed = some task.epoch := by
      rw [State.view_of_task found, Task.view, Task.keyed, place]
      rfl
    have took : (reads.latest id).head? = some epoch :=
      remembered.latest id epoch (by rw [State.view_call, answered]; rfl)
    have putBack : PutBack (state, reads) (.advance id) ↔ epoch = task.epoch := by
      have written := Reads.written_iff (remembered.ordered id)
        (remembered.keying id _ keyed)
      rw [took, Option.some.injEq] at written
      constructor
      · exact fun back => written.mp (back task value fromCache found place)
      · exact fun same _ _ _ _ _ => written.mpr same
    rw [putBack, ReportsRead, responses, List.forall_mem_cons, and_comm]
    refine and_congr_right fun _ => ?_
    change epoch = task.epoch ∧ epoch = value.epoch ↔ _
    rw [rows, and_self]
  · have back : PutBack (state, reads) label := by
      cases label with
      | advance id =>
          intro task value fromCache found place
          exact absurd ⟨id, task, value, fromCache, rfl, found, place⟩ reporting
      | _ => trivial
    have responses : after.responses = state.responses := by
      cases step_cases stepped with
      | epoch | caching | timeout => rfl
      | quiet silent quiet responses => exact responses
      | report found place =>
          exact absurd ⟨_, _, _, _, rfl, found, place⟩ reporting
      | enter found atGate acquired flights gate epochs before turns responses =>
          exact responses
      | leave flights gate epochs turns responses => exact responses
    rw [ReportsRead, responses, and_iff_left back]
    rfl

/-- Every response of a run names the snapshot its rows were asked of exactly if
between the two reads of each request nothing was written to `_epoch`, or the
last write put back what the first read found. -/
theorem responses_name_their_snapshot (setting : Setting) {start final : State}
    {schedule : List Label} (initial : Initial start)
    (ran : (system setting).run start schedule = some final) :
    ReportsRead final ↔ ((system setting).recording Reads.note).Meets PutBack
      (start, .empty) schedule := by
  obtain ⟨reads, recorded⟩ :=
    StepSystem.run_recording Reads.note Reads.empty ran
  have none : ReportsRead start := by
    intro response member
    rw [initial.responses] at member
    cases member
  have exactly := ((system setting).recording Reads.note).run_iff_meets
    StepSystem.AnyStep PutBack
    (fun moment => Remembered setting.cfg.epochs moment ∧ moment.1.Holds asked)
    (fun moment => ReportsRead moment.1)
    (fun moment label after sound permitted stepped => by
      obtain ⟨stepped, noted⟩ := StepSystem.recording_step stepped
      have remembered := sound.1.step stepped
      rw [← noted] at remembered
      exact ⟨remembered, sound.2.step (asked_kept setting) permitted stepped⟩)
    (fun moment label after sound _ stepped =>
      reports_step sound.1 sound.2 (StepSystem.recording_step stepped).1)
    ⟨remembered_of_initial initial, holds_of_initial initial⟩ (.any _ _ _)
    recorded
  rw [exactly, and_iff_right none]

/-! One page, reported before or after a newer snapshot is found. -/

/-- A `list_page` request up to its last epoch read. -/
def paging : List Label :=
  .list .page ['a'] .all [] :: polling 0 ++ List.replicate 5 (.advance 0) ++
    [.catalog 0 true, .rows 0 [[sampleRow 'f' "FILE"]] 0] ++
    List.replicate 5 (.advance 0) ++ reading 0 ++ List.replicate 2 (.advance 0)

def flippedPage : List Label :=
  paging ++ .epoch (.tick 60) :: polling 0 ++ [.advance 0]

/-- Another request drops the epoch, which the last read finds again. -/
def restoredPage : List Label :=
  paging ++ .list .table ['b'] .all [] :: reading 1 ++
    List.replicate 5 (.advance 1) ++ .catalog 1 false :: polling 0 ++
    [.advance 0]

/-- The reported snapshots, with those of the keys and of the rows. -/
def State.reported (state : State) :
    List (Option String × Option String × Option String) :=
  state.responses.map fun response =>
    (response.catalogSnapshot, response.key.epoch, response.value.epoch)

theorem flippedPage_misreports :
    Initial sampleStart ∧ ∃ final response,
      (system sampleSetting).run sampleStart flippedPage = some final ∧
      final.responses = [response] ∧
      response.key.epoch = some Epoch.olderSnapshot ∧
      response.value.epoch = some Epoch.olderSnapshot ∧
      response.catalogSnapshot = some Epoch.newerSnapshot ∧
      ¬ ReportsRead final := by
  have reported : ((system sampleSetting).run sampleStart flippedPage).map
      State.reported = some [(some Epoch.newerSnapshot,
        some Epoch.olderSnapshot, some Epoch.olderSnapshot)] := by decide +kernel
  obtain ⟨final, ran, reported⟩ := Option.map_eq_some_iff.mp reported
  obtain ⟨response, only, shown⟩ := List.map_eq_singleton_iff.mp reported
  obtain ⟨snapshot, shown⟩ := Prod.mk.inj shown
  obtain ⟨key, value⟩ := Prod.mk.inj shown
  refine ⟨sampleStart_initial, final, response, ran, only, key, value, snapshot,
    fun sent => ?_⟩
  have named := (sent response (only ▸ List.mem_singleton_self response)).1
  rw [snapshot, key] at named
  exact absurd named (by decide)

theorem restoredPage_reports :
    ∃ final response,
      (system sampleSetting).run sampleStart restoredPage = some final ∧
      final.responses = [response] ∧
      response.catalogSnapshot = some Epoch.olderSnapshot ∧
      final.epochs.held =
        [some Epoch.olderSnapshot, none, some Epoch.olderSnapshot, none] ∧
      ((system sampleSetting).recording Reads.note).Meets PutBack
        (sampleStart, .empty) restoredPage := by
  have observed : ((system sampleSetting).run sampleStart restoredPage).map
      (fun state => (state.reported, state.epochs.held)) =
        some ([(some Epoch.olderSnapshot, some Epoch.olderSnapshot,
          some Epoch.olderSnapshot)],
          [some Epoch.olderSnapshot, none, some Epoch.olderSnapshot, none]) := by
    decide +kernel
  obtain ⟨final, ran, observed⟩ := Option.map_eq_some_iff.mp observed
  obtain ⟨reported, held⟩ := Prod.mk.inj observed
  obtain ⟨response, only, shown⟩ := List.map_eq_singleton_iff.mp reported
  obtain ⟨snapshot, shown⟩ := Prod.mk.inj shown
  obtain ⟨key, value⟩ := Prod.mk.inj shown
  have sent : ReportsRead final := by
    intro other member
    rw [only, List.mem_singleton] at member
    rw [member, snapshot, key, value]
    exact ⟨rfl, rfl⟩
  exact ⟨final, response, ran, only, snapshot, held,
    (responses_name_their_snapshot sampleSetting sampleStart_initial ran).mp
      sent⟩

end Catwalk.Service
