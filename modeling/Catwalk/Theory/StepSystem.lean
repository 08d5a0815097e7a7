import Mathlib.Data.Option.Basic

/-! Labelled systems whose step is a partial function of state and label.

A label names who moves and what the environment answers, so that every
interleaving of a concurrent program is one list of labels. -/

universe u v w

structure StepSystem (State : Type u) (Label : Type v) where
  init : State → Prop
  step : State → Label → Option State

namespace StepSystem

variable {State : Type u} {Label : Type v}

/-- Execute a schedule; `none` when some label is not enabled. -/
def run (system : StepSystem State Label) : State → List Label → Option State
  | state, [] => some state
  | state, label :: schedule =>
      (system.step state label).bind fun next => run system next schedule

@[simp] theorem run_nil (system : StepSystem State Label) (state : State) :
    system.run state [] = some state := rfl

theorem run_cons {system : StepSystem State Label} {state final : State}
    {label : Label} {schedule : List Label} :
    system.run state (label :: schedule) = some final ↔
      ∃ next, system.step state label = some next ∧
        system.run next schedule = some final := by
  simp only [run, Option.bind_eq_some_iff]

theorem run_append {system : StepSystem State Label} {state final : State}
    {first second : List Label} :
    system.run state (first ++ second) = some final ↔
      ∃ middle, system.run state first = some middle ∧
        system.run middle second = some final := by
  induction first generalizing state with
  | nil => simp
  | cons label rest ih =>
      rw [List.cons_append, run_cons]
      constructor
      · rintro ⟨next, stepped, ran⟩
        obtain ⟨middle, toMiddle, fromMiddle⟩ := ih.mp ran
        exact ⟨middle, run_cons.mpr ⟨next, stepped, toMiddle⟩, fromMiddle⟩
      · rintro ⟨middle, toMiddle, fromMiddle⟩
        obtain ⟨next, stepped, ran⟩ := run_cons.mp toMiddle
        exact ⟨next, stepped, ih.mpr ⟨middle, ran, fromMiddle⟩⟩

/-- Every step of the schedule meets `allowed` in the state it is taken from. -/
def Meets (system : StepSystem State Label) (allowed : State → Label → Prop) :
    State → List Label → Prop
  | _, [] => True
  | state, label :: schedule =>
      allowed state label ∧
        ∀ next, system.step state label = some next →
          Meets system allowed next schedule

/-- States reached by steps that all meet `allowed`. -/
inductive Reachable (system : StepSystem State Label)
    (allowed : State → Label → Prop) : State → Prop
  | start {state : State} (initial : system.init state) :
      Reachable system allowed state
  | next {state : State} {label : Label} {after : State}
      (before : Reachable system allowed state)
      (permitted : allowed state label)
      (stepped : system.step state label = some after) :
      Reachable system allowed after

/-- No restriction on the steps. -/
abbrev AnyStep : State → Label → Prop := fun _ _ => True

namespace Reachable

variable {system : StepSystem State Label} {allowed : State → Label → Prop}

theorem mono {weaker : State → Label → Prop}
    (implies : ∀ state label, allowed state label → weaker state label)
    {state : State} (reachable : system.Reachable allowed state) :
    system.Reachable weaker state := by
  induction reachable with
  | start initial => exact .start initial
  | next _ permitted stepped ih =>
      exact .next ih (implies _ _ permitted) stepped

/-- The invariant rule: what holds initially and is kept by every permitted
step from a reachable state holds in every reachable state. -/
theorem invariant {Holds : State → Prop}
    (initially : ∀ state, system.init state → Holds state)
    (preserved : ∀ state label after, system.Reachable allowed state →
      Holds state → allowed state label →
      system.step state label = some after → Holds after)
    {state : State} (reachable : system.Reachable allowed state) :
    Holds state := by
  induction reachable with
  | start initial => exact initially _ initial
  | next before permitted stepped ih =>
      exact preserved _ _ _ before ih permitted stepped

theorem of_run {state final : State} {schedule : List Label}
    (reachable : system.Reachable allowed state)
    (meets : system.Meets allowed state schedule)
    (ran : system.run state schedule = some final) :
    system.Reachable allowed final := by
  induction schedule generalizing state with
  | nil =>
      have : state = final := Option.some.inj ran
      exact this ▸ reachable
  | cons label rest ih =>
      obtain ⟨next, stepped, ran⟩ := run_cons.mp ran
      exact ih (.next reachable meets.1 stepped) (meets.2 next stepped) ran

end Reachable

instance Meets.decidable (system : StepSystem State Label)
    (allowed : State → Label → Prop)
    [∀ state label, Decidable (allowed state label)] :
    ∀ state schedule, Decidable (system.Meets allowed state schedule)
  | _, [] => isTrue trivial
  | state, label :: schedule =>
      have : ∀ next, Decidable (system.Meets allowed next schedule) :=
        fun next => decidable system allowed next schedule
      inferInstanceAs (Decidable (allowed state label ∧
        ∀ next ∈ system.step state label, system.Meets allowed next schedule))

theorem Meets.any (system : StepSystem State Label) (state : State)
    (schedule : List Label) : system.Meets AnyStep state schedule := by
  induction schedule generalizing state with
  | nil => trivial
  | cons label rest ih => exact ⟨trivial, fun next _ => ih next⟩

theorem Meets.of_labels {system : StepSystem State Label}
    {permitted : Label → Prop} {schedule : List Label}
    (labels : ∀ label ∈ schedule, permitted label) (state : State) :
    system.Meets (fun _ label => permitted label) state schedule := by
  induction schedule generalizing state with
  | nil => trivial
  | cons label rest ih =>
      refine ⟨labels label List.mem_cons_self, fun next _ => ?_⟩
      exact ih (fun other member =>
        labels other (List.mem_cons_of_mem label member)) next

theorem Meets.append {system : StepSystem State Label}
    {allowed : State → Label → Prop} {state : State}
    {first second : List Label} (meets : system.Meets allowed state first)
    (later : ∀ middle, system.run state first = some middle →
      system.Meets allowed middle second) :
    system.Meets allowed state (first ++ second) := by
  induction first generalizing state with
  | nil => exact later state rfl
  | cons label rest ih =>
      refine ⟨meets.1, fun next stepped => ?_⟩
      exact ih (meets.2 next stepped) fun middle ran =>
        later middle (run_cons.mpr ⟨next, stepped, ran⟩)

theorem Meets.cons {system : StepSystem State Label}
    {allowed : State → Label → Prop} {state next : State} {label : Label}
    {schedule : List Label} (permitted : allowed state label)
    (stepped : system.step state label = some next)
    (rest : system.Meets allowed next schedule) :
    system.Meets allowed state (label :: schedule) := by
  refine ⟨permitted, fun other otherStep => ?_⟩
  have same : next = other := Option.some.inj (stepped.symm.trans otherStep)
  exact same ▸ rest

theorem Meets.mono {system : StepSystem State Label}
    {allowed weaker : State → Label → Prop}
    (implies : ∀ state label, allowed state label → weaker state label)
    {state : State} {schedule : List Label}
    (meets : system.Meets allowed state schedule) :
    system.Meets weaker state schedule := by
  induction schedule generalizing state with
  | nil => trivial
  | cons label rest ih =>
      exact ⟨implies _ _ meets.1, fun next stepped => ih (meets.2 next stepped)⟩

theorem Meets.and {system : StepSystem State Label}
    {left right : State → Label → Prop} {state : State}
    {schedule : List Label} (first : system.Meets left state schedule)
    (second : system.Meets right state schedule) :
    system.Meets (fun state label => left state label ∧ right state label)
      state schedule := by
  induction schedule generalizing state with
  | nil => trivial
  | cons label rest ih =>
      exact ⟨⟨first.1, second.1⟩, fun next stepped =>
        ih (first.2 next stepped) (second.2 next stepped)⟩

theorem Meets.left {system : StepSystem State Label}
    {allowed : State → Label → Prop} {state : State}
    {first second : List Label}
    (meets : system.Meets allowed state (first ++ second)) :
    system.Meets allowed state first := by
  induction first generalizing state with
  | nil => trivial
  | cons label rest ih =>
      exact ⟨meets.1, fun next stepped => ih (meets.2 next stepped)⟩

/-- Some run of labels that are all permitted ends in `final`. -/
def Reaches (system : StepSystem State Label) (permitted : Label → Prop)
    (state final : State) : Prop :=
  ∃ schedule, (∀ label ∈ schedule, permitted label) ∧
    system.run state schedule = some final

theorem Reaches.refl (system : StepSystem State Label)
    (permitted : Label → Prop) (state : State) :
    system.Reaches permitted state state :=
  ⟨[], by simp, rfl⟩

theorem Reaches.step {system : StepSystem State Label}
    {permitted : Label → Prop} {state next : State} {label : Label}
    (stepped : system.step state label = some next) (allowed : permitted label) :
    system.Reaches permitted state next :=
  ⟨[label], by simpa using allowed, run_cons.mpr ⟨next, stepped, rfl⟩⟩

theorem Reaches.trans {system : StepSystem State Label}
    {permitted : Label → Prop} {state middle final : State}
    (first : system.Reaches permitted state middle)
    (second : system.Reaches permitted middle final) :
    system.Reaches permitted state final := by
  obtain ⟨before, allowed, toMiddle⟩ := first
  obtain ⟨rest, allowed', fromMiddle⟩ := second
  refine ⟨before ++ rest, fun label member => ?_,
    run_append.mpr ⟨middle, toMiddle, fromMiddle⟩⟩
  exact (List.mem_append.mp member).elim (allowed label) (allowed' label)

/-- After the first part of a run, the rest of it meets `allowed`. -/
def MeetsAfter (system : StepSystem State Label)
    (allowed : State → Label → Prop) (start : State)
    (before rest : List Label) : Prop :=
  ∀ middle, system.run start before = some middle →
    system.Meets allowed middle rest

theorem MeetsAfter.nil {system : StepSystem State Label}
    {allowed : State → Label → Prop} {start : State} {before : List Label} :
    system.MeetsAfter allowed start before [] :=
  fun _ _ => trivial

theorem MeetsAfter.quiet {system : StepSystem State Label}
    {allowed : State → Label → Prop} {start : State}
    {before quiet rest : List Label}
    (labels : ∀ label ∈ quiet, ∀ state, allowed state label)
    (later : system.MeetsAfter allowed start (before ++ quiet) rest) :
    system.MeetsAfter allowed start before (quiet ++ rest) := by
  intro middle ran
  refine .append ((Meets.of_labels labels middle).mono
    fun state label fresh => fresh state) fun next ranOn => later next ?_
  exact run_append.mpr ⟨middle, ran, ranOn⟩

theorem MeetsAfter.cons {system : StepSystem State Label}
    {allowed : State → Label → Prop} {start : State} {before rest : List Label}
    {label : Label}
    (permitted : ∀ middle, system.run start before = some middle →
      allowed middle label)
    (later : system.MeetsAfter allowed start (before ++ [label]) rest) :
    system.MeetsAfter allowed start before (label :: rest) := by
  intro middle ran
  refine ⟨permitted middle ran, fun next stepped => later next ?_⟩
  exact run_append.mpr ⟨middle, ran, run_cons.mpr ⟨next, stepped, rfl⟩⟩

theorem MeetsAfter.meets {system : StepSystem State Label}
    {allowed : State → Label → Prop} {start : State} {schedule : List Label}
    (after : system.MeetsAfter allowed start [] schedule) :
    system.Meets allowed start schedule :=
  after start rfl

/-- Steps that keep an invariant meet whatever the invariant entails. -/
theorem Meets.of_invariant {system : StepSystem State Label}
    {allowed entailed : State → Label → Prop} {Holds : State → Prop}
    (preserved : ∀ state label after, Holds state → allowed state label →
      system.step state label = some after → Holds after)
    (entails : ∀ state label, Holds state → allowed state label →
      entailed state label)
    {state : State} {schedule : List Label} (holds : Holds state)
    (meets : system.Meets allowed state schedule) :
    system.Meets entailed state schedule := by
  induction schedule generalizing state with
  | nil => trivial
  | cons label rest ih =>
      refine ⟨entails _ _ holds meets.1, fun next stepped => ?_⟩
      exact ih (preserved _ _ _ holds meets.1 stepped) (meets.2 next stepped)

/-- A run that does not meet `allowed` splits at its first offending step. -/
theorem exists_offending {system : StepSystem State Label}
    {allowed : State → Label → Prop} {state final : State}
    {schedule : List Label} (ran : system.run state schedule = some final)
    (offends : ¬ system.Meets allowed state schedule) :
    ∃ before label rest middle after,
      schedule = before ++ label :: rest ∧
      system.run state before = some middle ∧
      ¬ allowed middle label ∧
      system.step middle label = some after ∧
      system.run after rest = some final := by
  induction schedule generalizing state with
  | nil => exact absurd trivial offends
  | cons label rest ih =>
      obtain ⟨next, stepped, ran⟩ := run_cons.mp ran
      by_cases permitted : allowed state label
      · have later : ¬ system.Meets allowed next rest := by
          intro meets
          refine offends ⟨permitted, fun other otherStep => ?_⟩
          have : next = other := Option.some.inj (stepped.symm.trans otherStep)
          exact this ▸ meets
        obtain ⟨before, offender, tail, middle, after, split, toMiddle,
          refused, offended, fromAfter⟩ := ih ran later
        refine ⟨label :: before, offender, tail, middle, after, ?_,
          run_cons.mpr ⟨next, stepped, toMiddle⟩, refused, offended, fromAfter⟩
        rw [split, List.cons_append]
      · exact ⟨[], label, rest, state, next, rfl, rfl, permitted, stepped, ran⟩

/-- A run keeps every property that each of its steps keeps. -/
theorem run_preserves {system : StepSystem State Label}
    {allowed : State → Label → Prop} {Holds : State → Prop}
    (preserved : ∀ state label after, Holds state → allowed state label →
      system.step state label = some after → Holds after)
    {state final : State} {schedule : List Label}
    (meets : system.Meets allowed state schedule)
    (ran : system.run state schedule = some final) (holds : Holds state) :
    Holds final := by
  induction schedule generalizing state with
  | nil =>
      have : state = final := Option.some.inj ran
      exact this ▸ holds
  | cons label rest ih =>
      obtain ⟨next, stepped, ran⟩ := run_cons.mp ran
      exact ih (meets.2 next stepped) ran
        (preserved _ _ _ holds meets.1 stepped)

/-- The invariant rule for properties of the state and of the labels so far. -/
theorem run_history {system : StepSystem State Label}
    {allowed : State → Label → Prop} {Holds : List Label → State → Prop}
    (preserved : ∀ past state label after, Holds past state →
      allowed state label → system.step state label = some after →
      Holds (past ++ [label]) after)
    {past : List Label} {state final : State} {schedule : List Label}
    (meets : system.Meets allowed state schedule)
    (ran : system.run state schedule = some final)
    (holds : Holds past state) : Holds (past ++ schedule) final := by
  induction schedule generalizing past state with
  | nil =>
      have : state = final := Option.some.inj ran
      rw [List.append_nil]
      exact this ▸ holds
  | cons label rest ih =>
      obtain ⟨next, stepped, ran⟩ := run_cons.mp ran
      have later := ih (meets.2 next stepped) ran
        (preserved past state label next holds meets.1 stepped)
      rwa [List.append_assoc, List.singleton_append] at later

/-- What an observer notes of the steps of a run, in order. -/
def observations {Event : Type w} (system : StepSystem State Label)
    (observe : State → Label → Option Event) : State → List Label → List Event
  | _, [] => []
  | state, label :: schedule =>
      match system.step state label with
      | none => []
      | some next =>
          (observe state label).toList ++
            observations system observe next schedule

/-- The invariant rule for properties of the state and of the notes so far. -/
theorem run_observations {Event : Type w} {system : StepSystem State Label}
    {observe : State → Label → Option Event}
    {Holds : List Event → State → Prop}
    (preserved : ∀ past state label after, Holds past state →
      system.step state label = some after →
      Holds (past ++ (observe state label).toList) after)
    {past : List Event} {state final : State} {schedule : List Label}
    (ran : system.run state schedule = some final)
    (holds : Holds past state) :
    Holds (past ++ system.observations observe state schedule) final := by
  induction schedule generalizing past state with
  | nil =>
      have : state = final := Option.some.inj ran
      rw [observations, List.append_nil]
      exact this ▸ holds
  | cons label rest ih =>
      obtain ⟨next, stepped, ran⟩ := run_cons.mp ran
      have later := ih ran (preserved past state label next holds stepped)
      rw [observations, stepped]
      rwa [List.append_assoc] at later

/-- When each step extends a property of the history exactly if it meets
`allowed`, the whole run has the property exactly if all its steps do. -/
theorem run_iff_meets (system : StepSystem State Label)
    (invariant allowed : State → Label → Prop) (Sound Holds : State → Prop)
    (sound : ∀ state label after, Sound state → invariant state label →
      system.step state label = some after → Sound after)
    (extends_iff : ∀ state label after, Sound state → invariant state label →
      system.step state label = some after →
        (Holds after ↔ Holds state ∧ allowed state label))
    {state final : State} {schedule : List Label} (valid : Sound state)
    (meets : system.Meets invariant state schedule)
    (ran : system.run state schedule = some final) :
    Holds final ↔ Holds state ∧ system.Meets allowed state schedule := by
  induction schedule generalizing state with
  | nil =>
      have : state = final := Option.some.inj ran
      subst this
      exact ⟨fun holds => ⟨holds, trivial⟩, And.left⟩
  | cons label rest ih =>
      obtain ⟨next, stepped, ran⟩ := run_cons.mp ran
      rw [ih (sound _ _ _ valid meets.1 stepped) (meets.2 next stepped) ran,
        extends_iff _ _ _ valid meets.1 stepped, and_assoc]
      refine and_congr_right fun _ => and_congr_right fun _ => ?_
      constructor
      · intro later other otherStep
        have : next = other := Option.some.inj (stepped.symm.trans otherStep)
        exact this ▸ later
      · intro later
        exact later next stepped

/-- The property holds in every state that the schedule passes. -/
def Throughout (system : StepSystem State Label) (Holds : State → Prop) :
    State → List Label → Prop
  | state, [] => Holds state
  | state, label :: schedule =>
      Holds state ∧ ∀ next, system.step state label = some next →
        Throughout system Holds next schedule

/-- When a step out of a good state ends in a good one exactly if it meets
`allowed`, all states of a run are good exactly if all its steps do. -/
theorem throughout_iff_meets {system : StepSystem State Label}
    {Sound Holds : State → Prop} {allowed : State → Label → Prop}
    (sound : ∀ state label after, Sound state →
      system.step state label = some after → Sound after)
    (extends_iff : ∀ state label after, Sound state → Holds state →
      system.step state label = some after →
        (Holds after ↔ allowed state label))
    {state final : State} {schedule : List Label} (valid : Sound state)
    (holds : Holds state) (ran : system.run state schedule = some final) :
    system.Throughout Holds state schedule ↔
      system.Meets allowed state schedule := by
  induction schedule generalizing state with
  | nil => exact ⟨fun _ => trivial, fun _ => holds⟩
  | cons label rest ih =>
      obtain ⟨next, stepped, ran⟩ := run_cons.mp ran
      have only : ∀ other, system.step state label = some other →
          next = other := by
        intro other otherStep
        exact Option.some.inj (stepped.symm.trans otherStep)
      have first := extends_iff state label next valid holds stepped
      have later := ih (sound state label next valid stepped)
      constructor
      · rintro ⟨_, good⟩
        have holds' : Holds next := by
          have passed := good next stepped
          cases rest with
          | nil => exact passed
          | cons _ _ => exact passed.1
        refine ⟨first.mp holds', ?_⟩
        intro other otherStep
        rw [← only other otherStep]
        exact (later holds' ran).mp (good next stepped)
      · rintro ⟨permitted, meets⟩
        refine ⟨holds, ?_⟩
        intro other otherStep
        rw [← only other otherStep]
        exact (later (first.mpr permitted) ran).mpr (meets next stepped)

/-- The system with a history variable: what `note` keeps of the steps, and no
step depends on. -/
def recording {Note : Type w} (system : StepSystem State Label)
    (note : State → Label → State → Note → Note) :
    StepSystem (State × Note) Label where
  init moment := system.init moment.1
  step moment label :=
    (system.step moment.1 label).map fun after =>
      (after, note moment.1 label after moment.2)

theorem recording_step {Note : Type w} {system : StepSystem State Label}
    {note : State → Label → State → Note → Note} {state : State} {past : Note}
    {label : Label} {after : State × Note}
    (stepped : (system.recording note).step (state, past) label = some after) :
    system.step state label = some after.1 ∧
      after.2 = note state label after.1 past := by
  obtain ⟨next, reached, rfl⟩ := Option.map_eq_some_iff.mp stepped
  exact ⟨reached, rfl⟩

theorem run_recording {Note : Type w} {system : StepSystem State Label}
    (note : State → Label → State → Note → Note) (past : Note)
    {state final : State} {schedule : List Label}
    (ran : system.run state schedule = some final) :
    ∃ later, (system.recording note).run (state, past) schedule =
      some (final, later) := by
  induction schedule generalizing state past with
  | nil =>
      have : state = final := Option.some.inj ran
      exact ⟨past, by rw [run_nil, this]⟩
  | cons label rest ih =>
      obtain ⟨next, stepped, ran⟩ := run_cons.mp ran
      obtain ⟨later, ran⟩ := ih (note state label next past) ran
      exact ⟨later, run_cons.mpr
        ⟨(next, note state label next past), by simp [recording, stepped], ran⟩⟩

/-- Every run of at least `bound` steps from here has reached `goal` on its way,
and no run is stuck before it does. -/
structure Completes (system : StepSystem State Label) (goal : State → Prop)
    (state : State) (bound : Nat) : Prop where
  reaches : ∀ schedule final, system.run state schedule = some final →
    bound ≤ schedule.length →
    ∃ before rest middle, schedule = before ++ rest ∧
      system.run state before = some middle ∧ goal middle
  free : ∀ schedule final, system.run state schedule = some final →
    (∃ before rest middle, schedule = before ++ rest ∧
      system.run state before = some middle ∧ goal middle) ∨
    ∃ label, (system.step final label).isSome

/-- A measure that falls with every step short of the goal bounds the steps. -/
theorem Completes.of_measure {system : StepSystem State Label}
    {goal Holds : State → Prop} {measure : State → Nat}
    (preserved : ∀ state label after, Holds state → ¬ goal state →
      system.step state label = some after →
      Holds after ∧ measure after < measure state)
    (enabled : ∀ state, Holds state → ¬ goal state →
      ∃ label, (system.step state label).isSome)
    {state : State} (holds : Holds state) :
    system.Completes goal state (measure state) := by
  constructor
  · intro schedule final ran long
    induction schedule generalizing state with
    | nil =>
        refine ⟨[], [], state, rfl, rfl, ?_⟩
        by_contra short
        obtain ⟨label, moves⟩ := enabled state holds short
        obtain ⟨after, stepped⟩ := Option.isSome_iff_exists.mp moves
        have falls := (preserved state label after holds short stepped).2
        exact absurd (Nat.lt_of_lt_of_le falls long) (Nat.not_lt_zero _)
    | cons label rest ih =>
        obtain ⟨next, stepped, ran⟩ := run_cons.mp ran
        by_cases reached : goal state
        · exact ⟨[], label :: rest, state, rfl, rfl, reached⟩
        · obtain ⟨later, falls⟩ := preserved state label next holds reached stepped
          obtain ⟨before, tail, middle, split, toMiddle, reached⟩ :=
            ih later ran (by simp only [List.length_cons] at long; omega)
          exact ⟨label :: before, tail, middle, by rw [split, List.cons_append],
            run_cons.mpr ⟨next, stepped, toMiddle⟩, reached⟩
  · intro schedule final ran
    induction schedule generalizing state with
    | nil =>
        have isFinal : state = final := Option.some.inj ran
        by_cases reached : goal state
        · exact .inl ⟨[], [], state, rfl, rfl, reached⟩
        · exact .inr (isFinal ▸ enabled state holds reached)
    | cons label rest ih =>
        obtain ⟨next, stepped, ran⟩ := run_cons.mp ran
        by_cases reached : goal state
        · exact .inl ⟨[], label :: rest, state, rfl, rfl, reached⟩
        · have later := (preserved state label next holds reached stepped).1
          refine (ih later ran).imp_left ?_
          rintro ⟨before, tail, middle, split, toMiddle, reached⟩
          exact ⟨label :: before, tail, middle, by rw [split, List.cons_append],
            run_cons.mpr ⟨next, stepped, toMiddle⟩, reached⟩

end StepSystem
