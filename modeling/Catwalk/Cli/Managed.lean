import Catwalk.Cli.Instance

/-! One instance for each state directory: what the commands have to leave
alone for it, and that nothing else is needed. -/

namespace Catwalk.Cli

/-- The server that a `start` has spawned and not yet recorded. -/
def Place.child? : Place → Option Nat
  | .polling child | .polled child | .write child => some child
  | _ => none

namespace State

/-- A server is alive and the command that spawned it is over. -/
def Settled (state : State) (pid : Nat) : Prop :=
  ∃ spawner, state.processes pid = some (.server spawner false) ∧
    state.isOver spawner = true

end State

/-- The command deals with this server, or has not looked yet. -/
def Place.Attends (pid : Nat) : Place → Prop
  | .read => True
  | .checking place _ | .signal place | .waiting place _ | .final place _ =>
      place = pid
  | _ => False

/-- A command that deals with a live, recorded server goes on dealing with it
until it is over. -/
def Place.Follows (state : State) (before after : Place) : Prop :=
  ∀ pid, state.Settled pid → state.file = some (.pid pid) →
    before.Attends pid → after = .done ∨ after.Attends pid

/-- Nothing is spawned next to a live server, and no file is removed or
overwritten that names a live server whose `start` is over. -/
def Orderly (state : State) : Label → Prop
  | .spawn id _ => ∀ command, state.commands[id]? = some command →
      command.place = .spawn → ∀ pid, ¬ state.Alive pid
  | .advance id => ∀ command, state.commands[id]? = some command →
      (command.place = .unlink → ∀ pid, ¬ state.Settled pid) ∧
        ∀ child, command.place = .write child →
          ∀ pid, state.Settled pid → pid = child
  | _ => True

/-- Every server is held by its `start`, or recorded. -/
structure Kept (state : State) : Prop where
  held : ∀ (pid spawner : Nat) (zombie : Bool),
    state.processes pid = some (.server spawner zombie) →
      ∃ command, state.commands[spawner]? = some command ∧
        (command.place.child? = some pid ∨
          command.place = .done ∧ zombie = false)
  alone : ∀ pid other, state.Alive pid → state.Alive other → pid = other
  named : ∀ pid, state.Settled pid → state.file = some (.pid pid)

theorem Kept.managed {state : State} (kept : Kept state) : state.Managed := by
  intro quiet
  refine ⟨kept.alone, ?_⟩
  intro pid alive
  obtain ⟨spawner, server⟩ := alive
  obtain ⟨command, found, _⟩ := kept.held pid spawner false server
  apply kept.named
  refine ⟨spawner, server, ?_⟩
  rw [State.isOver, found]
  exact beq_iff_eq.mpr (quiet command (List.mem_of_getElem? found))

/-! The processes. -/

theorem processes_setProcess (state : State) (pid place : Nat)
    (process : Option Process) :
    (state.setProcess pid process).processes place =
      if place = pid then process else state.processes place :=
  Function.update_apply state.processes pid process place

theorem isOver_of_found {state : State} {id : Nat} {command : Command}
    (found : state.commands[id]? = some command) :
    state.isOver id = true ↔ command.place = .done := by
  rw [State.isOver, found]
  exact beq_iff_eq

/-- Processes that are no servers come and go. -/
theorem Kept.setOther {state : State} (kept : Kept state) {pid : Nat}
    {process : Option Process}
    (noServer : ∀ spawner zombie, process ≠ some (.server spawner zombie)) :
    Kept (state.setProcess pid process) := by
  have before : ∀ place spawner zombie,
      (state.setProcess pid process).processes place =
        some (.server spawner zombie) →
      state.processes place = some (.server spawner zombie) := by
    intro place spawner zombie server
    rw [processes_setProcess] at server
    split at server
    · exact absurd server (noServer spawner zombie)
    · exact server
  constructor
  · intro place spawner zombie server
    exact kept.held place spawner zombie (before place spawner zombie server)
  · intro place other alive alive'
    obtain ⟨spawner, server⟩ := alive
    obtain ⟨spawner', server'⟩ := alive'
    exact kept.alone place other ⟨spawner, before _ _ _ server⟩
      ⟨spawner', before _ _ _ server'⟩
  · intro place settled
    obtain ⟨spawner, server, isOver⟩ := settled
    exact kept.named place ⟨spawner, before _ _ _ server, isOver⟩

/-- A dying server stays with its `start`, or leaves nothing behind. -/
theorem Kept.exitServer {state : State} (kept : Kept state)
    {pid spawner : Nat}
    (server : state.processes pid = some (.server spawner false)) :
    Kept (state.exitServer pid spawner) := by
  cases isOver : state.isOver spawner with
  | true =>
      rw [State.exitServer, isOver, if_pos rfl]
      exact kept.setOther fun _ _ => Option.some_ne_none _ |>.symm
  | false =>
      -- The `start` still runs and keeps the zombie.
      have before : ∀ place spawner',
          (state.exitServer pid spawner).processes place =
            some (.server spawner' false) →
          state.processes place = some (.server spawner' false) := by
        intro place spawner' after
        rw [State.exitServer, processes_setProcess, isOver] at after
        split at after
        · cases after
        · exact after
      constructor
      · intro place spawner' zombie after
        rw [State.exitServer, processes_setProcess, isOver] at after
        split at after
        next same =>
          cases after
          obtain ⟨command, found, holds⟩ := kept.held pid spawner false server
          refine ⟨command, found, ?_⟩
          rcases holds with child | ended
          · rw [same]
            exact .inl child
          · rw [(isOver_of_found found).mpr ended.1] at isOver
            cases isOver
        next => exact kept.held place spawner' zombie after
      · intro place other alive alive'
        obtain ⟨first, server⟩ := alive
        obtain ⟨second, server'⟩ := alive'
        exact kept.alone place other ⟨first, before _ _ server⟩
          ⟨second, before _ _ server'⟩
      · intro place settled
        obtain ⟨spawner', after, ended⟩ := settled
        exact kept.named place ⟨spawner', before _ _ after, ended⟩

theorem Kept.reap {state : State} (kept : Kept state) (child : Nat) :
    Kept (state.reap child) := by
  rw [State.reap]
  split
  · exact kept.setOther fun _ _ => Option.some_ne_none _ |>.symm
  · exact kept

theorem Kept.deliver {state : State} (kept : Kept state) (pid : Nat)
    (force : Bool) : Kept (state.deliver pid force) := by
  unfold State.deliver
  split
  next server => exact kept.exitServer server
  next => exact kept.setOther fun _ _ => Option.some_ne_none _ |>.symm
  next => exact kept

/-! The commands. -/

theorem getElem?_moveTo {state : State} {id other : Nat}
    {command command' : Command} {place : Place}
    (found : state.commands[id]? = some command)
    (found' : (state.moveTo id command place).commands[other]? =
      some command') :
    (other = id ∧ command' = { command with place := place }) ∨
      (other ≠ id ∧ state.commands[other]? = some command') := by
  rw [State.moveTo, List.getElem?_set] at found'
  rcases eq_or_ne id other with rfl | differs
  · have bound := (List.getElem?_eq_some_iff.mp found).1
    rw [if_pos rfl, if_pos bound] at found'
    exact .inl ⟨rfl, (Option.some.inj found').symm⟩
  · rw [if_neg differs] at found'
    exact .inr ⟨Ne.symm differs, found'⟩

theorem getElem?_moveTo_self {state : State} {id : Nat} {command : Command}
    (found : state.commands[id]? = some command) (place : Place) :
    (state.moveTo id command place).commands[id]? =
      some { command with place := place } := by
  have bound := (List.getElem?_eq_some_iff.mp found).1
  rw [State.moveTo, List.getElem?_set, if_pos rfl, if_pos bound]

theorem getElem?_moveTo_ne {state : State} {id other : Nat}
    (command : Command) (place : Place) (differs : other ≠ id) :
    (state.moveTo id command place).commands[other]? =
      state.commands[other]? := by
  rw [State.moveTo, List.getElem?_set, if_neg (Ne.symm differs)]

theorem Kept.child {state : State} (kept : Kept state) {id : Nat}
    {command : Command} (found : state.commands[id]? = some command)
    (busy : command.place ≠ .done) {pid : Nat} {zombie : Bool}
    (server : state.processes pid = some (.server id zombie)) :
    command.place.child? = some pid := by
  obtain ⟨command', found', holds⟩ := kept.held pid id zombie server
  obtain rfl : command = command' := Option.some.inj (found.symm.trans found')
  rcases holds with holds | ended
  · exact holds
  · exact absurd ended.1 busy

theorem settled_of_moveTo_ne {state : State} {id spawner pid : Nat}
    {command : Command} {place : Place} (differs : spawner ≠ id)
    (server : state.processes pid = some (.server spawner false))
    (isOver : (state.moveTo id command place).isOver spawner = true) :
    state.Settled pid := by
  rw [State.isOver, getElem?_moveTo_ne command place differs] at isOver
  exact ⟨spawner, server, isOver⟩

theorem Kept.settled_of_moveTo {state : State} (kept : Kept state) {id : Nat}
    {command : Command} (found : state.commands[id]? = some command)
    (busy : command.place ≠ .done) {place : Place}
    (child : place.child? = command.place.child?) {pid : Nat}
    (settled : (state.moveTo id command place).Settled pid) :
    state.Settled pid := by
  obtain ⟨spawner, server, isOver⟩ := settled
  rcases eq_or_ne spawner id with rfl | differs
  · rw [isOver_of_found (getElem?_moveTo_self found place)] at isOver
    have holds := kept.child found busy server
    rw [← child, show place = .done from isOver] at holds
    cases holds
  · exact settled_of_moveTo_ne differs server isOver

/-- A command in progress moves on with what it holds. -/
theorem Kept.moveTo {state : State} (kept : Kept state) {id : Nat}
    {command : Command} (found : state.commands[id]? = some command)
    (busy : command.place ≠ .done) {place : Place}
    (child : place.child? = command.place.child?) :
    Kept (state.moveTo id command place) := by
  constructor
  · intro pid spawner zombie server
    rcases eq_or_ne spawner id with rfl | differs
    · refine ⟨_, getElem?_moveTo_self found place, .inl ?_⟩
      rw [← kept.child found busy server, ← child]
    · rw [getElem?_moveTo_ne command place differs]
      exact kept.held pid spawner zombie server
  · exact kept.alone
  · intro pid settled
    exact kept.named pid (kept.settled_of_moveTo found busy child settled)

theorem Kept.withFile {state : State} (kept : Kept state)
    {file : Option Content}
    (names : ∀ pid, state.Settled pid → file = some (.pid pid)) :
    Kept { state with file := file } :=
  ⟨kept.held, kept.alone, names⟩

/-- A `start` that lets go of its child leaves no zombie of it, and a file
that names it if it is alive. -/
theorem Kept.finish {state : State} (kept : Kept state) {id child : Nat}
    {command : Command} (found : state.commands[id]? = some command)
    (holds : command.place.child? = some child) {file : Option Content}
    (reaped : ∀ spawner zombie,
      state.processes child = some (.server spawner zombie) → zombie = false)
    (names : ∀ pid, state.Settled pid ∨ pid = child ∧ state.Alive child →
      file = some (.pid pid)) :
    Kept { state.moveTo id command .done with file := file } := by
  have busy : command.place ≠ .done := by
    intro ended
    rw [ended] at holds
    cases holds
  -- The servers that the command lets go of are the child alone.
  have its : ∀ (pid : Nat) (zombie : Bool),
      state.processes pid = some (.server id zombie) → pid = child := by
    intro pid zombie server
    have isChild := kept.child found busy server
    rw [holds] at isChild
    exact (Option.some.inj isChild).symm
  constructor
  · intro pid spawner zombie server
    rcases eq_or_ne spawner id with rfl | differs
    · obtain rfl := its pid zombie server
      exact ⟨_, getElem?_moveTo_self found .done,
        .inr ⟨rfl, reaped spawner zombie server⟩⟩
    · have before := kept.held pid spawner zombie server
      rw [← getElem?_moveTo_ne command .done differs] at before
      exact before
  · exact kept.alone
  · intro pid settled
    obtain ⟨spawner, server, isOver⟩ := settled
    apply names
    rcases eq_or_ne spawner id with rfl | differs
    · obtain rfl := its pid false server
      exact .inr ⟨rfl, spawner, server⟩
    · exact .inl (settled_of_moveTo_ne differs server isOver)

theorem Kept.spawn {state after : State} (kept : Kept state) {id pid : Nat}
    {command : Command} (found : state.commands[id]? = some command)
    (none : command.place = .spawn → ∀ other, ¬ state.Alive other)
    (spawned : state.spawn id command pid = some after) : Kept after := by
  rw [State.spawn] at spawned
  split at spawned
  next enabled =>
    obtain rfl := Option.some.inj spawned
    have busy : command.place ≠ .done := by
      rw [enabled.1]
      exact Place.noConfusion
    -- Next to the new server there are zombies of other commands at most.
    have servers : ∀ place spawner zombie,
        (state.setProcess pid (some (.server id false))).processes place =
          some (.server spawner zombie) →
        (place = pid ∧ spawner = id ∧ zombie = false) ∨
          (spawner ≠ id ∧ zombie = true ∧
            state.processes place = some (.server spawner zombie)) := by
      intro place spawner zombie server
      rw [processes_setProcess] at server
      split at server
      next same =>
        cases server
        exact .inl ⟨same, rfl, rfl⟩
      next =>
        refine .inr ⟨?_, ?_, server⟩
        · intro same
          subst same
          have isChild := kept.child found busy server
          rw [enabled.1] at isChild
          cases isChild
        · cases zombie with
          | true => rfl
          | false => exact absurd ⟨spawner, server⟩ (none enabled.1 place)
    have found' : (state.setProcess pid
        (some (.server id false))).commands[id]? = some command := found
    constructor
    · intro place spawner zombie server
      rcases servers place spawner zombie server with new | old
      · obtain ⟨rfl, rfl, rfl⟩ := new
        exact ⟨_, getElem?_moveTo_self found' _, .inl rfl⟩
      · rw [getElem?_moveTo_ne command _ old.1]
        exact kept.held place spawner zombie old.2.2
    · intro place other alive alive'
      obtain ⟨spawner, server⟩ := alive
      obtain ⟨spawner', server'⟩ := alive'
      rcases servers place spawner false server with new | old
      · rcases servers other spawner' false server' with new' | old'
        · rw [new.1, new'.1]
        · cases old'.2.1
      · cases old.2.1
    · intro place settled
      obtain ⟨spawner, server, isOver⟩ := settled
      rcases servers place spawner false server with new | old
      · obtain ⟨rfl, rfl, _⟩ := new
        rw [isOver_of_found (getElem?_moveTo_self found' _)] at isOver
        cases isOver
      · cases old.2.1
  next => cases spawned

/-! Every step. -/

theorem commands_reap (state : State) (child : Nat) :
    (state.reap child).commands = state.commands := by
  rw [State.reap]
  split
  · rfl
  · rfl

theorem zombie_reap {state : State} {child spawner : Nat} {zombie : Bool}
    (server : (state.reap child).processes child =
      some (.server spawner zombie)) : zombie = false := by
  rw [State.reap] at server
  split at server
  · rw [processes_setProcess, if_pos rfl] at server
    cases server
  next noZombie =>
    cases zombie with
    | false => rfl
    | true => exact absurd server (noZombie spawner)

theorem settled_reap {state : State} {child pid : Nat}
    (settled : (state.reap child).Settled pid) : state.Settled pid := by
  rw [State.reap] at settled
  split at settled
  · obtain ⟨spawner, server, isOver⟩ := settled
    rw [processes_setProcess] at server
    split at server
    · cases server
    · exact ⟨spawner, server, isOver⟩
  · exact settled

theorem commands_deliver (state : State) (pid : Nat) (force : Bool) :
    (state.deliver pid force).commands = state.commands := by
  unfold State.deliver
  split
  · rfl
  · rfl
  · rfl

theorem child?_onMissing (kind : Kind) : kind.onMissing.child? = none := by
  cases kind <;> rfl

theorem child?_onRunning (pid : Nat) (kind : Kind) :
    (kind.onRunning pid).child? = none := by
  cases kind <;> rfl

theorem child?_afterUnlink (kind : Kind) :
    kind.afterUnlink.child? = none := by
  cases kind <;> rfl

/-- Where a command can go on with what it holds. -/
structure Moves (state : State) (command : Command) (place : Place) :
    Prop where
  busy : command.place ≠ .done
  child : place.child? = command.place.child?
  follows : Place.Follows state command.place place

theorem Moves.of_attends {state : State} {command : Command} {place : Place}
    (busy : command.place ≠ .done)
    (child : place.child? = command.place.child?)
    (attends : ∀ pid, command.place.Attends pid →
      place = .done ∨ place.Attends pid) : Moves state command place :=
  ⟨busy, child, fun pid _ _ => attends pid⟩

theorem Kept.moves {state : State} (kept : Kept state) {id : Nat}
    {command : Command} {place : Place}
    (found : state.commands[id]? = some command)
    (moves : Moves state command place) :
    Kept (state.moveTo id command place) :=
  kept.moveTo found moves.busy moves.child

/-- The ways a command can go on by itself. -/
inductive Advance (state : State) (id : Nat) (command : Command) :
    State → Prop
  | move {place : Place} (moves : Moves state command place) :
      Advance state id command (state.moveTo id command place)
  | unlink (at_ : command.place = .unlink) :
      Advance state id command
        { state.moveTo id command command.kind.afterUnlink with file := none }
  | reaped {child spawner : Nat} (at_ : command.place = .polling child)
      (zombie : state.processes child = some (.server spawner true)) :
      Advance state id command ((state.reap child).moveTo id command .done)
  | write {child : Nat} (at_ : command.place = .write child) :
      Advance state id command
        { (state.reap child).moveTo id command .done with
          file := some (.pid child) }
  | signal {pid : Nat} {force : Bool} (at_ : command.place = .signal pid) :
      Advance state id command
        ((state.deliver pid force).moveTo id command (.waiting pid false))

theorem advanceRead_cases {state : State} {id : Nat} {command : Command}
    (at_ : command.place = .read) :
    Advance state id command (state.advanceRead id command) := by
  -- Only a file that names a pid binds the command to a server.
  have unnamed : ∀ place : Place, place.child? = none →
      (∀ pid, state.file ≠ some (.pid pid)) →
        Advance state id command (state.moveTo id command place) := by
    intro place childless nameless
    refine .move ⟨by simp [at_], by rw [at_]; exact childless, ?_⟩
    intro pid _ file
    exact absurd file (nameless pid)
  rw [State.advanceRead]
  split
  next missing => exact unnamed _ (child?_onMissing _) (by simp [missing])
  next unreadable =>
    exact unnamed _ (child?_onMissing _) (by simp [unreadable])
  next pidless => exact unnamed _ rfl (by simp [pidless])
  next named =>
    refine .move ⟨by simp [at_], by rw [at_]; rfl, ?_⟩
    intro pid _ file _
    rw [named] at file
    cases file
    exact .inr rfl

theorem examine_server {spawner : Nat} {check : Check} :
    examine (some (.server spawner false)) check ≠ .inl false := by
  cases check <;> nofun

theorem stillAlive_server {spawner : Nat} {stat : Bool} :
    stillAlive (some (.server spawner false)) stat ≠ some false := by
  cases stat <;> nofun

theorem advanceChecking_cases {state : State} {id pid : Nat} {check : Check}
    {command : Command} (at_ : command.place = .checking pid check) :
    Advance state id command (state.advanceChecking id command pid check) := by
  have busy : command.place ≠ .done := by simp [at_]
  have checked : ∀ other, command.place.Attends other → pid = other := by
    intro other attends
    rw [at_] at attends
    exact attends
  rw [State.advanceChecking]
  split
  · exact .move (.of_attends busy (by rw [at_]; rfl)
      fun other attends => .inr (checked other attends))
  · refine .move (.of_attends busy
      ((child?_onRunning _ _).trans (by rw [at_]; rfl)) ?_)
    intro other attends
    cases command.kind with
    | start => exact .inl rfl
    | stop force => exact .inr (checked other attends)
    | status => exact .inl rfl
  next gone =>
    refine .move ⟨busy, by rw [at_]; rfl, ?_⟩
    intro other settled _ attends
    obtain ⟨spawner, server, _⟩ := settled
    rw [checked other attends, server] at gone
    exact absurd gone examine_server

theorem advance_cases {state after : State} {id : Nat} {command : Command}
    (stepped : state.advance id command = some after) :
    Advance state id command after := by
  rw [State.advance] at stepped
  cases at_ : command.place with
  | read =>
      rw [at_] at stepped
      obtain rfl := Option.some.inj stepped
      exact advanceRead_cases at_
  | checking pid check =>
      rw [at_] at stepped
      obtain rfl := Option.some.inj stepped
      exact advanceChecking_cases at_
  | unlink =>
      rw [at_] at stepped
      obtain rfl := Option.some.inj stepped
      exact .unlink at_
  | spawn => rw [at_] at stepped; cases stepped
  | done => rw [at_] at stepped; cases stepped
  | polling child =>
      rw [at_] at stepped
      dsimp only at stepped
      split at stepped
      next zombie =>
        obtain rfl := Option.some.inj stepped
        exact .reaped at_ zombie
      next =>
        obtain rfl := Option.some.inj stepped
        refine .move (.of_attends (by simp [at_]) (by rw [at_]; rfl) ?_)
        intro pid attends
        rw [at_] at attends
        cases attends
  | polled child =>
      rw [at_] at stepped
      obtain rfl := Option.some.inj stepped
      refine .move (.of_attends (by simp [at_]) (by rw [at_]; rfl) ?_)
      intro pid attends
      rw [at_] at attends
      cases attends
  | write child =>
      rw [at_] at stepped
      obtain rfl := Option.some.inj stepped
      exact .write at_
  | signal pid =>
      rw [at_] at stepped
      obtain rfl := Option.some.inj stepped
      unfold State.advanceSignal
      split
      · exact .signal at_
      · exact .move (.of_attends (by simp [at_]) (by rw [at_]; rfl)
          fun _ _ => .inl rfl)
  | waiting pid stat =>
      -- A server found gone in the loop is looked at once more behind it.
      have moves : ∀ place : Place, place.child? = none →
          place.Attends pid → Moves state command place := by
        intro place childless attends
        refine .of_attends (by simp [at_]) (by rw [at_]; exact childless) ?_
        intro other waits
        rw [at_] at waits
        obtain rfl : pid = other := waits
        exact .inr attends
      rw [at_] at stepped
      dsimp only at stepped
      split at stepped
      · obtain rfl := Option.some.inj stepped
        exact .move (moves _ rfl rfl)
      · obtain rfl := Option.some.inj stepped
        exact .move (moves _ rfl rfl)
      · obtain rfl := Option.some.inj stepped
        exact .move (moves _ rfl rfl)
  | final pid stat =>
      rw [at_] at stepped
      dsimp only at stepped
      split at stepped
      · obtain rfl := Option.some.inj stepped
        refine .move (.of_attends (by simp [at_]) (by rw [at_]; rfl) ?_)
        intro other waits
        rw [at_] at waits
        exact .inr waits
      · obtain rfl := Option.some.inj stepped
        exact .move (.of_attends (by simp [at_]) (by rw [at_]; rfl)
          fun _ _ => .inl rfl)
      next gone =>
        obtain rfl := Option.some.inj stepped
        refine .move ⟨by simp [at_], by rw [at_]; rfl, ?_⟩
        intro other settled _ waits
        obtain ⟨spawner, server, _⟩ := settled
        rw [at_] at waits
        obtain rfl : pid = other := waits
        rw [server] at gone
        exact absurd gone stillAlive_server

theorem timeout_cases {state after : State} {id : Nat} {command : Command}
    (stepped : state.timeout id command = some after) :
    ∃ place, Moves state command place ∧
      after = state.moveTo id command place := by
  rw [State.timeout] at stepped
  split at stepped
  next child at_ =>
    refine ⟨.write child, ?_, (Option.some.inj stepped).symm⟩
    refine .of_attends (by simp [at_]) (by rw [at_]; rfl) ?_
    intro pid attends
    rw [at_] at attends
    cases attends
  next pid at_ =>
    refine ⟨.final pid false, ?_, (Option.some.inj stepped).symm⟩
    refine .of_attends (by simp [at_]) (by rw [at_]; rfl) ?_
    intro other attends
    rw [at_] at attends
    exact .inr attends
  next => cases stepped

theorem listens_cases {state after : State} {id : Nat} {command : Command}
    (stepped : state.listens id command = some after) :
    ∃ place, Moves state command place ∧
      after = state.moveTo id command place := by
  rw [State.listens] at stepped
  split at stepped
  next child at_ =>
    refine ⟨.write child, ?_, (Option.some.inj stepped).symm⟩
    refine .of_attends (by simp [at_]) (by rw [at_]; rfl) ?_
    intro pid attends
    rw [at_] at attends
    cases attends
  next => cases stepped

theorem found_reap {state : State} {id : Nat} {command : Command}
    (found : state.commands[id]? = some command) (child : Nat) :
    (state.reap child).commands[id]? = some command := by
  rw [commands_reap, found]

theorem Kept.advance {state after : State} (kept : Kept state) {id : Nat}
    {command : Command} (found : state.commands[id]? = some command)
    (orderly : Orderly state (.advance id))
    (stepped : state.advance id command = some after) : Kept after := by
  obtain ⟨unlinks, writes⟩ := orderly command found
  cases advance_cases stepped with
  | move moves => exact kept.moves found moves
  | unlink at_ =>
      have busy : command.place ≠ .done := by simp [at_]
      have childless : command.kind.afterUnlink.child? =
          command.place.child? := by
        rw [at_]
        exact child?_afterUnlink _
      apply (kept.moveTo found busy childless).withFile
      intro pid settled
      exact absurd (kept.settled_of_moveTo found busy childless settled)
        (unlinks at_ pid)
  | @reaped child spawner at_ zombie =>
      refine (kept.reap child).finish (found_reap found child)
        (by rw [at_]; rfl) (fun _ _ => zombie_reap) ?_
      intro pid names
      rcases names with settled | alive
      · exact (kept.reap child).named pid settled
      · obtain ⟨_, other, server⟩ := alive
        rw [State.reap, zombie] at server
        simp [processes_setProcess] at server
  | @write child at_ =>
      refine (kept.reap child).finish (found_reap found child)
        (by rw [at_]; rfl) (fun _ _ => zombie_reap) ?_
      intro pid names
      rcases names with settled | alive
      · rw [writes child at_ pid (settled_reap settled)]
      · rw [alive.1]
  | @signal pid force at_ =>
      refine (kept.deliver pid force).moveTo ?_ (by simp [at_])
        (by rw [at_]; rfl)
      rw [commands_deliver, found]

theorem Kept.invoke {state : State} (kept : Kept state) (kind : Kind) :
    Kept { state with commands := state.commands ++ [⟨kind, .read⟩] } := by
  constructor
  · intro pid spawner zombie server
    obtain ⟨command, found, holds⟩ := kept.held pid spawner zombie server
    refine ⟨command, ?_, holds⟩
    have bound := (List.getElem?_eq_some_iff.mp found).1
    rw [List.getElem?_append_left bound, found]
  · exact kept.alone
  · intro pid settled
    obtain ⟨spawner, server, isOver⟩ := settled
    obtain ⟨command, found, _⟩ := kept.held pid spawner false server
    apply kept.named
    refine ⟨spawner, server, ?_⟩
    have bound := (List.getElem?_eq_some_iff.mp found).1
    rw [State.isOver, List.getElem?_append_left bound] at isOver
    exact isOver

theorem Kept.step {state after : State} {label : Label} (kept : Kept state)
    (orderly : Orderly state label)
    (stepped : state.step label = some after) : Kept after := by
  cases label with
  | invoke kind =>
      obtain rfl := Option.some.inj stepped
      exact kept.invoke kind
  | advance id =>
      obtain ⟨command, found, advanced⟩ := Option.bind_eq_some_iff.mp stepped
      exact kept.advance found orderly advanced
  | spawn id pid =>
      obtain ⟨command, found, spawned⟩ := Option.bind_eq_some_iff.mp stepped
      exact kept.spawn found (orderly command found) spawned
  | listens id =>
      obtain ⟨command, found, listened⟩ := Option.bind_eq_some_iff.mp stepped
      obtain ⟨place, moves, rfl⟩ := listens_cases listened
      exact kept.moves found moves
  | timeout id =>
      obtain ⟨command, found, ranOut⟩ := Option.bind_eq_some_iff.mp stepped
      obtain ⟨place, moves, rfl⟩ := timeout_cases ranOut
      exact kept.moves found moves
  | exit pid =>
      rw [State.step] at stepped
      split at stepped
      next server =>
        obtain rfl := Option.some.inj stepped
        exact kept.exitServer server
      next => cases stepped
  | occupy pid named =>
      rw [State.step] at stepped
      split at stepped
      · obtain rfl := Option.some.inj stepped
        exact kept.setOther fun _ _ same => nomatch same
      · cases stepped
  | vacate pid =>
      rw [State.step] at stepped
      split at stepped
      · obtain rfl := Option.some.inj stepped
        exact kept.setOther fun _ _ => Option.some_ne_none _ |>.symm
      · cases stepped

theorem kept_of_init {state : State} (initial : system.init state) :
    Kept state := by
  obtain ⟨_, none⟩ := initial
  constructor
  · intro pid spawner zombie server
    exact absurd server (none pid spawner zombie)
  · intro pid other alive
    obtain ⟨spawner, server⟩ := alive
    exact absurd server (none pid spawner false)
  · intro pid settled
    obtain ⟨spawner, server, _⟩ := settled
    exact absurd server (none pid spawner false)

/-- In every state that orderly steps reach, whatever their interleaving, the
directory is managed. -/
theorem managed_of_orderly {state : State}
    (reachable : system.Reachable Orderly state) : state.Managed := by
  apply Kept.managed
  exact reachable.invariant (fun _ => kept_of_init)
    fun _ _ _ _ kept orderly stepped => Kept.step kept orderly stepped

/-- Two commands at once, from a directory whose file is this. -/
def fresh (file : Option Content) : State :=
  ⟨file, fun _ => none, []⟩

theorem init_fresh (file : Option Content) : system.init (fresh file) := by
  refine ⟨rfl, ?_⟩
  intro _ _ _ server
  cases server

/-- Two starts that overlap both find no file, and both spawn. -/
def overlapping : List Label :=
  [.invoke .start, .invoke .start, .advance 0, .advance 1,
    .spawn 0 100, .spawn 1 101, .advance 0, .listens 0, .advance 0,
    .advance 1, .listens 1, .advance 1]

/-- A status that has found a stale file removes it after a start has written
its own there. -/
def overtaken : List Label :=
  [.invoke .status, .invoke .start, .advance 0, .advance 0, .advance 1,
    .advance 1, .advance 1, .spawn 1 100, .advance 1, .listens 1, .advance 1,
    .advance 0]

theorem directory_unmanaged :
    (∃ final, system.init (fresh none) ∧
      system.run (fresh none) overlapping = some final ∧ ¬ final.Managed) ∧
    (∃ final, system.init (fresh (some (.pid 7))) ∧
      system.run (fresh (some (.pid 7))) overtaken = some final ∧
      ¬ final.Managed) := by
  constructor
  · refine ⟨_, init_fresh none, rfl, ?_⟩
    intro managed
    have quiet : ∀ command ∈ [Command.mk .start .done, ⟨.start, .done⟩],
        command.place = .done := by decide
    exact absurd ((managed quiet).1 100 101 ⟨0, rfl⟩ ⟨1, rfl⟩) (by decide)
  · refine ⟨_, init_fresh _, rfl, ?_⟩
    intro managed
    have quiet : ∀ command ∈ [Command.mk .status .done, ⟨.start, .done⟩],
        command.place = .done := by decide
    exact absurd ((managed quiet).2 100 ⟨1, rfl⟩) (by decide)

/-- One start, from an empty directory to the recorded pid. -/
def single : List Label :=
  [.invoke .start, .advance 0, .spawn 0 100, .advance 0, .listens 0,
    .advance 0]

theorem managed_of_single :
    ∃ final, system.run (fresh none) single = some final ∧ final.Quiet ∧
      final.Alive 100 ∧ final.file = some (.pid 100) := by
  have meets : system.Meets Orderly (fresh none) single := by
    refine .cons trivial rfl (.cons ?_ rfl (.cons ?_ rfl (.cons ?_ rfl
      (.cons trivial rfl (.cons ?_ rfl trivial)))))
    · intro command found
      cases found
      exact ⟨nofun, nofun⟩
    · intro _ _ _ pid alive
      obtain ⟨spawner, server⟩ := alive
      cases server
    · intro command found
      cases found
      exact ⟨nofun, nofun⟩
    · intro command found
      cases found
      refine ⟨nofun, ?_⟩
      intro child at_ pid settled
      cases at_
      obtain ⟨spawner, server, _⟩ := settled
      have server : ((fresh none).setProcess 100
          (some (.server 0 false))).processes pid =
            some (.server spawner false) := server
      rw [processes_setProcess] at server
      split at server
      next same => exact same
      next => cases server
  have quiet : ∀ command ∈ [Command.mk .start .done],
      command.place = .done := by decide
  refine ⟨_, rfl, quiet, ⟨0, rfl⟩, ?_⟩
  exact (managed_of_orderly (.of_run (.start (init_fresh none)) meets rfl)
    quiet).2 100 ⟨0, rfl⟩

end Catwalk.Cli
