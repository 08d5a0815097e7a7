import Catwalk.Theory.StepSystem
import Mathlib.Logic.Function.Basic

/-! The commands of `cli.py` on one state directory: `start`, `stop` and
`status`, one file access or system call at a time, and the servers. -/

namespace Catwalk.Cli

/-- What `catwalk.json` holds: no JSON, an object without a number for a pid,
or a pid. -/
inductive Content
  | unreadable
  | pidless
  | pid (pid : Nat)
  deriving DecidableEq

/-- A process: a server with the command that spawned it, dead but not yet
reaped or not; or any other, with `catwalk` in its command line or not. -/
inductive Process
  | server (spawner : Nat) (zombie : Bool)
  | other (named : Bool)
  deriving DecidableEq

inductive Kind
  | start
  | stop (force : Bool)
  | status
  deriving DecidableEq

/-- Where `process_alive(pid) and _is_catwalk_process(pid)` stands: before
`os.kill(pid, 0)`, before the read of `stat`, before that of `cmdline`, and in
the second `process_alive` when there was none. -/
inductive Check
  | alive
  | stat
  | cmdline
  | aliveAgain
  | statAgain
  deriving DecidableEq

/-- Where a command stands, by what it does next. In the loops of `stop`,
`stat` tells `os.kill(pid, 0)` and the read behind it apart. -/
inductive Place
  | read
  | checking (pid : Nat) (check : Check)
  | unlink
  | spawn
  | polling (child : Nat)
  | polled (child : Nat)
  | write (child : Nat)
  | signal (pid : Nat)
  | waiting (pid : Nat) (stat : Bool)
  | final (pid : Nat) (stat : Bool)
  | done
  deriving DecidableEq

structure Command where
  kind : Kind
  place : Place
  deriving DecidableEq

structure State where
  file : Option Content
  processes : Nat → Option Process
  commands : List Command

/-- A command invoked, its next step, the pid of its child, sockets found or
time run out; a server that exits; another process that takes or frees a
pid. -/
inductive Label
  | invoke (kind : Kind)
  | advance (id : Nat)
  | spawn (id pid : Nat)
  | listens (id : Nat)
  | timeout (id : Nat)
  | exit (pid : Nat)
  | occupy (pid : Nat) (named : Bool)
  | vacate (pid : Nat)

/-- Without a state: `start` goes on, the others report that nothing runs. -/
def Kind.onMissing : Kind → Place
  | .start => .spawn
  | .stop _ | .status => .done

/-- With a live server: `start` refuses, `stop` signals it. -/
def Kind.onRunning (pid : Nat) : Kind → Place
  | .start | .status => .done
  | .stop _ => .signal pid

def Kind.afterUnlink : Kind → Place
  | .start => .spawn
  | .stop _ | .status => .done

/-- One look at a process: the answer, or where to look next. -/
def examine (process : Option Process) : Check → Bool ⊕ Check
  | .alive =>
      match process with
      | none => .inl false
      | some _ => .inr .stat
  | .stat =>
      match process with
      | some (.server _ true) => .inl false
      | _ => .inr .cmdline
  | .cmdline =>
      match process with
      | none => .inr .aliveAgain
      | some (.server _ zombie) => .inl (!zombie)
      | some (.other named) => .inl named
  | .aliveAgain =>
      match process with
      | none => .inl false
      | some _ => .inr .statAgain
  | .statAgain =>
      match process with
      | some (.server _ true) => .inl false
      | _ => .inl true

/-- `process_alive` in its two steps, from the given one: the answer, or none
when `stat` is still to be read. -/
def stillAlive (process : Option Process) (stat : Bool) : Option Bool :=
  match stat, process with
  | false, none => some false
  | false, some _ => none
  | true, some (.server _ true) => some false
  | true, _ => some true

namespace State

def setProcess (state : State) (pid : Nat) (process : Option Process) :
    State :=
  { state with processes := Function.update state.processes pid process }

def moveTo (state : State) (id : Nat) (command : Command) (place : Place) :
    State :=
  { state with
    commands := state.commands.set id { command with place := place } }

/-- The command is over; nothing reaps for it. -/
def isOver (state : State) (id : Nat) : Bool :=
  (state.commands[id]?).all (·.place == .done)

/-- A server dies: it stays a zombie while the command that spawned it runs. -/
def exitServer (state : State) (pid spawner : Nat) : State :=
  state.setProcess pid
    (if state.isOver spawner then none else some (.server spawner true))

/-- Reaped by its spawner, or by init behind it. -/
def reap (state : State) (child : Nat) : State :=
  match state.processes child with
  | some (.server _ true) => state.setProcess child none
  | _ => state

/-- `os.kill(pid, SIGKILL if args.force else signal.SIGTERM)`: a server that
is asked to terminate exits in its own time. -/
def deliver (state : State) (pid : Nat) (force : Bool) : State :=
  match force, state.processes pid with
  | true, some (.server spawner false) => state.exitServer pid spawner
  | true, some (.other _) => state.setProcess pid none
  | _, _ => state

def advanceRead (state : State) (id : Nat) (command : Command) : State :=
  match state.file with
  | none | some .unreadable => state.moveTo id command command.kind.onMissing
  | some .pidless => state.moveTo id command .unlink
  | some (.pid pid) => state.moveTo id command (.checking pid .alive)

def advanceChecking (state : State) (id : Nat) (command : Command)
    (pid : Nat) (check : Check) : State :=
  match examine (state.processes pid) check with
  | .inr check => state.moveTo id command (.checking pid check)
  | .inl true => state.moveTo id command (command.kind.onRunning pid)
  | .inl false => state.moveTo id command .unlink

/-- The signal, if there is a process left to take it. -/
def advanceSignal (state : State) (id : Nat) (command : Command)
    (pid : Nat) : State :=
  match command.kind, state.processes pid with
  | .stop force, some _ =>
      (state.deliver pid force).moveTo id command (.waiting pid false)
  | _, _ => state.moveTo id command .done

/-- The next step of a command that needs nothing from outside. -/
def advance (state : State) (id : Nat) (command : Command) : Option State :=
  match command.place with
  | .read => some (state.advanceRead id command)
  | .checking pid check => some (state.advanceChecking id command pid check)
  | .unlink =>
      some { state.moveTo id command command.kind.afterUnlink with
        file := none }
  | .polling child =>
      match state.processes child with
      | some (.server _ true) =>
          some ((state.reap child).moveTo id command .done)
      | _ => some (state.moveTo id command (.polled child))
  | .polled child => some (state.moveTo id command (.polling child))
  | .write child =>
      some { (state.reap child).moveTo id command .done with
        file := some (.pid child) }
  | .signal pid => some (state.advanceSignal id command pid)
  | .waiting pid stat =>
      match stillAlive (state.processes pid) stat with
      | none => some (state.moveTo id command (.waiting pid true))
      | some true => some (state.moveTo id command (.waiting pid false))
      | some false => some (state.moveTo id command (.final pid false))
  | .final pid stat =>
      match stillAlive (state.processes pid) stat with
      | none => some (state.moveTo id command (.final pid true))
      | some true => some (state.moveTo id command .done)
      | some false => some (state.moveTo id command .unlink)
  | .spawn | .done => none

/-- The loops of `start` and `stop` run out of time. -/
def timeout (state : State) (id : Nat) (command : Command) : Option State :=
  match command.place with
  | .polling child => some (state.moveTo id command (.write child))
  | .waiting pid false => some (state.moveTo id command (.final pid false))
  | _ => none

def listens (state : State) (id : Nat) (command : Command) : Option State :=
  match command.place with
  | .polled child => some (state.moveTo id command (.write child))
  | _ => none

def spawn (state : State) (id : Nat) (command : Command) (pid : Nat) :
    Option State :=
  if command.place = .spawn ∧ state.processes pid = none then
    some ((state.setProcess pid (some (.server id false))).moveTo id command
      (.polling pid))
  else none

def step (state : State) : Label → Option State
  | .invoke kind =>
      some { state with commands := state.commands ++ [⟨kind, .read⟩] }
  | .advance id => (state.commands[id]?).bind (state.advance id)
  | .spawn id pid =>
      (state.commands[id]?).bind fun command => state.spawn id command pid
  | .listens id => (state.commands[id]?).bind (state.listens id)
  | .timeout id => (state.commands[id]?).bind (state.timeout id)
  | .exit pid =>
      match state.processes pid with
      | some (.server spawner false) => some (state.exitServer pid spawner)
      | _ => none
  | .occupy pid named =>
      match state.processes pid with
      | none => some (state.setProcess pid (some (.other named)))
      | some _ => none
  | .vacate pid =>
      match state.processes pid with
      | some (.other _) => some (state.setProcess pid none)
      | _ => none

/-- A server spawned from the directory is alive. -/
def Alive (state : State) (pid : Nat) : Prop :=
  ∃ spawner, state.processes pid = some (.server spawner false)

/-- No command is in progress. -/
def Quiet (state : State) : Prop :=
  ∀ command ∈ state.commands, command.place = .done

/-- Between commands at most one server is alive, and the file names it. -/
def Managed (state : State) : Prop :=
  state.Quiet →
    (∀ pid other, state.Alive pid → state.Alive other → pid = other) ∧
      ∀ pid, state.Alive pid → state.file = some (.pid pid)

end State

/-- Before the first command the file may hold anything, and no server of the
directory runs. -/
def system : StepSystem State Label where
  init state := state.commands = [] ∧ ∀ pid spawner zombie,
    state.processes pid ≠ some (.server spawner zombie)
  step := State.step

end Catwalk.Cli
