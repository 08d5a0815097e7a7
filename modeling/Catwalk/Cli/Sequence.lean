import Catwalk.Cli.Managed

/-! Commands run one at a time leave alone what they have to. -/

namespace Catwalk.Cli

/-- A command is invoked when the one before is over. -/
def Sequential (state : State) : Label → Prop
  | .invoke _ => state.Quiet
  | _ => True

/-- The one command in progress deals with every server whose `start` is
over. -/
structure Attended (state : State) : Prop where
  kept : Kept state
  sole : ∀ (id other : Nat) (command command' : Command),
    state.commands[id]? = some command → command.place ≠ .done →
    state.commands[other]? = some command' → command'.place ≠ .done →
      id = other
  attends : ∀ (id : Nat) (command : Command),
    state.commands[id]? = some command → command.place ≠ .done →
      ∀ pid, state.Settled pid → command.place.Attends pid

theorem settled_setProcess {state : State} {pid place : Nat}
    {process : Option Process}
    (notAlive : ∀ spawner, process ≠ some (.server spawner false))
    (settled : (state.setProcess pid process).Settled place) :
    state.Settled place := by
  obtain ⟨spawner, server, isOver⟩ := settled
  rw [processes_setProcess] at server
  split at server
  · exact absurd server (notAlive spawner)
  · exact ⟨spawner, server, isOver⟩

theorem settled_exitServer {state : State} {pid spawner place : Nat}
    (settled : (state.exitServer pid spawner).Settled place) :
    state.Settled place := by
  refine settled_setProcess ?_ settled
  intro other
  split
  · intro same
    cases same
  · intro same
    cases same

theorem settled_deliver {state : State} {pid place : Nat} {force : Bool}
    (settled : (state.deliver pid force).Settled place) :
    state.Settled place := by
  unfold State.deliver at settled
  split at settled
  · exact settled_exitServer settled
  · exact settled_setProcess (fun _ => (Option.some_ne_none _).symm) settled
  · exact settled

theorem Attended.none_settled {state : State} (attended : Attended state)
    {id : Nat} {command : Command}
    (found : state.commands[id]? = some command)
    (busy : command.place ≠ .done)
    (inattentive : ∀ pid, ¬ command.place.Attends pid) (pid : Nat) :
    ¬ state.Settled pid := by
  intro settled
  exact inattentive pid (attended.attends id command found busy pid settled)

theorem Attended.none_alive {state : State} (attended : Attended state)
    {id : Nat} {command : Command}
    (found : state.commands[id]? = some command)
    (at_ : command.place = .spawn) (pid : Nat) : ¬ state.Alive pid := by
  intro alive
  obtain ⟨spawner, server⟩ := alive
  have busy : command.place ≠ .done := by simp [at_]
  obtain ⟨command', found', holds⟩ :=
    attended.kept.held pid spawner false server
  rcases holds with child | ended
  · have busy' : command'.place ≠ .done := by
      intro ended
      rw [ended] at child
      cases child
    obtain rfl := attended.sole id spawner command command' found busy found'
      busy'
    obtain rfl : command = command' :=
      Option.some.inj (found.symm.trans found')
    rw [at_] at child
    cases child
  · have settled : state.Settled pid :=
      ⟨spawner, server, (isOver_of_found found').mpr ended.1⟩
    refine attended.none_settled found busy ?_ pid settled
    intro other attends
    rw [at_] at attends
    exact attends

theorem orderly_of_attended {state : State} (attended : Attended state)
    (label : Label) : Orderly state label := by
  cases label with
  | spawn id pid => exact fun command found => attended.none_alive found
  | advance id =>
      intro command found
      constructor
      · intro at_
        refine attended.none_settled found (by simp [at_]) ?_
        intro pid attends
        rw [at_] at attends
        exact attends
      · intro child at_ pid settled
        have busy : command.place ≠ .done := by simp [at_]
        have attends := attended.attends id command found busy pid settled
        rw [at_] at attends
        cases attends
  | _ => trivial

/-- Where no command moves and no server is settled anew. -/
theorem Attended.frame {state after : State} (attended : Attended state)
    (kept : Kept after) (commands : after.commands = state.commands)
    (settled : ∀ pid, after.Settled pid → state.Settled pid) :
    Attended after := by
  constructor
  · exact kept
  · rw [commands]
    exact attended.sole
  · intro id command found busy pid later
    rw [commands] at found
    exact attended.attends id command found busy pid (settled pid later)

theorem Attended.next {state after : State} (attended : Attended state)
    {id : Nat} {command : Command} {place : Place}
    (found : state.commands[id]? = some command)
    (busy : command.place ≠ .done) (kept : Kept after)
    (commands : after.commands = (state.moveTo id command place).commands)
    (follows : ∀ pid, after.Settled pid → place = .done ∨ place.Attends pid) :
    Attended after := by
  -- All other commands are over.
  have only : ∀ (other : Nat) (command' : Command),
      after.commands[other]? = some command' → command'.place ≠ .done →
        other = id ∧ command'.place = place := by
    intro other command' found' busy'
    rw [commands] at found'
    rcases getElem?_moveTo found found' with this | another
    · exact ⟨this.1, this.2 ▸ rfl⟩
    · exact absurd (attended.sole other id command' command another.2 busy'
        found busy) another.1
  constructor
  · exact kept
  · intro first second command' command'' found' busy' found'' busy''
    rw [(only first command' found' busy').1,
      (only second command'' found'' busy'').1]
  · intro other command' found' busy' pid settled
    have moved := (only other command' found' busy').2
    rcases follows pid settled with ended | attends
    · exact absurd (moved.trans ended) busy'
    · rw [moved]
      exact attends

theorem Attended.moves {state : State} (attended : Attended state)
    {id : Nat} {command : Command} {place : Place}
    (found : state.commands[id]? = some command)
    (moves : Moves state command place) :
    Attended (state.moveTo id command place) := by
  refine attended.next found moves.busy (attended.kept.moves found moves) rfl ?_
  intro pid settled
  have before :=
    attended.kept.settled_of_moveTo found moves.busy moves.child settled
  exact moves.follows pid before (attended.kept.named pid before)
    (attended.attends id command found moves.busy pid before)

theorem Attended.advance {state after : State} (attended : Attended state)
    {id : Nat} {command : Command}
    (found : state.commands[id]? = some command)
    (stepped : state.advance id command = some after) : Attended after := by
  have kept : Kept after := attended.kept.advance found
    (orderly_of_attended attended (.advance id)) stepped
  cases advance_cases stepped with
  | move moves => exact attended.moves found moves
  | unlink at_ =>
      have busy : command.place ≠ .done := by simp [at_]
      have childless : command.kind.afterUnlink.child? =
          command.place.child? := by
        rw [at_]
        exact child?_afterUnlink _
      refine attended.next found busy kept rfl ?_
      intro pid settled
      have before :=
        attended.kept.settled_of_moveTo found busy childless settled
      have attends := attended.attends id command found busy pid before
      rw [at_] at attends
      cases attends
  | reaped at_ zombie =>
      refine attended.next found (by simp [at_]) kept ?_
        fun _ _ => .inl rfl
      rw [State.moveTo, State.moveTo, commands_reap]
  | write at_ =>
      refine attended.next found (by simp [at_]) kept ?_
        fun _ _ => .inl rfl
      rw [State.moveTo, State.moveTo, commands_reap]
  | @signal pid force at_ =>
      have busy : command.place ≠ .done := by simp [at_]
      have found' : (state.deliver pid force).commands[id]? = some command := by
        rw [commands_deliver, found]
      have delivered : Attended (state.deliver pid force) :=
        attended.frame (attended.kept.deliver pid force)
          (commands_deliver state pid force) fun _ => settled_deliver
      refine delivered.moves found' (.of_attends busy (by rw [at_]; rfl) ?_)
      intro other attends
      rw [at_] at attends
      exact .inr attends

theorem Attended.spawn {state after : State} (attended : Attended state)
    {id pid : Nat} {command : Command}
    (found : state.commands[id]? = some command)
    (spawned : state.spawn id command pid = some after) : Attended after := by
  have kept := attended.kept.spawn found (attended.none_alive found) spawned
  rw [State.spawn] at spawned
  split at spawned
  next enabled =>
    obtain rfl := Option.some.inj spawned
    refine attended.next found (by simp [enabled.1]) kept rfl ?_
    intro other settled
    obtain ⟨spawner, server, isOver⟩ := settled
    have server : (state.setProcess pid
        (some (.server id false))).processes other =
          some (.server spawner false) := server
    rw [processes_setProcess] at server
    split at server
    next =>
      cases server
      have found' : (state.setProcess pid
          (some (.server id false))).commands[id]? = some command := found
      rw [isOver_of_found (getElem?_moveTo_self found' _)] at isOver
      cases isOver
    next =>
      have alive : state.Alive other := ⟨spawner, server⟩
      exact absurd alive (attended.none_alive found enabled.1 other)
  next => cases spawned

theorem Attended.invoke {state : State} (attended : Attended state)
    (quiet : state.Quiet) (kind : Kind) :
    Attended { state with commands := state.commands ++ [⟨kind, .read⟩] } := by
  have only : ∀ (other : Nat) (command : Command),
      (state.commands ++ [⟨kind, .read⟩])[other]? = some command →
      command.place ≠ .done →
        other = state.commands.length ∧ command.place = .read := by
    intro other command found busy
    rw [List.getElem?_append] at found
    split at found
    · exact absurd (quiet command (List.mem_of_getElem? found)) busy
    next bound =>
      have member := List.mem_of_getElem? found
      have last := (List.getElem?_eq_some_iff.mp found).1
      rw [List.length_singleton] at last
      rw [List.mem_singleton.mp member]
      exact ⟨by omega, rfl⟩
  constructor
  · exact attended.kept.invoke kind
  · intro first second command command' found busy found' busy'
    rw [(only first command found busy).1, (only second command' found' busy').1]
  · intro other command found busy pid _
    rw [(only other command found busy).2]
    trivial

theorem Attended.step {state after : State} {label : Label}
    (attended : Attended state) (sequential : Sequential state label)
    (stepped : state.step label = some after) : Attended after := by
  have kept : Kept after :=
    attended.kept.step (orderly_of_attended attended label) stepped
  cases label with
  | invoke kind =>
      obtain rfl := Option.some.inj stepped
      exact attended.invoke sequential kind
  | advance id =>
      obtain ⟨command, found, advanced⟩ := Option.bind_eq_some_iff.mp stepped
      exact attended.advance found advanced
  | spawn id pid =>
      obtain ⟨command, found, spawned⟩ := Option.bind_eq_some_iff.mp stepped
      exact attended.spawn found spawned
  | listens id =>
      obtain ⟨command, found, listened⟩ := Option.bind_eq_some_iff.mp stepped
      obtain ⟨place, moves, rfl⟩ := listens_cases listened
      exact attended.moves found moves
  | timeout id =>
      obtain ⟨command, found, ranOut⟩ := Option.bind_eq_some_iff.mp stepped
      obtain ⟨place, moves, rfl⟩ := timeout_cases ranOut
      exact attended.moves found moves
  | exit pid =>
      rw [State.step] at stepped
      split at stepped
      · obtain rfl := Option.some.inj stepped
        exact attended.frame kept rfl fun _ => settled_exitServer
      · cases stepped
  | occupy pid named =>
      rw [State.step] at stepped
      split at stepped
      · obtain rfl := Option.some.inj stepped
        refine attended.frame kept rfl fun _ => settled_setProcess ?_
        intro _ same
        cases same
      · cases stepped
  | vacate pid =>
      rw [State.step] at stepped
      split at stepped
      · obtain rfl := Option.some.inj stepped
        refine attended.frame kept rfl fun _ => settled_setProcess ?_
        intro _ same
        cases same
      · cases stepped

theorem attended_of_init {state : State} (initial : system.init state) :
    Attended state := by
  have idle : state.commands = [] := initial.1
  constructor
  · exact kept_of_init initial
  · intro id _ command _ found
    rw [idle] at found
    cases found
  · intro id command found
    rw [idle] at found
    cases found

theorem orderly_of_sequential {start : State} {schedule : List Label}
    (initial : system.init start)
    (meets : system.Meets Sequential start schedule) :
    system.Meets Orderly start schedule :=
  meets.of_invariant
    (fun _ _ _ attended sequential stepped =>
      Attended.step attended sequential stepped)
    (fun _ label attended _ => orderly_of_attended attended label)
    (attended_of_init initial)

/-- Commands run one after the other keep the directory managed. -/
theorem managed_of_sequential {state : State}
    (reachable : system.Reachable Sequential state) : state.Managed := by
  have attended : Attended state := reachable.invariant
    (fun _ => attended_of_init)
    fun _ _ _ _ attended sequential stepped =>
      Attended.step attended sequential stepped
  exact attended.kept.managed

end Catwalk.Cli
