import ArtifactTools.Shell.Machine

/-! Running as a whole: how it leaves the commands around it, and what it asks for on the way. A
process that waits for something, or wants another process to begin, asks for that and goes on when
it is answered. -/

namespace ArtifactTools.Shell

/-- How running leaves what is around a command: loops, the round of a loop, a function or a sourced
script, the rest of the line, or the shell, on purpose or through a fault of the script. A process
may also be killed, or never come to its end. -/
inductive Leave where
  | loops (count : Nat)
  | round (count : Nat)
  | function
  | line
  | shell
  | fault
  | killed (signal : Nat)
  | stopped
  deriving DecidableEq, Repr

/-- What a process waits for: its next turn, more in a pipe than a number of characters or an end of
writing there, the end of all writing, room, the end of a child or of any child, somebody who opens a
pipe for the so manieth time to read or to write, or nothing that ever comes. -/
inductive Event where
  | turn
  | growth (pipe size : Nat)
  | ending (pipe : Nat)
  | room (pipe : Nat)
  | child (number : Nat)
  | anyChild
  | reader (pipe count : Nat)
  | writer (pipe count : Nat)
  | nothing
  deriving DecidableEq, Repr

structure Waiting where
  event : Event
  limit : Option Nat
  isInterruptible : Bool
  deriving DecidableEq, Repr

/-- What a process begins with: a command after its redirections, a program, or what a redirection
reads. -/
inductive Task where
  | command (manner : Manner) (goals : List (Redirection Goal)) (body : Command)
  | program (invocation : Invocation)
  | content (line : Nat) (redirection : Redirection Word)

inductive Asking where
  | wait (waiting : Waiting)
  | fork (task : Task) (child : Machine)

inductive Resumption (α : Type) where
  | done (result : Except Leave α) (machine : Machine)
  | asks (asking : Asking) (machine : Machine) (goOn : Machine → Resumption α)

def Running (α : Type) : Type := Machine → Resumption α

namespace Resumption

def bind {α β : Type} : Resumption α → (α → Running β) → Resumption β
  | .done (.ok value) machine, next => next value machine
  | .done (.error leave) machine, _ => .done (.error leave) machine
  | .asks asking machine goOn, next =>
      .asks asking machine fun machine => (goOn machine).bind next

def caught {α : Type} : Resumption α → Resumption (Except Leave α)
  | .done result machine => .done (.ok result) machine
  | .asks asking machine goOn => .asks asking machine fun machine => (goOn machine).caught

def restored {α : Type} (restore : Machine → Machine) : Resumption α → Resumption α
  | .done result machine => .done result (restore machine)
  | .asks asking machine goOn =>
      .asks asking machine fun machine => (goOn machine).restored restore

end Resumption

namespace Running

instance : Monad Running where
  pure value := fun machine => .done (.ok value) machine
  bind action next := fun machine => (action machine).bind next

instance : MonadStateOf Machine Running where
  get := fun machine => .done (.ok machine) machine
  set machine := fun _ => .done (.ok ()) machine
  modifyGet change := fun machine =>
    let (value, machine) := change machine
    .done (.ok value) machine

instance : MonadExceptOf Leave Running where
  throw leave := fun machine => .done (.error leave) machine
  tryCatch action handle := fun machine =>
    (action machine).caught.bind fun result =>
      match result with
      | .ok value => pure value
      | .error leave => handle leave

def attempt {α : Type} (action : Running α) : Running (Except Leave α) :=
  fun machine => (action machine).caught

def restoring {α : Type} (action : Running α) (restore : Machine → Machine) : Running α :=
  fun machine => (action machine).restored restore

def ask (asking : Asking) : Running Unit :=
  fun machine => .asks asking machine fun machine => .done (.ok ()) machine

end Running

namespace Machine

def reportSignal (machine : Machine) (signal : Nat) : Machine :=
  if Signal.isTold signal then
    (machine.write 2 (Signal.description signal ++ ['\n'])).getD machine
  else machine

def subshell (machine : Machine) (process : Nat) : Machine :=
  { machine with
    process
    parent := machine.process
    kept := []
    isBroken := false
    overfull := []
    isCut := false
    unwritten := none
    pending := []
    traps := machine.traps.filter fun entry =>
      entry.2.isEmpty || (entry.1 = Signal.failure && machine.has .errtrace) ||
        (entry.1 = Signal.debugging && machine.has .functrace)
    jobs := []
    depth := machine.depth + 1 }

/-- What is in place of a process after it begins to run a program: what programs do not inherit is
as in a new shell. -/
def newProgram (machine : Machine) : Machine :=
  { machine with
    dialect := .plain
    kept := []
    number := machine.process
    bindings := machine.bindings.filterMap fun (name, entry) =>
      if entry.exported && entry.elements.isNone then
        entry.value.map fun value => (name, { Variable.ofText value with exported := true })
      else none
    functions := machine.functions.filter fun entry => entry.2.isExported
    frames := []
    statuses := []
    features := []
    stack := []
    channels := []
    depth := 0
    nesting := 0
    isGiven := false
    aliases := []
    tracked := []
    ignored := (machine.traps.filter fun entry => entry.2.isEmpty).map (·.1) ++ machine.ignored
    traps := []
    pending := []
    locals := none
    loops := 0
    status := 0
    saved := none
    captured := none
    line := 0
    reached := 1
    command := none
    switches := []
    jobs := []
    latestJob := none }

end Machine

namespace Running

/-- A fault in the script: it is named, and the shell ends unless something catches it. In the
extended dialect it ends the line. -/
def abandon {α : Type} (message : Text) : Running α := do
  if (← get).isExtended then
    modify fun machine => machine.refuse 1 message
    throw .line
  modify fun machine => machine.refuse 2 message
  throw .fault

def lacking {α : Type} (message : Text) : Running α := do
  modify fun machine => machine.refuse (if 0 < machine.depth then 1 else 127) message
  throw .shell

def die {α : Type} (signal : Nat) : Running α := throw (.killed signal)

/-! Waiting. -/

def wait (event : Event) : Running Unit := ask (.wait ⟨event, none, false⟩)

def pause (span : Nat) : Running Unit := do
  let time := (← get).clock + span
  ask (.wait ⟨.nothing, some time, true⟩)

/-- After what has been written: a process that writes where nobody reads dies, and one that has
written too much waits for room. -/
def settleOutput : Running Unit := do
  let machine ← get
  if machine.isBroken then
    set { machine with isBroken := false }
    die Signal.brokenPipe
  else if !machine.overfull.isEmpty then
    set { machine with overfull := [] }
    for pipe in machine.overfull.eraseDups do
      wait (.room pipe)
      let machine ← get
      if !machine.isRead pipe && !machine.notes Signal.brokenPipe then die Signal.brokenPipe

/-- How long one step takes, in millionths of a second. Where there have been many, each stands for
more and more. -/
def pace (steps : Nat) : Nat := if 1000000 < steps then 1 else if 800000 < steps then 5 else 20

def tick : Running Unit := fun machine =>
  let world := machine.world
  if world.steps = 0 then .done (.error .stopped) machine
  else
    let clock := world.clock + pace world.steps
    let machine := { machine with
      world := { world with steps := world.steps - 1, clock } }
    if machine.isBroken || !machine.overfull.isEmpty then settleOutput machine
    else if world.horizon ≤ clock then
      .asks (.wait ⟨.turn, none, false⟩) machine fun machine => .done (.ok ()) machine
    else .done (.ok ()) machine

def beginProgram : Running Unit := do
  modify fun machine =>
    let world := machine.world
    { machine with
      world := { world with steps := world.steps - 30, clock := world.clock + 400 } }
  tick

/-! Reading. What comes through a pipe is waited for. -/

/-- Waits until what can be read from a descriptor is enough, a time has come, or nothing more is
written. -/
def awaitText (descriptor : Nat) (limit : Option Nat) (isEnough : Text → Bool) :
    Nat → Running Unit
  | 0 => return ()
  | fuel + 1 => do
      let machine ← get
      match machine.pipeOf? descriptor with
      | none => return ()
      | some pipe =>
          let isLate := limit.any fun time => time ≤ machine.clock
          if isLate || !machine.isWritten pipe || isEnough (machine.world.pipeText pipe) then
            return ()
          let size := machine.world.pipeSize pipe
          ask (.wait ⟨.growth pipe size, limit, !machine.isExtended⟩)
          if (← get).pending.isEmpty then awaitText descriptor limit isEnough fuel

def patience : Nat := 1000000

def awaitLine (descriptor : Nat) : Running Unit :=
  awaitText descriptor none (fun text => text.contains '\n') patience

def readLine (descriptor : Nat) : Running (Text × Bool) := do
  awaitLine descriptor
  let (line, isEnded, machine) := (← get).readLine descriptor
  set machine
  return (line, isEnded)

def readSome (descriptor : Nat) : Running Text := do
  awaitText descriptor none (fun text => !text.isEmpty) patience
  let (text, machine) := (← get).readNow descriptor
  set machine
  return text

def readAll (descriptor : Nat) : Running Text := do
  let machine ← get
  if let some pipe := machine.pipeOf? descriptor then
    if machine.isWritten pipe then
      wait (.ending pipe)
      modify fun machine => { machine with isCut := machine.isWritten pipe }
  let (text, machine) := (← get).readNow descriptor
  set machine
  return text

/-! Other processes. -/

def fork (start : Machine → Machine) (task : Task) : Running Nat := fun machine =>
  let number := machine.world.nextProcess
  let machine := { machine with world.nextProcess := number + 1 }
  let child := start (machine.subshell number)
  .asks (.fork task child) { machine with world := child.world } fun machine =>
    .done (.ok number) machine

def awaitChild (number : Nat) : Running Ending := do
  let find (machine : Machine) : Option Ended :=
    machine.world.ended.find? fun entry => entry.number = number
  if (find (← get)).isNone then wait (.child number)
  let machine ← get
  match find machine with
  | some found => do
      set { machine with
        world.ended := machine.world.ended.filter fun entry => entry.number ≠ number }
      return found.ending
  | none => throw .stopped

def conclude (ending : Ending) : Running Unit := do
  if let .killed signal := ending then modify fun machine => machine.reportSignal signal
  modify fun machine => machine.fail ending.status

def inProcess (start : Machine → Machine) (task : Task) : Running Unit := do
  let number ← fork start task
  let ending ← awaitChild number
  modify Machine.reap
  conclude ending

/-- Sends a signal and tells whether there is a process of that number. Zero stands for the group of
the sender. -/
def send (signal number : Nat) : Running Bool := do
  if (← get).isExtended then modify Machine.reap
  let machine ← get
  let world := machine.world
  let targets : List Nat :=
    if number ≠ 0 then [number]
    else
      (world.processes.filter fun process => process.group = machine.group).map (·.number)
  if number ≠ 0 && !world.hasProcess number then return false
  let messages := targets.map fun number => (⟨number, signal⟩ : Message)
  set { machine with world.sent := world.sent ++ messages }
  wait .turn
  return true

end Running

end ArtifactTools.Shell
