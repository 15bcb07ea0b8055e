import ArtifactTools.Shell.Assigning
import ArtifactTools.Shell.Builtins
import ArtifactTools.Shell.Expansion
import ArtifactTools.Shell.Running

/-! Single steps of running a script: how a command is called, how a loop goes on after a round, and
how what was before comes back. -/

namespace ArtifactTools.Shell.Run

open Running

/-- A command that is to be run: its words, and what the words before them say: whether functions
count, whether the search goes to the usual places, and whether only the shell's own commands count.
All of them are `printed` in a trace. -/
structure Call where
  printed : List Text
  words : List Text
  isPlain : Bool
  isUsual : Bool
  isOwn : Bool

def Call.name (call : Call) : Text := call.words.head?.getD []

def Call.isSpecial (call : Call) : Bool := Shell.isSpecial call.name && !call.isPlain

def ofExcept {α : Type} : Except Text α → Running α
  | .ok value => return value
  | .error message => abandon message

def accept (answer : Bool × Machine) : Running Unit := do
  let (isDone, machine) := answer
  set (if isDone then machine else machine.fail 1)
  if !isDone then throw .line

def assign (name value : Text) : Running Unit := do
  let machine ← get
  if machine.isExtended then accept (Assigning.assign machine name none false value)
  else set (← ofExcept (machine.assign name value))

/-- The number that an expression comes to. Without one the line ends, after what is wrong has been
told behind a mark. -/
def calculate (mark text : Text) : Running Int := do
  let (result, machine) := Calculation.evaluate (← get) text
  set machine
  match result with
  | .ok number => return number
  | .error (.unbound name) => lacking (name ++ words ": unbound variable")
  | .error fault =>
      match fault.message? with
      | some message => abandon (mark ++ message)
      | none => do
          modify fun machine => machine.fail 1
          throw .line

def lackingName {α : Type} (machine : Machine) (name : Text) : Running α :=
  if machine.isExtended then
    lacking ((if isName name then name else '$' :: name) ++ words ": unbound variable")
  else abandon (Expansion.unsetMessage name)

def elementOf (name inside : Text) : Running (Option Text) := do
  let elements := (((← get).lookup? name).getD .unset).toElements false
  if elements.isNamed then return elements.get? (.name inside)
  if inside.isEmpty then
    abandon (name ++ words ": bad array subscript")
  let number ← calculate [] inside
  match Machine.numberedKey? elements number with
  | some key => return elements.get? key
  | none => do
      modify fun machine => machine.complain (name ++ words ": bad array subscript")
      return none

def draw (name : Text) : Running Unit := do
  let machine ← get
  if machine.isExtended && name = words "RANDOM" then
    let (number, machine) := machine.random
    set (machine.putVariable name (.ofText (Decimal.digits number)))

def setStatus (status : Nat) : Running Unit := modify fun machine => machine.fail status

def noteStatus : Running Unit :=
  modify fun machine => { machine with statuses := [machine.status] }

def checkStatus (tested : Bool) : Running Unit := do
  let machine ← get
  if machine.status ≠ 0 && machine.has .errexit && !tested then throw .shell

/-- Tells of a fault in a script, whose text may have a label. The fault ends the script, unless only
the rest of its line is skipped. -/
def reportFault (label : Option Text) (fault : Fault) : Running Unit := do
  let machine ← get
  if machine.isExtended then
    let start := machine.origin ++ words ": " ++ (label.map (· ++ words ": ")).getD [] ++
      words "line "
    let lines := (fault.messages ++ fault.place).flatMap fun (line, text) =>
      start ++ Decimal.digits line ++ words ": " ++ text ++ ['\n']
    set (((machine.write 2 lines).getD machine).fail (if fault.skips then 1 else 2))
    if fault.skips then return ()
    throw .fault
  let line := (fault.messages.head?.map (·.1)).getD machine.line
  modify fun machine => { machine with line }
  abandon (words "Syntax error: " ++ fault.messages.flatMap (·.2))

def warnOfDocuments (source : Source) : Running Unit := do
  let machine ← get
  if machine.isExtended then
    for (line, ending) in source.openDocuments do
      let text := machine.origin ++ words ": line " ++ Decimal.digits source.line ++
        words ": warning: here-document at line " ++ Decimal.digits line ++
        words " delimited by end-of-file (wanted \x60" ++ ending ++ words "')\n"
      modify fun machine => (machine.write 2 text).getD machine

def afterRound {α : Type} (result : Except Leave α) (goOn : Option α → Running Unit) :
    Running Unit := do
  match result with
  | .ok value => goOn (some value)
  | .error (.loops count) => if 1 < count then throw (.loops (count - 1))
  | .error (.round count) => if 1 < count then throw (.round (count - 1)) else goOn none
  | .error leave => throw leave

def inLoop (action : Running Unit) : Running Unit := do
  let loops := (← get).loops
  modify fun machine => { machine with loops := loops + 1 }
  restoring action fun machine => { machine with loops }

def outsideLoops (machine : Machine) : Machine :=
  if machine.isExtended then { machine with loops := 0 } else machine

def processFor (command : Command) (machine : Machine) : Machine :=
  match command with
  | .simple .. => machine
  | _ => outsideLoops machine

def unassign (before : Machine) (names : List Text) (machine : Machine) : Machine :=
  let restored := names.foldl (fun machine name =>
    machine.restoreVariable name (before.bindings.lookup name)) machine
  if names.contains (words "PATH") then { restored with tracked := before.tracked } else restored

def writeAs (before : Machine) (text : Text) (machine : Machine) : Machine :=
  let written := ({ machine with descriptors := before.descriptors }.write 2 text).getD machine
  { written with descriptors := machine.descriptors }

/-- Waits until a test holds of the jobs as they are known by then, or a signal comes that is
trapped. Gives the signal. -/
def waitUntil (isOver : Machine → Bool) : Nat → Running (Option Nat)
  | 0 => throw .stopped
  | fuel + 1 => do
      modify Machine.reap
      let machine ← get
      let signals := machine.pending.filter (· ≠ Signal.child)
      if isOver machine then return none
      else if let signal :: _ := signals then return some signal
      else do
        ask (.wait ⟨.anyChild, none, true⟩)
        waitUntil isOver fuel

def hasEnded (place : Nat) (machine : Machine) : Bool :=
  ((machine.jobs.find? fun job => job.place = place).map (·.hasEnded)).getD true

/-- Waits until a job has ended, and gives it as it is then. A signal that comes before has a status
of its own. -/
def waitForJob (job : Job) : Running (Option Job) := do
  match ← waitUntil (hasEnded job.place) patience with
  | some signal => do
      setStatus (128 + signal)
      return none
  | none => return (← get).jobs.find? fun other => other.place = job.place

def hidden : Nat := 1000

def deepest : Nat := 1000

def closeChannels (count : Nat) (machine : Machine) : Machine :=
  let closed := machine.channels.take (machine.channels.length - count)
  { closed.foldl Machine.detach machine with
    channels := machine.channels.drop (machine.channels.length - count) }

def awaitStages : List Nat → Running (List Ending)
  | [] => return []
  | number :: rest => do
      let ending ← awaitChild number
      if let (.killed signal, false) := (ending, rest.isEmpty) then
        modify fun machine => machine.reportSignal signal
      return ending :: (← awaitStages rest)

def perform {α : Type} (action : Doing α) : Running α := do
  let (result, machine) := action.run.run (← get)
  set machine
  ofExcept result

end ArtifactTools.Shell.Run
