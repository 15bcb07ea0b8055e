import ArtifactTools.Shell.Options
import ArtifactTools.Shell.Pattern
import ArtifactTools.Shell.Signal
import ArtifactTools.Shell.Variable
import ArtifactTools.Shell.World

/-! The state of a running process: what all processes share, its descriptors, variables, functions,
traps and jobs. -/

namespace ArtifactTools.Shell

def words (text : String) : Text := Text.ofString text

/-- A command in the background: its place in the list of jobs, and its processes with their endings
as far as these are known. The last process gives the job its number and its status. Once it has
been waited for it `isGone` as a process. -/
structure Job where
  place : Nat
  processes : List (Nat × Option Ending)
  isGone : Bool
  deriving DecidableEq, Repr

namespace Job

def number (job : Job) : Nat := (job.processes.getLast?.map (·.1)).getD 0

def hasEnded (job : Job) : Bool := job.processes.all fun entry => entry.2.isSome

def ending? (job : Job) : Option Ending := job.processes.getLast?.bind (·.2)

def status (job : Job) : Nat := (job.ending?.map (·.status)).getD 0

end Job

/-- The arguments of a script or a function, and how far the reading of options among them has come:
the number of the next argument, and the number of characters taken of the one before it. -/
structure Arguments where
  list : List Text
  next : Nat
  taken : Option Nat
  deriving DecidableEq, Repr

/-- A function: what it runs, the name of the script that it stands in, and whether other shells get
it too. -/
structure Function where
  body : Command
  origin : Text
  isExported : Bool

/-- A function or another script that runs: its name, the name of the script that it stands in, the
line of its call, and its arguments. -/
structure Frame where
  function : Text
  origin : Text
  line : Nat
  deriving DecidableEq, Repr

/-- A command whose program has been found: the number of its directory among those that are
searched, its path, how often it has been run from there, and whether the working directory has
changed since. -/
structure Tracked where
  name : Text
  place : Nat
  path : Text
  uses : Nat
  isDoubtful : Bool
  deriving DecidableEq, Repr

/-- A complaint names the shell, the `line` and the `command` of the shell's own that runs, whose
`output` is written when it has ended; reading has `reached` a later line. A `process` may be in the
place of the shell with the `number`; its own shell is its `parent`. Open files are referred to by
`descriptors`, and some are `kept` to be referred to again. A pipe that nobody reads `isBroken`, and
those that hold too much are `overfull`;
what has been read from one without an end `isCut`, and a fault in writing leaves something
`unwritten`. In a function `locals` holds the former values of its
variables. `saved` is the status from before a trap was run, and `captured` that of the latest
command whose output took its own place. Signals are `pending` until their traps are run. The
working directory is `shown` by the names that have led to it, which may be those of links. In the
extended dialect `frames` holds what runs, the innermost first, `statuses` those of the latest
pipeline, `features` what is turned on by name, `stack` the directories to come back to, `channels`
the descriptors of files that commands write or read, `lists` what is to be declared, `depth` the
number of subshells around this one, and `nesting` how deep scripts stand within each other. A
script that `isGiven` is an argument. -/
structure Machine where
  dialect : Dialect
  world : World
  directory : Location
  shown : Text
  descriptors : List (Nat × Nat)
  kept : List (Nat × Nat)
  isBroken : Bool
  overfull : List Nat
  isCut : Bool
  unwritten : Option WriteFault
  number : Nat
  process : Nat
  parent : Nat
  group : Nat
  jobs : List Job
  latestJob : Option Nat
  pending : List Nat
  name : Text
  line : Nat
  reached : Nat
  command : Option Text
  output : Text
  arguments : Arguments
  bindings : List (Text × Variable)
  functions : List (Text × Function)
  aliases : List (Text × Text)
  tracked : List Tracked
  traps : List (Nat × Text)
  ignored : List Nat
  locals : Option (List (Text × Option Variable))
  loops : Nat
  status : Nat
  saved : Option Nat
  captured : Option Nat
  mask : Nat
  switches : List Switch
  isTracing : Bool
  isGiven : Bool
  frames : List Frame
  statuses : List Nat
  features : List String
  stack : List Text
  channels : List Nat
  lists : List (Text × List Entry)
  depth : Nat
  nesting : Nat
  seed : Nat

def Arguments.ofList (list : List Text) : Arguments := ⟨list, 1, none⟩

def Arguments.replaced (arguments : Arguments) (list : List Text) : Arguments :=
  { arguments with list }

namespace Machine

def has (machine : Machine) (switch : Switch) : Bool := machine.switches.contains switch

def turn (machine : Machine) (switch : Switch) (value : Bool) : Machine :=
  let others := machine.switches.filter (· ≠ switch)
  { machine with switches := if value then switch :: others else others }

def valueOf? (machine : Machine) (name : Text) : Option Text :=
  (machine.bindings.lookup name).bind (·.text?)

def forget (machine : Machine) (name : Text) : Machine :=
  { machine with bindings := machine.bindings.filter fun entry => entry.1 ≠ name }

def putVariable (machine : Machine) (name : Text) (entry : Variable) : Machine :=
  { machine.forget name with bindings := (name, entry) :: (machine.forget name).bindings }

def variableOf (machine : Machine) (name : Text) : Variable :=
  (machine.bindings.lookup name).getD .unset

def setVariable (machine : Machine) (name value : Text) : Machine :=
  let entry := machine.variableOf name
  machine.putVariable name
    { entry.withText value with exported := entry.exported || machine.has .allexport }

def restoreVariable (machine : Machine) (name : Text) (entry : Option Variable) : Machine :=
  match entry with
  | none => machine.forget name
  | some entry => machine.putVariable name entry

def readNumber? (text : Text) : Option Nat :=
  let isSpace (character : Char) : Bool := " \t\n\x0b\x0c\r".contains character
  let body := text.dropWhile isSpace
  let body :=
    match body with
    | '+' :: rest => rest
    | '-' :: '0' :: rest => '0' :: rest
    | rest => rest
  let digits := body.takeWhile isDigit
  if !digits.isEmpty && (body.drop digits.length).all isSpace &&
      Decimal.value digits < Nat.pow 2 31 then some (Decimal.value digits)
  else none

def illegalNumber (text : Text) : Text := words "Illegal number: " ++ text

/-- Sets a variable by its name, unless the name is no name or the variable is protected. Setting
the place of the next option begins the reading of options anew. -/
def assign (machine : Machine) (name value : Text) : Except Text Machine :=
  if !isName name then .error (name ++ words ": bad variable name")
  else if (machine.variableOf name).isReadOnly then .error (name ++ words ": is read only")
  else if name = words "OPTIND" then
    match readNumber? value with
    | none => .error (illegalNumber value)
    | some place =>
        .ok ({ machine with
          arguments := { machine.arguments with next := max place 1, taken := none } }.setVariable
            name value)
  else if name = words "PATH" then
    .ok ({ machine with tracked := [] }.setVariable name value)
  else .ok (machine.setVariable name value)

def fail (machine : Machine) (status : Nat) : Machine := { machine with status }

/-! What all processes share. -/

def tree (machine : Machine) : FileTree := machine.world.tree

def withTree (machine : Machine) (tree : FileTree) : Machine := { machine with world.tree := tree }

def clock (machine : Machine) : Nat := machine.world.clock

def masked (machine : Machine) (mode : Nat) : Nat := mode - (mode &&& machine.mask)

def fileMode (machine : Machine) : Nat := machine.masked 0o666

def directoryMode (machine : Machine) : Nat := machine.masked 0o777

def holdings (machine : Machine) : List (Nat × Nat) := machine.descriptors ++ machine.kept

def ignores (machine : Machine) (signal : Nat) : Bool :=
  match machine.traps.lookup signal with
  | some action => action.isEmpty
  | none => machine.ignored.contains signal

def notes (machine : Machine) (signal : Nat) : Bool :=
  (machine.traps.lookup signal).isSome || machine.ignored.contains signal

def hasTraps (machine : Machine) : Bool := machine.traps.any fun entry => !entry.2.isEmpty

/-! Descriptors. -/

def openFile? (machine : Machine) (descriptor : Nat) : Option (Nat × OpenFile) :=
  (machine.descriptors.lookup descriptor).bind fun index =>
    machine.world.openFiles[index]?.map fun file => (index, file)

def detach (machine : Machine) (descriptor : Nat) : Machine :=
  { machine with descriptors := machine.descriptors.filter fun entry => entry.1 ≠ descriptor }

def attach (machine : Machine) (descriptor : Nat) (file : OpenFile) : Machine :=
  let (index, world) := machine.world.takeUp file
  { machine with
    world
    descriptors := (descriptor, index) ::
      machine.descriptors.filter fun entry => entry.1 ≠ descriptor }

def duplicate (machine : Machine) (descriptor source : Nat) : Option Machine :=
  (machine.descriptors.lookup source).map fun index =>
    { machine with
      descriptors := (descriptor, index) ::
        machine.descriptors.filter fun entry => entry.1 ≠ descriptor }

def freeFrom (machine : Machine) (first : Nat) : Nat :=
  let used := machine.descriptors.map (·.1)
  (((List.range (used.length + 1)).map (· + first)).find? fun number =>
    !used.contains number).getD first

def newPipe (machine : Machine) (content : Text) : Nat × Machine :=
  let (number, world) := machine.world.newPipe content
  (number, { machine with world })

def isRead (machine : Machine) (pipe : Nat) : Bool :=
  machine.world.isHeld (some machine.process) (World.reads pipe) ||
    machine.world.refers machine.holdings (World.reads pipe)

def isWritten (machine : Machine) (pipe : Nat) : Bool :=
  machine.world.isHeld (some machine.process) (World.writes pipe) ||
    machine.world.refers machine.holdings (World.writes pipe)

def writePipe (machine : Machine) (number : Nat) (text : Text) : Except WriteFault Machine :=
  if number ≠ 0 && !machine.isRead number then
    if machine.notes Signal.brokenPipe then .error .broken
    else .ok { machine with isBroken := true }
  else
    let world := machine.world.addToPipe number text
    let isOver := number ≠ 0 && Pipe.capacity < world.pipeSize number
    .ok { machine with
      world
      overfull := if isOver then number :: machine.overfull else machine.overfull }

def writeTo (machine : Machine) (descriptor : Nat) (text : Text) : Except WriteFault Machine :=
  match (machine.openFile? descriptor).filter fun found => found.2.isWritable with
  | none => if text.isEmpty then .ok machine else .error .closed
  | some (index, file) =>
      match file.target with
      | .pipe number => if text.isEmpty then .ok machine else machine.writePipe number text
      | _ => (machine.world.write index file text).map fun world => { machine with world }

def write (machine : Machine) (descriptor : Nat) (text : Text) : Option Machine :=
  (machine.writeTo descriptor text).toOption

def remaining (machine : Machine) (descriptor : Nat) : Option (Nat × OpenFile × Text) :=
  ((machine.openFile? descriptor).filter fun found => found.2.isReadable).map fun (index, file) =>
    (index, file, machine.world.unread file)

def holdsDirectory (machine : Machine) (descriptor : Nat) : Bool :=
  (machine.openFile? descriptor).any fun found => found.2.target = .directory

def pipeOf? (machine : Machine) (descriptor : Nat) : Option Nat :=
  (machine.openFile? descriptor).bind fun found => found.2.target.pipe?

def targetOf? (machine : Machine) : Node → Option Target
  | .directory _ => some .directory
  | .file number => some (.file number)
  | .native _ => some .program
  | .pipe number _ => some (.pipe number)
  | .device (.descriptor number) => (machine.openFile? number).map (·.2.target)
  | .device device => some (.device device)
  | .link _ => none

def advance (machine : Machine) (index : Nat) (file : OpenFile) (text : Text) (count : Nat) :
    Machine :=
  { machine with world := machine.world.consume index file text count }

def readNow (machine : Machine) (descriptor : Nat) : Text × Machine :=
  match machine.remaining descriptor with
  | none => ([], machine)
  | some (index, file, rest) => (rest, machine.advance index file rest rest.length)

def readLine (machine : Machine) (descriptor : Nat) : Text × Bool × Machine :=
  match machine.remaining descriptor with
  | none => ([], false, machine)
  | some (index, file, rest) =>
      let line := rest.takeWhile (· ≠ '\n')
      let size := line.length
      match rest.drop size with
      | [] => (line, false, machine.advance index file rest size)
      | _ => (line, true, machine.advance index file rest (size + 1))

def isExtended (machine : Machine) : Bool := machine.dialect = .extended

def origin (machine : Machine) : Text := (machine.frames.head?.map (·.origin)).getD machine.name

def place (machine : Machine) : Text :=
  if machine.isExtended then machine.origin ++ words ": line " else machine.name ++ words ": "

def writeLines (machine : Machine) : Machine :=
  if machine.isExtended then
    let rest := (machine.output.reverse.takeWhile (· ≠ '\n')).reverse
    let lines := machine.output.take (machine.output.length - rest.length)
    { (machine.write 1 lines).getD machine with output := rest }
  else machine

def complain (machine : Machine) (message : Text) : Machine :=
  let machine := machine.writeLines
  let place := machine.place ++ Decimal.digits machine.line ++ words ": "
  let command := (machine.command.map (· ++ words ": ")).getD []
  (machine.write 2 (place ++ command ++ message ++ ['\n'])).getD machine

def refuse (machine : Machine) (status : Nat) (message : Text) : Machine :=
  (machine.complain message).fail status

def reap (machine : Machine) : Machine :=
  let (own, others) := machine.world.ended.partition fun entry => entry.parent = machine.process
  if own.isEmpty then machine
  else
    let note (entry : Nat × Option Ending) : Nat × Option Ending :=
      match own.find? fun found => found.number = entry.1 with
      | some found => (entry.1, some found.ending)
      | none => entry
    { machine with
      world.ended := others
      jobs := machine.jobs.map fun job => { job with processes := job.processes.map note } }

def plainWording (error : HostError) : Text :=
  ((words error.message).takeWhile (· ≠ '(')).reverse.dropWhile (· = ' ') |>.reverse

def wording (missing : String) : HostError → Text
  | .missing | .notDirectory => words missing
  | error => plainWording error

end Machine

end ArtifactTools.Shell
