import ArtifactTools.Host.Layout
import ArtifactTools.Host.Program
import ArtifactTools.Shell.Command

/-! What all processes share: the files of the host, the pipes and the open files, the processes that
there are, and the clock. A pipe has an end to read where some process has it open for reading, and
an end to write where some process has it open for writing. -/

namespace ArtifactTools.Shell

/-- What an open file reads from and writes to. Pipes and files are numbered; the first pipe takes the
error output of the whole run. -/
inductive Target where
  | device (device : Device)
  | directory
  | pipe (number : Nat)
  | file (number : Nat)
  | program
  deriving DecidableEq, Repr

def Target.pipe? : Target → Option Nat
  | .pipe number => some number
  | _ => none

structure Ahead where
  revision : Nat
  position : Nat
  text : Text
  deriving DecidableEq, Repr

structure OpenFile where
  target : Target
  position : Nat
  appends : Bool
  isReadable : Bool
  isWritable : Bool
  ahead : Option Ahead
  deriving DecidableEq, Repr

namespace OpenFile

def reading (target : Target) : OpenFile := ⟨target, 0, false, true, false, none⟩

def writing (target : Target) (appends : Bool) : OpenFile :=
  ⟨target, 0, appends, false, true, none⟩

end OpenFile

/-- What has been written to a pipe and not read: what comes first, and the pieces after it, the
latest first. How often the pipe has been opened for reading and for writing is counted. -/
structure Pipe where
  front : Text
  back : List Text
  size : Nat
  readings : Nat
  writings : Nat
  deriving DecidableEq, Repr

namespace Pipe

def capacity : Nat := 65536

def empty : Pipe := ⟨[], [], 0, 0, 0⟩

def text (pipe : Pipe) : Text :=
  if pipe.back.isEmpty then pipe.front else pipe.front ++ pipe.back.reverse.flatten

def add (pipe : Pipe) (text : Text) : Pipe :=
  if text.isEmpty then pipe
  else { pipe with back := text :: pipe.back, size := pipe.size + text.length }

def drop (pipe : Pipe) (count : Nat) : Pipe :=
  { pipe with
    front := pipe.text.drop count
    back := []
    size := pipe.size - count }

end Pipe

inductive Ending where
  | exited (status : Nat)
  | killed (signal : Nat)
  deriving DecidableEq, Repr

def Ending.status : Ending → Nat
  | .exited status => status % 256
  | .killed signal => 128 + signal

/-- Why something cannot be written: there is nothing open to write to, there is no room, or nobody
reads it any more. -/
inductive WriteFault where
  | closed
  | full
  | broken
  deriving DecidableEq, Repr

def WriteFault.message : WriteFault → String
  | .closed => "Bad file descriptor"
  | .full => "No space left on device"
  | .broken => "Broken pipe"

/-- A process: its number, those of its parent and its group, and the open files that it refers to
by descriptors. -/
structure Process where
  number : Nat
  parent : Nat
  group : Nat
  descriptors : List (Nat × Nat)
  isStopped : Bool
  deriving DecidableEq, Repr

structure Ended where
  number : Nat
  parent : Nat
  ending : Ending
  deriving DecidableEq, Repr

structure Message where
  process : Nat
  signal : Nat
  deriving DecidableEq, Repr

/-- The clock tells the time since the beginning in millionths of a second. Another process has its
turn at the `horizon`; text in a pipe that is `awaited` brings it near. So many `steps` are left
before a run counts as endless. -/
structure World where
  tree : FileTree
  clock : Nat
  horizon : Nat
  awaited : List Nat
  steps : Nat
  pipes : Array Pipe
  openFiles : Array OpenFile
  spare : List Nat
  sparePipes : List Nat
  processes : List Process
  ended : List Ended
  sent : List Message
  nextProcess : Nat

namespace World

def refers (world : World) (descriptors : List (Nat × Nat)) (test : OpenFile → Bool) : Bool :=
  descriptors.any fun entry => (world.openFiles[entry.2]?).any test

def isHeld (world : World) (besides : Option Nat) (test : OpenFile → Bool) : Bool :=
  world.processes.any fun process =>
    some process.number ≠ besides && world.refers process.descriptors test

def reads (pipe : Nat) (file : OpenFile) : Bool := file.target = .pipe pipe && file.isReadable

def writes (pipe : Nat) (file : OpenFile) : Bool := file.target = .pipe pipe && file.isWritable

def modifyPipe (world : World) (number : Nat) (change : Pipe → Pipe) : World :=
  { world with pipes := world.pipes.modify number change }

def pipeText (world : World) (number : Nat) : Text := ((world.pipes[number]?).map (·.text)).getD []

def pipeSize (world : World) (number : Nat) : Nat := ((world.pipes[number]?).map (·.size)).getD 0

def newPipe (world : World) (content : Text) : Nat × World :=
  let pipe := Pipe.empty.add content
  match world.sparePipes with
  | number :: sparePipes =>
      (number, { world with pipes := world.pipes.setIfInBounds number pipe, sparePipes })
  | [] => (world.pipes.size, { world with pipes := world.pipes.push pipe })

def countOpening (world : World) (file : OpenFile) : World :=
  match file.target with
  | .pipe number =>
      world.modifyPipe number fun pipe =>
        { pipe with
          readings := pipe.readings + (if file.isReadable then 1 else 0)
          writings := pipe.writings + (if file.isWritable then 1 else 0) }
  | _ => world

def takeUp (world : World) (file : OpenFile) : Nat × World :=
  let world := world.countOpening file
  match world.spare with
  | index :: spare =>
      (index, { world with openFiles := world.openFiles.setIfInBounds index file, spare })
  | [] => (world.openFiles.size, { world with openFiles := world.openFiles.push file })

def setOpenFile (world : World) (index : Nat) (file : OpenFile) : World :=
  { world with openFiles := world.openFiles.setIfInBounds index file }

def noticeTime : Nat := 60

def addToPipe (world : World) (number : Nat) (text : Text) : World :=
  let world := world.modifyPipe number (·.add text)
  if world.awaited.contains number then
    { world with horizon := min world.horizon (world.clock + noticeTime) }
  else world

def write (world : World) (index : Nat) (file : OpenFile) (text : Text) :
    Except WriteFault World :=
  match file.target with
  | .device .full => if text.isEmpty then .ok world else .error .full
  | .pipe number => .ok (world.addToPipe number text)
  | .file number =>
      match world.tree.files[number]? with
      | some stored =>
          if text.isEmpty then .ok world
          else
            let position := if file.appends then stored.size else file.position
            let octets := text.toOctets
            let tree := world.tree.modifyContent number (·.overwrite position octets)
            .ok ({ world with tree }.setOpenFile index
              { file with position := position + octets.length })
      | none => .ok world
  | _ => .ok world

def portion : Nat := 4096

def unread (world : World) (file : OpenFile) : Text :=
  match file.target with
  | .device .zeros | .device .full => List.replicate portion '\x00'
  | .device .random => (List.range portion).map fun index => Char.ofNat (index * 167 % 251)
  | .pipe number => world.pipeText number
  | .file number =>
      match world.tree.files[number]? with
      | none => []
      | some stored =>
          match file.ahead with
          | some ahead =>
              if ahead.revision = stored.revision && ahead.position = file.position then ahead.text
              else Text.ofOctets (stored.content.drop file.position)
          | none => Text.ofOctets (stored.content.drop file.position)
  | _ => []

def consume (world : World) (index : Nat) (file : OpenFile) (text : Text) (count : Nat) : World :=
  match file.target with
  | .pipe number => if count = 0 then world else world.modifyPipe number (·.drop count)
  | .file number =>
      match world.tree.files[number]? with
      | none => world
      | some stored =>
          let position := file.position + count
          world.setOpenFile index
            { file with position, ahead := some ⟨stored.revision, position, text.drop count⟩ }
  | _ => world

def processOf? (world : World) (number : Nat) : Option Process :=
  world.processes.find? fun process => process.number = number

def hasProcess (world : World) (number : Nat) : Bool :=
  (world.processOf? number).isSome || world.ended.any fun entry => entry.number = number

def others (size : Nat) (used : List Nat) : List Nat :=
  let marks := used.foldl (fun (marks : Array Bool) number => marks.setIfInBounds number true)
    (Array.replicate size false)
  (List.range size).filter fun number => !marks.getD number true

def roomy : Nat := 200

/-- Makes room where open files and pipes are many: the places of those that nobody refers to are
used again. -/
def tidy (world : World) : World :=
  let used : List Nat := world.processes.flatMap fun process => process.descriptors.map (·.2)
  let world :=
    if roomy < world.openFiles.size && world.spare.length * 2 < world.openFiles.size then
      { world with spare := others world.openFiles.size used }
    else world
  if roomy < world.pipes.size && world.sparePipes.length * 2 < world.pipes.size then
    let inUse : List Nat := used.filterMap fun index =>
      (world.openFiles[index]?).bind fun file => file.target.pipe?
    let named : List Nat := world.tree.nodes.filterMap fun entry =>
      match entry.2 with
      | Node.pipe number _ => some number
      | _ => none
    { world with sparePipes := others world.pipes.size (0 :: inUse ++ named) }
  else world

def still (tree : FileTree) (steps : Nat) : World :=
  { tree
    clock := 0
    horizon := 0
    awaited := []
    steps
    pipes := #[]
    openFiles := #[]
    spare := []
    sparePipes := []
    processes := []
    ended := []
    sent := []
    nextProcess := 0 }

end World

end ArtifactTools.Shell
