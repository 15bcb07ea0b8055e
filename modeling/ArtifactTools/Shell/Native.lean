import ArtifactTools.Shell.Native.Checksums
import ArtifactTools.Shell.Native.Circumstances
import ArtifactTools.Shell.Native.Columns
import ArtifactTools.Shell.Native.Comparison
import ArtifactTools.Shell.Native.Condition
import ArtifactTools.Shell.Native.Dates
import ArtifactTools.Shell.Native.Environment
import ArtifactTools.Shell.Native.Expression
import ArtifactTools.Shell.Native.Limits
import ArtifactTools.Shell.Native.Listing
import ArtifactTools.Shell.Native.Modes
import ArtifactTools.Shell.Native.Names
import ArtifactTools.Shell.Native.Order
import ArtifactTools.Shell.Native.Search
import ArtifactTools.Shell.Native.Sequence
import ArtifactTools.Shell.Native.Status
import ArtifactTools.Shell.Native.Transfers
import ArtifactTools.Shell.Native.Translation
import ArtifactTools.Shell.Native.Writing

/-! Programs of the host other than the shell. -/

namespace ArtifactTools.Shell.Native

def unwrittenFault (program : NativeProgram) (fault : WriteFault) : Nat × List Text :=
  let reason := words fault.message
  let usual : Text := words "write error: " ++ reason
  match program with
  | .concatenate =>
      (1, [if fault = .closed then words "standard output: " ++ reason else usual])
  | .checksum | .countWords | .digest _ | .sum =>
      (1, [if fault = .full then words "write error" else usual])
  | .compareOctets =>
      if fault = .full then (2, [words "standard output: " ++ reason]) else (1, [])
  | .sort =>
      (2, [words "fflush failed: 'standard output': " ++ reason, words "write error"])
  | .repeatLine => (1, [words "standard output: " ++ reason])
  | .tee => (1, [words "'standard output': " ++ reason])
  | .search _ | .list => (2, [usual])
  | .printVariables => (2, [usual])
  | .calculate => (3, [usual])
  | .environment => (125, [usual])
  | _ => (1, [usual])

/-- Does what a program of the host does, under the name it was started by. Some programs `start`
others in their own place. -/
def perform (start : Invocation → Running Unit) (program : NativeProgram) (name : Text)
    (arguments : List Text) : Running Unit :=
  match program with
  | .shell _ => return ()
  | .baseName => baseName name arguments
  | .calculate => calculate name arguments
  | .changeMode => changeMode name arguments
  | .checksum => checksum name arguments
  | .common => common name arguments
  | .compareOctets => compareOctets name arguments
  | .concatenate => concatenate name arguments
  | .copy => copy name arguments
  | .count => count name arguments
  | .countWords => countWords name arguments
  | .cut => cut name arguments
  | .date => date name arguments
  | .digest label => summarize label name arguments
  | .directoryName => directoryName name arguments
  | .echo => echo arguments
  | .environment => do
      match ← environment name arguments with
      | some invocation => start invocation
      | none => return ()
  | .expand => expand name arguments
  | .fail => modify fun machine => machine.fail 1
  | .fold => fold name arguments
  | .format => format name arguments
  | .groups => groups name arguments
  | .head => head name arguments
  | .hostName => hostName name arguments
  | .identity => identity name arguments
  | .install => install name arguments
  | .join => join name arguments
  | .limitTime => limitTime name arguments
  | .link => link name arguments
  | .linkPlainly => linkPlainly name arguments
  | .list => list name arguments
  | .loginName => loginName name arguments
  | .makeDirectories => makeDirectories name arguments
  | .makeNode => makeNode name arguments
  | .makePipes => makePipes name arguments
  | .makeTemporary => makeTemporary name arguments
  | .move => move name arguments
  | .numberLines => numberLines name arguments
  | .paste => paste name arguments
  | .printVariables => printVariables name arguments
  | .processors => processors name arguments
  | .readLink => readLink name arguments
  | .realPath => realPath name arguments
  | .remove => remove name arguments
  | .removeDirectories => removeDirectories name arguments
  | .repeatLine => repeatLine name arguments
  | .reverse => reverse name arguments
  | .reverseLines => reverseLines name arguments
  | .runBuffered => runBuffered start name arguments
  | .runDetached => runDetached start name arguments
  | .runInGroup => runInGroup start name arguments
  | .runNicely => runNicely start name arguments
  | .search kind => search kind name arguments
  | .sleep => sleep name arguments
  | .sort => sort name arguments
  | .status => status name arguments
  | .succeed => succeed
  | .sum => sum name arguments
  | .system => system name arguments
  | .tail => tail name arguments
  | .tee => tee name arguments
  | .tell text => tell 1 text name arguments
  | .terminal => terminal name arguments
  | .test isBracketed => test isBracketed name arguments
  | .touch => touch name arguments
  | .translate => translate name arguments
  | .truncate => truncate name arguments
  | .unique => unique name arguments
  | .unlink => unlink name arguments
  | .which => which name arguments
  | .workingDirectory => workingDirectory name arguments

/-- Runs a program of the host to its end. One that has read what has no end never comes to its
own, and output that could not be written is told of. -/
def run (start : Invocation → Running Unit) (program : NativeProgram) (name : Text)
    (arguments : List Text) : Running Unit := do
  modify fun machine => { machine with unwritten := none, isCut := false }
  match ← Running.attempt (perform start program name arguments) with
  | .ok () | .error .shell => pure ()
  | .error leave => throw leave
  let machine ← get
  if machine.isCut then Running.wait .nothing
  if let some fault := machine.unwritten then
    let (status, lines) := unwrittenFault program fault
    complain status (lines.map (name ++ words ": " ++ ·))
    modify fun machine => { machine with unwritten := none }

end ArtifactTools.Shell.Native
