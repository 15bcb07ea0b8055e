import ArtifactTools.Shell.Builtin.Basic
import ArtifactTools.Shell.Builtin.Directories
import ArtifactTools.Shell.Builtin.Jobs
import ArtifactTools.Shell.Builtin.Names
import ArtifactTools.Shell.Builtin.Variables
import ArtifactTools.Shell.Format
import ArtifactTools.Shell.Test

/-! The shell's own commands that write text or test something, and all of its own commands by their
names, but for those that run other commands or change where running goes on. -/

namespace ArtifactTools.Shell.Builtin

def echo (arguments : List Text) : Doing Nat := do
  Doing.say (Format.echo true arguments)
  return 0

def format (arguments : List Text) : Doing Nat := do
  let (_, arguments) ← Doing.options [] arguments
  match arguments with
  | [] => Doing.misuse (words "usage: printf format [arg ...]")
  | format :: arguments => do
      let result := Format.fill format arguments
      let state : Format.State :=
        match result with
        | .ok state | .error (_, state) => state
      for (argument, complaint) in state.complaints do
        Doing.complain (argument ++ words (": " ++ complaint.message))
      Doing.say state.output
      match result with
      | .error (fault, _) => Doing.misuse fault
      | .ok state => return if state.complaints.isEmpty then 0 else 1

def test (arguments : List Text) : Doing Nat := do
  if arguments.isEmpty then return 1
  return if (← Doing.ofExcept (Test.evaluate (← get) arguments)) then 0 else 1

def bracketTest (arguments : List Text) : Doing Nat :=
  if (arguments.getLast?.bind (·.head?)) = some ']' then test arguments.dropLast
  else Doing.misuse (words "missing ]")

/-! Their names. -/

def find? (name : String) : Option (List Text → Doing Nat) :=
  match name with
  | ":" | "true" => some fun _ => return 0
  | "false" => some fun _ => return 1
  | "[" => some bracketTest
  | "alias" => some aliasNames
  | "bg" | "fg" => some resume
  | "cd" | "chdir" => some changeDirectory
  | "command" => some describeCommand
  | "echo" => some echo
  | "export" => some exportVariables
  | "getopts" => some getOptions
  | "hash" => some hash
  | "jobs" => some listJobs
  | "local" => some declareLocal
  | "printf" => some format
  | "pwd" => some printDirectory
  | "read" => some readVariables
  | "readonly" => some protectVariables
  | "set" => some setSwitches
  | "shift" => some shift
  | "test" => some test
  | "times" => some times
  | "trap" => some trap
  | "type" => some describeAll
  | "ulimit" => some limit
  | "umask" => some changeMask
  | "unalias" => some unalias
  | "unset" => some unset
  | _ => none

def declaringTexts : List Text := ["alias", "export", "local", "readonly"].map String.toList

def takesAssignments (name : Text) : Bool := declaringTexts.contains name

end ArtifactTools.Shell.Builtin
