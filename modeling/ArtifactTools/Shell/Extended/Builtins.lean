import ArtifactTools.Shell.Extended.Arguments
import ArtifactTools.Shell.Extended.Declarations
import ArtifactTools.Shell.Extended.Directories
import ArtifactTools.Shell.Extended.Input
import ArtifactTools.Shell.Extended.Jobs
import ArtifactTools.Shell.Extended.Names
import ArtifactTools.Shell.Extended.Output
import ArtifactTools.Shell.Extended.Switches
import ArtifactTools.Shell.Extended.Test

/-! The shell's own commands of the extended dialect by their names, but for those that run other
commands or change where running goes on. -/

namespace ArtifactTools.Shell.Extended

def idle (_ : List Text) : Doing Nat := return 0

def find? (name : String) : Option (List Text → Doing Nat) :=
  match name with
  | ":" | "true" => some idle
  | "false" => some fun _ => return 1
  | "[" => some bracketTest
  | "alias" => some aliasNames
  | "bg" | "fg" => some resume
  | "bind" => some fun _ => do
      Doing.complain (words "warning: line editing not enabled")
      return 0
  | "builtin" => some nameOwn
  | "caller" => some caller
  | "cd" => some changeDirectory
  | "command" => some describeCommands
  | "compgen" => some listMatches
  | "complete" | "compopt" | "fc" | "history" => some idle
  | "declare" | "typeset" => some declare
  | "dirs" => some listDirectories
  | "disown" => some disown
  | "echo" => some echo
  | "enable" => some listOwn
  | "export" => some exportVariables
  | "getopts" => some getOptions
  | "hash" => some hash
  | "help" => some help
  | "jobs" => some listJobs
  | "let" => some compute
  | "local" => some declareLocal
  | "mapfile" | "readarray" => some readLines
  | "popd" => some popDirectory
  | "printf" => some format
  | "pushd" => some pushDirectory
  | "pwd" => some printDirectory
  | "read" => some readLine
  | "readonly" => some protectVariables
  | "set" => some setSwitches
  | "shopt" => some turnFeatures
  | "suspend" => some fun _ => refuse 1 (words "cannot suspend: no job control")
  | "test" => some test
  | "times" => some times
  | "trap" => some trap
  | "type" => some describeNames
  | "ulimit" => some limit
  | "umask" => some changeMask
  | "unalias" => some unalias
  | "unset" => some unset
  | _ => none

end ArtifactTools.Shell.Extended
