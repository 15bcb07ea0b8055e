import ArtifactTools.Duration
import ArtifactTools.Host

/-! External tools as they are asked for and as they answer. A template is a command line without a
shell: a program, its arguments in order, and perhaps a directory to start in. A launcher runs a
template to its end, and may change the files of the host on the way. -/

namespace ArtifactTools

structure Template where
  program : Path
  arguments : List Octets
  workingDirectory : Option Path
  deriving DecidableEq, Repr

namespace Template

def ofProgram (program : Path) : Template := ⟨program, [], none⟩

def withArgument (template : Template) (argument : Octets) : Template :=
  { template with arguments := template.arguments ++ [argument] }

def withArguments (template : Template) (arguments : List Octets) : Template :=
  { template with arguments := template.arguments ++ arguments }

def startedIn (template : Template) (directory : Path) : Template :=
  { template with workingDirectory := some directory }

def commandLine (template : Template) : String :=
  " ".intercalate ((template.program.octets :: template.arguments).map Utf8.decodeLossy)

end Template

structure Limits where
  timeout : Option Duration
  cancellation : Option Duration
  deriving DecidableEq, Repr

structure Output where
  exitCode : Int
  errorText : String
  duration : Duration
  deriving DecidableEq, Repr

structure Launch where
  template : Template
  limits : Limits
  deriving DecidableEq, Repr

/-- Runs a template on a host. The launches made before are known to it. -/
abbrev Launcher := List Launch → Host → Launch → Except ProcessError Output × Host

def defaultTimeoutSeconds : Nat := 300

end ArtifactTools
