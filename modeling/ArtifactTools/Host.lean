import ArtifactTools.Host.FileTree

/-! The host that the program runs on: its files, the working directory and the variables of the
environment. Paths are taken from the working directory. -/

namespace ArtifactTools

structure Host where
  files : FileTree
  directory : Location
  environment : List (String × Octets)
  deriving DecidableEq, Repr

def splitAtColons : Octets → List Octets
  | [] => [[]]
  | octet :: rest =>
      if octet = 58 then [] :: splitAtColons rest
      else
        match splitAtColons rest with
        | [] => [[octet]]
        | first :: others => (octet :: first) :: others

namespace Host

def octetsOf? (host : Host) (name : String) : Option Octets := host.environment.lookup name

def valueOf? (host : Host) (name : String) : Option String :=
  (host.octetsOf? name).bind Utf8.decode?

def searchedDirectories (host : Host) : List Octets :=
  match host.octetsOf? "PATH" with
  | none => []
  | some octets => splitAtColons octets

def pathOf (location : Location) : Path :=
  if location = [] then ⟨[Path.slash]⟩
  else ⟨location.flatMap fun name => Path.slash :: name⟩

def workingDirectory (host : Host) : Path := pathOf host.directory

def absolute (host : Host) (path : Path) : Path := Path.absolute host.workingDirectory path

def holds (host : Host) (path : Path) : Bool := host.files.holds host.directory path

def holdsDirectory (host : Host) (path : Path) : Bool :=
  host.files.holdsDirectory host.directory path

def holdsExecutable (host : Host) (path : Path) : Bool :=
  host.files.holdsExecutable host.directory path

def read (host : Host) (path : Path) : Except HostError Octets :=
  host.files.read host.directory path

def write (host : Host) (path : Path) (content : Octets) : Except HostError Host :=
  (host.files.write host.directory path content).map fun files => { host with files }

/-- Makes a directory and those above it; what was made stays even if the rest fails. -/
def makeDirectories (host : Host) (path : Path) : Except HostError Unit × Host :=
  let (result, files) := host.files.makeDirectories host.directory path
  (result, { host with files })

def fallbackHome : String := "/root"

def homeDirectory (host : Host) : Path :=
  match host.octetsOf? "HOME" with
  | none => Path.ofString fallbackHome
  | some home => if home.isEmpty then Path.ofString fallbackHome else ⟨home⟩

end Host

end ArtifactTools
