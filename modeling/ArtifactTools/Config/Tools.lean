import ArtifactTools.Config

/-! Where the external tools are found. A configured place that exists comes first. Only where the
configuration allows a search do the tool's own environment variable and then the directories of
`PATH` follow. -/

namespace ArtifactTools.Config

structure Tool where
  label : String
  variableName : String
  names : List String
  deriving DecidableEq, Repr

def python3 : Tool := ⟨"Python 3", "HELIOS_PYTHON3", ["python3"]⟩

def dex2jar : Tool := ⟨"dex2jar", "HELIOS_DEX2JAR", ["d2j-dex2jar", "d2j-dex2jar.sh"]⟩

def expandHome (home directory : Path) : Path :=
  match directory.components with
  | .named [126] :: rest => home.joinComponents rest
  | _ => directory

def searchDirectories (host : Host) : List Path :=
  host.searchedDirectories.map fun directory => expandHome host.homeDirectory ⟨directory⟩

def findOnPath (host : Host) (name : String) : Option Path :=
  ((searchDirectories host).map fun directory => directory.join (Path.ofString name)).find?
    host.holdsExecutable

def findByVariable (host : Host) (tool : Tool) : Option Path :=
  match host.valueOf? tool.variableName with
  | none => none
  | some text => if host.holds (Path.ofString text) then some (Path.ofString text) else none

def search (host : Host) (tool : Tool) : Option Path :=
  match findByVariable host tool with
  | some path => some path
  | none => tool.names.findSome? (findOnPath host)

def resolve (config : Config) (host : Host) (configured : Option String) (tool : Tool) :
    Option Path :=
  let found := if config.discoversTools then search host tool else none
  match configured with
  | none => found
  | some text => if host.holds (Path.ofString text) then some (Path.ofString text) else found

def resolvePython3 (config : Config) (host : Host) : Option Path :=
  config.resolve host config.python3Location python3

def resolveDex2Jar (config : Config) (host : Host) : Option Path :=
  config.resolve host config.dex2jarLocation dex2jar

def classpath (config : Config) (host : Host) (input : Path) : String :=
  let extra := config.extraClasspath.filter fun entries => !entries.isEmpty
  ":".intercalate
    (config.runtimeLibrary.toList ++ (host.absolute input).display :: extra.toList)

end ArtifactTools.Config
