import ArtifactTools.Config.Tools
import ArtifactTools.Conversion

/-! The built-in converters and the command lines of their tools. All paths on a command line are
absolute, since a tool may be started in another directory. -/

namespace ArtifactTools.Conversion

def endsWith (ending name : String) : Bool := ending.toList.isSuffixOf name.toList

def enjarifyTemplate (host : Host) (python : Path) (directory : Option Path) (input output : Path) :
    Template :=
  { program := python
    arguments :=
      [Utf8.encode "-O", Utf8.encode "-m", Utf8.encode "enjarify.main",
        (host.absolute input).octets, Utf8.encode "-o", (host.absolute output).octets,
        Utf8.encode "-f"]
    workingDirectory := directory }

def dex2jarTemplate (host : Host) (tool input output : Path) : Template :=
  { program := tool
    arguments :=
      [Utf8.encode "-o", (host.absolute output).octets, Utf8.encode "--force",
        (host.absolute input).octets]
    workingDirectory := none }

def planEnjarify (config : Config) (host : Host) (input output : Path) : Plan :=
  match config.resolvePython3 host with
  | none => .settled (.ok (.skipped "Python 3 is not configured"))
  | some python =>
      let directory := config.enjarifyDirectory.map Path.ofString
      .tool (enjarifyTemplate host python directory input output) true

def planDex2Jar (config : Config) (host : Host) (input output : Path) : Plan :=
  match config.resolveDex2Jar host with
  | none => .settled (.ok (.skipped "dex2jar is not configured"))
  | some tool => .tool (dex2jarTemplate host tool input output) true

def enjarifyStrategy : Strategy := ⟨fun _ => true, planEnjarify⟩

def dex2jarStrategy : Strategy := ⟨endsWith ".dex", planDex2Jar⟩

def jar2dexStrategy : Strategy :=
  ⟨endsWith ".jar",
    fun _ _ _ _ => .settled (.error (.unimplemented "jar to dex conversion is not available"))⟩

def noneStrategy : Strategy := ⟨fun _ => false, fun _ _ _ _ => .settled (.ok .nothingToDo)⟩

def enjarify (environment : Environment) : Converter :=
  ⟨"enjarify", "Enjarify", enjarifyStrategy, environment⟩

def dex2jar (environment : Environment) : Converter :=
  ⟨"dex2jar", "Dex2Jar", dex2jarStrategy, environment⟩

def jar2dex (environment : Environment) : Converter :=
  ⟨"jar2dex", "Jar2Dex", jar2dexStrategy, environment⟩

def none (environment : Environment) : Converter := ⟨"none", "None", noneStrategy, environment⟩

def converters (environment : Environment) : List Converter :=
  [enjarify environment, dex2jar environment, jar2dex environment, none environment]

end ArtifactTools.Conversion
