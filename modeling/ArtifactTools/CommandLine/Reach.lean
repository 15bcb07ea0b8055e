import ArtifactTools.CommandLine.Request
import ArtifactTools.Config.File
import ArtifactTools.Config.Tools

/-! The places that a request bears on: its configuration, the files it names, and where the
external tools may be. Unless a tool runs, nothing else on the host bears on the answer. -/

namespace ArtifactTools.CommandLine

def variableNames : List String :=
  ["HOME", "XDG_CONFIG_HOME", "PATH", "CLICOLOR_FORCE", Config.python3.variableName,
    Config.dex2jar.variableName]

def Command.files : Command → List Path
  | .view file _ => [file]
  | .convert input output _ _ => [input, output]
  | _ => []

def Request.configPath (request : Request) (host : Host) : Path :=
  request.config.getD (Config.defaultPath host)

def toolPlaces (host : Host) (configured : Option String) (tool : Config.Tool) : List Path :=
  (configured.toList ++ (host.valueOf? tool.variableName).toList).map Path.ofString ++
    (Config.searchDirectories host).flatMap fun directory =>
      tool.names.map fun name => directory.join (Path.ofString name)

def Request.places (request : Request) (host : Host) (config : Config) : List Path :=
  request.command.files ++
    (config.enjarifyDirectory.toList ++ config.runtimeLibrary.toList).map Path.ofString ++
    toolPlaces host config.python3Location Config.python3 ++
    toolPlaces host config.dex2jarLocation Config.dex2jar

end ArtifactTools.CommandLine
