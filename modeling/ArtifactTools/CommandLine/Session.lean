import ArtifactTools.Host
import ArtifactTools.Registry.Shared

/-! A session of the program: the configuration, the registry built from it, and what has been
printed. A command that goes wrong says why by a chain of messages, the outermost first. -/

namespace ArtifactTools.CommandLine

/-! Emphasis in terminal output. The output is no terminal, so it is plain unless the environment
demands emphasis. -/

structure Style where
  isColored : Bool
  deriving DecidableEq, Repr

namespace Style

/-- `CLICOLOR_FORCE` demands colors with every value but `0`. -/
def ofHost (host : Host) : Style :=
  ⟨match host.valueOf? "CLICOLOR_FORCE" with
    | none => false
    | some value => value ≠ "0"⟩

def paint (style : Style) (code text : String) : String :=
  if style.isColored then s!"\x1b[{code}m{text}\x1b[0m" else text

def bold (style : Style) (text : String) : String := style.paint "1" text
def dimmed (style : Style) (text : String) : String := style.paint "2" text
def red (style : Style) (text : String) : String := style.paint "31" text
def green (style : Style) (text : String) : String := style.paint "32" text
def yellow (style : Style) (text : String) : String := style.paint "33" text
def cyan (style : Style) (text : String) : String := style.paint "36" text
def boldGreen (style : Style) (text : String) : String := style.paint "1;32" text
def boldYellow (style : Style) (text : String) : String := style.paint "1;33" text
def boldCyan (style : Style) (text : String) : String := style.paint "1;36" text

end Style

/-! Sessions and what they print. -/

structure Session where
  config : Config
  path : Path
  registry : Registry

structure Terminal where
  style : Style
  output : List String
  services : Services

namespace Terminal

def ofHost (host : Host) : Terminal := ⟨.ofHost host, [], .ofHost host⟩

def host (terminal : Terminal) : Host := terminal.services.host

def withHost (terminal : Terminal) (host : Host) : Terminal :=
  { terminal with services := { terminal.services with host } }

def print (terminal : Terminal) (text : String) : Terminal :=
  { terminal with output := terminal.output ++ [text] }

def printLine (terminal : Terminal) (line : String) : Terminal := terminal.print (line ++ "\n")

def printLines (terminal : Terminal) (lines : List String) : Terminal :=
  lines.foldl printLine terminal

end Terminal

abbrev Finish := Except (List String) Nat

def productName : String := "helios-cli v0.1.0"

namespace Session

def start (launcher : Duration → Launcher) (host : Host) (path : Option Path) :
    Except (List String) Session :=
  match Config.loadOrDefault host path with
  | .error error => .error ("failed to load config" :: (Failure.config error).chain)
  | .ok config =>
      match (Shared.vacant.start Builder.builtin ⟨config, launcher config.timeout⟩).1 with
      | .error error =>
          .error ("failed to register transformers" :: (Failure.transformer error).chain)
      | .ok registry => .ok ⟨config, path.getD (Config.defaultPath host), registry⟩

def find (session : Session) (text : String) : Except (List String) Ref :=
  match (session.registry.findById? text).or (session.registry.findByName? text) with
  | some ref => .ok ref
  | none => .error [s!"unknown transformer '{text}' (run `helios list` to see all)"]

def saveSettings (session : Session) (host : Host) : Except (List String) Unit × Host :=
  let config := { session.config with settings := session.registry.exportSettings }
  match config.save host session.path with
  | (.ok (), host) => (.ok (), host)
  | (.error error, host) =>
      (.error (s!"failed to save config to {session.path.display}" ::
        (Failure.config error).chain), host)

end Session

end ArtifactTools.CommandLine
