import ArtifactTools.CommandLine.Change
import ArtifactTools.CommandLine.Request

/-! The program as its user meets it: arguments in, an exit code and printed text out. -/

namespace ArtifactTools.CommandLine

structure Exit where
  code : Nat
  output : String
  errors : String
  host : Host

def runCommand (session : Session) (terminal : Terminal) : Command → Terminal × Finish
  | .list type applicable asJson => runList session type applicable asJson terminal
  | .info transformer asJson => runInfo session transformer asJson terminal
  | .settings transformer assignments resets =>
      runSettings session transformer assignments resets terminal
  | .view file viewer => runView session file viewer terminal
  | .convert input output converter timeout =>
      runConvert session input output converter timeout terminal
  | .doctor => runDoctor session.path (.ok session) terminal

def runRequest (launcher : Duration → Launcher) (request : Request) (terminal : Terminal) :
    Terminal × Finish :=
  match request.command, Session.start launcher terminal.host request.config with
  | command, .ok session => runCommand session terminal command
  | .doctor, .error messages =>
      runDoctor (request.config.getD (Config.defaultPath terminal.host)) (.error messages) terminal
  | _, .error messages => (terminal, .error messages)

def finishCode : Finish → Nat
  | .ok code => code
  | .error _ => 1

def finishErrors (style : Style) : Finish → String
  | .ok _ => ""
  | .error messages => style.red "error" ++ ": " ++ ": ".intercalate messages ++ "\n"

def run (launcher : Duration → Launcher) (host : Host) (arguments : List String) : Exit :=
  match Request.read arguments with
  | .error halt => ⟨halt.code, "", "", host⟩
  | .ok request =>
      let (terminal, finish) := runRequest launcher request (.ofHost host)
      ⟨finishCode finish, String.join terminal.output, finishErrors terminal.style finish,
        terminal.host⟩

end ArtifactTools.CommandLine
