import ArtifactTools.CommandLine.Arguments
import ArtifactTools.Path

/-! What a user asks the program for. -/

namespace ArtifactTools.CommandLine

inductive Command where
  | list (type applicable : Option String) (asJson : Bool)
  | info (transformer : String) (asJson : Bool)
  | settings (transformer : String) (assignments : List String) (resets : Bool)
  | view (file : Path) (viewer : String)
  | convert (input output : Path) (converter : Option String) (timeout : Option Nat)
  | doctor
  deriving DecidableEq, Repr

structure Request where
  config : Option Path
  command : Command
  deriving DecidableEq, Repr

def configOption : OptionForm := ⟨"config", .path⟩

def programForm : Form := ⟨[configOption], [], true⟩

def commandForm (options : List OptionForm) (operands : List ValueKind) : Form :=
  ⟨configOption :: options, operands, false⟩

def form? (command : String) : Option Form :=
  match command with
  | "list" => some (commandForm [⟨"type", .text⟩, ⟨"applicable", .text⟩, ⟨"json", .switch⟩] [])
  | "info" => some (commandForm [⟨"json", .switch⟩] [.text])
  | "settings" => some (commandForm [⟨"set", .texts⟩, ⟨"reset", .switch⟩] [.text])
  | "view" => some (commandForm [⟨"with", .text⟩] [.path])
  | "convert" => some (commandForm [⟨"with", .text⟩, ⟨"timeout", .number⟩] [.path, .path])
  | "doctor" => some (commandForm [] [])
  | _ => none

def command? (name : String) (given : Gathered) : Option Command :=
  match name, given.operands with
  | "list", [] => some (.list (given.value? "type") (given.value? "applicable") (given.has "json"))
  | "info", [transformer] => some (.info transformer (given.has "json"))
  | "settings", [transformer] =>
      if given.has "reset" && given.has "set" then none
      else some (.settings transformer (given.values "set") (given.has "reset"))
  | "view", [file] => some (.view (Path.ofString file) ((given.value? "with").getD "hex"))
  | "convert", [input, output] =>
      some (.convert (Path.ofString input) (Path.ofString output) (given.value? "with")
        ((given.value? "timeout").bind ValueKind.readNumber?))
  | "doctor", [] => some .doctor
  | _, _ => none

def readHelp : List String → Halt
  | [] => .help
  | [command] => if command = "help" || (form? command).isSome then .help else .misuse
  | _ => .misuse

/-- Reads the arguments. The configuration that is named after the command counts before the one
named before it. -/
def Request.read (arguments : List String) : Except Halt Request :=
  match gather programForm .empty .anything arguments with
  | .error halt => .error halt
  | .ok before =>
      match before.rest with
      | [] => .error .misuse
      | name :: rest =>
          match form? name with
          | none => .error (if name = "help" then readHelp rest else .misuse)
          | some form =>
              match gather form .empty .anything rest with
              | .error halt => .error halt
              | .ok given =>
                  match command? name given with
                  | none => .error .misuse
                  | some command =>
                      let config := (given.value? "config").or (before.value? "config")
                      .ok ⟨config.map Path.ofString, command⟩

end ArtifactTools.CommandLine
