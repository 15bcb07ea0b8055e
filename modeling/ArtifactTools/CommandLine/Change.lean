import ArtifactTools.CommandLine.Arguments
import ArtifactTools.CommandLine.Inspection
import ArtifactTools.Text.Blank

/-! The commands that change something: the settings of a transformer, and the conversion of a file.
Settings are saved only after every assignment has been accepted. -/

namespace ArtifactTools.CommandLine

def readAssignment (assignment : String) : Except (List String) (String × String) :=
  match splitAtEquals assignment.toList with
  | (key, some value) =>
      let key := Blank.trim (String.ofList key)
      if key.isEmpty then .error [s!"expected KEY=VALUE, got '{assignment}'"]
      else .ok (key, Blank.trim (String.ofList value))
  | _ => .error [s!"expected KEY=VALUE, got '{assignment}'"]

def assignAll (id : String) (store : Settings.Store) :
    List String → Except (List String) Settings.Store
  | [] => .ok store
  | assignment :: rest =>
      match readAssignment assignment with
      | .error messages => .error messages
      | .ok (key, value) =>
          match store.setText key value with
          | .error error => .error [s!"cannot set '{key}' on {id}", error.message]
          | .ok store => assignAll id store rest

def resetAll (store : Settings.Store) : List String → Except (List String) Settings.Store
  | [] => .ok store
  | key :: rest =>
      match store.reset key with
      | .error error => .error [error.message]
      | .ok store => resetAll store rest

def editStore (transformer : Transformer) (assignments : List String) (resets : Bool) :
    Except (List String) Settings.Store :=
  let start :=
    if resets then resetAll transformer.store transformer.store.keys else .ok transformer.store
  match start with
  | .error messages => .error messages
  | .ok store => assignAll transformer.id store assignments

def valueLines (store : Settings.Store) : List String :=
  store.snapshot.entries.map fun entry => s!"  {entry.1} = {entry.2.compactText}"

def runSettings (session : Session) (transformer : String) (assignments : List String)
    (resets : Bool) (terminal : Terminal) : Terminal × Finish :=
  match session.find transformer with
  | .error messages => (terminal, .error messages)
  | .ok ref =>
      if !ref.transformer.hasSettings then
        (terminal.printLine s!"{ref.transformer.name} has no settings.", .ok 0)
      else if assignments.isEmpty && !resets then
        (terminal.printLines (valueLines ref.transformer.store), .ok 0)
      else
        match editStore ref.transformer assignments resets with
        | .error messages => (terminal, .error messages)
        | .ok store =>
            let registry := session.registry.withStore ref.handle.index.toNat store
            match { session with registry }.saveSettings terminal.host with
            | (.error messages, host) => (terminal.withHost host, .error messages)
            | (.ok (), host) =>
                let saved := terminal.style.green "ok" ++ s!" saved to {session.path.display}"
                ((terminal.withHost host).printLines (saved :: valueLines store), .ok 0)

/-- Converters in the order in which they are tried; those that look at the name come before the
one that accepts every name. -/
def converterOrder : List String := ["dex2jar", "jar2dex", "enjarify"]

def pickConverter (registry : Registry) (name : String) : Option Ref :=
  (converterOrder.filterMap registry.findById?).find? fun ref => ref.transformer.accepts name

def chooseConverter (session : Session) (name : String) (converter : Option String) :
    Except (List String) Ref :=
  match converter with
  | some text => session.find text
  | none =>
      match pickConverter session.registry name with
      | some ref => .ok ref
      | none => .error [s!"no converter accepts '{name}'; choose one with --with"]

def statusLines (style : Style) (status : ConversionStatus) : List String × Nat :=
  match status with
  | .completed .. | .nothingToDo => ([style.green "ok" ++ " " ++ status.display], 0)
  | .skipped _ =>
      ([style.yellow "!!" ++ " " ++ status.display,
        "   " ++ style.dimmed "Run `helios doctor` to check tool locations."], 1)
  | .failed _ => ([style.red "!!" ++ " " ++ status.display], 1)

def runConvert (session : Session) (input output : Path) (converter : Option String)
    (timeout : Option Nat) (terminal : Terminal) : Terminal × Finish :=
  match chooseConverter session (classifyingName input) converter with
  | .error messages => (terminal, .error messages)
  | .ok ref =>
      let transformer := ref.transformer
      let style := terminal.style
      let terminal := terminal.printLine
        (style.boldCyan "Converting" ++
          s!" {input.display} -> {output.display} ({transformer.name})")
      let limits : Limits := ⟨timeout.map Duration.ofSeconds, none⟩
      match transformer.run (.convert input output limits) terminal.services with
      | (.error error, services) =>
          ({ terminal with services }, .error (Failure.transformer error).chain)
      | (.ok (.converted status), services) =>
          let (lines, code) := statusLines style status
          ({ terminal with services }.printLines lines, .ok code)
      | (.ok _, services) =>
          ({ terminal with services }, .error [s!"{transformer.name} is not a converter"])

end ArtifactTools.CommandLine
