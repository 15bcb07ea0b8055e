import ArtifactTools.CommandLine.Session

/-! The commands that show what is there: the list of transformers, the details of one of them, a
file in a viewer, and the state of the installation. -/

namespace ArtifactTools.CommandLine

def summaryMembers (ref : Ref) : List (String × Json.Value) :=
  [("has_settings", .bool ref.transformer.hasSettings), ("id", .string ref.transformer.id),
    ("name", .string ref.transformer.name)]

def summary (ref : Ref) : Json.Value :=
  .object (summaryMembers ref ++ [("type", ref.transformer.type.toJson)])

def padRight (width : Nat) (text : String) : String :=
  text ++ String.ofList (List.replicate (width - text.length) ' ')

def listLine (style : Style) (ref : Ref) : String :=
  let marker := if ref.transformer.hasSettings then " (configurable)" else ""
  "  " ++ style.green "->" ++ " " ++ padRight 12 ref.transformer.id ++ " " ++
    padRight 14 ref.transformer.name ++ " " ++ style.dimmed ref.transformer.type.text ++
    style.dimmed marker

def listTest (type : Option TransformerType) (applicable : Option String)
    (transformer : Transformer) : Bool :=
  (type.all fun type => transformer.type = type) && applicable.all transformer.accepts

def readType (type : Option String) : Except (List String) (Option TransformerType) :=
  match type with
  | none => .ok none
  | some text =>
      match TransformerType.read? text with
      | some type => .ok (some type)
      | none => .error [TransformerType.unknownMessage text]

def runList (session : Session) (type applicable : Option String) (asJson : Bool)
    (terminal : Terminal) : Terminal × Finish :=
  match readType type with
  | .error messages => (terminal, .error messages)
  | .ok type =>
      let refs := session.registry.allMatching (listTest type applicable)
      let style := terminal.style
      if asJson then
        (terminal.printLine (Json.Value.array (refs.map summary)).prettyText, .ok 0)
      else if refs.isEmpty then
        (terminal.printLine (style.yellow "No matching transformers."), .ok 0)
      else
        (terminal.printLines (style.bold "Transformers:" :: refs.map (listLine style)), .ok 0)

def settingJson (store : Settings.Store) (descriptor : Settings.Descriptor) : Json.Value :=
  .object [("default", descriptor.default.toJson), ("key", .string descriptor.key),
    ("kind", .string descriptor.kind.display), ("label", .string descriptor.label),
    ("value", ((store.get? descriptor.key).map (·.toJson)).getD .null)]

def details (ref : Ref) : Json.Value :=
  let store := ref.transformer.store
  .object (summaryMembers ref ++
    [("settings", .array (store.descriptors.map (settingJson store))),
      ("type", ref.transformer.type.toJson)])

def settingLine (style : Style) (store : Settings.Store) (descriptor : Settings.Descriptor) :
    String :=
  let current := ((store.get? descriptor.key).map (·.display)).getD ""
  s!"    {descriptor.key} = {current}  " ++
    style.dimmed s!"({descriptor.kind.display}, {descriptor.label})"

def infoLines (style : Style) (ref : Ref) : List String :=
  let transformer := ref.transformer
  let descriptors := transformer.store.descriptors
  [style.boldCyan transformer.name, s!"  id:   {transformer.id}",
    s!"  type: {transformer.type.text}"] ++
  if descriptors.isEmpty then ["  " ++ style.dimmed "no settings"]
  else
    ("  " ++ style.bold "settings:") ::
      descriptors.map (settingLine style transformer.store)

def runInfo (session : Session) (transformer : String) (asJson : Bool) (terminal : Terminal) :
    Terminal × Finish :=
  match session.find transformer with
  | .error messages => (terminal, .error messages)
  | .ok ref =>
      if asJson then (terminal.printLine (details ref).prettyText, .ok 0)
      else (terminal.printLines (infoLines terminal.style ref), .ok 0)

def classifyingName (file : Path) : String := (file.fileName?.map Utf8.decodeLossy).getD ""

def runView (session : Session) (file : Path) (viewer : String) (terminal : Terminal) :
    Terminal × Finish :=
  match session.find viewer with
  | .error messages => (terminal, .error messages)
  | .ok ref =>
      let name := classifyingName file
      if !ref.transformer.accepts name then
        (terminal, .error [s!"{ref.transformer.name} cannot view '{name}'"])
      else
        match terminal.host.read file with
        | .error cause =>
            (terminal, .error [s!"failed to read {file.display}", cause.message])
        | .ok octets =>
            match ref.transformer.run (.view octets) terminal.services with
            | (.error error, services) =>
                ({ terminal with services }, .error (Failure.transformer error).chain)
            | (.ok (.text text), services) => ({ terminal with services }.print text, .ok 0)
            | (.ok _, services) =>
                ({ terminal with services },
                  .error [s!"{ref.transformer.name} did not produce text"])

/-- A tool that is missing is a warning, since only the converters that need it are skipped. -/
def toolLines (style : Style) (tool : Config.Tool) (place : Option Path) (purpose : String) :
    List String :=
  match place with
  | some path => ["  " ++ style.green "ok" ++ s!" {tool.label} ({path.display})"]
  | none =>
      ["  " ++ style.yellow "!!" ++ s!" {tool.label} not found",
        "     " ++ style.dimmed s!"{purpose}; set it in the config or {tool.variableName}"]

def checkoutLine (style : Style) (host : Host) (directory : Option String) : String × Bool :=
  match directory with
  | none =>
      ("  " ++ style.green "->" ++ " enjarify checkout not configured (module must be importable)",
        true)
  | some text =>
      let shown := (Path.ofString text).display
      if host.holdsDirectory (Path.ofString text) then
        ("  " ++ style.green "ok" ++ s!" enjarify checkout ({shown})", true)
      else ("  " ++ style.red "!!" ++ s!" enjarify checkout missing: {shown}", false)

def libraryLines (style : Style) (host : Host) (library : Option String) : List String × Bool :=
  match library with
  | none => ([], true)
  | some text =>
      let shown := (Path.ofString text).display
      if host.holds (Path.ofString text) then
        (["  " ++ style.green "ok" ++ s!" runtime library ({shown})"], true)
      else (["  " ++ style.red "!!" ++ s!" runtime library missing: {shown}"], false)

def doctorOpening (style : Style) (host : Host) (path : Path) : List String :=
  [style.boldCyan "Helios Doctor", style.cyan "=============", "", style.bold "Versions:",
    "  " ++ style.green "->" ++ " " ++ productName, "", style.bold "Config:",
    if host.holds path then "  " ++ style.green "ok" ++ s!" {path.display}"
    else "  " ++ style.green "->" ++ s!" {path.display} (not present, using defaults)"]

def failedChecks (style : Style) : String :=
  style.boldYellow "WARNING" ++ " Some checks failed. See above for details."

def doctorReport (style : Style) (host : Host) (session : Session) : List String × Bool :=
  let config := session.config
  let (checkout, checkoutPassed) := checkoutLine style host config.enjarifyDirectory
  let (library, libraryPassed) := libraryLines style host config.runtimeLibrary
  let transformers := session.registry.all.map fun ref =>
    "  " ++ style.green "ok" ++ s!" {ref.transformer.id} ({ref.transformer.name})"
  let passed := checkoutPassed && libraryPassed
  (["", style.bold "Dependencies:"] ++
    toolLines style Config.python3 (config.resolvePython3 host) "needed by enjarify" ++
    [checkout] ++
    toolLines style Config.dex2jar (config.resolveDex2Jar host) "needed by dex2jar" ++
    library ++
    ["  " ++ style.green "->" ++ s!" process timeout {Decimal.ofNat config.timeoutSeconds.toNat}s",
      "", style.bold "Transformers:"] ++
    transformers ++
    ["", if passed then style.boldGreen "SUCCESS" ++ " All checks passed!" else failedChecks style],
    passed)

def runDoctor (path : Path) (session : Except (List String) Session) (terminal : Terminal) :
    Terminal × Finish :=
  let style := terminal.style
  let terminal := terminal.printLines (doctorOpening style terminal.host path)
  match session with
  | .error messages =>
      (terminal.printLines
        ["  " ++ style.red "!!" ++ " " ++ ": ".intercalate messages, "", failedChecks style], .ok 1)
  | .ok session =>
      let (lines, passed) := doctorReport style terminal.host session
      (terminal.printLines lines, .ok (if passed then 0 else 1))

end ArtifactTools.CommandLine
