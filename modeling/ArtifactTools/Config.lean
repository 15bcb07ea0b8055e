import ArtifactTools.Process
import ArtifactTools.Settings.Persisted

/-! The configuration: where the external tools are, how long they may take, and the settings that
are kept between runs. It is written as a JSON object that leaves out what is absent, and read from
an object, or from an array of the fields in order, whose missing fields have their defaults. -/

namespace ArtifactTools

structure Config where
  python3Location : Option String
  enjarifyDirectory : Option String
  dex2jarLocation : Option String
  runtimeLibrary : Option String
  extraClasspath : Option String
  timeoutSeconds : UInt64
  discoversTools : Bool
  settings : Settings.Persisted

namespace Config

def default : Config :=
  ⟨none, none, none, none, none, UInt64.ofNat defaultTimeoutSeconds, true, .empty⟩

def timeout (config : Config) : Duration := Duration.ofSeconds config.timeoutSeconds.toNat

inductive Field where
  | python3Location
  | enjarifyDirectory
  | dex2jarLocation
  | runtimeLibrary
  | extraClasspath
  | timeoutSeconds
  | discoversTools
  | settings
  deriving DecidableEq, Repr

def Field.all : List Field :=
  [.python3Location, .enjarifyDirectory, .dex2jarLocation, .runtimeLibrary, .extraClasspath,
    .timeoutSeconds, .discoversTools, .settings]

def Field.key : Field → String
  | .python3Location => "python3_location"
  | .enjarifyDirectory => "enjarify_dir"
  | .dex2jarLocation => "dex2jar_location"
  | .runtimeLibrary => "rt_location"
  | .extraClasspath => "extra_classpath"
  | .timeoutSeconds => "process_timeout_secs"
  | .discoversTools => "discover_tools"
  | .settings => "settings"

def Field.ofKey? (key : String) : Option Field := Field.all.find? fun field => field.key == key

def readText? : Json.Document → Option (Option String)
  | .null => some none
  | .string (some text) => some (some text)
  | _ => none

def readSeconds? : Json.Document → Option UInt64
  | .number numeral =>
      match numeral.number? with
      | some (.whole value) => if 0 ≤ value then some (UInt64.ofNat value.toNat) else none
      | _ => none
  | _ => none

def readSwitch? : Json.Document → Option Bool
  | .bool value => some value
  | _ => none

/-- The object around the fields is open while they are read. -/
def fieldBudget : Nat := Json.nestingLimit - 1

def assign? (config : Config) (document : Json.Document) : Field → Option Config
  | .python3Location =>
      (readText? document).map fun value => { config with python3Location := value }
  | .enjarifyDirectory =>
      (readText? document).map fun value => { config with enjarifyDirectory := value }
  | .dex2jarLocation =>
      (readText? document).map fun value => { config with dex2jarLocation := value }
  | .runtimeLibrary =>
      (readText? document).map fun value => { config with runtimeLibrary := value }
  | .extraClasspath =>
      (readText? document).map fun value => { config with extraClasspath := value }
  | .timeoutSeconds =>
      (readSeconds? document).map fun value => { config with timeoutSeconds := value }
  | .discoversTools =>
      (readSwitch? document).map fun value => { config with discoversTools := value }
  | .settings =>
      (Settings.Persisted.ofDocument? fieldBudget document).map fun value =>
        { config with settings := value }

def readMembers? (config : Config) (seen : List Field) :
    List (Option String × Json.Document) → Option Config
  | [] => some config
  | (none, _) :: _ => none
  | (some key, document) :: rest =>
      match Field.ofKey? key with
      | none => config.readMembers? seen rest
      | some field =>
          if field ∈ seen then none
          else
            match config.assign? document field with
            | none => none
            | some config => config.readMembers? (field :: seen) rest

/-- Trailing elements may be missing, and none may be left over. -/
def readElements? (config : Config) : List Field → List Json.Document → Option Config
  | _, [] => some config
  | [], _ :: _ => none
  | field :: fields, document :: rest =>
      match config.assign? document field with
      | none => none
      | some config => config.readElements? fields rest

def ofDocument? : Json.Document → Option Config
  | .object members => default.readMembers? [] members
  | .array elements => default.readElements? Field.all elements
  | _ => none

def parse? (text : String) : Option Config := (Json.read? text).bind ofDocument?

def member? (config : Config) (field : Field) : Option (String × Json.Value) :=
  let text (value : Option String) := value.map fun value => (field.key, Json.Value.string value)
  match field with
  | .python3Location => text config.python3Location
  | .enjarifyDirectory => text config.enjarifyDirectory
  | .dex2jarLocation => text config.dex2jarLocation
  | .runtimeLibrary => text config.runtimeLibrary
  | .extraClasspath => text config.extraClasspath
  | .timeoutSeconds => some (field.key, .number (.whole config.timeoutSeconds.toNat))
  | .discoversTools => some (field.key, .bool config.discoversTools)
  | .settings =>
      if config.settings.entries.isEmpty then none else some (field.key, config.settings.toJson)

def toJson (config : Config) : Json.Value := .object (Field.all.filterMap config.member?)

def text (config : Config) : String := config.toJson.prettyText

end Config

end ArtifactTools
