import ArtifactTools.Failure
import ArtifactTools.Json.Value

/-! Declarations of settings. A setting has a kind, which says what values it accepts, and a
default, which must be one of them. -/

namespace ArtifactTools.Settings

inductive Kind where
  | bool
  | integer
  | text
  | path
  | choice (options : List String)
  deriving DecidableEq, Repr

inductive Value where
  | bool (value : Bool)
  | integer (value : Int64)
  | text (value : String)
  deriving DecidableEq, Repr

def Kind.accepts : Kind → Value → Bool
  | .bool, .bool _ => true
  | .integer, .integer _ => true
  | .text, .text _ | .path, .text _ => true
  | .choice options, .text value => options.contains value
  | _, _ => false

def Kind.display : Kind → String
  | .bool => "bool"
  | .integer => "integer"
  | .text => "text"
  | .path => "path"
  | .choice options => "one of [" ++ ", ".intercalate options ++ "]"

def Value.display : Value → String
  | .bool true => "true"
  | .bool false => "false"
  | .integer value => Decimal.ofInt value.toInt
  | .text value => value

def Value.describe : Value → String
  | .bool value => "bool " ++ (Value.bool value).display
  | .integer value => "integer " ++ (Value.integer value).display
  | .text value => s!"text \"{value}\""

def Value.toJson : Value → Json.Value
  | .bool value => .bool value
  | .integer value => .number (.whole value.toInt)
  | .text value => .string value

def Value.ofInt? (value : Int) : Option Value :=
  if -(Nat.pow 2 63 : Int) ≤ value ∧ value < Nat.pow 2 63 then
    some (.integer (Int64.ofInt value))
  else none

def Value.ofJson? : Json.Value → Option Value
  | .bool value => some (.bool value)
  | .number (.whole value) => Value.ofInt? value
  | .string content => some (.text content)
  | _ => none

/-- The value that a text denotes under a kind. A choice is checked when it is stored. -/
def Kind.read? (kind : Kind) (raw : String) : Option Value :=
  match kind with
  | .bool =>
      if raw = "true" then some (.bool true)
      else if raw = "false" then some (.bool false)
      else none
  | .integer => (Decimal.readInt? raw).bind Value.ofInt?
  | .text | .path | .choice _ => some (.text raw)

structure Descriptor where
  key : String
  label : String
  kind : Kind
  default : Value
  deriving DecidableEq, Repr

namespace Descriptor

def bool (key label : String) (default : Bool) : Descriptor := ⟨key, label, .bool, .bool default⟩

def integer (key label : String) (default : Int64) : Descriptor :=
  ⟨key, label, .integer, .integer default⟩

/-- A declaration is refused if its key is empty, if it is a choice without options, or if its kind
does not accept its default. -/
def validate (descriptor : Descriptor) : Except TransformerError Unit :=
  if descriptor.key.isEmpty then
    .error (.unsupportedConfiguration descriptor.key "setting key must not be empty")
  else if descriptor.kind = .choice [] then
    .error (.unsupportedConfiguration descriptor.key
      "choice setting must declare at least one option")
  else if descriptor.kind.accepts descriptor.default then .ok ()
  else
    .error (.unsupportedConfiguration descriptor.key
      ("default " ++ descriptor.default.describe ++ " does not match declared kind " ++
        descriptor.kind.display))

end Descriptor

end ArtifactTools.Settings
