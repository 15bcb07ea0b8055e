import ArtifactTools.Text.Decimal

/-! Arguments of a command sorted into options and operands. An option is written `--name value` or
`--name=value`; after a lone `--` everything is an operand. A form says what a command takes, and a
list of arguments that does not fit it is refused. -/

namespace ArtifactTools.CommandLine

inductive ValueKind where
  | switch
  | text
  | texts
  | path
  | number
  deriving DecidableEq, Repr

structure OptionForm where
  name : String
  kind : ValueKind
  deriving DecidableEq, Repr

/-- The options of a command and the kinds of its operands, all of which are required. A command
that has commands of its own ends at its first operand. -/
structure Form where
  options : List OptionForm
  operands : List ValueKind
  hasCommands : Bool
  deriving DecidableEq, Repr

structure Gathered where
  options : List (String × String)
  operands : List String
  rest : List String
  deriving DecidableEq, Repr

inductive Halt where
  | misuse
  | help
  deriving DecidableEq, Repr

def Halt.code : Halt → Nat
  | .misuse => 2
  | .help => 0

inductive Expecting where
  | anything
  | value (option : OptionForm)
  | operandsOnly
  deriving DecidableEq, Repr

namespace ValueKind

def readNumber? (value : String) : Option Nat :=
  (Decimal.readNat? value).filter fun number => number < Nat.pow 2 64

def allows (kind : ValueKind) (value : String) : Bool :=
  match kind with
  | .switch => false
  | .text | .texts => true
  | .path => !value.isEmpty
  | .number => (readNumber? value).isSome

end ValueKind

def looksLikeOption (argument : String) : Bool :=
  match argument.toList with
  | '-' :: _ :: _ => true
  | _ => false

def splitAtEquals : List Char → List Char × Option (List Char)
  | [] => ([], none)
  | '=' :: rest => ([], some rest)
  | character :: rest =>
      let (before, after) := splitAtEquals rest
      (character :: before, after)

namespace Gathered

def empty : Gathered := ⟨[], [], []⟩

def has (gathered : Gathered) (name : String) : Bool :=
  gathered.options.any fun option => option.1 == name

def value? (gathered : Gathered) (name : String) : Option String := gathered.options.lookup name

def values (gathered : Gathered) (name : String) : List String :=
  (gathered.options.filter fun option => option.1 == name).map (·.2)

def note (gathered : Gathered) (option : OptionForm) (value : String) : Except Halt Gathered :=
  if option.kind ≠ .texts && gathered.has option.name then .error .misuse
  else .ok { gathered with options := gathered.options ++ [(option.name, value)] }

def noteValue (gathered : Gathered) (option : OptionForm) (value : String) :
    Except Halt Gathered :=
  if option.kind.allows value then gathered.note option value else .error .misuse

def noteOperand (gathered : Gathered) (form : Form) (value : String) : Except Halt Gathered :=
  match form.operands[gathered.operands.length]? with
  | none => .error .misuse
  | some kind =>
      if kind.allows value then
        .ok { gathered with operands := gathered.operands ++ [value] }
      else .error .misuse

end Gathered

def readLong (form : Form) (gathered : Gathered) (body : List Char) :
    Except Halt (Gathered × Expecting) :=
  let (name, value) := splitAtEquals body
  let name := String.ofList name
  match form.options.find? (fun option => option.name == name), value with
  | some option, some value =>
      (gathered.noteValue option (String.ofList value)).map fun gathered => (gathered, .anything)
  | some option, none =>
      if option.kind = .switch then
        (gathered.note option "").map fun gathered => (gathered, .anything)
      else .ok (gathered, .value option)
  | none, none =>
      if name = "help" ∨ name = "version" then .error .help else .error .misuse
  | none, some _ => .error .misuse

def readArgument (form : Form) (gathered : Gathered) (argument : String) :
    Except Halt (Gathered × Expecting) :=
  match argument.toList with
  | ['-', '-'] => .ok (gathered, .operandsOnly)
  | '-' :: '-' :: body => readLong form gathered body
  | '-' :: letter :: _ => .error (if letter = 'h' ∨ letter = 'V' then .help else .misuse)
  | _ => (gathered.noteOperand form argument).map fun gathered => (gathered, .anything)

def gather (form : Form) (gathered : Gathered) : Expecting → List String → Except Halt Gathered
  | .value _, [] => .error .misuse
  | _, [] =>
      if form.hasCommands || gathered.operands.length < form.operands.length then .error .misuse
      else .ok gathered
  | .value option, argument :: rest =>
      if looksLikeOption argument then .error .misuse
      else
        match gathered.noteValue option argument with
        | .error halt => .error halt
        | .ok gathered => gather form gathered .anything rest
  | .operandsOnly, argument :: rest =>
      if form.hasCommands then .error .misuse
      else
        match gathered.noteOperand form argument with
        | .error halt => .error halt
        | .ok gathered => gather form gathered .operandsOnly rest
  | .anything, argument :: rest =>
      if form.hasCommands && !looksLikeOption argument then
        .ok { gathered with rest := argument :: rest }
      else
        match readArgument form gathered argument with
        | .error halt => .error halt
        | .ok (gathered, expecting) => gather form gathered expecting rest

end ArtifactTools.CommandLine
