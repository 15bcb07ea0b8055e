import ArtifactTools.Shell.Command
import ArtifactTools.Text.Decimal

/-! Variables and the elements of lists. The elements have numbers, which need not follow each other,
or names. Elements with numbers stand in the order of the numbers. Those with names are told in the
order of the places that a sum of their octets gives the names, and of two at one place the later
one comes first. -/

namespace ArtifactTools.Shell

inductive Elements where
  | numbered (entries : List (Nat × Text))
  | named (entries : List (Text × Text))
  deriving DecidableEq, Repr

/-- What a variable makes of each value that it gets: a number, or text with other letters; or that
it stands for another variable. -/
inductive Trait where
  | integer
  | lower
  | reference
  | upper
  deriving DecidableEq, Repr

structure Variable where
  value : Option Text
  exported : Bool
  isReadOnly : Bool
  elements : Option Elements
  traits : List Trait
  deriving DecidableEq, Repr

inductive Key where
  | number (value : Nat)
  | name (text : Text)
  deriving DecidableEq, Repr

def Key.text : Key → Text
  | .number value => Decimal.digits value
  | .name text => text

structure Entry where
  subscript : Option Text
  appends : Bool
  value : Text
  deriving DecidableEq, Repr

def namePlace (name : Text) : Nat :=
  name.foldl (fun sum character =>
    let octet := if character.toNat < 128 then character.toNat else character.toNat + 0xffffff00
    (sum * 16777619 % 0x100000000) ^^^ octet) 2166136261

def inPlaces {α : Type} (entries : List (Text × α)) : List (Text × α) :=
  entries.mergeSort fun first second =>
    decide (namePlace first.1 % 1024 ≤ namePlace second.1 % 1024)

namespace Elements

def empty (isNamed : Bool) : Elements := if isNamed then .named [] else .numbered []

def isNamed : Elements → Bool
  | .named _ => true
  | .numbered _ => false

def toList : Elements → List (Key × Text)
  | .numbered entries => entries.map fun (number, value) => (.number number, value)
  | .named entries => (inPlaces entries).map fun (name, value) => (.name name, value)

def values (elements : Elements) : List Text := elements.toList.map (·.2)

def get? : Elements → Key → Option Text
  | .numbered entries, .number number => entries.lookup number
  | .named entries, key => entries.lookup key.text
  | .numbered _, .name _ => none

def insert (number : Nat) (value : Text) : List (Nat × Text) → List (Nat × Text)
  | [] => [(number, value)]
  | (other, old) :: rest =>
      if other < number then (other, old) :: insert number value rest
      else if other = number then (number, value) :: rest
      else (number, value) :: (other, old) :: rest

def put : Elements → Key → Text → Elements
  | .numbered entries, .number number, value => .numbered (insert number value entries)
  | .numbered entries, .name _, _ => .numbered entries
  | .named entries, key, value =>
      let name := key.text
      if (entries.lookup name).isSome then
        .named (entries.map fun entry => if entry.1 = name then (name, value) else entry)
      else .named ((name, value) :: entries)

def erase : Elements → Key → Elements
  | .numbered entries, .number number => .numbered (entries.filter fun entry => entry.1 ≠ number)
  | .numbered entries, .name _ => .numbered entries
  | .named entries, key => .named (entries.filter fun entry => entry.1 ≠ key.text)

def next : Elements → Nat
  | .numbered entries => ((entries.getLast?).map fun entry => entry.1 + 1).getD 0
  | .named _ => 0

def first? : Elements → Option Text
  | .numbered entries => entries.lookup 0
  | .named entries => entries.lookup ['0']

def firstKey (elements : Elements) : Key := if elements.isNamed then .name ['0'] else .number 0

def ofList (values : List Text) : Elements :=
  .numbered ((List.range values.length).zip values)

end Elements

namespace Variable

def unset : Variable := ⟨none, false, false, none, []⟩

def ofText (value : Text) : Variable := { unset with value := some value }

def text? (entry : Variable) : Option Text :=
  match entry.elements with
  | none => entry.value
  | some elements => elements.first?

def withText (entry : Variable) (value : Text) : Variable :=
  match entry.elements with
  | none => { entry with value := some value }
  | some elements => { entry with elements := some (elements.put elements.firstKey value) }

def has (entry : Variable) (quality : Trait) : Bool := entry.traits.contains quality

def turn (entry : Variable) (quality : Trait) (value : Bool) : Variable :=
  let others := entry.traits.filter (· ≠ quality)
  { entry with traits := if value then quality :: others else others }

def values (entry : Variable) : List Text :=
  match entry.elements with
  | none => entry.value.toList
  | some elements => elements.values

def keys (entry : Variable) : List Text :=
  match entry.elements with
  | none => if entry.value.isSome then [['0']] else []
  | some elements => elements.toList.map (·.1.text)

def toElements (entry : Variable) (isNamed : Bool) : Elements :=
  match entry.elements, entry.value with
  | some elements, _ => elements
  | none, some value => (Elements.empty isNamed).put (Elements.empty isNamed).firstKey value
  | none, none => .empty isNamed

end Variable

end ArtifactTools.Shell
