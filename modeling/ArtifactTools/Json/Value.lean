import ArtifactTools.Dictionary
import ArtifactTools.Double
import ArtifactTools.Json.Document

/-! JSON values. Of a document's numerals the integers that fit sixty-four bits, signed or unsigned,
stay exact and all others become doubles; of its members the last under a key counts. A reader
accepts a document only if its strings spell characters, its doubles do not overflow and at most
127 arrays and objects are open at a time. -/

namespace ArtifactTools.Json

inductive Number where
  | whole (value : Int)
  | double (value : Double)
  deriving DecidableEq, Repr

inductive Value where
  | null
  | bool (value : Bool)
  | number (value : Number)
  | string (text : String)
  | array (elements : List Value)
  | object (members : List (String × Value))

abbrev Members := Dictionary Value

def nestingLimit : Nat := 127

namespace Numeral

def fits (significand digit : Nat) : Bool := significand * 10 + digit < Nat.pow 2 64

def accumulate (significand : Nat) : List Char → Nat × Nat
  | [] => (significand, 0)
  | digit :: rest =>
      if fits significand (Decimal.digitValue digit) then
        accumulate (significand * 10 + Decimal.digitValue digit) rest
      else (significand, rest.length + 1)

def exponentLimit : Nat := Nat.pow 2 31 - 1

def clampExponent (exponent : Int) : Int :=
  max (-(exponentLimit : Int) - 1) (min exponentLimit exponent)

/-- Digits that do not fit count as zeros before the point and are dropped after it. An exponent
beyond 32 bits makes the number zero, or overflow. -/
def double? (numeral : Numeral) : Option Double :=
  let (significand, skipped) := accumulate 0 numeral.whole
  let (significand, dropped) := accumulate significand numeral.fraction
  let shift : Int := skipped - ((numeral.fraction.length - dropped : Nat) : Int)
  let mantissa := UInt64.ofNat significand
  match numeral.exponent with
  | none => Double.ofParts? numeral.negative mantissa shift
  | some (below, digits) =>
      let size := Decimal.value digits
      if size ≤ exponentLimit then
        let exponent := clampExponent (if below then shift - size else shift + size)
        Double.ofParts? numeral.negative mantissa exponent
      else if significand ≠ 0 ∧ ¬ below then none
      else Double.ofParts? numeral.negative 0 0

/-- Minus zero is a double, since no integer has its sign. -/
def number? (numeral : Numeral) : Option Number :=
  let size := Decimal.value numeral.whole
  if numeral.fraction.isEmpty ∧ numeral.exponent.isNone ∧
      (if numeral.negative then 0 < size ∧ size ≤ Nat.pow 2 63 else size < Nat.pow 2 64) then
    some (.whole (if numeral.negative then -(size : Int) else size))
  else numeral.double?.map .double

end Numeral

mutual

/-- The value of a document, if a reader accepts it while so many more arrays and objects may be
opened. -/
def Document.value? (budget : Nat) : Document → Option Value
  | .null => some .null
  | .bool value => some (.bool value)
  | .number numeral => numeral.number?.map .number
  | .string text => text.map .string
  | .array elements =>
      if budget = 0 then none else (elementValues? (budget - 1) elements).map .array
  | .object members =>
      if budget = 0 then none
      else (memberValues? (budget - 1) members).map fun members =>
        .object (Dictionary.ofList members).entries

def elementValues? (budget : Nat) : List Document → Option (List Value)
  | [] => some []
  | element :: rest =>
      match element.value? budget, elementValues? budget rest with
      | some value, some values => some (value :: values)
      | _, _ => none

def memberValues? (budget : Nat) :
    List (Option String × Document) → Option (List (String × Value))
  | [] => some []
  | (key, document) :: rest =>
      match key, document.value? budget, memberValues? budget rest with
      | some key, some value, some values => some ((key, value) :: values)
      | _, _, _ => none

end

def Document.members? (budget : Nat) : Document → Option Members
  | .object members =>
      if budget = 0 then none else (memberValues? (budget - 1) members).map Dictionary.ofList
  | _ => none

def parseValue? (text : String) : Option Value := (read? text).bind (·.value? nestingLimit)

def parseMembers? (text : String) : Option Members := (read? text).bind (·.members? nestingLimit)

end ArtifactTools.Json
