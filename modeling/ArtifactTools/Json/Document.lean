import ArtifactTools.Text.Decimal
import ArtifactTools.Text.Hexadecimal

/-! The grammar of JSON text. A document keeps what the text says: numerals digit by digit, members
in their order with repeated keys, and a string only if its escapes pair up to characters. What a
document means, and whether a reader can represent it, is decided later. -/

namespace ArtifactTools.Json

structure Numeral where
  negative : Bool
  whole : List Char
  fraction : List Char
  exponent : Option (Bool × List Char)
  deriving DecidableEq, Repr

/-- A string is `none` where an escape names half of a surrogate pair without the other half. -/
inductive Document where
  | null
  | bool (value : Bool)
  | number (numeral : Numeral)
  | string (text : Option String)
  | array (elements : List Document)
  | object (members : List (Option String × Document))

def isBlank (character : Char) : Bool :=
  character = ' ' || character = '\n' || character = '\t' || character = '\r'

def skipBlank (characters : List Char) : List Char := characters.dropWhile isBlank

inductive CodeUnit where
  | character (value : Char)
  | unit (value : Nat)

def hexUnit? (first second third fourth : Char) : Option Nat := do
  let first ← Hexadecimal.value? first
  let second ← Hexadecimal.value? second
  let third ← Hexadecimal.value? third
  let fourth ← Hexadecimal.value? fourth
  return ((first * 16 + second) * 16 + third) * 16 + fourth

def shortEscape? (character : Char) : Option Char :=
  match character with
  | '"' => some '"'
  | '\\' => some '\\'
  | '/' => some '/'
  | 'b' => some '\x08'
  | 'f' => some '\x0c'
  | 'n' => some '\n'
  | 'r' => some '\r'
  | 't' => some '\t'
  | _ => none

def readUnits : List Char → Option (List CodeUnit × List Char)
  | [] => none
  | '"' :: rest => some ([], rest)
  | '\\' :: 'u' :: first :: second :: third :: fourth :: rest =>
      match hexUnit? first second third fourth, readUnits rest with
      | some value, some (units, rest) => some (.unit value :: units, rest)
      | _, _ => none
  | '\\' :: letter :: rest =>
      match shortEscape? letter, readUnits rest with
      | some value, some (units, rest) => some (.character value :: units, rest)
      | _, _ => none
  | character :: rest =>
      if character.toNat < 0x20 ∨ character = '\\' then none
      else (readUnits rest).map fun (units, rest) => (.character character :: units, rest)

def isHighHalf (value : Nat) : Bool := 0xD800 ≤ value && value < 0xDC00

def isLowHalf (value : Nat) : Bool := 0xDC00 ≤ value && value < 0xE000

/-- The characters that the units spell: two halves make one character, a lone half makes none. -/
def assemble? : List CodeUnit → Option (List Char)
  | [] => some []
  | .character value :: rest => (assemble? rest).map (value :: ·)
  | .unit high :: .unit low :: rest =>
      if isHighHalf high && isLowHalf low then
        (assemble? rest).map
          (Char.ofNat (0x10000 + (high - 0xD800) * 0x400 + (low - 0xDC00)) :: ·)
      else if isHighHalf high || isLowHalf high then none
      else (assemble? (.unit low :: rest)).map (Char.ofNat high :: ·)
  | .unit value :: rest =>
      if isHighHalf value || isLowHalf value then none
      else (assemble? rest).map (Char.ofNat value :: ·)

def readString (characters : List Char) : Option (Option String × List Char) :=
  (readUnits characters).map fun (units, rest) => ((assemble? units).map String.ofList, rest)

def readDigits (characters : List Char) : List Char × List Char :=
  (characters.takeWhile Decimal.isDigit, characters.dropWhile Decimal.isDigit)

/-- The part before the point has no needless zero in front. -/
def readWhole? (characters : List Char) : Option (List Char × List Char) :=
  match readDigits characters with
  | ([], _) => none
  | ('0' :: _ :: _, _) => none
  | (digits, rest) => some (digits, rest)

def readFraction? : List Char → Option (List Char × List Char)
  | '.' :: rest =>
      match readDigits rest with
      | ([], _) => none
      | (digits, rest) => some (digits, rest)
  | characters => some ([], characters)

def readExponentDigits? (negative : Bool) (characters : List Char) :
    Option (Option (Bool × List Char) × List Char) :=
  match readDigits characters with
  | ([], _) => none
  | (digits, rest) => some (some (negative, digits), rest)

def readExponent? : List Char → Option (Option (Bool × List Char) × List Char)
  | mark :: characters =>
      if mark = 'e' ∨ mark = 'E' then
        match characters with
        | '-' :: rest => readExponentDigits? true rest
        | '+' :: rest => readExponentDigits? false rest
        | rest => readExponentDigits? false rest
      else some (none, mark :: characters)
  | [] => some (none, [])

def readMagnitude? (negative : Bool) (characters : List Char) :
    Option (Numeral × List Char) := do
  let (whole, rest) ← readWhole? characters
  let (fraction, rest) ← readFraction? rest
  let (exponent, rest) ← readExponent? rest
  return (⟨negative, whole, fraction, exponent⟩, rest)

def readNumeral? : List Char → Option (Numeral × List Char)
  | '-' :: rest => readMagnitude? true rest
  | characters => readMagnitude? false characters

mutual

def readValue : Nat → List Char → Option (Document × List Char)
  | 0, _ => none
  | fuel + 1, characters =>
      match skipBlank characters with
      | 'n' :: 'u' :: 'l' :: 'l' :: rest => some (.null, rest)
      | 't' :: 'r' :: 'u' :: 'e' :: rest => some (.bool true, rest)
      | 'f' :: 'a' :: 'l' :: 's' :: 'e' :: rest => some (.bool false, rest)
      | '"' :: rest => (readString rest).map fun (text, rest) => (.string text, rest)
      | '[' :: rest =>
          match skipBlank rest with
          | ']' :: rest => some (.array [], rest)
          | rest => (readElements fuel rest).map fun (elements, rest) => (.array elements, rest)
      | '\x7b' :: rest =>
          match skipBlank rest with
          | '\x7d' :: rest => some (.object [], rest)
          | rest => (readMembers fuel rest).map fun (members, rest) => (.object members, rest)
      | characters => (readNumeral? characters).map fun (numeral, rest) => (.number numeral, rest)

def readElements : Nat → List Char → Option (List Document × List Char)
  | 0, _ => none
  | fuel + 1, characters =>
      match readValue fuel characters with
      | none => none
      | some (element, rest) =>
          match skipBlank rest with
          | ']' :: rest => some ([element], rest)
          | ',' :: rest =>
              (readElements fuel rest).map fun (elements, rest) => (element :: elements, rest)
          | _ => none

def readMembers : Nat → List Char → Option (List (Option String × Document) × List Char)
  | 0, _ => none
  | fuel + 1, characters =>
      match skipBlank characters with
      | '"' :: rest =>
          match readString rest with
          | none => none
          | some (key, rest) =>
              match skipBlank rest with
              | ':' :: rest =>
                  match readValue fuel rest with
                  | none => none
                  | some (value, rest) =>
                      match skipBlank rest with
                      | '\x7d' :: rest => some ([(key, value)], rest)
                      | ',' :: rest =>
                          (readMembers fuel rest).map fun (members, rest) =>
                            ((key, value) :: members, rest)
                      | _ => none
              | _ => none
      | _ => none

end

def read? (text : String) : Option Document :=
  let characters := text.toList
  match readValue (2 * characters.length + 2) characters with
  | some (document, rest) => if (skipBlank rest).isEmpty then some document else none
  | none => none

end ArtifactTools.Json
