/-! Whole numbers in decimal: the text of a number has no needless zeros, and a text is read back as
the number its digits denote. -/

namespace ArtifactTools.Decimal

def digit (value : Nat) : Char := Char.ofNat (48 + value)

def isDigit (character : Char) : Bool := '0' ≤ character && character ≤ '9'

def digitValue (character : Char) : Nat := character.toNat - 48

def digits (number : Nat) : List Char :=
  if number < 10 then [digit number]
  else digits (number / 10) ++ [digit (number % 10)]
termination_by number
decreasing_by omega

def value (characters : List Char) : Nat :=
  characters.foldl (fun sum character => sum * 10 + digitValue character) 0

def ofNat (number : Nat) : String := String.ofList (digits number)

def intDigits (number : Int) : List Char :=
  if number < 0 then '-' :: digits number.natAbs else digits number.natAbs

def ofInt (number : Int) : String := String.ofList (intDigits number)

def readDigits? (characters : List Char) : Option Nat :=
  if characters.isEmpty then none
  else if characters.all isDigit then some (value characters)
  else none

def readInt? (text : String) : Option Int :=
  match text.toList with
  | '-' :: rest => (readDigits? rest).map fun number => -(number : Int)
  | '+' :: rest => (readDigits? rest).map fun number => (number : Int)
  | characters => (readDigits? characters).map fun number => (number : Int)

def readNat? (text : String) : Option Nat :=
  match text.toList with
  | '+' :: rest => readDigits? rest
  | characters => readDigits? characters

def padZeros (width : Nat) (characters : List Char) : List Char :=
  List.replicate (width - characters.length) '0' ++ characters

def dropTrailingZeros (characters : List Char) : List Char :=
  (characters.reverse.dropWhile (· = '0')).reverse

end ArtifactTools.Decimal
