import ArtifactTools.Text.Decimal
import ArtifactTools.Text.Hexadecimal

/-! Multiples of powers of two, and how an arithmetic of so many bits rounds to them. -/

namespace ArtifactTools

structure Binary where
  significand : Nat
  exponent : Int
  deriving DecidableEq, Repr

/-- An arithmetic: how many bits a significand has, the least exponent, and the power of two that all
its numbers lie below. -/
structure Precision where
  bits : Nat
  least : Int
  greatest : Int
  deriving DecidableEq, Repr

def Precision.double : Precision := ⟨53, -1074, 1024⟩

def Precision.extended : Precision := ⟨64, -16445, 16384⟩

inductive Magnitude where
  | finite (value : Binary)
  | infinite
  | notANumber
  deriving DecidableEq, Repr

structure Scalar where
  isNegative : Bool
  magnitude : Magnitude
  deriving DecidableEq, Repr

namespace Binary

def zero : Binary := ⟨0, 0⟩

def fraction (number : Binary) : Nat × Nat :=
  (number.significand * Nat.pow 2 number.exponent.toNat, Nat.pow 2 (-number.exponent).toNat)

def divideToEven (numerator denominator : Nat) : Nat :=
  let quotient := numerator / denominator
  let rest := 2 * (numerator % denominator)
  if denominator < rest || (rest = denominator && quotient % 2 = 1) then quotient + 1
  else quotient

end Binary

def Precision.round (precision : Precision) (numerator denominator : Nat) : Magnitude :=
  if numerator = 0 then .finite .zero
  else
    let size : Int := (Nat.log2 numerator : Int) - Nat.log2 denominator
    let inUnits (exponent : Int) : Nat × Nat :=
      (numerator * Nat.pow 2 (-exponent).toNat, denominator * Nat.pow 2 exponent.toNat)
    let first := max (size - precision.bits) precision.least
    let (top, bottom) := inUnits first
    let exponent := if Nat.pow 2 precision.bits ≤ top / bottom then first + 1 else first
    let (top, bottom) := inUnits exponent
    let significand := Binary.divideToEven top bottom
    if 0 < significand && precision.greatest ≤ Nat.log2 significand + exponent then .infinite
    else .finite ⟨significand, exponent⟩

end ArtifactTools

/-! Multiples of powers of two rounded to a number of places. The exact value is rounded, a half to
the even neighbour; positional notation keeps places after the point, and the notations with an
exponent keep digits after the first. -/

namespace ArtifactTools.Binary

def scaledTo (number : Binary) (places : Int) : Nat :=
  let (numerator, denominator) := number.fraction
  divideToEven (numerator * Nat.pow 10 places.toNat) (denominator * Nat.pow 10 (-places).toNat)

def afterPoint (keepsPoint : Bool) (digits : List Char) : List Char :=
  if digits.isEmpty && !keepsPoint then [] else '.' :: digits

def positional (number : Binary) (places : Nat) (keepsPoint : Bool) : List Char :=
  let digits := Decimal.padZeros (places + 1) (Decimal.digits (number.scaledTo places))
  let whole := digits.length - places
  digits.take whole ++ afterPoint keepsPoint (digits.drop whole)

def point (number : Binary) : Int :=
  let bits : Int := Nat.log2 number.significand + number.exponent
  let (numerator, denominator) := number.fraction
  let isBelow (point : Int) : Bool :=
    numerator * Nat.pow 10 (-point).toNat < denominator * Nat.pow 10 point.toNat
  let start := bits * 30103 / 100000 - 1
  let rec search (point : Int) : Nat → Int
    | 0 => point
    | fuel + 1 => if isBelow point then point else search (point + 1) fuel
  search start 5

def leadingDigits (number : Binary) (places : Nat) : List Char × Int :=
  if number.significand = 0 then (List.replicate (places + 1) '0', 0)
  else
    let exponent := number.point - 1
    let digits := Decimal.digits (number.scaledTo (places - exponent))
    if digits.length = places + 1 then (digits, exponent)
    else (digits.take (places + 1), exponent + 1)

def exponentText (letter : Char) (least : Nat) (exponent : Int) : List Char :=
  letter :: (if exponent < 0 then '-' else '+') ::
    Decimal.padZeros least (Decimal.digits exponent.natAbs)

def scientific (number : Binary) (places : Nat) (keepsPoint uppercase : Bool) : List Char :=
  let (digits, exponent) := number.leadingDigits places
  digits.take 1 ++ afterPoint keepsPoint (digits.drop 1) ++
    exponentText (if uppercase then 'E' else 'e') 2 exponent

def dropFraction (digits : List Char) : List Char :=
  if digits.contains '.' then
    match (Decimal.dropTrailingZeros digits).reverse with
    | '.' :: reversed => reversed.reverse
    | reversed => reversed.reverse
  else digits

def general (number : Binary) (digits : Nat) (keepsPoint uppercase : Bool) : List Char :=
  let count := max digits 1
  let (shown, exponent) := number.leadingDigits (count - 1)
  if -4 ≤ exponent && exponent < count then
    let text := number.positional (count - 1 - exponent).toNat keepsPoint
    if keepsPoint then text else dropFraction text
  else
    let fraction := if keepsPoint then shown.drop 1 else Decimal.dropTrailingZeros (shown.drop 1)
    shown.take 1 ++ afterPoint keepsPoint fraction ++
      exponentText (if uppercase then 'E' else 'e') 2 exponent

def normalized (precision : Precision) (number : Binary) : Binary :=
  let missing : Int := (precision.bits : Int) - 1 - Nat.log2 number.significand
  let shift := min missing (number.exponent - precision.least)
  if 0 ≤ shift then
    ⟨number.significand * Nat.pow 2 shift.toNat, number.exponent - shift⟩
  else ⟨number.significand / Nat.pow 2 (-shift).toNat, number.exponent - shift⟩

/-- The number in base sixteen with an exponent of two, less the mark in front. The digits after the
first are those that an arithmetic has whole. Without a number of places as many are shown as are
needed. -/
def hexadecimal (precision : Precision) (number : Binary) (places : Option Nat)
    (keepsPoint uppercase : Bool) : List Char :=
  let number := if number.significand = 0 then zero else number.normalized precision
  let size := (precision.bits - 1) / 4
  let exponent : Int := if number.significand = 0 then 0 else number.exponent + 4 * size
  let base := Nat.pow 16 size
  let shownDigits (count value : Nat) : List Char :=
    let digits := (Hexadecimal.digits value).map fun digit =>
      if uppercase then digit.toUpper else digit
    List.replicate (count - digits.length) '0' ++ digits
  let (lead, digits) :=
    match places with
    | none =>
        (number.significand / base,
          Decimal.dropTrailingZeros (shownDigits size (number.significand % base)))
    | some count =>
        if size ≤ count then
          (number.significand / base,
            shownDigits size (number.significand % base) ++ List.replicate (count - size) '0')
        else
          let rounded := divideToEven number.significand (Nat.pow 16 (size - count))
          let base := Nat.pow 16 count
          (rounded / base, if count = 0 then [] else shownDigits count (rounded % base))
  shownDigits 1 lead ++ afterPoint keepsPoint digits ++
    exponentText (if uppercase then 'P' else 'p') 1 exponent

/-! Numbers as they are written by hand: blanks, a sign, and a decimal or a hexadecimal numeral, or
the name of what is no finite number. -/

inductive Amount where
  | fraction (numerator denominator : Nat)
  | infinite
  | notANumber

structure Numeral where
  isNegative : Bool
  amount : Amount
  rest : List Char

namespace Numeral

def isSpace (character : Char) : Bool := " \t\n\x0b\x0c\r".contains character

def stripWord? (word : String) (characters : List Char) : Option (List Char) :=
  let count := word.toList.length
  if (characters.take count).map Char.toLower = word.toList then some (characters.drop count)
  else none

def splitDigits (isDigit : Char → Bool) (characters : List Char) :
    List Char × List Char × List Char :=
  let whole := characters.takeWhile isDigit
  match characters.drop whole.length with
  | '.' :: rest =>
      let fraction := rest.takeWhile isDigit
      if whole.isEmpty && fraction.isEmpty then ([], [], characters)
      else (whole, fraction, rest.drop fraction.length)
  | rest => (whole, [], rest)

def exponentLimit : Nat := 20000

def splitExponent (letter : Char) (characters : List Char) : Int × List Char :=
  match characters with
  | mark :: rest =>
      if mark.toLower ≠ letter then (0, characters)
      else
        let (negative, body) :=
          match rest with
          | '-' :: body => (true, body)
          | '+' :: body => (false, body)
          | body => (false, body)
        let digits := body.takeWhile Decimal.isDigit
        let size := min (Decimal.value digits) exponentLimit
        if digits.isEmpty then (0, characters)
        else (if negative then -size else size, body.drop digits.length)
  | [] => (0, [])

def scaled (value base : Nat) (exponent : Int) : Amount :=
  .fraction (value * Nat.pow base exponent.toNat) (Nat.pow base (-exponent).toNat)

def hexadecimal? (characters : List Char) : Option (Amount × List Char) := do
  let isHex (character : Char) : Bool := (Hexadecimal.value? character).isSome
  let (whole, fraction, rest) := splitDigits isHex (← stripWord? "0x" characters)
  guard !(whole ++ fraction).isEmpty
  let value := (whole ++ fraction).foldl
    (fun sum digit => sum * 16 + (Hexadecimal.value? digit).getD 0) 0
  let (exponent, rest) := splitExponent 'p' rest
  return (scaled value 2 (exponent - 4 * fraction.length), rest)

def decimal? (characters : List Char) : Option (Amount × List Char) :=
  let (whole, fraction, rest) := splitDigits Decimal.isDigit characters
  if (whole ++ fraction).isEmpty then none
  else
    let (exponent, rest) := splitExponent 'e' rest
    some (scaled (Decimal.value (whole ++ fraction)) 10 (exponent - fraction.length), rest)

def named? (characters : List Char) : Option (Amount × List Char) :=
  match stripWord? "infinity" characters, stripWord? "inf" characters,
      stripWord? "nan" characters with
  | some rest, _, _ | none, some rest, _ => some (.infinite, rest)
  | none, none, some rest => some (.notANumber, rest)
  | none, none, none => none

def read? (characters : List Char) : Option Numeral :=
  let (isNegative, body) :=
    match characters.dropWhile isSpace with
    | '-' :: rest => (true, rest)
    | '+' :: rest => (false, rest)
    | rest => (false, rest)
  (named? body <|> hexadecimal? body <|> decimal? body).map fun (amount, rest) =>
    ⟨isNegative, amount, rest⟩

def scalar (precision : Precision) (numeral : Numeral) : Scalar :=
  ⟨numeral.isNegative,
    match numeral.amount with
    | .fraction numerator denominator => precision.round numerator denominator
    | .infinite => .infinite
    | .notANumber => .notANumber⟩

def isBeyond (precision : Precision) (numeral : Numeral) : Bool :=
  match numeral.amount with
  | .fraction numerator denominator =>
      match precision.round numerator denominator with
      | .finite value => value.significand = 0 && numerator ≠ 0
      | _ => true
  | _ => false

end Numeral

end ArtifactTools.Binary
