import ArtifactTools.Binary
import ArtifactTools.Shell.Native.Basic

/-! The program that writes the numbers from one to another. They are decimals and are counted
exactly, with as many places as the first number and the step have. -/

namespace ArtifactTools.Shell.Native

/-- A bound or a step: `size` units of `10 ^ -places`, unless it is without end. As it was written it
has a width and perhaps a precision. -/
structure Bound where
  isNegative : Bool
  isEndless : Bool
  size : Nat
  places : Nat
  width : Nat
  precision : Option Nat

namespace Bound

def units (bound : Bound) (places : Nat) : Int :=
  let size : Int := bound.size * Nat.pow 10 (places - bound.places)
  if bound.isNegative then -size else size

/-- The magnitude in a text of digits with a fraction and an exponent, or of hexadecimal digits, as
units and their places. -/
def magnitude (text : Text) : Nat × Nat :=
  match Binary.Numeral.stripWord? "0x" text with
  | some digits =>
      (digits.foldl (fun sum digit => sum * 16 + (Hexadecimal.value? digit).getD 0) 0, 0)
  | none =>
      let (whole, fraction, rest) := Binary.Numeral.splitDigits isDigit text
      let (exponent, _) := Binary.Numeral.splitExponent 'e' rest
      let exponent := exponent - fraction.length
      (Decimal.value (whole ++ fraction) * Nat.pow 10 exponent.toNat, (-exponent).toNat)

def shape (text : Text) (isEndless : Bool) : Nat × Option Nat :=
  let hasPoint := text.contains '.'
  let isPlain := !hasPoint && !text.contains 'p'
  if isEndless || text.any (fun letter => letter.toLower = 'x') then
    (0, if isPlain then some 0 else none)
  else
    let isExponent (letter : Char) : Bool := letter.toLower = 'e'
    let mantissa := text.takeWhile (!isExponent ·)
    let whole := mantissa.takeWhile (· ≠ '.')
    let fraction := mantissa.drop (whole.length + 1)
    let exponent := (Binary.Numeral.splitExponent 'e' (text.drop mantissa.length)).1
    let pointWidth : Nat :=
      if hasPoint && fraction.isEmpty then mantissa.length - 1
      else if hasPoint && !(whole.getLast?.any isDigit) then mantissa.length + 1
      else mantissa.length
    let precision : Nat := if hasPoint then fraction.length else 0
    if exponent < 0 then
      let width := pointWidth + if !hasPoint || fraction.isEmpty then 1 else 0
      (width + exponent.natAbs, some (precision + exponent.natAbs))
    else (pointWidth + exponent.natAbs, some (precision - exponent.natAbs))

end Bound

def Bound.read (text : Text) : Except Text Bound :=
  match (Binary.Numeral.read? text).filter fun numeral => numeral.rest.isEmpty with
  | none => .error (words "invalid floating point argument: " ++ cited text)
  | some numeral =>
      match numeral.amount with
      | .notANumber => .error (words "invalid 'not-a-number' argument: " ++ cited text)
      | amount =>
        let isEndless :=
          match amount with
          | .infinite => true
          | _ => false
        let text := text.dropWhile fun letter => Binary.Numeral.isSpace letter || letter = '+'
        let isNegative := text.head? = some '-'
        let (size, places) := magnitude (if isNegative then text.drop 1 else text)
        let (width, precision) := shape text isEndless
        .ok ⟨isNegative, isEndless, size, places, width, precision⟩

def fixedPoint (places shown : Nat) (isZeroNegative : Bool) (units : Int) : Text × Text :=
  let size := Binary.divideToEven (units.natAbs * Nat.pow 10 shown) (Nat.pow 10 places)
  let digits := Decimal.padZeros (shown + 1) (Decimal.digits size)
  let whole := digits.length - shown
  (if units < 0 || (units = 0 && isZeroNegative) then ['-'] else [],
    digits.take whole ++ if shown = 0 then [] else '.' :: digits.drop whole)

def layoutOf (isFilled : Bool) (first step last : Bound) : Option (Nat × Nat) :=
  match first.precision, step.precision, last.precision with
  | some firstPlaces, some stepPlaces, some lastPlaces =>
      let places := max firstPlaces stepPlaces
      let point (own : Nat) : Nat := if own = 0 && 0 < places then 1 else 0
      let firstWidth := first.width + (places - firstPlaces) + point firstPlaces
      let lastWidth := last.width + places + point lastPlaces - lastPlaces -
        if 0 < lastPlaces && places = 0 then 1 else 0
      some (places, if isFilled then max firstWidth lastWidth else 0)
  | _, _, _ => none

/-- A format with one field for a number: what stands before the field, the field with its
conversion, and what stands after it. -/
structure NumberFormat where
  before : Text
  field : Format.Field
  conversion : Char
  after : Text

def plainPart : Text → Text × Text
  | '%' :: '%' :: rest =>
      let (text, rest) := plainPart rest
      ('%' :: text, rest)
  | '%' :: rest => ([], '%' :: rest)
  | letter :: rest =>
      let (text, rest) := plainPart rest
      (letter :: text, rest)
  | [] => ([], [])

def NumberFormat.read (format : Text) : Except Text NumberFormat :=
  let told (fault : Text) : Except Text NumberFormat :=
    .error (words "format " ++ cited format ++ ' ' :: fault)
  let (before, rest) := plainPart format
  match rest with
  | [] => told (words "has no % directive")
  | _ :: rest =>
      let flags := rest.takeWhile fun letter => "-+#0 '".contains letter
      let (field, _, after) := Format.readField ⟨[], [], [], false⟩
        (flags.filter (· ≠ '\'') ++ (rest.drop flags.length).dropWhile (· = '*'))
      let after := if (rest.drop flags.length).head? = some '*' then '*' :: after else after
      match if after.head? = some 'L' then after.drop 1 else after with
      | [] => told (words "ends in %")
      | conversion :: after =>
          if !("efgaEFGA".contains conversion) then
            told (words "has unknown %" ++ conversion :: words " directive")
          else
            let (after, rest) := plainPart after
            if rest.isEmpty then .ok ⟨before, field, conversion, after⟩
            else told (words "has too many % directives")

def NumberFormat.write (format : NumberFormat) (number : Scalar) : Text :=
  format.before ++ Format.real .extended format.field format.conversion number ++ format.after

def scalarOf (places : Nat) (units : Int) : Scalar :=
  ⟨units < 0, Precision.extended.round units.natAbs (Nat.pow 10 places)⟩

def numbers (format : Option NumberFormat) (isFilled : Bool) (first step last : Bound) :
    List Text :=
  let places := max first.places (max step.places last.places)
  let start := first.units places
  let stride := step.units places
  let span := if stride < 0 then start - last.units places else last.units places - start
  let rounds : Nat := if span < 0 then 0 else span.toNat / stride.natAbs + 1
  let write (index : Nat) : Text :=
    let number := start + stride * index
    match format, layoutOf isFilled first step last with
    | some format, _ => format.write (scalarOf places number)
    | none, some (shown, width) =>
        let (sign, digits) := fixedPoint places shown (index = 0 && first.isNegative) number
        sign ++ Decimal.padZeros (width - sign.length) digits
    | none, none => Format.real .extended .plain 'g' (scalarOf places number)
  (List.range rounds).map write

def bounds : List Text → Except Text (Bound × Bound × Bound)
  | [last] => return (⟨false, false, 1, 0, 1, some 0⟩, ⟨false, false, 1, 0, 1, some 0⟩,
      ← Bound.read last)
  | [first, last] => do
      let first ← Bound.read first
      return (first, ⟨false, false, 1, 0, 1, some 0⟩, ← Bound.read last)
  | first :: step :: last :: _ => do
      let first ← Bound.read first
      let increment ← Bound.read step
      if increment.size = 0 && !increment.isEndless then
        throw (words "invalid Zero increment value: " ++ cited step)
      return (first, increment, ← Bound.read last)
  | [] => throw (words "missing operand")

def splitAtNumber : List Text → List Text × List Text
  | [] => ([], [])
  | argument :: rest =>
      let isNumber :=
        match argument with
        | '-' :: '.' :: _ => true
        | '-' :: digit :: _ => isDigit digit
        | _ => false
      if isNumber then ([], argument :: rest)
      else
        let (options, operands) := splitAtNumber rest
        (argument :: options, operands)

def count (name : Text) (arguments : List Text) : Running Unit :=
  let (options, negative) := splitAtNumber arguments
  let kinds : List OptionKind :=
    [textual 'f' "format", textual 's' "separator", flag 'w' "equal-width"]
  let marked := if options.contains ['-', '-'] || negative.isEmpty then [] else [['-', '-']]
  withLeadingOptions 1 kinds name (options ++ marked ++ negative) fun options operands => do
    match operands.filter fun operand => !marked.contains operand with
    | [] => misuse 1 name [words "missing operand"]
    | _ :: _ :: _ :: extra :: _ => misuse 1 name [words "extra operand " ++ cited extra]
    | operands =>
        match (optionText? options 'f').mapM NumberFormat.read with
        | .error fault => blame 1 name fault
        | .ok format =>
            if format.isSome && hasOption options 'w' then
              misuse 1 name
                [words "format string may not be specified when printing equal width strings"]
            else
              match bounds operands with
              | .error fault => misuse 1 name [fault]
              | .ok (first, step, last) =>
                  if last.isEndless && last.isNegative = step.isNegative then throw .stopped
                  else
                    succeed
                    let last : Bound := if last.isEndless then { first with size := 0 } else last
                    let between := (optionText? options 's').getD ['\n']
                    let texts := numbers format (hasOption options 'w') first step last
                    if !texts.isEmpty then
                      say (between.intercalate texts ++ ['\n'])

end ArtifactTools.Shell.Native
