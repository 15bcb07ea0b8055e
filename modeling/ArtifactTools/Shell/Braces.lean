import ArtifactTools.Shell.Command
import ArtifactTools.Text.Decimal

/-! Words with braces: each text between commas gives a word of its own, and two ends of a range all
that lies between them. Braces that hold neither stand for themselves. -/

namespace ArtifactTools.Shell.Braces

/-- The parts of what a brace has opened: the pieces between its commas and what follows the brace
that closes it. Only a text with a comma or a range of its own can be closed; `isApt` says that one
has been seen. -/
structure Split where
  pieces : List Word
  rest : Word

def isBare (character : Char) : Part → Bool
  | .text [other] false => other = character
  | _ => false

def Split.cons (part : Part) (split : Split) : Split :=
  match split.pieces with
  | [] => { split with pieces := [[part]] }
  | first :: others => { split with pieces := (part :: first) :: others }

def close : Nat → Bool → Word → Option Split
  | _, _, [] => none
  | depth, isApt, part :: rest =>
      if isBare '\x7b' part then (close (depth + 1) isApt rest).map (·.cons part)
      else if isBare '\x7d' part then
        match depth with
        | 0 => if isApt then some ⟨[[]], rest⟩ else (close 0 isApt rest).map (·.cons part)
        | depth + 1 => (close depth isApt rest).map (·.cons part)
      else if isBare ',' part && depth = 0 then
        (close 0 true rest).map fun split => { split with pieces := [] :: split.pieces }
      else
        let isRange := depth = 0 && isBare '.' part && rest.head?.any (isBare '.') &&
          !(rest[1]?).all (isBare '\x7d')
        (close depth (isApt || isRange) rest).map (·.cons part)

/-! Ranges. -/

def bareText? : Word → Option Text
  | [] => some []
  | .text characters false :: rest => (bareText? rest).map (characters ++ ·)
  | _ => none

def isLetter (character : Char) : Bool := isNameStart character && character ≠ '_'

def leadingNumber? (text : Text) : Option (Int × Text) :=
  let (isNegative, body) :=
    match text with
    | '-' :: rest => (true, rest)
    | '+' :: rest => (false, rest)
    | rest => (false, rest)
  let digits := body.takeWhile isDigit
  let size : Int := Decimal.value digits
  if digits.isEmpty then none
  else some (if isNegative then -size else size, body.drop digits.length)

def step? : Text → Option Int
  | [] => some 1
  | '.' :: '.' :: text =>
      match leadingNumber? text with
      | some (number, []) => some number
      | _ => none
  | _ => none

def between (first last step : Int) : List Int :=
  let size := if step = 0 then 1 else step.natAbs
  let count := (last - first).natAbs / size + 1
  (List.range count).map fun (index : Nat) =>
    let distance : Int := Int.ofNat (index * size)
    if first ≤ last then first + distance else first - distance

def width (first last : Text) : Nat :=
  let isFilled (text : Text) : Bool :=
    match text with
    | '0' :: _ :: _ => true
    | '-' :: '0' :: _ :: _ => true
    | _ => false
  if isFilled first || isFilled last then max first.length last.length else 0

def filled (width : Nat) (number : Int) : Text :=
  let digits := Decimal.digits number.natAbs
  if number < 0 then '-' :: Decimal.padZeros (width - 1) digits else Decimal.padZeros width digits

def range? (text : Text) : Option (List Text) :=
  let rec splitDots : Text → Option (Text × Text)
    | '.' :: '.' :: rest => some ([], rest)
    | character :: rest => (splitDots rest).map fun (first, last) => (character :: first, last)
    | [] => none
  (splitDots text).bind fun (first, after) =>
    match first with
    | [low] =>
        match after with
        | high :: rest =>
            if isLetter low && isLetter high then
              (step? rest).map fun step =>
                (between low.toNat high.toNat step).map fun code =>
                  if code = 92 then [] else [Char.ofNat code.toNat]
            else numbers? first after
        | [] => none
    | _ => numbers? first after
where
  numbers? (first after : Text) : Option (List Text) :=
    match leadingNumber? first, leadingNumber? after with
    | some (low, []), some (high, rest) =>
        let last := after.take (after.length - rest.length)
        (step? rest).map fun step => (between low high step).map (filled (width first last))
    | _, _ => none

def hasComma (pieces : List Word) : Bool :=
  1 < pieces.length || pieces.any fun piece => piece.any (isBare ',')

def expandParts : Nat → Word → List Word
  | 0, word => [word]
  | fuel + 1, word =>
      let before := word.takeWhile fun part => !isBare '\x7b' part
      match word.drop before.length with
      | [] => [word]
      | brace :: after =>
          let isEmptyPair := before.isEmpty && after.head?.any (isBare '\x7d')
          match if isEmptyPair then none else close 0 false after with
          | none => (expandParts fuel after).map fun rest => before ++ brace :: rest
          | some split =>
              let inside : List Word :=
                if hasComma split.pieces then split.pieces.flatMap (expandParts fuel)
                else
                  let written := after.take (after.length - split.rest.length)
                  match (bareText? split.pieces.flatten).bind range? with
                  | some texts => texts.map fun text => [.text text false]
                  | none => [brace :: written]
              let rests := expandParts fuel split.rest
              inside.flatMap fun piece => rests.map fun rest => before ++ piece ++ rest

def expand (word : Word) : List Word :=
  let hasBrace := word.any fun part =>
    match part with
    | .text characters false => characters.contains '\x7b'
    | _ => false
  if !hasBrace then [word]
  else
    let parts := spread word
    (expandParts (parts.length + 1) parts).map joinText

end ArtifactTools.Shell.Braces
