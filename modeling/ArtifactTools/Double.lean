import ArtifactTools.Text.Decimal

/-! Double-precision numbers: a number is its sixty-four bits. The text of a finite number has the
fewest digits that lie closer to it than to any other number, and of these the nearest. -/

namespace ArtifactTools

structure Double where
  bits : UInt64
  deriving DecidableEq, Repr

namespace Double

def ofFloat (number : Float) : Double := ⟨number.toBits⟩

def isNegative (number : Double) : Bool := Nat.pow 2 63 ≤ number.bits.toNat

def significand (number : Double) : Nat :=
  let fraction := number.bits.toNat % Nat.pow 2 52
  if number.bits.toNat / Nat.pow 2 52 % Nat.pow 2 11 = 0 then fraction else fraction + Nat.pow 2 52

def exponent (number : Double) : Int :=
  ((number.bits.toNat / Nat.pow 2 52 % Nat.pow 2 11).max 1 : Int) - 1075

/-- The numbers that round to one double lie between `low` and `high`, in units of
`1 / denominator`; the ends belong to them when `closed`. -/
structure Interval where
  low : Nat
  middle : Nat
  high : Nat
  denominator : Nat
  closed : Bool

/-- Below a power of two the neighbours lie twice as close as above it. -/
def interval (number : Double) : Interval :=
  let quarter := 4 * number.significand
  let below := if number.significand = Nat.pow 2 52 ∧ number.exponent > -1074 then 1 else 2
  let shift := number.exponent - 2
  let factor := Nat.pow 2 shift.toNat
  ⟨(quarter - below) * factor, quarter * factor, (quarter + 2) * factor, Nat.pow 2 (-shift).toNat,
    number.significand % 2 = 0⟩

def Interval.holds (range : Interval) (numerator denominator : Nat) : Bool :=
  let position := numerator * range.denominator
  if range.closed then range.low * denominator ≤ position && position ≤ range.high * denominator
  else range.low * denominator < position && position < range.high * denominator

def pointFrom (numerator denominator : Nat) (least : Int) : Nat → Int
  | 0 => least
  | fuel + 1 =>
      if numerator * Nat.pow 10 (-least).toNat < denominator * Nat.pow 10 least.toNat then least
      else pointFrom numerator denominator (least + 1) fuel

def Interval.point (range : Interval) : Int := pointFrom range.middle range.denominator (-330) 700

/-- The candidate with the given number of digits: of the two neighbours of the number on that
decimal grid that lie in the interval the nearer one, and of two equally near the even one. -/
def Interval.onGrid (range : Interval) (count : Nat) : Option Nat :=
  let unit := range.point - count
  let up := Nat.pow 10 unit.toNat
  let down := Nat.pow 10 (-unit).toNat
  let scaled := range.middle * down
  let cell := range.denominator * up
  let below := scaled / cell
  let belowHolds := range.holds (below * up) down
  let aboveHolds := range.holds ((below + 1) * up) down
  let rest := scaled % cell
  if belowHolds && aboveHolds then
    if 2 * rest < cell then some below
    else if 2 * rest > cell then some (below + 1)
    else some (if below % 2 = 0 then below else below + 1)
  else if belowHolds then some below
  else if aboveHolds then some (below + 1)
  else none

def Interval.shortestFrom (range : Interval) (count : Nat) : Nat → Nat × Nat
  | 0 => (range.middle / range.denominator, count)
  | fuel + 1 =>
      match range.onGrid count with
      | some number => (number, count)
      | none => range.shortestFrom (count + 1) fuel

def shortest (number : Double) : List Char × Int :=
  let range := number.interval
  let (value, count) := range.shortestFrom 1 17
  let digits := Decimal.digits value
  (Decimal.dropTrailingZeros digits, range.point + (digits.length - count : Int))

/-- Where a layout writes a number positionally: while its point lies strictly above `least` and
not above `greatest`. Elsewhere an exponent follows, with its sign. -/
structure Layout where
  least : Int
  greatest : Int

def zeros (count : Int) : List Char := List.replicate count.toNat '0'

def place (layout : Layout) (digits : List Char) (point : Int) : List Char :=
  let count : Int := digits.length
  if count ≤ point ∧ point ≤ layout.greatest then digits ++ zeros (point - count) ++ ['.', '0']
  else if 0 < point ∧ point ≤ layout.greatest then
    digits.take point.toNat ++ '.' :: digits.drop point.toNat
  else if layout.least < point ∧ point ≤ 0 then '0' :: '.' :: zeros (-point) ++ digits
  else
    let exponent := 'e' :: (if 0 < point then ['+'] else []) ++ Decimal.intDigits (point - 1)
    match digits with
    | [] => exponent
    | [single] => single :: exponent
    | first :: rest => first :: '.' :: rest ++ exponent

def text (layout : Layout) (number : Double) : List Char :=
  let sign := if number.isNegative then ['-'] else []
  if number.significand = 0 then sign ++ ['0', '.', '0']
  else
    let (digits, point) := number.shortest
    sign ++ place layout digits point

def powerOfTen (exponent : Nat) : Float := Float.ofScientific 1 false exponent

/-- The number `significand · 10 ^ exponent` as the format computes it: the significand is rounded
first, then multiplied or divided by a power of ten, at most by `10 ^ 308` at a time. A magnitude
that overflows is refused. -/
def scaled? (number : Float) (exponent : Int) : Option Float :=
  if exponent < 0 then
    if exponent < -308 then
      if number == 0 then some number
      else scaled? (number / powerOfTen 308) (exponent + 308)
    else some (number / powerOfTen exponent.natAbs)
  else if exponent ≤ 308 then
    let product := number * powerOfTen exponent.toNat
    if product.isInf then none else some product
  else if number == 0 then some number
  else none
termination_by (-exponent).toNat
decreasing_by omega

def ofParts? (negative : Bool) (significand : UInt64) (exponent : Int) : Option Double :=
  (scaled? significand.toFloat exponent).map fun number =>
    ofFloat (if negative then -number else number)

end Double

end ArtifactTools
