import ArtifactTools.Double

/-! Spans of time and points of a clock. The clock ends: a point after the last second it can count
does not exist. -/

namespace ArtifactTools

structure Duration where
  seconds : Nat
  nanoseconds : Nat
  deriving DecidableEq, Repr

namespace Duration

def ofSeconds (seconds : Nat) : Duration := ⟨seconds, 0⟩

def ofParts (seconds nanoseconds : Nat) : Duration :=
  ⟨seconds + nanoseconds / 1000000000, nanoseconds % 1000000000⟩

def longest : Duration := ⟨Nat.pow 2 64 - 1, 999999999⟩

def ofMilliseconds (count : Nat) : Duration := ofParts (count / 1000) (count % 1000 * 1000000)

def totalNanoseconds (duration : Duration) : Nat :=
  duration.seconds * 1000000000 + duration.nanoseconds

/-- The duration in seconds as the nearest double computes it. -/
def inSeconds (duration : Duration) : Float :=
  (UInt64.ofNat duration.seconds).toFloat + (UInt64.ofNat duration.nanoseconds).toFloat / 1000000000

def roundedQuotient (numerator denominator : Nat) : Nat :=
  let below := numerator / denominator
  let rest := numerator % denominator
  if 2 * rest < denominator then below
  else if denominator < 2 * rest then below + 1
  else if below % 2 = 0 then below else below + 1

def hundredths (number : Double) : Nat :=
  roundedQuotient (100 * number.significand * Nat.pow 2 number.exponent.toNat)
    (Nat.pow 2 (-number.exponent).toNat)

def text (duration : Duration) : String :=
  let total := hundredths (Double.ofFloat duration.inSeconds)
  String.ofList (Decimal.digits (total / 100) ++ '.' ::
    Decimal.padZeros 2 (Decimal.digits (total % 100)))

end Duration

structure Instant where
  nanoseconds : Nat
  deriving DecidableEq, Repr

namespace Instant

def clockEnd : Nat := Nat.pow 2 63 * 1000000000

def after? (start : Instant) (span : Duration) : Option Instant :=
  let point := start.nanoseconds + span.totalNanoseconds
  if point < clockEnd then some ⟨point⟩ else none

def ofMilliseconds (count : Nat) : Instant := ⟨count * 1000000⟩

end Instant

end ArtifactTools
