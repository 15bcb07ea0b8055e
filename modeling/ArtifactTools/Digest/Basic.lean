import ArtifactTools.HexDump

/-! Short summaries of octets: what all kinds of them share. Octets are filled up to whole blocks, and
a state is mixed with one block after the other. -/

namespace ArtifactTools.Digest

def littleOctets : Nat → Nat → Octets
  | 0, _ => []
  | count + 1, number => UInt8.ofNat number :: littleOctets count (number / 256)

def bigOctets (count number : Nat) : Octets := (littleOctets count number).reverse

def numberOf (octets : Octets) : Nat :=
  octets.foldl (fun number octet => number * 256 + octet.toNat) 0

/-- Fills octets up to whole blocks: a mark, zeros, and the number of bits in so many octets. -/
def padded (size width : Nat) (isLittle : Bool) (octets : Octets) : Octets :=
  let length := octets.length
  let filling := (2 * size - (length + 1 + width) % size) % size
  let bits := 8 * length
  octets ++ 0x80 :: List.replicate filling 0 ++
    (if isLittle then littleOctets width bits else bigOctets width bits)

def wordsOf (width : Nat) (isLittle : Bool) (block : Octets) : Array Nat :=
  ((HexDump.chunks width block).map fun octets =>
    numberOf (if isLittle then octets.reverse else octets)).toArray

def mixAll {State : Type} (size width : Nat) (isLittle : Bool) (start : State)
    (mix : State → Octets → State) (octets : Octets) : State :=
  (HexDump.chunks size (padded size width isLittle octets)).foldl mix start

def turnLeft (word amount : UInt32) : UInt32 := (word <<< amount) ||| (word >>> (32 - amount))

def halfWords (isLittle : Bool) (block : Octets) : Array UInt32 :=
  (wordsOf 4 isLittle block).map UInt32.ofNat

def hexadecimal (octets : Octets) : List Char :=
  octets.flatMap fun octet =>
    [Hexadecimal.digit false (octet.toNat / 16), Hexadecimal.digit false (octet.toNat % 16)]

/-! Plain sums of octets. -/

def reduced : Nat → UInt32 → UInt32
  | 0, word => word
  | count + 1, word =>
      let shifted := word <<< 1
      reduced count (if word &&& 0x80000000 = 0 then shifted else shifted ^^^ 0x04c11db7)

def remainders : Array UInt32 :=
  ((List.range 256).map fun octet => reduced 8 (UInt32.ofNat octet <<< 24)).toArray

def stepRemainder (sum : UInt32) (octet : UInt8) : UInt32 :=
  (sum <<< 8) ^^^ remainders.getD ((sum >>> 24).toUInt8 ^^^ octet).toNat 0

def shortOctets : Nat → Nat → Octets
  | 0, _ => []
  | fuel + 1, number =>
      if number = 0 then [] else UInt8.ofNat number :: shortOctets fuel (number / 256)

def cyclicSum (octets : Octets) : Nat :=
  (~~~((octets ++ shortOctets 9 octets.length).foldl stepRemainder 0)).toNat

def turningSum (octets : Octets) : Nat :=
  octets.foldl (fun sum octet => (sum / 2 + sum % 2 * 32768 + octet.toNat) % 65536) 0

def foldedSum (octets : Octets) : Nat :=
  let sum := (octets.foldl (fun sum octet => sum + octet.toNat) 0) % Nat.pow 2 32
  let folded := sum % 65536 + sum / 65536
  folded % 65536 + folded / 65536

end ArtifactTools.Digest
