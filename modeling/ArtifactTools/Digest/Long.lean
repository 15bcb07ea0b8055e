import ArtifactTools.Digest.Basic

/-! Digests of two hundred and twenty-four bits and more. Their constants are the fractions of the
roots of the first primes. -/

namespace ArtifactTools.Digest

def isPrime (number : Nat) : Bool :=
  2 ≤ number && (List.range number).all fun divisor => divisor < 2 || number % divisor ≠ 0

def primes : List Nat := (List.range 410).filter isPrime

def root (degree number : Nat) : Nat → Nat → Nat
  | 0, found => found
  | bit + 1, found =>
      let tried := found + Nat.pow 2 bit
      root degree number bit (if Nat.pow tried degree ≤ number then tried else found)

def rootFraction (degree bits number : Nat) : Nat :=
  root degree (number * Nat.pow 2 (degree * bits)) (bits + 8) 0 % Nat.pow 2 bits

/-- A kind of long digest: the bits of a word, the number of rounds, how far words are turned in each
of four sums, the last two of which shift by the last amount, and how the state begins. -/
structure Kind where
  bits : Nat
  rounds : Nat
  amounts : Array (UInt64 × UInt64 × UInt64)
  constants : Array UInt64
  start : Array UInt64

namespace Kind

def mask (kind : Kind) : UInt64 := UInt64.ofNat (Nat.pow 2 kind.bits - 1)

def turned (kind : Kind) (word amount : UInt64) : UInt64 :=
  ((word >>> amount) ||| (word <<< (UInt64.ofNat kind.bits - amount))) &&& kind.mask

def spread (kind : Kind) (index : Nat) (shifts : Bool) (word : UInt64) : UInt64 :=
  let (first, second, third) := kind.amounts.getD index (0, 0, 0)
  kind.turned word first ^^^ kind.turned word second ^^^
    (if shifts then word >>> third else kind.turned word third)

def expanded (kind : Kind) (block : Octets) : Array UInt64 :=
  let first := (wordsOf (kind.bits / 8) false block).map UInt64.ofNat
  (List.range (kind.rounds - 16)).foldl (fun words index =>
    let wordAt (back : Nat) : UInt64 := words.getD (index + 16 - back) 0
    words.push ((wordAt 16 + kind.spread 2 true (wordAt 15) + wordAt 7 +
      kind.spread 3 true (wordAt 2)) &&& kind.mask)) first

def round (kind : Kind) (block : Array UInt64) (state : Array UInt64) (index : Nat) :
    Array UInt64 :=
  let wordAt (place : Nat) : UInt64 := state.getD place 0
  let a := wordAt 0
  let e := wordAt 4
  let choice := (e &&& wordAt 5) ^^^ (~~~e &&& wordAt 6)
  let majority := (a &&& wordAt 1) ^^^ (a &&& wordAt 2) ^^^ (wordAt 1 &&& wordAt 2)
  let sum := wordAt 7 + kind.spread 1 false e + choice + kind.constants.getD index 0 +
    block.getD index 0
  #[(sum + kind.spread 0 false a + majority) &&& kind.mask, a, wordAt 1, wordAt 2,
    (wordAt 3 + sum) &&& kind.mask, e, wordAt 5, wordAt 6]

def mix (kind : Kind) (state : Array UInt64) (block : Octets) : Array UInt64 :=
  let after := (List.range kind.rounds).foldl (kind.round (kind.expanded block)) state
  (state.zip after).map fun (old, new) => (old + new) &&& kind.mask

def digest (kind : Kind) (length : Nat) (octets : Octets) : Octets :=
  let state := mixAll (2 * kind.bits) (kind.bits / 4) false kind.start kind.mix octets
  (state.toList.flatMap fun word => bigOctets (kind.bits / 8) word.toNat).take (length / 8)

def half (start : Array UInt64) : Kind where
  bits := 32
  rounds := 64
  amounts := #[(2, 13, 22), (6, 11, 25), (7, 18, 3), (17, 19, 10)]
  constants := ((primes.take 64).map fun prime => UInt64.ofNat (rootFraction 3 32 prime)).toArray
  start

def full (start : Array UInt64) : Kind where
  bits := 64
  rounds := 80
  amounts := #[(28, 34, 39), (14, 18, 41), (1, 8, 7), (19, 61, 6)]
  constants := (primes.map fun prime => UInt64.ofNat (rootFraction 3 64 prime)).toArray
  start

def roots (bits skipped : Nat) : Array UInt64 :=
  (((primes.drop skipped).take 8).map fun prime =>
    UInt64.ofNat (rootFraction 2 bits prime)).toArray

def bits256 : Kind := half (roots 32 0)

def bits224 : Kind := half ((roots 64 8).map fun word => word &&& 0xffffffff)

def bits512 : Kind := full (roots 64 0)

def bits384 : Kind := full (roots 64 8)

end Kind

/-! Digests of any length up to five hundred and twelve bits. -/

def orders : Array (Array Nat) :=
  #[#[0, 1, 2, 3, 4, 5, 6, 7, 8, 9, 10, 11, 12, 13, 14, 15],
    #[14, 10, 4, 8, 9, 15, 13, 6, 1, 12, 0, 2, 11, 7, 5, 3],
    #[11, 8, 12, 0, 5, 2, 15, 13, 10, 14, 3, 6, 7, 1, 9, 4],
    #[7, 9, 3, 1, 13, 12, 11, 14, 2, 6, 5, 10, 4, 0, 15, 8],
    #[9, 0, 5, 7, 2, 4, 10, 15, 14, 1, 11, 12, 6, 8, 3, 13],
    #[2, 12, 6, 10, 0, 11, 8, 3, 4, 13, 7, 5, 15, 14, 1, 9],
    #[12, 5, 1, 15, 14, 13, 4, 10, 0, 7, 6, 3, 9, 2, 8, 11],
    #[13, 11, 7, 14, 12, 1, 3, 9, 5, 0, 15, 4, 8, 6, 2, 10],
    #[6, 15, 14, 9, 11, 3, 0, 8, 12, 2, 13, 7, 1, 4, 10, 5],
    #[10, 2, 8, 4, 7, 6, 1, 5, 15, 11, 9, 14, 3, 12, 13, 0]]

def quarters : List (Nat × Nat × Nat × Nat) :=
  [(0, 4, 8, 12), (1, 5, 9, 13), (2, 6, 10, 14), (3, 7, 11, 15), (0, 5, 10, 15), (1, 6, 11, 12),
    (2, 7, 8, 13), (3, 4, 9, 14)]

def mixQuarter (words : Array UInt64) (places : Nat × Nat × Nat × Nat) (first second : UInt64) :
    Array UInt64 :=
  let (ia, ib, ic, id) := places
  let turn := Kind.bits512.turned
  let wordAt (place : Nat) : UInt64 := words.getD place 0
  let a := wordAt ia + wordAt ib + first
  let d := turn (wordAt id ^^^ a) 32
  let c := wordAt ic + d
  let b := turn (wordAt ib ^^^ c) 24
  let a := a + b + second
  let d := turn (d ^^^ a) 16
  let c := c + d
  let b := turn (b ^^^ c) 63
  (((words.setIfInBounds ia a).setIfInBounds ib b).setIfInBounds ic c).setIfInBounds id d

def mixTwelve (state : Array UInt64) (block : Octets) (come : Nat) (isLast : Bool) :
    Array UInt64 :=
  let filled := block ++ List.replicate (128 - block.length) 0
  let own := (wordsOf 8 true filled).map UInt64.ofNat
  let roots := Kind.roots 64 0
  let words := state ++ roots
  let words := words.modify 12 (· ^^^ UInt64.ofNat come)
  let words := if isLast then words.modify 14 (~~~ ·) else words
  let after := (List.range 12).foldl (fun words round =>
    let order := orders.getD (round % 10) #[]
    quarters.zipIdx.foldl (fun words (places, index) =>
      let taken (place : Nat) : UInt64 := own.getD (order.getD place 0) 0
      mixQuarter words places (taken (2 * index)) (taken (2 * index + 1))) words) words
  (state.zipIdx).map fun (word, index) =>
    word ^^^ after.getD index 0 ^^^ after.getD (index + 8) 0

def ofAnyLength (length : Nat) (octets : Octets) : Octets :=
  let start := (Kind.roots 64 0).modify 0 (· ^^^ UInt64.ofNat (0x01010000 + length / 8))
  let blocks := if octets.isEmpty then [[]] else HexDump.chunks 128 octets
  let count := blocks.length
  let state := blocks.zipIdx.foldl (fun state (block, index) =>
    mixTwelve state block (128 * index + block.length) (index + 1 = count)) start
  (state.toList.flatMap fun word => littleOctets 8 word.toNat).take (length / 8)

end ArtifactTools.Digest
