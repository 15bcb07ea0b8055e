/-! Octets and the text they spell. A string has one spelling, its UTF-8 octets. Octets that spell
no string are either refused, or read lossily: each longest beginning of a character that is then
broken off becomes one replacement character, and reading goes on at the octet that broke it. -/

namespace ArtifactTools

abbrev Octets := List UInt8

namespace Utf8

def encode (text : String) : Octets := text.toUTF8.data.toList

def decode? (octets : Octets) : Option String := String.fromUTF8? ⟨octets.toArray⟩

theorem decode?_encode (text : String) : decode? (encode text) = some text := by
  have valid := text.isValidUTF8
  unfold decode? encode
  rw [Array.toArray_toList]
  exact dif_pos valid

/-- What the first octet of a character announces. A `lead` needs `more` further octets, the next
of which lies between `low` and `high`; `value` holds the bits read so far. -/
inductive Opening where
  | single (character : Char)
  | lead (more : Nat) (low high : UInt8) (value : Nat)
  | broken

def opening (octet : UInt8) : Opening :=
  let bits := octet.toNat
  if bits < 0x80 then .single (Char.ofNat bits)
  else if bits < 0xC2 then .broken
  else if bits < 0xE0 then .lead 1 0x80 0xBF (bits - 0xC0)
  else if bits < 0xF0 then
    .lead 2 (if bits = 0xE0 then 0xA0 else 0x80) (if bits = 0xED then 0x9F else 0xBF) (bits - 0xE0)
  else if bits < 0xF5 then
    .lead 3 (if bits = 0xF0 then 0x90 else 0x80) (if bits = 0xF4 then 0x8F else 0xBF) (bits - 0xF0)
  else .broken

def replacement : Char := '\uFFFD'

/-- Between characters the reader is `idle`; inside one it waits for `more` further octets. -/
inductive Reader where
  | idle
  | inside (more : Nat) (low high : UInt8) (value : Nat)

def Reader.start (octet : UInt8) : List Char × Reader :=
  match opening octet with
  | .single character => ([character], .idle)
  | .lead more low high value => ([], .inside more low high value)
  | .broken => ([replacement], .idle)

def Reader.step : Reader → UInt8 → List Char × Reader
  | .idle, octet => start octet
  | .inside more low high value, octet =>
      if low ≤ octet ∧ octet ≤ high then
        let value := value * 64 + (octet.toNat - 0x80)
        if more ≤ 1 then ([Char.ofNat value], .idle)
        else ([], .inside (more - 1) 0x80 0xBF value)
      else
        let (characters, reader) := start octet
        (replacement :: characters, reader)

def Reader.finish : Reader → List Char
  | .idle => []
  | .inside .. => [replacement]

def Reader.run : Reader → Octets → List Char
  | reader, [] => reader.finish
  | reader, octet :: rest =>
      let (characters, reader) := reader.step octet
      characters ++ reader.run rest

def decodeLossy (octets : Octets) : String := String.ofList (Reader.idle.run octets)

end Utf8

end ArtifactTools
