import ArtifactTools.Text.Utf8
import ArtifactTools.Text.Decimal
import ArtifactTools.Text.Hexadecimal

/-! Hex dumps. A dump shows its octets in rows of equal width; a row has the offset of its first
octet, a column of digit pairs filled up with blanks to the full width, and a column of characters
between bars. -/

namespace ArtifactTools.HexDump

def pair (uppercase : Bool) (octet : UInt8) : List Char :=
  [Hexadecimal.digit uppercase (octet.toNat / 16),
    Hexadecimal.digit uppercase (octet.toNat % 16), ' ']

def glyph (octet : UInt8) : Char :=
  if 0x20 ≤ octet ∧ octet ≤ 0x7E then Char.ofNat octet.toNat else '.'

def offset (position : Nat) : List Char := Decimal.padZeros 8 (Hexadecimal.digits position)

def hexColumn (width : Nat) (uppercase : Bool) (octets : Octets) : List Char :=
  octets.flatMap (pair uppercase) ++ List.replicate (3 * (width - octets.length)) ' '

def row (width : Nat) (uppercase : Bool) (position : Nat) (octets : Octets) : List Char :=
  offset position ++ [' ', ' '] ++ hexColumn width uppercase octets ++ [' ', '|'] ++
    octets.map glyph ++ ['|', '\n']

/-- The octets cut into pieces of the given width, of which only the last may be shorter. A width of
zero counts as one. -/
def chunks (width : Nat) : Octets → List Octets
  | [] => []
  | octet :: rest => (octet :: rest.take (width - 1)) :: chunks width (rest.drop (width - 1))
termination_by octets => octets.length
decreasing_by
  simp only [List.length_drop, List.length_cons]
  omega

theorem flatten_chunks (width : Nat) (octets : Octets) :
    (chunks width octets).flatten = octets := by
  fun_induction chunks width octets with
  | case1 => rfl
  | case2 octet rest ih => simp [ih]

def rowsFrom (width : Nat) (uppercase : Bool) (position : Nat) : List Octets → List (List Char)
  | [] => []
  | octets :: rest =>
      row width uppercase position octets :: rowsFrom width uppercase (position + width) rest

def rows (octets : Octets) (bytesPerRow : Nat) (uppercase : Bool) : List (List Char) :=
  let width := max bytesPerRow 1
  rowsFrom width uppercase 0 (chunks width octets)

def render (octets : Octets) (bytesPerRow : Nat) (uppercase : Bool) : String :=
  String.ofList (rows octets bytesPerRow uppercase).flatten

end ArtifactTools.HexDump
