import ArtifactTools.HexDump
import ArtifactTools.Transformer

/-! Viewers show raw octets: as a hex dump, or as text. -/

namespace ArtifactTools.Viewer

def hexDescriptors : List Settings.Descriptor :=
  [.integer "bytes_per_row" "Bytes per row" 16, .bool "uppercase" "Uppercase hex digits" false]

def widestRow : Int := 64

/-- The width of a row in a hex view, between one and sixty-four whatever is stored. -/
def rowWidth (store : Settings.Store) : Nat :=
  let stored := ((store.getInteger? "bytes_per_row").map (·.toInt)).getD 16
  (max 1 (min widestRow stored)).toNat

def renderHex (store : Settings.Store) (octets : Octets) : String :=
  HexDump.render octets (rowWidth store) ((store.getBool? "uppercase").getD false)

def showing (render : Settings.Store → Octets → String) : Behaviour :=
  fun store operation services =>
    match operation with
    | .view octets => (.outcome (.text (render store octets)), services)
    | _ => (.unsupported, services)

def hex : Draft :=
  ⟨"hex", "Hex", .other, hexDescriptors, fun _ => true, showing renderHex⟩

def text : Draft :=
  ⟨"text", "Text", .other, [], fun _ => true, showing fun _ octets => Utf8.decodeLossy octets⟩

def drafts : List Draft := [hex, text]

end ArtifactTools.Viewer
