import ArtifactTools.Text.Hexadecimal
import ArtifactTools.Viewer
import Mathlib.Logic.Function.Basic

/-! Reading hex dumps. The digit pairs of a dump, taken row by row from between the offset and the
first bar, are the octets that were dumped. -/

namespace ArtifactTools

namespace HexDump

/-! A reader of dumps. -/

def readPairs : List Char → Octets
  | first :: second :: ' ' :: rest =>
      match Hexadecimal.value? first, Hexadecimal.value? second with
      | some high, some low => UInt8.ofNat (16 * high + low) :: readPairs rest
      | _, _ => []
  | _ => []

def pairColumn (line : List Char) : List Char :=
  ((line.dropWhile (· ≠ ' ')).drop 2).takeWhile (· ≠ '|')

/-- The octets that a dump shows, whatever its width and case. -/
def read (text : String) : Octets :=
  (text.toList.splitOn '\n').flatMap fun line => readPairs (pairColumn line)

/-! Characters of the columns. -/

theorem ne_of_value? {character : Char} {value : Nat}
    (digit : Hexadecimal.value? character = some value) :
    character ≠ ' ' ∧ character ≠ '|' ∧ character ≠ '\n' := by
  refine ⟨?_, ?_, ?_⟩ <;> rintro rfl <;> exact absurd digit (by decide +revert)

theorem exists_value?_of_mem_offset (position : Nat) :
    ∀ character ∈ offset position, ∃ value, Hexadecimal.value? character = some value := by
  intro character member
  rcases List.mem_append.mp member with padding | written
  · rw [List.eq_of_mem_replicate padding]
    exact ⟨0, by decide⟩
  · exact Hexadecimal.exists_value?_of_mem_digits position character written

theorem exists_value?_of_mem_pair {uppercase : Bool} {octet : UInt8} {character : Char}
    (member : character ∈ pair uppercase octet) :
    character = ' ' ∨ ∃ value, Hexadecimal.value? character = some value := by
  have bound := octet.toNat_lt
  simp only [pair, List.mem_cons, List.not_mem_nil, or_false] at member
  rcases member with rfl | rfl | rfl
  · exact Or.inr ⟨_, Hexadecimal.value?_digit uppercase (octet.toNat / 16) (by omega)⟩
  · exact Or.inr ⟨_, Hexadecimal.value?_digit uppercase (octet.toNat % 16) (by omega)⟩
  · exact Or.inl rfl

theorem ne_of_mem_hexColumn {width : Nat} {uppercase : Bool} {octets : Octets} {character : Char}
    (member : character ∈ hexColumn width uppercase octets) :
    character ≠ '|' ∧ character ≠ '\n' := by
  rcases List.mem_append.mp member with shown | filler
  · obtain ⟨octet, -, inPair⟩ := List.mem_flatMap.mp shown
    rcases exists_value?_of_mem_pair inPair with rfl | ⟨value, digit⟩
    · decide
    · exact (ne_of_value? digit).2
  · rw [List.eq_of_mem_replicate filler]
    decide

theorem glyph_ne_newline (octet : UInt8) : glyph octet ≠ '\n' := by
  have visible : ∀ code ≤ 0x7E, 0x20 ≤ code → Char.ofNat code ≠ '\n' := by decide +kernel
  unfold glyph
  split
  · next printable =>
      have lower := UInt8.le_iff_toNat_le.mp printable.1
      have upper := UInt8.le_iff_toNat_le.mp printable.2
      exact visible octet.toNat upper lower
  · decide

/-! Reading a row. -/

theorem readPairs_blanks (count : Nat) : readPairs (List.replicate count ' ') = [] := by
  match count with
  | 0 | 1 | 2 => rfl
  | count + 3 => rfl

theorem readPairs_pair (uppercase : Bool) (octet : UInt8) (rest : List Char) :
    readPairs (pair uppercase octet ++ rest) = octet :: readPairs rest := by
  have bound := octet.toNat_lt
  have high := Hexadecimal.value?_digit uppercase (octet.toNat / 16) (by omega)
  have low := Hexadecimal.value?_digit uppercase (octet.toNat % 16) (by omega)
  have whole : 16 * (octet.toNat / 16) + octet.toNat % 16 = octet.toNat := by omega
  simp only [pair, List.cons_append, List.nil_append, readPairs, high, low, whole,
    UInt8.ofNat_toNat]

theorem readPairs_shown (uppercase : Bool) (octets : Octets) (blanks : Nat) :
    readPairs (octets.flatMap (pair uppercase) ++ List.replicate blanks ' ') = octets := by
  induction octets with
  | nil => exact readPairs_blanks blanks
  | cons octet rest ih =>
      rw [List.flatMap_cons, List.append_assoc, readPairs_pair, ih]

def line (width : Nat) (uppercase : Bool) (position : Nat) (octets : Octets) : List Char :=
  offset position ++ ' ' :: ' ' :: (hexColumn width uppercase octets ++ ' ' :: '|' ::
    (octets.map glyph ++ ['|']))

theorem row_eq (width : Nat) (uppercase : Bool) (position : Nat) (octets : Octets) :
    row width uppercase position octets = line width uppercase position octets ++ ['\n'] := by
  simp [row, line]

theorem newline_not_mem_line (width : Nat) (uppercase : Bool) (position : Nat)
    (octets : Octets) : '\n' ∉ line width uppercase position octets := by
  intro member
  simp only [line, List.mem_append, List.mem_cons, List.mem_map, List.not_mem_nil,
    or_false] at member
  rcases member with inOffset | same | same | inColumn | same | same | ⟨octet, -, shown⟩ | same
  · obtain ⟨value, digit⟩ := exists_value?_of_mem_offset position '\n' inOffset
    exact (ne_of_value? digit).2.2 rfl
  · exact absurd same (by decide)
  · exact absurd same (by decide)
  · exact (ne_of_mem_hexColumn inColumn).2 rfl
  · exact absurd same (by decide)
  · exact absurd same (by decide)
  · exact glyph_ne_newline octet shown
  · exact absurd same (by decide)

theorem pairColumn_line (width : Nat) (uppercase : Bool) (position : Nat) (octets : Octets) :
    pairColumn (line width uppercase position octets) =
      hexColumn width uppercase octets ++ [' '] := by
  have inOffset : ∀ character ∈ offset position, decide (character ≠ ' ') = true := by
    intro character member
    obtain ⟨value, digit⟩ := exists_value?_of_mem_offset position character member
    exact decide_eq_true (ne_of_value? digit).1
  have inColumn : ∀ character ∈ hexColumn width uppercase octets ++ [' '],
      decide (character ≠ '|') = true := by
    intro character member
    rcases List.mem_append.mp member with shown | last
    · exact decide_eq_true (ne_of_mem_hexColumn shown).1
    · rw [List.mem_singleton.mp last]
      decide
  rw [pairColumn, line, List.dropWhile_append_of_pos inOffset]
  simp only [ne_eq, not_true_eq_false, decide_false, Bool.false_eq_true, not_false_eq_true,
    List.dropWhile_cons_of_neg, List.drop_succ_cons, List.drop_zero]
  rw [List.append_cons, List.takeWhile_append_of_pos inColumn]
  simp

theorem readPairs_line (width : Nat) (uppercase : Bool) (position : Nat) (octets : Octets) :
    readPairs (pairColumn (line width uppercase position octets)) = octets := by
  rw [pairColumn_line, hexColumn, List.append_assoc, ← List.replicate_succ', readPairs_shown]

/-! Reading a dump. -/

def linesFrom (width : Nat) (uppercase : Bool) (position : Nat) :
    List Octets → List (List Char)
  | [] => []
  | octets :: rest =>
      line width uppercase position octets :: linesFrom width uppercase (position + width) rest

/-- Every line is ended, so that nothing stands after the last end. -/
theorem splitOn_rowsFrom (width : Nat) (uppercase : Bool) (pieces : List Octets) :
    ∀ position, (rowsFrom width uppercase position pieces).flatten.splitOn '\n' =
      linesFrom width uppercase position pieces ++ [[]] := by
  induction pieces with
  | nil => intro position; rfl
  | cons octets rest ih =>
      intro position
      rw [rowsFrom, List.flatten_cons, row_eq, List.append_assoc, List.singleton_append,
        List.splitOn_append_cons_self_of_not_mem
          (newline_not_mem_line width uppercase position octets),
        ih, linesFrom, List.cons_append]

theorem splitOn_render (octets : Octets) (bytesPerRow : Nat) (uppercase : Bool) :
    (render octets bytesPerRow uppercase).toList.splitOn '\n' =
      linesFrom (max bytesPerRow 1) uppercase 0 (chunks (max bytesPerRow 1) octets) ++ [[]] := by
  rw [render, String.toList_ofList, rows, splitOn_rowsFrom]

theorem readPairs_linesFrom (width : Nat) (uppercase : Bool) (pieces : List Octets) :
    ∀ position, (linesFrom width uppercase position pieces).flatMap
      (fun line => readPairs (pairColumn line)) = pieces.flatten := by
  induction pieces with
  | nil => intro position; rfl
  | cons octets rest ih =>
      intro position
      rw [linesFrom, List.flatMap_cons, readPairs_line, ih, List.flatten_cons]

theorem read_render (octets : Octets) (bytesPerRow : Nat) (uppercase : Bool) :
    read (render octets bytesPerRow uppercase) = octets := by
  have afterLast : readPairs (pairColumn []) = [] := rfl
  rw [read, splitOn_render, List.flatMap_append, readPairs_linesFrom, flatten_chunks,
    List.flatMap_singleton, afterLast, List.append_nil]

end HexDump

namespace Viewer

theorem rowWidth_bounds (store : Settings.Store) : 1 ≤ rowWidth store ∧ rowWidth store ≤ 64 := by
  have bounds : ∀ stored : Int, 1 ≤ (max 1 (min widestRow stored)).toNat ∧
      (max 1 (min widestRow stored)).toNat ≤ 64 := by
    intro stored
    unfold widestRow
    omega
  exact bounds _

/-- Different octets have different dumps, as they are read from them again. A hex viewer shows the
dump of what it is given, in rows of at most 64 octets, whatever has become of its settings. -/
theorem dumps_lossless :
    (∀ octets bytesPerRow uppercase,
      HexDump.read (HexDump.render octets bytesPerRow uppercase) = octets) ∧
    (∀ bytesPerRow uppercase,
      Function.Injective fun octets => HexDump.render octets bytesPerRow uppercase) ∧
    ∀ serial, ∃ viewer, hex.build serial = .ok viewer ∧
      ∀ (store : Settings.Store) (octets : Octets) (services : Services), ∃ uppercase,
        let shown := HexDump.render octets (rowWidth store) uppercase
        { viewer with store }.run (.view octets) services = (.ok (.text shown), services) ∧
          HexDump.read shown = octets ∧ 1 ≤ rowWidth store ∧ rowWidth store ≤ 64 := by
  refine ⟨HexDump.read_render, ?_, ?_⟩
  · intro bytesPerRow uppercase
    exact Function.LeftInverse.injective fun octets =>
      HexDump.read_render octets bytesPerRow uppercase
  · intro serial
    refine ⟨_, rfl, ?_⟩
    intro store octets services
    exact ⟨_, rfl, HexDump.read_render _ _ _, rowWidth_bounds store⟩

end Viewer

end ArtifactTools
