import ArtifactTools.Proofs.HexDump
import Mathlib.Algebra.Order.Floor.Div
import Mathlib.Data.List.Forall2

/-! The layout of hex dumps. A dump has as many rows as it takes, and each row is described by the
position of its first octet alone, so that the bars of a dump stand below each other. -/

namespace ArtifactTools.HexDump

/-! The rows. -/

theorem getElem?_chunks {width : Nat} (positive : 0 < width) (octets : Octets) (index : Nat) :
    (chunks width octets)[index]? =
      if index * width < octets.length then some ((octets.drop (index * width)).take width)
      else none := by
  obtain ⟨bound, rfl⟩ : ∃ bound, width = bound + 1 := ⟨width - 1, by omega⟩
  fun_induction chunks (bound + 1) octets generalizing index with
  | case1 => simp
  | case2 octet rest ih =>
      cases index with
      | zero => simp
      | succ index =>
          have next : (index + 1) * (bound + 1) = index * (bound + 1) + bound + 1 :=
            Nat.succ_mul index (bound + 1)
          rw [List.getElem?_cons_succ, ih index, next, List.length_cons, List.drop_succ_cons,
            Nat.add_sub_cancel, List.length_drop, List.drop_drop,
            Nat.add_comm bound (index * (bound + 1))]
          exact if_congr (by omega) rfl rfl

theorem lt_length_chunks_iff {width : Nat} (positive : 0 < width) (octets : Octets)
    (index : Nat) : index < (chunks width octets).length ↔ index * width < octets.length := by
  rw [← not_le, ← List.getElem?_eq_none_iff, getElem?_chunks positive, ite_eq_right_iff]
  simp

theorem length_chunks {width : Nat} (positive : 0 < width) (octets : Octets) :
    (chunks width octets).length = octets.length ⌈/⌉ width := by
  refine eq_of_forall_lt_iff fun index => ?_
  rw [lt_length_chunks_iff positive, ← not_le, ← not_le, ceilDiv_le_iff_le_mul positive,
    Nat.mul_comm]

theorem getElem?_linesFrom (width : Nat) (uppercase : Bool) (pieces : List Octets) :
    ∀ position index, (linesFrom width uppercase position pieces)[index]? =
      pieces[index]?.map (line width uppercase (position + index * width)) := by
  induction pieces with
  | nil => intro position index; rfl
  | cons octets rest ih =>
      intro position index
      cases index with
      | zero => simp [linesFrom]
      | succ index =>
          have next : position + width + index * width = position + (index + 1) * width := by
            rw [Nat.succ_mul, Nat.add_assoc, Nat.add_comm width]
          rw [linesFrom, List.getElem?_cons_succ, List.getElem?_cons_succ, ih, next]

theorem length_linesFrom (width : Nat) (uppercase : Bool) (pieces : List Octets) :
    ∀ position, (linesFrom width uppercase position pieces).length = pieces.length := by
  induction pieces with
  | nil => intro position; rfl
  | cons octets rest ih => intro position; simp [linesFrom, ih]

/-! The columns of a row. -/

def written (uppercase : Bool) (octet : UInt8) : List Char :=
  let digits := (Nat.toDigits 16 octet.toNat).leftpad 2 '0'
  if uppercase then digits.map Char.toUpper else digits

def slot (uppercase : Bool) : Option UInt8 → List Char
  | some octet => written uppercase octet ++ [' ']
  | none => [' ', ' ', ' ']

theorem pair_eq_written (uppercase : Bool) (octet : UInt8) :
    pair uppercase octet = written uppercase octet ++ [' '] := by
  have agree : ∀ uppercase, ∀ code < 256, pair uppercase (UInt8.ofNat code) =
      written uppercase (UInt8.ofNat code) ++ [' '] := by decide +kernel
  simpa using agree uppercase octet.toNat octet.toNat_lt

theorem flatMap_blank_slots (uppercase : Bool) (width : Nat) :
    ((List.range width).flatMap fun _ => slot uppercase none) =
      List.replicate (3 * width) ' ' := by
  induction width with
  | zero => rfl
  | succ width ih =>
      rw [List.range_succ, List.flatMap_append, ih, Nat.mul_succ, List.replicate_add]
      rfl

theorem hexColumn_eq_flatMap_slot (uppercase : Bool) (octets : Octets) :
    ∀ width, octets.length ≤ width → hexColumn width uppercase octets =
      (List.range width).flatMap fun index => slot uppercase octets[index]? := by
  induction octets with
  | nil =>
      intro width fits
      simpa [hexColumn] using (flatMap_blank_slots uppercase width).symm
  | cons octet rest ih =>
      intro width fits
      cases width with
      | zero => exact absurd fits (Nat.not_succ_le_zero _)
      | succ width =>
          have others := ih width (Nat.le_of_succ_le_succ fits)
          simp only [hexColumn, List.length_cons, Nat.add_sub_add_right, List.flatMap_cons,
            List.range_succ_eq_map, List.flatMap_map, List.getElem?_cons_zero,
            List.getElem?_cons_succ, List.append_assoc] at others ⊢
          rw [others, pair_eq_written]
          rfl

theorem length_hexColumn {width : Nat} (uppercase : Bool) {octets : Octets}
    (fits : octets.length ≤ width) : (hexColumn width uppercase octets).length = 3 * width := by
  simp only [hexColumn, List.length_append, List.length_flatMap, pair, List.length_cons,
    List.length_nil, List.map_const', List.sum_replicate_nat, List.length_replicate]
  omega

theorem offset_eq_leftpad (position : Nat) :
    offset position = (Nat.toDigits 16 position).leftpad 8 '0' := by
  rw [offset, Decimal.padZeros, Hexadecimal.digits_eq_toDigits, List.leftpad]

theorem length_offset {position : Nat} (small : position < 2 ^ 32) :
    (offset position).length = 8 := by
  have digits : (Nat.toDigits 16 position).length ≤ 8 :=
    (Nat.length_toDigits_le_iff (by decide) (by decide)).mpr small
  rw [offset_eq_leftpad, List.length_leftpad, max_eq_left digits]

theorem idxOf_bar_line {width position : Nat} (uppercase : Bool) {octets : Octets}
    (fits : octets.length ≤ width) (small : position < 2 ^ 32) :
    (line width uppercase position octets).idxOf '|' = 3 * width + 11 := by
  let before := offset position ++ [' ', ' '] ++ hexColumn width uppercase octets ++ [' ']
  have split : line width uppercase position octets =
      before ++ '|' :: (octets.map glyph ++ ['|']) := by simp [line, before]
  have absent : '|' ∉ before := by
    intro member
    simp only [before, List.mem_append, List.mem_cons, List.not_mem_nil, or_false, Char.reduceEq,
      or_self] at member
    rcases member with inOffset | inColumn
    · obtain ⟨value, digit⟩ := exists_value?_of_mem_offset position '|' inOffset
      exact (ne_of_value? digit).2.1 rfl
    · exact (ne_of_mem_hexColumn inColumn).1 rfl
  rw [split, List.idxOf_append_of_notMem absent, List.idxOf_cons_self]
  simp only [before, List.length_append, length_offset small, length_hexColumn uppercase fits,
    List.length_cons, List.length_nil]
  omega

def Shown (octet : UInt8) (character : Char) : Prop :=
  if 0x20 ≤ octet.toNat ∧ octet.toNat ≤ 0x7E then character.toNat = octet.toNat
  else character = '.'

theorem shown_glyph (octet : UInt8) : Shown octet (glyph octet) := by
  have itself : ∀ code ≤ 0x7E, (Char.ofNat code).toNat = code := by decide +kernel
  have printable : (0x20 ≤ octet ∧ octet ≤ 0x7E) ↔
      0x20 ≤ octet.toNat ∧ octet.toNat ≤ 0x7E :=
    and_congr UInt8.le_iff_toNat_le UInt8.le_iff_toNat_le
  simp only [Shown, glyph, printable]
  split
  · next inside => exact itself octet.toNat inside.2
  · rfl

theorem shown_map_glyph (octets : Octets) : List.Forall₂ Shown octets (octets.map glyph) :=
  List.forall₂_map_right_iff.mpr (List.forall₂_same.mpr fun octet _ => shown_glyph octet)

/-- A line shows some octets, of which the first is at the given position: between the offset and
the bars there is a column with a slot for each octet that a row may have, and between the bars
there is a character for each octet that it has. -/
structure Layout (width : Nat) (uppercase : Bool) (position : Nat) (octets : Octets)
    (line column characters : List Char) : Prop where
  whole : line = (Nat.toDigits 16 position).leftpad 8 '0' ++ [' ', ' '] ++ column ++ [' ', '|'] ++
    characters ++ ['|']
  slots : column = (List.range width).flatMap fun index => slot uppercase octets[index]?
  length : column.length = 3 * width
  shown : List.Forall₂ Shown octets characters

theorem layout_line {width : Nat} (uppercase : Bool) (position : Nat) {octets : Octets}
    (fits : octets.length ≤ width) :
    Layout width uppercase position octets (line width uppercase position octets)
      (hexColumn width uppercase octets) (octets.map glyph) where
  whole := by simp [line, offset_eq_leftpad]
  slots := hexColumn_eq_flatMap_slot uppercase octets width fits
  length := length_hexColumn uppercase fits
  shown := shown_map_glyph octets

/-- A row begins inside what is dumped, so that the machine's product is the offset itself. -/
theorem toNat_mul_of_lt {index width length : Nat} (inside : index * width < length)
    (addressable : length < USize.size) :
    (USize.ofNat index * USize.ofNat width).toNat = index * width := by
  rw [← USize.ofNat_mul, USize.toNat_ofNat_of_lt' (inside.trans addressable)]

/-- A dump has a row for every started width of octets. Each row has its octets from the offset that
it shows, which is inside of what is dumped; up to the thirty-second power of two of octets, the
first bars of all rows are at one place. -/
theorem render_laid_out (octets : Octets) (bytesPerRow : Nat) (uppercase : Bool) :
    let width := max bytesPerRow 1
    ∃ lines, (render octets bytesPerRow uppercase).toList.splitOn '\n' = lines ++ [[]] ∧
      lines.length = octets.length ⌈/⌉ width ∧
      ∀ index line, lines[index]? = some line →
        let position := index * width
        position < octets.length ∧
        (octets.length < USize.size →
          (USize.ofNat index * USize.ofNat width).toNat = position) ∧
        (octets.length ≤ 2 ^ 32 → line.idxOf '|' = 3 * width + 11) ∧
        ∃ column characters, Layout width uppercase position
          ((octets.drop position).take width) line column characters := by
  intro width
  have positive : 0 < width := Nat.le_max_right bytesPerRow 1
  refine ⟨_, splitOn_render octets bytesPerRow uppercase, ?_, ?_⟩
  · rw [length_linesFrom, length_chunks positive]
  · intro index text found position
    rw [getElem?_linesFrom, getElem?_chunks positive, Nat.zero_add] at found
    by_cases inside : position < octets.length
    · rw [if_pos inside, Option.map_some, Option.some.injEq] at found
      subst found
      have fits : ((octets.drop position).take width).length ≤ width := List.length_take_le ..
      exact ⟨inside, toNat_mul_of_lt inside,
        fun few => idxOf_bar_line uppercase fits (inside.trans_le few),
        _, _, layout_line uppercase position fits⟩
    · rw [if_neg inside] at found
      exact nomatch found

example : render [0xCA, 0xFE, 0xBA, 0xBE, 0x48, 0x69, 0x21] 4 false =
    "00000000  ca fe ba be  |....|\n00000004  48 69 21     |Hi!|\n" := by
  cbv

end ArtifactTools.HexDump
