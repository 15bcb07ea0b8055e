import ArtifactTools.Json.Printer
import ArtifactTools.Proofs.Text.Decimal
import ArtifactTools.Text.Hexadecimal

/-! The tokens that a printer of JSON writes, whole numbers and quoted texts, as a reader takes them
up again. -/

namespace ArtifactTools.Json

/-! Whole numbers. -/

/-- What may follow a number: nothing that would be read as a part of it. -/
def Ends : List Char → Prop
  | [] => True
  | next :: _ => Decimal.isDigit next = false ∧ next ≠ '.' ∧ next ≠ 'e' ∧ next ≠ 'E'

def wholeNumeral (value : Int) : Numeral :=
  ⟨value < 0, Decimal.digits value.natAbs, [], none⟩

theorem readDigits_digits (number : Nat) {rest : List Char} (ends : Ends rest) :
    readDigits (Decimal.digits number ++ rest) = (Decimal.digits number, rest) := by
  have taken := Decimal.isDigit_of_mem_digits number
  unfold readDigits
  rw [List.takeWhile_append_of_pos taken, List.dropWhile_append_of_pos taken]
  cases rest with
  | nil => simp
  | cons next others => simp [ends.1]

theorem readWhole?_digits (number : Nat) {rest : List Char} (ends : Ends rest) :
    readWhole? (Decimal.digits number ++ rest) = some (Decimal.digits number, rest) := by
  unfold readWhole?
  rw [readDigits_digits number ends]
  by_cases small : number < 10
  · rw [Decimal.digits_of_lt small]
    split <;> simp_all
  · cases written : Decimal.digits number with
    | nil => exact absurd written (Decimal.digits_ne_nil number)
    | cons first others =>
        have leading : first ≠ '0' := by
          intro zero
          have isZero := Decimal.eq_zero_of_head_digits number (by simp [written, zero])
          omega
        split <;> simp_all

theorem readFraction?_of_ends {rest : List Char} (ends : Ends rest) :
    readFraction? rest = some ([], rest) := by
  unfold readFraction?
  split
  · exact absurd rfl ends.2.1
  · rfl

theorem readExponent?_of_ends {rest : List Char} (ends : Ends rest) :
    readExponent? rest = some (none, rest) := by
  cases rest with
  | nil => rfl
  | cons next others => simp [readExponent?, ends.2.2.1, ends.2.2.2]

theorem readMagnitude?_digits (negative : Bool) (number : Nat) {rest : List Char}
    (ends : Ends rest) :
    readMagnitude? negative (Decimal.digits number ++ rest) =
      some (⟨negative, Decimal.digits number, [], none⟩, rest) := by
  simp [readMagnitude?, readWhole?_digits number ends, readFraction?_of_ends ends,
    readExponent?_of_ends ends]

theorem exists_head_digits (number : Nat) :
    ∃ first others, Decimal.digits number = first :: others ∧ Decimal.isDigit first = true := by
  cases written : Decimal.digits number with
  | nil => exact absurd written (Decimal.digits_ne_nil number)
  | cons first others =>
      exact ⟨first, others, rfl,
        Decimal.isDigit_of_mem_digits number first (by simp [written])⟩

theorem readNumeral?_intDigits (value : Int) {rest : List Char} (ends : Ends rest) :
    readNumeral? (Decimal.intDigits value ++ rest) = some (wholeNumeral value, rest) := by
  unfold Decimal.intDigits wholeNumeral
  by_cases negative : value < 0
  · simp [negative, readNumeral?, readMagnitude?_digits true value.natAbs ends]
  · obtain ⟨first, others, written, digit⟩ := exists_head_digits value.natAbs
    have magnitude := readMagnitude?_digits false value.natAbs ends
    simp only [negative, if_false, decide_false]
    rw [← magnitude, written, List.cons_append]
    unfold readNumeral?
    split
    · next same =>
        rw [(List.cons.inj same).1] at digit
        exact absurd digit (by decide)
    · rfl

def IsWord (value : Int) : Prop := -(Nat.pow 2 63 : Int) ≤ value ∧ value < (Nat.pow 2 64 : Nat)

theorem number?_wholeNumeral {value : Int} (word : IsWord value) :
    (wholeNumeral value).number? = some (.whole value) := by
  obtain ⟨lower, upper⟩ := word
  unfold wholeNumeral Numeral.number?
  simp only [Decimal.value_digits, List.isEmpty_nil, Option.isNone_none]
  by_cases negative : value < 0
  · have bounds : 0 < value.natAbs ∧ value.natAbs ≤ Nat.pow 2 63 := by omega
    have back : -(value.natAbs : Int) = value := by omega
    simp only [negative, decide_true, if_true, bounds, and_self, back]
  · have bound : value.natAbs < Nat.pow 2 64 := by omega
    have back : (value.natAbs : Int) = value := by omega
    simp only [negative, decide_false, Bool.false_eq_true, if_false, bound, and_self, if_true,
      back]

theorem isWord_of_number? {numeral : Numeral} {value : Int}
    (read : numeral.number? = some (.whole value)) : IsWord value := by
  unfold Numeral.number? at read
  unfold IsWord
  by_cases negative : numeral.negative = true
  · simp only [negative, if_true] at read
    split at read
    · next plain =>
        simp only [Option.some.injEq, Number.whole.injEq] at read
        omega
    · simp at read
  · simp only [negative, Bool.false_eq_true, if_false] at read
    split at read
    · next plain =>
        simp only [Option.some.injEq, Number.whole.injEq] at read
        omega
    · simp at read

theorem number?_eq_whole_iff {numeral : Numeral} {size : Nat} :
    numeral.number? = some (.whole size) ↔
      ∃ digits, numeral = ⟨false, digits, [], none⟩ ∧ Decimal.value digits = size ∧
        size < Nat.pow 2 64 := by
  constructor
  · intro read
    obtain ⟨negative, whole, fraction, exponent⟩ := numeral
    unfold Numeral.number? at read
    cases negative with
    | true =>
        simp only [if_true] at read
        split at read
        · simp only [Option.some.injEq, Number.whole.injEq] at read
          omega
        · simp at read
    | false =>
        simp only [Bool.false_eq_true, if_false] at read
        split at read
        · next plain =>
            obtain ⟨noFraction, noExponent, bound⟩ := plain
            obtain rfl := List.isEmpty_iff.mp noFraction
            obtain rfl := Option.isNone_iff_eq_none.mp noExponent
            simp only [Option.some.injEq, Number.whole.injEq] at read
            exact ⟨whole, rfl, by omega, by omega⟩
        · simp at read
  · rintro ⟨digits, rfl, rfl, bound⟩
    simp [Numeral.number?, bound]

/-! Quoted texts. -/

def Spells (unit : CodeUnit) (character : Char) : Prop :=
  unit = .character character ∨ (unit = .unit character.toNat ∧ character.toNat < 0x20)

theorem assemble?_cons {unit : CodeUnit} {character : Char} (spells : Spells unit character)
    (units : List CodeUnit) :
    assemble? (unit :: units) = (assemble? units).map (character :: ·) := by
  rcases spells with rfl | ⟨rfl, control⟩
  · rfl
  · have notHigh : isHighHalf character.toNat = false := by simp [isHighHalf]; omega
    have notLow : isLowHalf character.toNat = false := by simp [isLowHalf]; omega
    cases units with
    | nil => simp [assemble?, notHigh, notLow, Char.ofNat_toNat]
    | cons next rest =>
        cases next with
        | character value => simp [assemble?, notHigh, notLow, Char.ofNat_toNat]
        | unit value => simp [assemble?, notHigh, notLow, Char.ofNat_toNat]

theorem readUnits_plain {character : Char} (quote : character ≠ '"') (backslash : character ≠ '\\')
    (printed : ¬ character.toNat < 0x20) (more : List Char) :
    readUnits (character :: more) =
      (readUnits more).map fun (units, rest) => (.character character :: units, rest) := by
  have accepted : ¬ (character.toNat < 0x20 ∨ character = '\\') :=
    fun refused => refused.elim printed backslash
  rw [readUnits.eq_def]
  split
  · next same => cases same
  · next same => exact absurd (List.cons.inj same).1 quote
  · next same => exact absurd (List.cons.inj same).1 backslash
  · next same => exact absurd (List.cons.inj same).1 backslash
  · next same =>
      obtain ⟨rfl, rfl⟩ := List.cons.inj same
      exact if_neg accepted

theorem readUnits_code {character : Char} (control : character.toNat < 0x20) (more : List Char) :
    readUnits ('\\' :: 'u' :: '0' :: '0' :: Hexadecimal.digit false (character.toNat / 16) ::
        Hexadecimal.digit false (character.toNat % 16) :: more) =
      (readUnits more).map fun (units, rest) => (.unit character.toNat :: units, rest) := by
  have high := Hexadecimal.value?_digit false (character.toNat / 16) (by omega)
  have low := Hexadecimal.value?_digit false (character.toNat % 16) (by omega)
  have zero : Hexadecimal.value? '0' = some 0 := by decide
  have code : character.toNat / 16 * 16 + character.toNat % 16 = character.toNat := by omega
  have unit : hexUnit? '0' '0' (Hexadecimal.digit false (character.toNat / 16))
      (Hexadecimal.digit false (character.toNat % 16)) = some character.toNat := by
    simp [hexUnit?, high, low, zero, code]
  rw [readUnits, unit]
  cases readUnits more <;> rfl

theorem readUnits_short {letter character : Char} (different : letter ≠ 'u')
    (stands : shortEscape? letter = some character) (more : List Char) :
    readUnits ('\\' :: letter :: more) =
      (readUnits more).map fun (units, rest) => (.character character :: units, rest) := by
  rw [readUnits, stands]
  · cases readUnits more <;> rfl
  · intro first second third fourth rest same
    exact absurd same different

theorem readUnits_escape (character : Char) : ∃ unit, Spells unit character ∧ ∀ more,
    readUnits (escape character ++ more) =
      (readUnits more).map fun (units, rest) => (unit :: units, rest) := by
  unfold escape
  split
  · exact ⟨.character '"', Or.inl rfl, readUnits_short (by decide) rfl⟩
  · exact ⟨.character '\\', Or.inl rfl, readUnits_short (by decide) rfl⟩
  · exact ⟨.character '\x08', Or.inl rfl, readUnits_short (by decide) rfl⟩
  · exact ⟨.character '\x0c', Or.inl rfl, readUnits_short (by decide) rfl⟩
  · exact ⟨.character '\n', Or.inl rfl, readUnits_short (by decide) rfl⟩
  · exact ⟨.character '\r', Or.inl rfl, readUnits_short (by decide) rfl⟩
  · exact ⟨.character '\t', Or.inl rfl, readUnits_short (by decide) rfl⟩
  · next quote backslash _ _ _ _ _ =>
      split
      · next control =>
          exact ⟨.unit character.toNat, Or.inr ⟨rfl, control⟩, readUnits_code control⟩
      · next printed =>
          exact ⟨.character character, Or.inl rfl, readUnits_plain quote backslash printed⟩

theorem readUnits_escapes (characters rest : List Char) : ∃ units,
    assemble? units = some characters ∧
      readUnits (characters.flatMap escape ++ '"' :: rest) = some (units, rest) := by
  induction characters with
  | nil => exact ⟨[], rfl, by simp [readUnits]⟩
  | cons character others ih =>
      obtain ⟨unit, spells, reads⟩ := readUnits_escape character
      obtain ⟨units, assembled, readOthers⟩ := ih
      refine ⟨unit :: units, ?_, ?_⟩
      · rw [assemble?_cons spells, assembled]
        rfl
      · rw [List.flatMap_cons, List.append_assoc, reads, readOthers]
        rfl

/-- After its opening quote a text is read to its closing quote. -/
theorem readString_quoted (text : String) (rest : List Char) :
    readString (text.toList.flatMap escape ++ '"' :: rest) = some (some text, rest) := by
  obtain ⟨units, assembled, reads⟩ := readUnits_escapes text.toList rest
  simp [readString, reads, assembled]

end ArtifactTools.Json
