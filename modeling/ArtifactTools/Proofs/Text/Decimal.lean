import ArtifactTools.Text.Decimal
import Mathlib.Data.List.Induction
import Mathlib.Data.Nat.Digits.Defs

/-! The digits of a number read back as the number. The texts that are read as whole numbers are an
optional sign and one or more digits, each of which counts by its place. -/

namespace ArtifactTools.Decimal

theorem isDigit_digit : ∀ value < 10, isDigit (digit value) = true := by decide +kernel

theorem digitValue_digit : ∀ value < 10, digitValue (digit value) = value := by decide +kernel

theorem digit_eq_zero : ∀ value < 10, digit value = '0' → value = 0 := by decide +kernel

theorem digits_of_lt {number : Nat} (small : number < 10) : digits number = [digit number] := by
  rw [digits, if_pos small]

theorem digits_of_ge {number : Nat} (large : ¬ number < 10) :
    digits number = digits (number / 10) ++ [digit (number % 10)] := by
  rw [digits, if_neg large]

theorem isDigit_of_mem_digits (number : Nat) :
    ∀ character ∈ digits number, isDigit character = true := by
  induction number using Nat.strongRecOn with
  | ind number ih =>
      intro character member
      by_cases small : number < 10
      · rw [digits_of_lt small, List.mem_singleton] at member
        exact member ▸ isDigit_digit number small
      · rw [digits_of_ge small, List.mem_append, List.mem_singleton] at member
        rcases member with earlier | rfl
        · exact ih (number / 10) (by omega) character earlier
        · exact isDigit_digit (number % 10) (by omega)

theorem value_append_singleton (characters : List Char) (last : Char) :
    value (characters ++ [last]) = value characters * 10 + digitValue last := by
  rw [value, List.foldl_append]
  rfl

theorem value_digits (number : Nat) : value (digits number) = number := by
  induction number using Nat.strongRecOn with
  | ind number ih =>
      by_cases small : number < 10
      · rw [digits_of_lt small]
        simp [value, digitValue_digit number small]
      · rw [digits_of_ge small, value_append_singleton, ih (number / 10) (by omega),
          digitValue_digit (number % 10) (by omega)]
        omega

theorem digits_ne_nil (number : Nat) : digits number ≠ [] := by
  by_cases small : number < 10
  · simp [digits_of_lt small]
  · simp [digits_of_ge small]

/-- Only zero begins with a zero. -/
theorem eq_zero_of_head_digits (number : Nat) (zero : (digits number).head? = some '0') :
    number = 0 := by
  induction number using Nat.strongRecOn with
  | ind number ih =>
      by_cases small : number < 10
      · rw [digits_of_lt small, List.head?_cons, Option.some.injEq] at zero
        exact digit_eq_zero number small zero
      · rw [digits_of_ge small] at zero
        cases front : digits (number / 10) with
        | nil => exact absurd front (digits_ne_nil (number / 10))
        | cons first others =>
            rw [front, List.cons_append, List.head?_cons] at zero
            have isZero := ih (number / 10) (by omega) (by rw [front, List.head?_cons, zero])
            omega

/-! Texts that are read as whole numbers. -/

def figures : List Char := "0123456789".toList

def Counts (digits : List Char) (number : Nat) : Prop :=
  digits ≠ [] ∧ (∀ digit ∈ digits, digit ∈ figures) ∧
    number = Nat.ofDigits 10 (digits.reverse.map figures.idxOf)

inductive Spells : List Char → Int → Prop
  | plain {digits} {number : Nat} : Counts digits number → Spells digits number
  | plus {digits} {number : Nat} : Counts digits number → Spells ('+' :: digits) number
  | minus {digits} {number : Nat} : Counts digits number → Spells ('-' :: digits) (-number)

theorem isDigit_of_mem_figures : ∀ character ∈ figures, isDigit character = true := by
  have every : figures.all isDigit = true := by decide +kernel
  exact List.all_eq_true.mp every

theorem isDigit_iff (character : Char) : isDigit character = true ↔ character ∈ figures := by
  refine ⟨?_, isDigit_of_mem_figures character⟩
  intro digit
  simp only [isDigit, Bool.and_eq_true, decide_eq_true_eq] at digit
  have lower : 48 ≤ character.toNat := digit.1
  have upper : character.toNat ≤ 57 := digit.2
  have every : ∀ code ≤ 57, 48 ≤ code → Char.ofNat code ∈ figures := by decide +kernel
  have member := every character.toNat upper lower
  rwa [Char.ofNat_toNat] at member

theorem digitValue_of_mem_figures :
    ∀ character ∈ figures, digitValue character = figures.idxOf character := by
  have every : figures.all (fun figure => digitValue figure == figures.idxOf figure) = true := by
    decide +kernel
  simpa using every

theorem value_eq_ofDigits (digits : List Char) (figured : ∀ digit ∈ digits, digit ∈ figures) :
    value digits = Nat.ofDigits 10 (digits.reverse.map figures.idxOf) := by
  induction digits using List.reverseRecOn with
  | nil => rfl
  | append_singleton front last ih =>
      have earlier := ih fun digit member => figured digit (List.mem_append_left _ member)
      have unit := digitValue_of_mem_figures last (figured last (by simp))
      rw [value_append_singleton, earlier, unit, List.reverse_append, List.reverse_singleton,
        List.singleton_append, List.map_cons, Nat.ofDigits_cons]
      omega

theorem readDigits?_eq_some_iff (characters : List Char) (number : Nat) :
    readDigits? characters = some number ↔ Counts characters number := by
  have all : characters.all isDigit = true ↔ ∀ digit ∈ characters, digit ∈ figures := by
    simp only [List.all_eq_true, isDigit_iff]
  unfold readDigits? Counts
  split
  · next empty => simp [List.isEmpty_iff.mp empty]
  · next filled =>
      have nonempty : characters ≠ [] := fun empty => filled (List.isEmpty_iff.mpr empty)
      split
      · next digits =>
          have figured := all.mp digits
          rw [← value_eq_ofDigits characters figured, Option.some.injEq]
          exact ⟨fun same => ⟨nonempty, figured, same.symm⟩, fun counts => counts.2.2.symm⟩
      · next mixed =>
          constructor
          · intro read
            cases read
          · intro counts
            exact absurd (all.mpr counts.2.1) mixed

theorem readInt?_eq_some_iff (text : String) (number : Int) :
    readInt? text = some number ↔ Spells text.toList number := by
  unfold readInt?
  constructor
  · intro read
    split at read
    · next rest spelled =>
        obtain ⟨size, counted, rfl⟩ :
            ∃ size, readDigits? rest = some size ∧ -(size : Int) = number := by
          simpa [Option.bind_eq_some_iff] using read
        exact spelled ▸ .minus ((readDigits?_eq_some_iff rest size).mp counted)
    · next rest spelled =>
        obtain ⟨size, counted, rfl⟩ :
            ∃ size, readDigits? rest = some size ∧ (size : Int) = number := by
          simpa [Option.bind_eq_some_iff] using read
        exact spelled ▸ .plus ((readDigits?_eq_some_iff rest size).mp counted)
    · obtain ⟨size, counted, rfl⟩ :
          ∃ size, readDigits? text.toList = some size ∧ (size : Int) = number := by
        simpa [Option.bind_eq_some_iff] using read
      exact .plain ((readDigits?_eq_some_iff _ size).mp counted)
  · intro spells
    generalize text.toList = characters at spells
    cases spells with
    | plus counts => simp [(readDigits?_eq_some_iff _ _).mpr counts]
    | minus counts => simp [(readDigits?_eq_some_iff _ _).mpr counts]
    | plain counts =>
        have read := (readDigits?_eq_some_iff _ _).mpr counts
        -- A sign is no digit, so that text is not taken for a signed one.
        split
        · exact absurd (counts.2.1 '-' (by simp)) (by decide +kernel)
        · exact absurd (counts.2.1 '+' (by simp)) (by decide +kernel)
        · simp [read]

theorem counts_digits (number : Nat) : Counts (digits number) number := by
  refine (readDigits?_eq_some_iff _ _).mp ?_
  have all : (digits number).all isDigit = true := by
    rw [List.all_eq_true]
    exact isDigit_of_mem_digits number
  simp [readDigits?, digits_ne_nil, all, value_digits]

theorem spells_intDigits (number : Int) : Spells (intDigits number) number := by
  unfold intDigits
  have counts := counts_digits number.natAbs
  by_cases negative : number < 0
  · rw [if_pos negative]
    have minus := Spells.minus counts
    rwa [show -(number.natAbs : Int) = number by omega] at minus
  · rw [if_neg negative]
    have plain := Spells.plain counts
    rwa [show (number.natAbs : Int) = number by omega] at plain

end ArtifactTools.Decimal
