/-! Numbers in base sixteen. -/

namespace ArtifactTools.Hexadecimal

def digit (uppercase : Bool) (value : Nat) : Char :=
  if value < 10 then Char.ofNat (48 + value)
  else if uppercase then Char.ofNat (55 + value)
  else Char.ofNat (87 + value)

def digits (number : Nat) : List Char :=
  if number < 16 then [digit false number]
  else digits (number / 16) ++ [digit false (number % 16)]
termination_by number
decreasing_by omega

def value? (character : Char) : Option Nat :=
  if '0' ≤ character ∧ character ≤ '9' then some (character.toNat - 48)
  else if 'a' ≤ character ∧ character ≤ 'f' then some (character.toNat - 87)
  else if 'A' ≤ character ∧ character ≤ 'F' then some (character.toNat - 55)
  else none

theorem value?_digit : ∀ (uppercase : Bool), ∀ value < 16,
    value? (digit uppercase value) = some value := by
  decide +kernel

theorem exists_value?_of_mem_digits (number : Nat) :
    ∀ character ∈ digits number, ∃ value, value? character = some value := by
  induction number using Nat.strongRecOn with
  | ind number ih =>
      intro character member
      rw [digits] at member
      split at member
      · next small =>
          rw [List.mem_singleton.mp member]
          exact ⟨number, value?_digit false number small⟩
      · next large =>
          rcases List.mem_append.mp member with earlier | last
          · exact ih (number / 16) (by omega) character earlier
          · rw [List.mem_singleton.mp last]
            exact ⟨number % 16, value?_digit false _ (by omega)⟩

theorem digit_eq_digitChar : ∀ value < 16, digit false value = Nat.digitChar value := by
  decide

theorem digits_eq_toDigits (number : Nat) : digits number = Nat.toDigits 16 number := by
  fun_induction digits number with
  | case1 number small => rw [Nat.toDigits_of_lt_base small, digit_eq_digitChar number small]
  | case2 number large ih =>
      rw [Nat.toDigits_of_base_le (by decide) (Nat.le_of_not_lt large), ih,
        digit_eq_digitChar _ (Nat.mod_lt number (by decide))]

end ArtifactTools.Hexadecimal
