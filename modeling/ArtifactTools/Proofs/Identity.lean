import ArtifactTools.Identity

/-! What the checks of ids and names accept, said by an alphabet. -/

namespace ArtifactTools.Identity

def alphabet : List Char := "0123456789abcdefghijklmnopqrstuvwxyz-._".toList

def IsLegal (id : String) : Prop := id ≠ "" ∧ ∀ character ∈ id.toList, character ∈ alphabet

theorem isIdCharacter_of_mem : ∀ character ∈ alphabet, isIdCharacter character = true := by
  have every : alphabet.all isIdCharacter = true := by decide +kernel
  exact List.all_eq_true.mp every

theorem mem_alphabet_of_range {character : Char} (low high : Nat)
    (lower : low ≤ character.toNat) (upper : character.toNat ≤ high)
    (covered : ∀ code ≤ high, low ≤ code → Char.ofNat code ∈ alphabet) :
    character ∈ alphabet := by
  have member := covered character.toNat upper lower
  rwa [Char.ofNat_toNat] at member

theorem mem_alphabet_of_isIdCharacter {character : Char}
    (accepted : isIdCharacter character = true) : character ∈ alphabet := by
  simp only [isIdCharacter, Bool.or_eq_true, Bool.and_eq_true, decide_eq_true_eq] at accepted
  rcases accepted with (((⟨lower, upper⟩ | ⟨lower, upper⟩) | hyphen) | period) | underscore
  · exact mem_alphabet_of_range 48 57 lower upper (by decide +kernel)
  · exact mem_alphabet_of_range 97 122 lower upper (by decide +kernel)
  · subst hyphen
    decide +kernel
  · subst period
    decide +kernel
  · subst underscore
    decide +kernel

theorem isIdCharacter_iff (character : Char) :
    isIdCharacter character = true ↔ character ∈ alphabet :=
  ⟨mem_alphabet_of_isIdCharacter, isIdCharacter_of_mem character⟩

instance (id : String) : Decidable (IsLegal id) :=
  decidable_of_iff (id ≠ "" ∧ id.toList.all isIdCharacter = true)
    (by simp only [IsLegal, List.all_eq_true, isIdCharacter_iff])

theorem checkId_eq_ok_iff (id : String) : checkId id = .ok () ↔ IsLegal id := by
  unfold checkId IsLegal
  by_cases empty : id = ""
  · simp [empty]
  · simp [empty, isIdCharacter_iff]

theorem checkName_eq_ok_iff (name : String) : checkName name = .ok () ↔ name ≠ "" := by
  unfold checkName
  by_cases empty : name = ""
  · simp [empty]
  · simp [empty]

end ArtifactTools.Identity
