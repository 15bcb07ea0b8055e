import ArtifactTools.Text.Utf8
import Mathlib.Data.List.DropRight

/-! The spelling of texts in octets. A text is read from its own octets and from no others. Read
lossily, octets end with an ASCII text if and only if they end with its spelling, whatever they
spell or fail to spell before it. -/

namespace ArtifactTools.Utf8

theorem decode?_eq_some_iff {octets : Octets} {text : String} :
    decode? octets = some text ↔ octets = encode text := by
  constructor
  · intro read
    unfold decode? String.fromUTF8? at read
    split at read
    · obtain rfl := Option.some.inj read
      rfl
    · cases read
  · rintro rfl
    exact decode?_encode text

namespace Reader

/-- Inside a character a plain octet is out of place, and no plain character can come about. -/
def IsSound : Reader → Prop
  | .idle => True
  | .inside more low _ value =>
      128 ≤ low.toNat ∧ (2 ≤ value ∨ 2 ≤ more ∧ 2 ≤ value * 64 + (low.toNat - 128))

inductive Opens (octet : UInt8) : Opening → Prop
  | single : octet.toNat < 128 → Opens octet (.single (Char.ofNat octet.toNat))
  | lead {more low high value} : 128 ≤ octet.toNat → (inside more low high value).IsSound →
      Opens octet (.lead more low high value)
  | broken : 128 ≤ octet.toNat → Opens octet .broken

theorem opens_opening (octet : UInt8) : Opens octet (opening octet) := by
  unfold opening
  simp only
  split
  · next plain => exact .single plain
  · next high =>
      have high : 128 ≤ octet.toNat := Nat.not_lt.mp high
      split
      · exact .broken high
      · split
        · exact .lead high ⟨by decide, .inl (by omega)⟩
        · split
          -- A first value of zero is made up for by the range of the octet that has to follow.
          · refine .lead high ?_
            by_cases least : octet.toNat = 224
            · rw [if_pos least]
              exact ⟨by decide, .inr ⟨by decide, by simp⟩⟩
            · rw [if_neg least]
              exact ⟨by decide, .inr ⟨by decide, by simp; omega⟩⟩
          · split
            · refine .lead high ?_
              by_cases least : octet.toNat = 240
              · rw [if_pos least]
                exact ⟨by decide, .inr ⟨by decide, by simp⟩⟩
              · rw [if_neg least]
                exact ⟨by decide, .inr ⟨by decide, by simp; omega⟩⟩
            · exact .broken high

theorem isSound_start (octet : UInt8) : (start octet).2.IsSound := by
  have opens := opens_opening octet
  unfold start
  generalize opening octet = opened at opens
  cases opens with
  | single _ => trivial
  | lead _ sound => exact sound
  | broken _ => trivial

section

variable {more value : Nat} {low high octet : UInt8}

theorem step_within (within : low ≤ octet ∧ octet ≤ high) :
    (inside more low high value).step octet =
      if more ≤ 1 then ([Char.ofNat (value * 64 + (octet.toNat - 128))], idle)
      else ([], inside (more - 1) 128 191 (value * 64 + (octet.toNat - 128))) :=
  if_pos within

theorem step_outside (outside : ¬ (low ≤ octet ∧ octet ≤ high)) :
    (inside more low high value).step octet =
      (replacement :: (start octet).1, (start octet).2) :=
  if_neg outside

theorem IsSound.value_le (sound : (inside more low high value).IsSound) (above : low ≤ octet) :
    2 ≤ value * 64 + (octet.toNat - 128) ∧
      (more ≤ 1 → 128 ≤ value * 64 + (octet.toNat - 128)) := by
  obtain ⟨lowest, grows⟩ := sound
  have order : low.toNat ≤ octet.toNat := UInt8.le_iff_toNat_le.mp above
  omega

end

theorem IsSound.step {reader : Reader} (sound : reader.IsSound) (octet : UInt8) :
    (reader.step octet).2.IsSound := by
  cases reader with
  | idle => exact isSound_start octet
  | inside more low high value =>
      by_cases within : low ≤ octet ∧ octet ≤ high
      · rw [step_within within]
        split
        · trivial
        · exact ⟨by decide, .inl (sound.value_le within.1).1⟩
      · rw [step_outside within]
        exact isSound_start octet

theorem exists_run_append (octets : Octets) : ∀ {reader : Reader}, reader.IsSound →
    ∃ before later, IsSound later ∧
      ∀ more, reader.run (octets ++ more) = before ++ later.run more := by
  induction octets with
  | nil => exact fun {reader} sound => ⟨[], reader, sound, fun _ => rfl⟩
  | cons octet rest ih =>
      intro reader sound
      obtain ⟨before, later, soundLater, onward⟩ := ih (sound.step octet)
      refine ⟨(reader.step octet).1 ++ before, later, soundLater, fun more => ?_⟩
      rw [List.cons_append, run, List.append_assoc, ← onward more]

theorem run_single (reader : Reader) (octet : UInt8) :
    reader.run [octet] = (reader.step octet).1 ++ (reader.step octet).2.finish := rfl

theorem run_plain {reader : Reader} (sound : reader.IsSound) {octet : UInt8}
    (plain : octet.toNat < 128) :
    reader.run [octet] = reader.finish ++ [Char.ofNat octet.toNat] := by
  have starts : start octet = ([Char.ofNat octet.toNat], idle) := by
    simp [start, opening, plain]
  cases reader with
  | idle => simp [run_single, step, starts, finish]
  | inside more low high value =>
      have outside : ¬ (low ≤ octet ∧ octet ≤ high) := by
        intro within
        have above := UInt8.le_iff_toNat_le.mp within.1
        have lowest := sound.1
        omega
      simp [run_single, step_outside outside, starts, finish]

def IsPlain (character : Char) : Prop := 0 < character.toNat ∧ character.toNat < 128

theorem toNat_ofNat (value : Nat) :
    (Char.ofNat value).toNat = value ∨ (Char.ofNat value).toNat = 0 := by
  by_cases valid : value.isValidChar
  · rw [Char.ofNat, dif_pos valid]
    exact .inl rfl
  · rw [Char.ofNat, dif_neg valid]
    exact .inr rfl

theorem not_isPlain_ofNat {value : Nat} (high : 128 ≤ value) : ¬ IsPlain (Char.ofNat value) := by
  rintro ⟨positive, below⟩
  rcases toNat_ofNat value with same | null
  · omega
  · omega

theorem not_isPlain_replacement : ¬ IsPlain replacement := fun plain => absurd plain.2 (by decide)

theorem exists_start_high {octet : UInt8} (high : 128 ≤ octet.toNat) :
    ∃ before last, (start octet).1 ++ (start octet).2.finish = before ++ [last] ∧
      ¬ IsPlain last := by
  have opens := opens_opening octet
  unfold start
  generalize opening octet = opened at opens
  cases opens with
  | single plain => omega
  | lead _ _ => exact ⟨[], replacement, rfl, not_isPlain_replacement⟩
  | broken _ => exact ⟨[], replacement, rfl, not_isPlain_replacement⟩

theorem exists_run_high {reader : Reader} (sound : reader.IsSound) {octet : UInt8}
    (high : 128 ≤ octet.toNat) :
    ∃ before last, reader.run [octet] = before ++ [last] ∧ ¬ IsPlain last := by
  rw [run_single]
  cases reader with
  | idle => exact exists_start_high high
  | inside more low highest value =>
      by_cases within : low ≤ octet ∧ octet ≤ highest
      · rw [step_within within]
        split
        · next last =>
            exact ⟨[], _, rfl, not_isPlain_ofNat ((sound.value_le within.1).2 last)⟩
        · exact ⟨[], replacement, rfl, not_isPlain_replacement⟩
      · rw [step_outside within]
        obtain ⟨before, last, ends, special⟩ := exists_start_high high
        exact ⟨replacement :: before, last, congrArg (replacement :: ·) ends, special⟩

end Reader

def octetOf (character : Char) : UInt8 := UInt8.ofNat character.toNat

theorem toNat_octetOf {character : Char} (plain : Reader.IsPlain character) :
    (octetOf character).toNat = character.toNat :=
  UInt8.toNat_ofNat_of_lt' (Nat.lt_trans plain.2 (by decide))

theorem ofNat_eq_iff {octet : UInt8} {character : Char} (plain : Reader.IsPlain character) :
    Char.ofNat octet.toNat = character ↔ octet = octetOf character := by
  constructor
  · rintro rfl
    rcases Reader.toNat_ofNat octet.toNat with same | null
    · rw [octetOf, same, UInt8.ofNat_toNat]
    · exact absurd plain.1 (by omega)
  · rintro rfl
    rw [toNat_octetOf plain, Char.ofNat_toNat]

theorem concat_suffix_concat {α : Type} {before ending : List α} {last final : α} :
    ending ++ [final] <:+ before ++ [last] ↔ last = final ∧ ending <:+ before := by
  rw [← List.reverse_prefix, List.reverse_append, List.reverse_append, List.reverse_singleton,
    List.reverse_singleton, List.singleton_append, List.singleton_append, List.cons_prefix_cons,
    List.reverse_prefix, eq_comm]

/-- An ASCII text ends what is read lossily if and only if its octets end what is read. -/
theorem suffix_run_iff {ending : List Char} (plain : ∀ character ∈ ending, Reader.IsPlain character)
    (octets : Octets) :
    ending <:+ Reader.idle.run octets ↔ ending.map octetOf <:+ octets := by
  induction ending using List.reverseRecOn generalizing octets with
  | nil => simp
  | append_singleton ending final ih =>
      have plainFinal : Reader.IsPlain final := plain final (by simp)
      have shorter := ih fun character member => plain character (by simp [member])
      rw [List.map_append, List.map_singleton]
      cases octets using List.reverseRecOn with
      | nil => simp [Reader.run, Reader.finish]
      | append_singleton front octet =>
          obtain ⟨before, later, sound, onward⟩ := @Reader.exists_run_append front .idle trivial
          have whole := onward []
          rw [List.append_nil] at whole
          rw [concat_suffix_concat, onward [octet]]
          by_cases high : 128 ≤ octet.toNat
          -- Neither the last octet nor the last character is that of the text.
          · obtain ⟨others, last, ends, special⟩ := Reader.exists_run_high sound high
            rw [ends, ← List.append_assoc, concat_suffix_concat]
            have other : octet ≠ octetOf final := by
              rintro rfl
              rw [toNat_octetOf plainFinal] at high
              exact absurd plainFinal.2 (Nat.not_lt.mpr high)
            have apart : last ≠ final := fun same => special (same ▸ plainFinal)
            simp [other, apart]
          · rw [Reader.run_plain sound (Nat.not_le.mp high), ← List.append_assoc,
              concat_suffix_concat, ofNat_eq_iff plainFinal, ← shorter front, whole]
            rfl

/-! Plain characters in what is read. -/

namespace Reader

variable {character : Char} (plain : IsPlain character)

include plain

theorem eq_octetOf_of_mem_start {octet : UInt8} (member : character ∈ (start octet).1) :
    octet = octetOf character := by
  have opens := opens_opening octet
  unfold start at member
  generalize opening octet = opened at opens member
  cases opens with
  | single _ => exact (ofNat_eq_iff plain).mp (List.mem_singleton.mp member).symm
  | lead _ _ => exact absurd member List.not_mem_nil
  | broken _ => exact absurd (List.mem_singleton.mp member ▸ plain) not_isPlain_replacement

theorem eq_octetOf_of_mem_step {reader : Reader} (sound : reader.IsSound) {octet : UInt8}
    (member : character ∈ (reader.step octet).1) : octet = octetOf character := by
  cases reader with
  | idle => exact eq_octetOf_of_mem_start plain member
  | inside more low high value =>
      by_cases within : low ≤ octet ∧ octet ≤ high
      · rw [step_within within] at member
        split at member
        · next last =>
            have special := not_isPlain_ofNat ((sound.value_le within.1).2 last)
            exact absurd (List.mem_singleton.mp member ▸ plain) special
        · exact absurd member List.not_mem_nil
      · rw [step_outside within] at member
        rcases List.mem_cons.mp member with rfl | later
        · exact absurd plain not_isPlain_replacement
        · exact eq_octetOf_of_mem_start plain later

/-- A plain character is read from its own octet and from nothing else. -/
theorem octetOf_mem_of_mem_run (octets : Octets) : ∀ {reader : Reader}, reader.IsSound →
    character ∈ reader.run octets → octetOf character ∈ octets := by
  induction octets with
  | nil =>
      intro reader _ member
      cases reader with
      | idle => exact absurd member List.not_mem_nil
      | inside => exact absurd (List.mem_singleton.mp member ▸ plain) not_isPlain_replacement
  | cons octet rest ih =>
      intro reader sound member
      rcases List.mem_append.mp member with now | later
      · exact eq_octetOf_of_mem_step plain sound now ▸ List.mem_cons_self
      · exact List.mem_cons_of_mem _ (ih (sound.step octet) later)

end Reader

theorem octetOf_mem_of_mem_decodeLossy {character : Char} (plain : Reader.IsPlain character)
    {octets : Octets} (member : character ∈ (decodeLossy octets).toList) :
    octetOf character ∈ octets := by
  rw [decodeLossy, String.toList_ofList] at member
  exact @Reader.octetOf_mem_of_mem_run character plain octets .idle trivial member

end ArtifactTools.Utf8
