import ArtifactTools.Path
import Mathlib.Data.List.DropRight

/-! Slashes at the end of a path lead nowhere: without them it has the same components. -/

namespace ArtifactTools.Path

theorem segments_ne_nil (octets : Octets) : segments octets ≠ [] := by
  cases octets with
  | nil => simp [segments]
  | cons octet rest =>
      rw [segments]
      split
      · simp
      · split <;> simp

theorem segments_append_slash (octets : Octets) :
    segments (octets ++ [slash]) = segments octets ++ [[]] := by
  induction octets with
  | nil => rfl
  | cons octet rest ih =>
      rw [List.cons_append, segments, segments, ih]
      split
      · rfl
      · cases parts : segments rest with
        | nil => exact absurd parts (segments_ne_nil rest)
        | cons first others => rfl

section

variable {octets : Octets} (nonempty : octets ≠ [])

include nonempty

theorem isAbsolute_append_slash :
    (Path.mk (octets ++ [slash])).isAbsolute = (Path.mk octets).isAbsolute := by
  cases octets with
  | nil => exact absurd rfl nonempty
  | cons first rest => rfl

theorem components_append_slash :
    (Path.mk (octets ++ [slash])).components = (Path.mk octets).components := by
  have leads : leading (segments octets ++ [[]]) = leading (segments octets) := by
    simp [leading, isIdle]
  have first : (segments octets ++ [[]]).head? = (segments octets).head? := by
    cases parts : segments octets with
    | nil => exact absurd parts (segments_ne_nil octets)
    | cons first others => rfl
  unfold components
  rw [isAbsolute_append_slash nonempty]
  simp only [segments_append_slash, leads, first]

end

theorem isAbsolute_join {base : Path} (rooted : base.isAbsolute = true) (addition : Path) :
    (base.join addition).isAbsolute = true := by
  obtain ⟨octets⟩ := base
  cases octets with
  | nil => simp [isAbsolute] at rooted
  | cons first rest =>
      unfold join
      split
      · next replaced => exact replaced
      · split <;> exact rooted

theorem lastSegment?_append_slash (octets : Octets) :
    (Path.mk (octets ++ [slash])).lastSegment? = (Path.mk octets).lastSegment? := by
  simp [lastSegment?, segments_append_slash]

def trimmed (path : Path) : Path :=
  let octets := path.octets.rdropWhile (· = slash)
  if octets.isEmpty then path else ⟨octets⟩

theorem mem_octets_trimmed {path : Path} {octet : UInt8} (visible : octet ≠ slash)
    (member : octet ∈ path.octets) : octet ∈ path.trimmed.octets := by
  unfold trimmed
  simp only
  split
  · exact member
  · have whole := @List.rdropWhile_append_rtakeWhile _ (fun octet => decide (octet = slash)) path.octets
    rw [← whole] at member
    rcases List.mem_append.mp member with kept | dropped
    · exact kept
    · have slashes := List.mem_rtakeWhile_imp dropped
      exact absurd (of_decide_eq_true slashes) visible

theorem trimmed_append_slash {octets : Octets} (visible : octets.rdropWhile (· = slash) ≠ []) :
    (Path.mk (octets ++ [slash])).trimmed = (Path.mk octets).trimmed := by
  simp [trimmed, List.rdropWhile_concat_pos, visible]

theorem trimmed_of_slashes {octets : Octets} (slashes : octets.rdropWhile (· = slash) = []) :
    (Path.mk octets).trimmed = ⟨octets⟩ := by
  simp [trimmed, slashes]

theorem trimmed_append_other {octets : Octets} {last : UInt8} (visible : last ≠ slash) :
    (Path.mk (octets ++ [last])).trimmed = ⟨octets ++ [last]⟩ := by
  simp [trimmed, List.rdropWhile_concat_neg, visible]

end ArtifactTools.Path
