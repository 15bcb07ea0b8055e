import ArtifactTools.Proofs.Registry.Exports
import ArtifactTools.Proofs.Registry.Serials

/-! Selections from a registry. A test selects the entries that pass it, in the order in which they
were registered, and each reference leads to the place of its entry, whatever entries were passed
over before it. -/

namespace ArtifactTools.Registry

structure Selects (registry : Registry) (accepts : Transformer → Bool) (refs : List Ref) :
    Prop where
  transformers : refs.map (·.transformer) = registry.entries.filter accepts
  once : (refs.map (·.transformer.id)).Nodup
  placed : ∀ ref ∈ refs, ∃ index, registry.Holds index ref.transformer ∧
    ref = registry.refOf index ref.transformer ∧
    (index < UInt32.size → ref.handle.index.toNat = index)
  found : ∀ ref ∈ refs, registry.findById? ref.transformer.id = some ref
  /-- Its handle leads to it, as long as thirty-two bits hold the positions; beyond that to a
  reference that is the same by its handle. -/
  followed : ∀ ref ∈ refs, ∃ other, registry.get? ref.handle = some other ∧
    other.isSame ref = true ∧ (registry.size ≤ UInt32.size → other = ref)

namespace Indexed

variable {registry : Registry} (indexed : registry.Indexed)

include indexed

theorem selects (accepts : Transformer → Bool) :
    registry.Selects accepts (registry.allMatching accepts) := by
  have transformers : (registry.allMatching accepts).map (·.transformer) =
      registry.entries.filter accepts :=
    map_transformer_selectFrom registry accepts registry.entries 0
  constructor
  · exact transformers
  · have ids : (registry.allMatching accepts).map (·.transformer.id) =
        (registry.entries.filter accepts).map (·.id) := by
      rw [← transformers, List.map_map]
      rfl
    have kept : ((registry.entries.filter accepts).map (·.id)).Sublist registry.ids :=
      List.filter_sublist.map _
    rw [ids]
    exact kept.nodup indexed.idsDistinct
  · intro ref selected
    obtain ⟨index, transformer, holds, -, rfl⟩ := (mem_allMatching_iff _ _ _).mp selected
    exact ⟨index, holds, rfl, fun fits => UInt32.toNat_ofNat_of_lt' fits⟩
  · intro ref selected
    obtain ⟨index, transformer, holds, -, rfl⟩ := (mem_allMatching_iff _ _ _).mp selected
    exact indexed.findById?_of_holds holds
  · intro ref selected
    obtain ⟨index, transformer, holds, -, rfl⟩ := (mem_allMatching_iff _ _ _).mp selected
    obtain ⟨other, followed, same⟩ := get?_refOf holds
    refine ⟨other, followed, same, fun fits => ?_⟩
    have direct := get?_refOf_of_lt holds (Nat.lt_of_lt_of_le holds.lt_size fits)
    exact Option.some.inj (followed.symm.trans direct)

end Indexed

theorem mem_allMatching_and_iff (registry : Registry) (first second : Transformer → Bool)
    (ref : Ref) :
    ref ∈ registry.allMatching (fun transformer => first transformer && second transformer) ↔
      ref ∈ registry.allMatching first ∧ ref ∈ registry.allMatching second := by
  simp only [mem_allMatching_iff, Bool.and_eq_true]
  constructor
  · rintro ⟨index, transformer, holds, ⟨passesFirst, passesSecond⟩, rfl⟩
    exact ⟨⟨index, transformer, holds, passesFirst, rfl⟩,
      ⟨index, transformer, holds, passesSecond, rfl⟩⟩
  · rintro ⟨⟨index, transformer, holds, passesFirst, rfl⟩, place, other, -, passesSecond, same⟩
    obtain rfl : transformer = other := congrArg (·.transformer) same
    exact ⟨index, transformer, holds, ⟨passesFirst, passesSecond⟩, rfl⟩

end ArtifactTools.Registry
