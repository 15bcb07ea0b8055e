import ArtifactTools.Proofs.Registry.Requests
import ArtifactTools.Proofs.Settings.Snapshots

/-! An export holds a snapshot of each transformer that has settings, under its id, and nothing
else. -/

namespace ArtifactTools.Registry

def settingsOf? (registry : Registry) (id : String) : Option Settings.Store :=
  (registry.findById? id).map (·.transformer.store)

def valueOf? (registry : Registry) (id key : String) : Option Settings.Value :=
  (registry.settingsOf? id).bind (·.get? key)

theorem Indexed.settingsOf?_of_holds {registry : Registry} (indexed : registry.Indexed)
    {index : Nat} {transformer : Transformer} (holds : registry.Holds index transformer) :
    registry.settingsOf? transformer.id = some transformer.store := by
  rw [settingsOf?, indexed.findById?_of_holds holds]
  rfl

theorem Indexed.settingsOf?_of_mem {registry : Registry} (indexed : registry.Indexed)
    {transformer : Transformer} (member : transformer ∈ registry.entries) :
    registry.settingsOf? transformer.id = some transformer.store := by
  obtain ⟨index, holds⟩ := exists_holds_of_mem member
  exact indexed.settingsOf?_of_holds holds

theorem Indexed.settingsOf?_eq_some {registry : Registry} (indexed : registry.Indexed)
    {id : String} {store : Settings.Store} (found : registry.settingsOf? id = some store) :
    ∃ index transformer, registry.Holds index transformer ∧ transformer.id = id ∧
      transformer.store = store := by
  obtain ⟨ref, foundRef, rfl⟩ := Option.map_eq_some_iff.mp found
  obtain ⟨index, transformer, holds, sameId, rfl⟩ :=
    (indexed.findById?_eq_some_iff id ref).mp foundRef
  exact ⟨index, transformer, holds, sameId, rfl⟩

theorem Sound.consistent {registry : Registry} (sound : registry.Sound) {id : String}
    {store : Settings.Store} (found : registry.settingsOf? id = some store) :
    store.Consistent := by
  obtain ⟨index, transformer, holds, -, rfl⟩ := sound.toIndexed.settingsOf?_eq_some found
  exact sound.settings transformer holds.mem

/-! The entries of an export. -/

theorem map_transformer_selectFrom (registry : Registry) (accepts : Transformer → Bool)
    (entries : List Transformer) : ∀ start,
    (registry.selectFrom accepts start entries).map (·.transformer) = entries.filter accepts := by
  induction entries with
  | nil => intro start; rfl
  | cons first rest ih =>
      intro start
      simp only [selectFrom, List.filter_cons]
      split
      · rw [List.map_cons, ih]
        rfl
      · exact ih (start + 1)

theorem exportSettings_eq (registry : Registry) :
    registry.exportSettings = Dictionary.ofList
      ((registry.entries.filter Transformer.hasSettings).map fun transformer =>
        (transformer.id, transformer.store.snapshot)) := by
  rw [exportSettings, allMatching,
    ← map_transformer_selectFrom registry Transformer.hasSettings registry.entries 0, List.map_map]
  rfl

theorem mem_exportSettings {registry : Registry} {entry : String × Json.Members}
    (kept : entry ∈ registry.exportSettings.entries) :
    ∃ transformer ∈ registry.entries, transformer.hasSettings = true ∧
      entry = (transformer.id, transformer.store.snapshot) := by
  rw [exportSettings_eq] at kept
  obtain ⟨transformer, member, same⟩ := List.mem_map.mp (Dictionary.mem_of_mem_ofList kept)
  obtain ⟨present, hasSettings⟩ := List.mem_filter.mp member
  exact ⟨transformer, present, hasSettings, same.symm⟩

theorem legible_exportSettings (registry : Registry) (budget : Nat) :
    Settings.Persisted.Legible budget registry.exportSettings := by
  intro entry kept
  obtain ⟨transformer, -, -, rfl⟩ := mem_exportSettings kept
  exact transformer.store.snapshot_legible budget

theorem doubleFree_exportSettings (registry : Registry) :
    Settings.Persisted.DoubleFree registry.exportSettings := by
  intro entry kept
  obtain ⟨transformer, -, -, rfl⟩ := mem_exportSettings kept
  exact transformer.store.snapshot_doubleFree

theorem Indexed.exportSettings_perm {registry : Registry} (indexed : registry.Indexed) :
    registry.exportSettings.entries.Perm
      ((registry.entries.filter Transformer.hasSettings).map fun transformer =>
        (transformer.id, transformer.store.snapshot)) := by
  rw [exportSettings_eq]
  refine Dictionary.ofList_perm ?_
  rw [List.map_map]
  exact indexed.idsDistinct.sublist (List.filter_sublist.map _)

/-- The settings that an export holds of a store; of an empty one it holds none. -/
def exported? (store : Settings.Store) : Option Json.Members :=
  if 0 < store.size then some store.snapshot else none

theorem Indexed.get?_exportSettings {registry : Registry} (indexed : registry.Indexed)
    (id : String) :
    registry.exportSettings.get? id = (registry.settingsOf? id).bind exported? := by
  have perm := indexed.exportSettings_perm
  apply Option.ext
  intro members
  rw [Dictionary.get?_eq_some_iff, perm.mem_iff, List.mem_map, Option.bind_eq_some_iff]
  constructor
  · rintro ⟨transformer, selected, same⟩
    obtain ⟨member, hasSettings⟩ := List.mem_filter.mp selected
    obtain ⟨rfl, rfl⟩ := Prod.mk.inj same
    refine ⟨transformer.store, indexed.settingsOf?_of_mem member, ?_⟩
    exact if_pos (of_decide_eq_true hasSettings)
  · rintro ⟨store, found, kept⟩
    obtain ⟨index, transformer, holds, rfl, rfl⟩ := indexed.settingsOf?_eq_some found
    unfold exported? at kept
    split at kept
    · next nonempty =>
        obtain rfl := Option.some.inj kept
        exact ⟨transformer, List.mem_filter.mpr ⟨holds.mem, decide_eq_true nonempty⟩, rfl⟩
    · cases kept

end ArtifactTools.Registry
