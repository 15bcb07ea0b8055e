import ArtifactTools.Proofs.Registry.Overlay

/-! Which persisted values outlive an import and the next export: those that a registered
transformer accepts under a key that it declares. Of the others nothing is kept. -/

namespace ArtifactTools

namespace Registry

/-- A persisted value that an import takes over: its id is registered, its key is declared there,
and the declared kind accepts it. -/
def Accepts (registry : Registry) (id key : String) (raw : Json.Value) : Prop :=
  ∃ store kind value, registry.settingsOf? id = some store ∧ store.kind? key = some kind ∧
    Settings.Value.ofJson? raw = some value ∧ kind.accepts value = true

theorem accepts_iff {registry : Registry} {id key : String} {raw : Json.Value} :
    registry.Accepts id key raw ↔
      ∃ store value, registry.settingsOf? id = some store ∧ store.taken? key raw = some value := by
  simp only [Accepts, Settings.Store.taken?_eq_some_iff]
  constructor
  · rintro ⟨store, kind, value, found, declared, accepted⟩
    exact ⟨store, value, found, kind, declared, accepted⟩
  · rintro ⟨store, value, found, kind, declared, accepted⟩
    exact ⟨store, kind, value, found, declared, accepted⟩

theorem SameDeclarations.accepts_iff {first second : Registry}
    (same : first.SameDeclarations second) {id key : String} {raw : Json.Value} :
    first.Accepts id key raw ↔ second.Accepts id key raw := by
  rw [Registry.accepts_iff, Registry.accepts_iff]
  rcases same.cases id with ⟨foundFirst, foundSecond⟩ | ⟨one, other, foundFirst, foundSecond, kinds⟩
  · simp [foundFirst, foundSecond]
  · simp [foundFirst, foundSecond, kinds.taken?_eq]

theorem Sound.value?_exportSettings {registry : Registry} (sound : registry.Sound)
    (id key : String) :
    registry.exportSettings.value? id key =
      (registry.valueOf? id key).map Settings.Value.toJson := by
  rw [Settings.Persisted.value?, sound.toIndexed.get?_exportSettings, valueOf?]
  cases found : registry.settingsOf? id with
  | none => rfl
  | some store =>
      rw [Option.bind_some, Option.bind_some, exported?]
      split
      · rw [Option.bind_some, (sound.consistent found).get?_snapshot]
      · next empty =>
          have nothing : store.entries = [] := List.eq_nil_of_length_eq_zero (by
            simpa [Settings.Store.size] using empty)
          simp [Settings.Store.get?, Settings.Store.find?, nothing]

section

variable {registry : Registry} (sound : registry.Sound) {persisted : Settings.Persisted}
  {id key : String} {raw : Json.Value} (held : persisted.value? id key = some raw)

include sound held

theorem Sound.valueOf?_importSettings_iff :
    ((registry.importSettings persisted).1.valueOf? id key).map Settings.Value.toJson = some raw ↔
      registry.Accepts id key raw := by
  rw [sound.valueOf?_imported, held, accepts_iff]
  cases found : registry.settingsOf? id with
  | none => simp
  | some store =>
      simp only [Option.bind_some, Option.some.injEq, exists_and_left, exists_eq_left']
      cases taken : store.taken? key raw with
      | some value =>
          obtain ⟨kind, -, read, -⟩ := Settings.Store.taken?_eq_some_iff.mp taken
          simp [Settings.Value.toJson_of_ofJson? read]
      | none =>
          -- A default that is written as the value would have been accepted.
          simp only [Option.none_or, Option.map_eq_some_iff, reduceCtorEq, exists_false, iff_false]
          rintro ⟨value, current, rfl⟩
          obtain ⟨kind, declared, accepts⟩ := (sound.consistent found).accepts current
          have again := Settings.Store.taken?_eq_some_iff.mpr
            ⟨kind, declared, Settings.Value.ofJson?_toJson value, accepts⟩
          rw [taken] at again
          cases again

end

end Registry

end ArtifactTools
