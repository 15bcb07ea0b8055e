import ArtifactTools.Proofs.Registry.Transfer
import ArtifactTools.Proofs.Settings.Editing

/-! The registry of the built-in families. Whatever the environment and the numbers, it holds the
same transformers with the same settings, so that persisted settings of one fit any other. -/

namespace ArtifactTools

namespace Registry

def contents (registry : Registry) : List (String × Settings.Store) :=
  registry.entries.map fun transformer => (transformer.id, transformer.store)

theorem Indexed.settingsOf?_eq_some_iff_mem {registry : Registry} (indexed : registry.Indexed)
    (id : String) (store : Settings.Store) :
    registry.settingsOf? id = some store ↔ (id, store) ∈ registry.contents := by
  rw [indexed.settingsOf?_eq_some_iff, contents, List.mem_map]
  constructor
  · rintro ⟨index, transformer, holds, rfl, rfl⟩
    exact ⟨transformer, holds.mem, rfl⟩
  · rintro ⟨transformer, member, same⟩
    obtain ⟨rfl, rfl⟩ := Prod.mk.inj same
    obtain ⟨index, holds⟩ := exists_holds_of_mem member
    exact ⟨index, transformer, holds, rfl, rfl⟩

theorem Indexed.settingsOf?_of_contents {first second : Registry} (one : first.Indexed)
    (other : second.Indexed) (same : first.contents = second.contents) (id : String) :
    first.settingsOf? id = second.settingsOf? id := by
  apply Option.ext
  intro store
  rw [one.settingsOf?_eq_some_iff_mem, other.settingsOf?_eq_some_iff_mem, same]

/-! Declarations. -/

theorem SameDeclarations.trans {first second third : Registry}
    (one : first.SameDeclarations second) (other : second.SameDeclarations third) :
    first.SameDeclarations third :=
  fun id key => (one id key).trans (other id key)

theorem SameDeclarations.symm {first second : Registry} (same : first.SameDeclarations second) :
    second.SameDeclarations first :=
  fun id key => (same id key).symm

theorem Indexed.sameDeclarations_withStore {registry : Registry} (indexed : registry.Indexed)
    {index : Nat} {transformer : Transformer} (holds : registry.Holds index transformer)
    {store : Settings.Store} (same : store.SameKinds transformer.store) :
    (registry.withStore index store).SameDeclarations registry := by
  intro id key
  rw [indexed.settingsOf?_withStore holds]
  split
  · next here =>
      rw [here, indexed.settingsOf?_of_holds holds, Option.map_some, Option.map_some, same key]
  · rfl

theorem Indexed.sameDeclarations_import (persisted : List (String × Json.Members)) :
    ∀ {registry : Registry}, registry.Indexed →
      (registry.importSettings persisted).1.SameDeclarations registry := by
  induction persisted with
  | nil => intro registry _ id key; rfl
  | cons entry rest ih =>
      intro registry indexed
      obtain ⟨id, members⟩ := entry
      cases found : registry.settingsOf? id with
      | none =>
          rw [importSettings_unknown found]
          exact ih indexed
      | some store =>
          obtain ⟨index, transformer, holds, rfl, rfl⟩ := indexed.settingsOf?_eq_some found
          rw [importSettings_known indexed holds]
          have kinds := (transformer.store.sameDescriptors_apply members).sameKinds
          exact (ih (indexed.withStore index _)).trans
            (indexed.sameDeclarations_withStore holds kinds)

theorem size_importSettings (registry : Registry) (persisted : List (String × Json.Members)) :
    (registry.importSettings persisted).1.size = registry.size := by
  rw [← size_bare, bare_importSettings, size_bare]

theorem size_withStore (registry : Registry) (index : Nat) (store : Settings.Store) :
    (registry.withStore index store).size = registry.size := by
  rw [← size_bare, bare_withStore, size_bare]

end Registry

namespace Builder

def builtinContents : List (String × Settings.Store) :=
  [("hex", ⟨Viewer.hexDescriptors.map .initial⟩), ("text", .empty), ("enjarify", .empty),
    ("dex2jar", .empty), ("jar2dex", .empty), ("none", .empty)]

theorem builtin_registered (environment : Environment) (numbering : Numbering) :
    ∃ registry, builtin.registered environment numbering = .ok registry ∧
      registry.contents = builtinContents := by
  refine ⟨_, by cbv, ?_⟩
  rfl

end Builder

namespace Registry

structure IsBuiltin (registry : Registry) : Prop where
  sound : registry.Sound
  size : registry.size = Builder.builtinContents.length
  declarations : ∃ fresh : Registry, fresh.Sound ∧ fresh.contents = Builder.builtinContents ∧
    registry.SameDeclarations fresh

theorem isBuiltin_of_contents {registry : Registry} (sound : registry.Sound)
    (contents : registry.contents = Builder.builtinContents) : registry.IsBuiltin := by
  refine ⟨sound, ?_, registry, sound, contents, fun _ _ => rfl⟩
  rw [← contents, Registry.contents, List.length_map]
  rfl

theorem IsBuiltin.importSettings {registry : Registry} (builtin : registry.IsBuiltin)
    (persisted : Settings.Persisted) : (registry.importSettings persisted).1.IsBuiltin := by
  obtain ⟨fresh, soundFresh, contents, same⟩ := builtin.declarations
  refine ⟨builtin.sound.importSettings persisted, ?_, fresh, soundFresh, contents, ?_⟩
  · rw [size_importSettings, builtin.size]
  · exact (builtin.sound.toIndexed.sameDeclarations_import persisted).trans same

theorem IsBuiltin.withStore {registry : Registry} (builtin : registry.IsBuiltin) {index : Nat}
    {transformer : Transformer} (holds : registry.Holds index transformer)
    {store : Settings.Store} (consistent : store.Consistent)
    (same : store.SameKinds transformer.store) : (registry.withStore index store).IsBuiltin := by
  obtain ⟨fresh, soundFresh, contents, declarations⟩ := builtin.declarations
  refine ⟨builtin.sound.withStore consistent index, ?_, fresh, soundFresh, contents, ?_⟩
  · rw [size_withStore, builtin.size]
  · exact (builtin.sound.toIndexed.sameDeclarations_withStore holds same).trans declarations

theorem IsBuiltin.sameDeclarations {first second : Registry} (one : first.IsBuiltin)
    (other : second.IsBuiltin) : first.SameDeclarations second := by
  obtain ⟨here, soundHere, contentsHere, sameHere⟩ := one.declarations
  obtain ⟨there, soundThere, contentsThere, sameThere⟩ := other.declarations
  have between : here.SameDeclarations there := by
    intro id key
    rw [soundHere.toIndexed.settingsOf?_of_contents soundThere.toIndexed
      (contentsHere.trans contentsThere.symm)]
  exact (sameHere.trans between).trans sameThere.symm

end Registry

namespace Builder

/-- The built-in families can always be registered. -/
theorem exists_build_builtin (environment : Environment) (numbering : Numbering) :
    ∃ fresh : Registry, fresh.IsBuiltin ∧ (builtin.build environment numbering).result =
      .ok (fresh.importSettings environment.config.settings).1 := by
  obtain ⟨fresh, registered, contents⟩ := builtin_registered environment numbering
  have sound := (Registry.sound_empty numbering.registry).registerFamilies registered
  exact ⟨fresh, Registry.isBuiltin_of_contents sound contents, build_of_registered registered⟩

/-- Under a configuration with the settings of one built-in registry another is built that has the
same values. -/
theorem exists_rebuild {source : Registry} (isBuiltin : source.IsBuiltin)
    {environment : Environment} (settings : environment.config.settings = source.exportSettings)
    (numbering : Numbering) :
    ∃ rebuilt, (builtin.build environment numbering).result = .ok rebuilt ∧
      ∀ id key, rebuilt.valueOf? id key = source.valueOf? id key := by
  obtain ⟨fresh, freshBuiltin, built⟩ := exists_build_builtin environment numbering
  rw [settings] at built
  refine ⟨_, built, ?_⟩
  exact ((freshBuiltin.sameDeclarations isBuiltin).takesOver freshBuiltin.sound
    isBuiltin.sound).values

end Builder

end ArtifactTools
