import ArtifactTools.Proofs.Registry.Keeping
import ArtifactTools.Viewer

/-! What an import makes of any registry that can be reached, and what it says of the values that it
does not take over. -/

namespace ArtifactTools.Registry

theorem Indexed.exists_refuses_iff {registry : Registry} (indexed : registry.Indexed)
    {id key : String} {raw : Json.Value} :
    (∃ error, registry.Refuses id key raw error) ↔
      registry.containsId id = true ∧ ¬ registry.Accepts id key raw := by
  rw [accepts_iff, indexed.containsId_eq]
  cases found : registry.settingsOf? id with
  | none => simp [Refuses, found]
  | some store =>
      have refuses := @Settings.Store.exists_refuses_iff store key raw
      simpa [Refuses, found, Option.eq_none_iff_forall_ne_some] using refuses

structure Imported (registry : Registry) (persisted : Settings.Persisted) (next : Registry)
    (problems : List (String × SettingsError)) : Prop where
  bare : next.bare = registry.bare
  declarations : next.entries.map (·.store.descriptors) =
    registry.entries.map (·.store.descriptors)
  taken : ∀ id key raw, persisted.value? id key = some raw → registry.Accepts id key raw →
    (next.valueOf? id key).map Settings.Value.toJson = some raw
  kept : ∀ id key,
    (∀ raw, persisted.value? id key = some raw → ¬ registry.Accepts id key raw) →
      next.valueOf? id key = registry.valueOf? id key
  /-- With the order of the problems, each refused value is named once. -/
  reported : ∀ id error, (id, error) ∈ problems ↔ ∃ raw,
    persisted.value? id error.key = some raw ∧ registry.Refuses id error.key raw error
  refused : ∀ id key raw, (∃ error, registry.Refuses id key raw error) ↔
    registry.containsId id = true ∧ ¬ registry.Accepts id key raw
  ordered : problems.Pairwise fun first second =>
    Settings.Persisted.Precedes (first.1, first.2.key) (second.1, second.2.key)
  unregistered : registry.importSettings
    (persisted.entries.filter fun entry => registry.containsId entry.1) = (next, problems)
  rearranged : ∀ others : List (String × Json.Members),
    (Settings.Persisted.items others).Perm (Settings.Persisted.items persisted) →
    (registry.importSettings others).1 = next ∧
      (registry.importSettings others).2.Perm problems
  again : next.importSettings persisted = (next, problems)

section

variable {registry : Registry} (sound : registry.Sound) (persisted : Settings.Persisted)

include sound

theorem Sound.kept_imported {id key : String}
    (refused : ∀ raw, persisted.value? id key = some raw → ¬ registry.Accepts id key raw) :
    (registry.importSettings persisted).1.valueOf? id key = registry.valueOf? id key := by
  rw [sound.valueOf?_imported, valueOf?]
  cases found : registry.settingsOf? id with
  | none => rfl
  | some store =>
      have nothing : (persisted.value? id key).bind (store.taken? key) = none := by
        rw [Option.bind_eq_none_iff]
        intro raw held
        rw [Option.eq_none_iff_forall_ne_some]
        exact fun value taken => refused raw held (accepts_iff.mpr ⟨store, value, found, taken⟩)
      rw [Option.bind_some, Option.bind_some, nothing, Option.none_or]

theorem Sound.imported : registry.Imported persisted (registry.importSettings persisted).1
    (registry.importSettings persisted).2 := by
  have distinct := Settings.Persisted.nodup_items persisted
  constructor
  · exact bare_importSettings persisted.entries registry
  · rw [sound.importSettings_eq_overlaid distinct]
    simp [overlaid, Settings.Store.descriptors_overlaid]
  · intro id key raw held accepts
    exact (sound.valueOf?_importSettings_iff held).mpr accepts
  · exact fun id key refused => sound.kept_imported persisted refused
  · exact fun id error => sound.mem_problems_iff persisted
  · exact fun id key raw => sound.toIndexed.exists_refuses_iff
  · exact sound.pairwise_problems persisted
  · exact sound.toIndexed.importSettings_filter
  · intro others same
    have distinctToo := (same.map Prod.fst).nodup_iff.mpr distinct
    constructor
    · rw [sound.importSettings_eq_overlaid distinctToo, sound.importSettings_eq_overlaid distinct]
      refine congrArg _ (funext fun id => funext fun key => ?_)
      exact Dictionary.lookup_eq_of_perm distinctToo same (id, key)
    · rw [sound.toIndexed.problems_importSettings, sound.toIndexed.problems_importSettings]
      exact same.filterMap _
  · exact sound.importSettings_again persisted

end

/-- Into whatever registry there is by then, an import takes over the values that the declarations
accept, and names the others. -/
theorem imported_run_empty (number : UInt32) (requests : List Request)
    (persisted : Settings.Persisted) :
    let registry := (empty number).run requests
    registry.Imported persisted (registry.importSettings persisted).1
      (registry.importSettings persisted).2 :=
  (sound_run_empty number requests).imported persisted

/-- One of five values is accepted, and three are named. -/
theorem imported_run_empty_hex :
    let persisted : Settings.Persisted := .ofList [("cfr", .ofList [("level", .number (.whole 3))]),
      ("hex", .ofList [("bogus", .null), ("bytes_per_row", .number (.whole 8)),
        ("size", .bool true), ("uppercase", .number (.whole 3))])]
    let registry := (empty 7).run [.register 0 Viewer.text, .register 1 Viewer.hex]
    registry.Imported persisted (registry.importSettings persisted).1
      [("hex", .kindMismatch "bogus" "a scalar" "null"), ("hex", .unknownKey "size"),
        ("hex", .kindMismatch "uppercase" "bool" "integer 3")] := by
  intro persisted registry
  have problems : (registry.importSettings persisted).2 =
      [("hex", .kindMismatch "bogus" "a scalar" "null"), ("hex", .unknownKey "size"),
        ("hex", .kindMismatch "uppercase" "bool" "integer 3")] := by
    decide +kernel
  rw [← problems]
  exact imported_run_empty 7 [.register 0 Viewer.text, .register 1 Viewer.hex] persisted

end ArtifactTools.Registry
