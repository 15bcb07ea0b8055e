import ArtifactTools.Proofs.Registry.Imports
import Mathlib

/-! Settings go from one registry to another as text: exported, written, read again, and imported
directly or while a registry is built. -/

namespace ArtifactTools

namespace Registry

/-- Persisted settings hold one entry for each transformer that has settings, with its value under
each of its keys, and no other. -/
structure Covers (registry : Registry) (persisted : Settings.Persisted) : Prop where
  ids : persisted.keys.Perm
    ((registry.entries.filter Transformer.hasSettings).map (·.id))
  distinct : persisted.keys.Nodup
  keys : ∀ transformer ∈ registry.entries, transformer.hasSettings = true →
    ∃ members, persisted.get? transformer.id = some members ∧
      members.keys.Perm transformer.store.keys ∧
      ∀ key, members.get? key = (transformer.store.get? key).map Settings.Value.toJson

theorem Sound.covers {registry : Registry} (sound : registry.Sound) :
    registry.Covers registry.exportSettings := by
  have perm := sound.toIndexed.exportSettings_perm
  constructor
  · have ids := perm.map Prod.fst
    rw [List.map_map] at ids
    exact ids
  · exact registry.exportSettings.nodup_keys
  · intro transformer member hasSettings
    have consistent := sound.settings transformer member
    have keys := consistent.snapshot_perm.map Prod.fst
    rw [List.map_map] at keys
    refine ⟨transformer.store.snapshot, ?_, keys, consistent.get?_snapshot⟩
    rw [sound.toIndexed.get?_exportSettings, sound.toIndexed.settingsOf?_of_mem member]
    exact if_pos (of_decide_eq_true hasSettings)

theorem parse?_exportSettings (registry : Registry) (layout : Json.Layout) :
    Settings.Persisted.parse? (registry.exportSettings.toJson.textIn layout) =
      some registry.exportSettings :=
  Settings.Persisted.parse?_textIn (legible_exportSettings registry 125)
    (doubleFree_exportSettings registry) layout

/-! Registries that families register are as sound as any. -/

theorem Sound.registerAll {drafts : List Draft} {next : Registry} :
    ∀ {registry : Registry} {serial : Nat}, registry.Sound →
      (registry.registerAll serial drafts).1 = .ok next → next.Sound := by
  induction drafts with
  | nil =>
      intro registry serial sound registered
      obtain rfl := Except.ok.inj registered
      exact sound
  | cons draft rest ih =>
      intro registry serial sound registered
      rw [Registry.registerAll] at registered
      split at registered
      · cases registered
      · next ref later accepted => exact ih (sound.register accepted) registered

theorem Sound.registerFamilies {environment : Environment} {families : List Family}
    {next : Registry} : ∀ {registry : Registry} {serial started : Nat}, registry.Sound →
      (Builder.registerFamilies environment registry serial started families).1 = .ok next →
        next.Sound := by
  induction families with
  | nil =>
      intro registry serial started sound registered
      obtain rfl := Except.ok.inj registered
      exact sound
  | cons family rest ih =>
      intro registry serial started sound registered
      rw [Builder.registerFamilies] at registered
      split at registered
      · cases registered
      · next later serial accepted =>
          exact ih (sound.registerAll (congrArg Prod.fst accepted)) registered

end Registry

def Builder.registered (builder : Builder) (environment : Environment) (numbering : Numbering) :
    Except TransformerError Registry :=
  (registerFamilies environment (.empty numbering.registry) numbering.serial 0 builder.families).1

theorem Builder.build_of_registered {builder : Builder} {environment : Environment}
    {numbering : Numbering} {registry : Registry}
    (registered : builder.registered environment numbering = .ok registry) :
    (builder.build environment numbering).result =
      .ok (registry.importSettings environment.config.settings).1 := by
  have built : (builder.build environment numbering).result =
      (builder.registered environment numbering).map fun registry =>
        (registry.importSettings environment.config.settings).1 := rfl
  rw [built, registered]
  rfl

namespace Registry

/-- Whatever a registry has been asked, its export covers its settings and is read back from either
text of it. A registry with the same declarations takes all of it over, and so does one that is
built under a configuration with these settings. -/
theorem settings_survive_transfer {sourceNumber targetNumber : UInt32}
    {sourceRequests targetRequests : List Request}
    (same : ((empty targetNumber).run targetRequests).SameDeclarations
      ((empty sourceNumber).run sourceRequests)) :
    let source := (empty sourceNumber).run sourceRequests
    let target := (empty targetNumber).run targetRequests
    source.Covers source.exportSettings ∧
    Settings.Persisted.parse? source.exportSettings.toJson.compactText =
      some source.exportSettings ∧
    Settings.Persisted.parse? source.exportSettings.toJson.prettyText =
      some source.exportSettings ∧
    target.TakesOver source source.exportSettings ∧
    ∀ (builder : Builder) (environment : Environment) (numbering : Numbering)
      (registered : Registry), builder.registered environment numbering = .ok registered →
      registered.SameDeclarations source → environment.config.settings = source.exportSettings →
      registered.TakesOver source source.exportSettings ∧
      (builder.build environment numbering).result =
        .ok (registered.importSettings source.exportSettings).1 := by
  intro source target
  have soundSource : source.Sound := sound_run_empty sourceNumber sourceRequests
  have soundTarget : target.Sound := sound_run_empty targetNumber targetRequests
  have free := (doubleFree_exportSettings source).toJson
  refine ⟨soundSource.covers, ?_, ?_, same.takesOver soundTarget soundSource, ?_⟩
  · rw [← free.textIn_compact, parse?_exportSettings]
  · rw [← free.textIn_pretty, parse?_exportSettings]
  · intro builder environment numbering registered registers sameRegistered configured
    have soundRegistered := (sound_empty numbering.registry).registerFamilies registers
    refine ⟨sameRegistered.takesOver soundRegistered soundSource, ?_⟩
    rw [Builder.build_of_registered registers, configured]

/-- A switch that was turned on arrives in registries that hold the transformers the other way
round. -/
theorem settings_survive_transfer_swapped :
    let idle : Behaviour := fun _ _ services => (.unsupported, services)
    let strip : Draft :=
      ⟨"strip", "Strip", .other, [.bool "debug" "Debug" false], fun _ => true, idle⟩
    let plain : Draft := ⟨"plain", "Plain", .other, [], fun _ => true, idle⟩
    let source := (empty 0).run
      [.register 0 strip, .register 1 plain, .settings 0 (.set "debug" (.bool true))]
    let target := (empty 1).run [.register 2 plain, .register 3 strip]
    let builder : Builder := ⟨[⟨"both", fun _ => [plain, strip]⟩]⟩
    let environment : Environment := ⟨{ Config.default with settings := source.exportSettings },
      fun _ host _ => (.error .cancelled, host)⟩
    target.SameDeclarations source ∧ builder.registered environment ⟨1, 2⟩ = .ok target ∧
      target.TakesOver source source.exportSettings ∧
      (builder.build environment ⟨1, 2⟩).result =
        .ok (target.importSettings source.exportSettings).1 := by
  intro idle strip plain source target builder environment
  have onSource : source.byId = [("plain", 1), ("strip", 0)] ∧ source.entries =
      [⟨0, "strip", "Strip", .other, ⟨[⟨.bool "debug" "Debug" false, .bool true⟩]⟩,
        strip.accepts, idle⟩, ⟨1, "plain", "Plain", .other, ⟨[]⟩, plain.accepts, idle⟩] := by
    simp only [source, strip, plain]
    constructor <;> cbv
  have onTarget : target.byId = [("strip", 1), ("plain", 0)] ∧ target.entries =
      [⟨2, "plain", "Plain", .other, ⟨[]⟩, plain.accepts, idle⟩,
        ⟨3, "strip", "Strip", .other, ⟨[.initial (.bool "debug" "Debug" false)]⟩,
          strip.accepts, idle⟩] := by
    simp only [target, strip, plain]
    constructor <;> cbv
  have registers : builder.registered environment ⟨1, 2⟩ = .ok target := by
    simp only [builder, target, strip, plain]
    cbv
  have same : target.SameDeclarations source := by
    intro id key
    by_cases isStrip : id = "strip"
    · by_cases isDebug : "debug" = key <;>
        simp [settingsOf?, findById?, refAt?, refOf, onSource, onTarget, List.lookup_cons, isStrip,
          Settings.Store.kind?, Settings.Store.descriptor?, Settings.Store.find?,
          Settings.Entry.key, Settings.Entry.initial, Settings.Descriptor.bool, isDebug]
    · have notStrip : (id == "strip") = false := by simpa using isStrip
      by_cases isPlain : id = "plain"
      · simp [settingsOf?, findById?, refAt?, refOf, onSource, onTarget, List.lookup_cons, isPlain]
      · have notPlain : (id == "plain") = false := by simpa using isPlain
        simp [settingsOf?, findById?, onSource, onTarget, List.lookup_cons, notStrip, notPlain]
  have transfer := settings_survive_transfer same
  exact ⟨same, registers, transfer.2.2.2.1,
    (transfer.2.2.2.2 builder environment ⟨1, 2⟩ target registers same rfl).2⟩

end Registry

end ArtifactTools
