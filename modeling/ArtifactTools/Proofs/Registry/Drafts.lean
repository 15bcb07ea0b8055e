import ArtifactTools.Proofs.Registry.Insertion
import ArtifactTools.Proofs.Settings.Declaring
import ArtifactTools.Registry.Builder

/-! Drafts that register one after another. A registry takes all of them if each is fit by itself
and no two share an id or a name. Otherwise it takes those before the first that is refused, and
does not look at those after it. -/

namespace ArtifactTools

namespace Draft

structure IsFit (draft : Draft) : Prop where
  legal : Identity.IsLegal draft.id
  named : draft.name ≠ ""
  declarations : ∀ descriptor ∈ draft.descriptors, ¬ descriptor.IsDefective

structure Compatible (drafts : List Draft) : Prop where
  fit : ∀ draft ∈ drafts, draft.IsFit
  ids : (drafts.map (·.id)).Nodup
  names : (drafts.map (·.name)).Nodup

inductive Refused (earlier : List Draft) (draft : Draft) : TransformerError → Prop
  | unfit {error} : (∀ serial, draft.build serial = .error error) → Refused earlier draft error
  | sameId : draft.IsFit → draft.id ∈ earlier.map (·.id) →
      Refused earlier draft (.duplicateIdentifier draft.id)
  | sameName : draft.IsFit → draft.id ∉ earlier.map (·.id) → draft.name ∈ earlier.map (·.name) →
      Refused earlier draft (.duplicateName draft.name)

theorem exists_build_iff (draft : Draft) (serial : Nat) :
    (∃ transformer, draft.build serial = .ok transformer) ↔ draft.IsFit := by
  have declared : (∃ store, Settings.Store.ofDescriptors draft.descriptors = .ok store) ↔
      ∀ descriptor ∈ draft.descriptors, ¬ descriptor.IsDefective := by
    simp only [Settings.Descriptor.isDefective_iff, ne_eq, not_not]
    exact Settings.Store.exists_registerAll_iff draft.descriptors .empty
  constructor
  · rintro ⟨transformer, built⟩
    obtain ⟨legal, named, store, made, -⟩ := (build_eq_ok_iff draft serial transformer).mp built
    exact ⟨legal, named, declared.mp ⟨store, made⟩⟩
  · rintro ⟨legal, named, declarations⟩
    obtain ⟨store, made⟩ := declared.mpr declarations
    exact ⟨_, (build_eq_ok_iff draft serial _).mpr ⟨legal, named, store, made, rfl⟩⟩

theorem build_eq_error {draft : Draft} {serial : Nat} {error : TransformerError}
    (unfit : draft.build serial = .error error) (other : Nat) :
    draft.build other = .error error := by
  unfold build at unfit ⊢
  cases checkedId : Identity.checkId draft.id with
  | error fault => simpa [checkedId] using unfit
  | ok =>
      cases checkedName : Identity.checkName draft.name with
      | error fault => simpa [checkedId, checkedName] using unfit
      | ok =>
          cases made : Settings.Store.ofDescriptors draft.descriptors with
          | error fault => simpa [checkedId, checkedName, made] using unfit
          | ok store => simp [checkedId, checkedName, made] at unfit

theorem Compatible.concat {earlier : List Draft} (compatible : Compatible earlier) {draft : Draft}
    (fit : draft.IsFit) (freshId : draft.id ∉ earlier.map (·.id))
    (freshName : draft.name ∉ earlier.map (·.name)) : Compatible (earlier ++ [draft]) := by
  constructor
  · intro other member
    rcases List.mem_append.mp member with old | new
    · exact compatible.fit other old
    · exact List.mem_singleton.mp new ▸ fit
  · simpa using compatible.ids.concat freshId
  · simpa using compatible.names.concat freshName

theorem Refused.not_compatible {earlier : List Draft} {draft : Draft} {error : TransformerError}
    (refused : draft.Refused earlier error) (later : List Draft) :
    ¬ Compatible (earlier ++ draft :: later) := by
  intro compatible
  cases refused with
  | unfit unfit =>
      obtain ⟨transformer, built⟩ :=
        (draft.exists_build_iff 0).mpr (compatible.fit draft (by simp))
      rw [unfit 0] at built
      cases built
  | sameId _ taken =>
      have distinct := compatible.ids
      rw [List.map_append, List.nodup_append] at distinct
      exact distinct.2.2 draft.id taken draft.id (by simp) rfl
  | sameName _ _ taken =>
      have distinct := compatible.names
      rw [List.map_append, List.nodup_append] at distinct
      exact distinct.2.2 draft.name taken draft.name (by simp) rfl

end Draft

namespace Registry

structure Comprises (registry : Registry) (start : Numbering) (drafts : List Draft) : Prop where
  knows : registry.Knows
  compatible : Draft.Compatible drafts
  number : registry.number = start.registry
  size : registry.size = drafts.length
  built : ∀ index draft, drafts[index]? = some draft → ∃ transformer,
    registry.Holds index transformer ∧ draft.build (start.serial + index) = .ok transformer

theorem comprises_empty (start : Numbering) : (empty start.registry).Comprises start [] := by
  have indexed := (sound_empty start.registry).toIndexed
  exact ⟨indexed.knows, ⟨by simp, by simp, by simp⟩, rfl, rfl, by simp⟩

section

variable {registry : Registry} {start : Numbering} {earlier : List Draft}
  (comprises : registry.Comprises start earlier)

include comprises

theorem Comprises.map_entries {β : Type} {ofDraft : Draft → β} {ofEntry : Transformer → β}
    (kept : ∀ draft serial transformer, draft.build serial = .ok transformer →
      ofEntry transformer = ofDraft draft) :
    registry.entries.map ofEntry = earlier.map ofDraft := by
  apply List.ext_getElem?
  intro index
  rw [List.getElem?_map, List.getElem?_map]
  cases there : earlier[index]? with
  | none =>
      have size : registry.entries.length = earlier.length := comprises.size
      have beyond : registry.entries.length ≤ index :=
        size ▸ List.getElem?_eq_none_iff.mp there
      rw [List.getElem?_eq_none beyond, Option.map_none, Option.map_none]
  | some draft =>
      obtain ⟨transformer, holds, built⟩ := comprises.built index draft there
      rw [show registry.entries[index]? = some transformer from holds]
      exact congrArg some (kept draft _ transformer built)

theorem Comprises.ids : registry.ids = earlier.map (·.id) := by
  apply comprises.map_entries
  intro draft serial transformer built
  obtain ⟨-, -, store, -, rfl⟩ := (Draft.build_eq_ok_iff draft serial transformer).mp built
  rfl

theorem Comprises.names : registry.names = earlier.map (·.name) := by
  apply comprises.map_entries
  intro draft serial transformer built
  obtain ⟨-, -, store, -, rfl⟩ := (Draft.build_eq_ok_iff draft serial transformer).mp built
  rfl

theorem Comprises.extended {draft : Draft} {transformer : Transformer}
    (built : draft.build (start.serial + earlier.length) = .ok transformer)
    (compatible : Draft.Compatible (earlier ++ [draft])) :
    (registry.extended transformer).Comprises start (earlier ++ [draft]) := by
  refine ⟨comprises.knows.extended transformer, compatible, comprises.number, ?_, ?_⟩
  · have size := comprises.size
    simp only [Registry.size] at size
    simp [Registry.size, Registry.extended, size]
  · intro index other there
    have size : registry.entries.length = earlier.length := comprises.size
    rcases Nat.lt_trichotomy index earlier.length with before | rfl | beyond
    · rw [List.getElem?_append_left before] at there
      obtain ⟨old, holds, same⟩ := comprises.built index other there
      refine ⟨old, ?_, same⟩
      rw [Holds, Registry.extended, List.getElem?_append_left (size ▸ before)]
      exact holds
    · simp only [List.getElem?_concat_length, Option.some.injEq] at there
      subst there
      refine ⟨transformer, ?_, built⟩
      simp [Holds, Registry.extended, ← size]
    · rw [List.getElem?_eq_none (by simp; omega)] at there
      cases there

theorem Comprises.register (draft : Draft) :
    (∃ error, registry.register (start.serial + earlier.length) draft = .error error ∧
      draft.Refused earlier error) ∨
    ∃ ref next, registry.register (start.serial + earlier.length) draft = .ok (ref, next) ∧
      next.Comprises start (earlier ++ [draft]) := by
  cases built : draft.build (start.serial + earlier.length) with
  | error error =>
      exact Or.inl ⟨error, by simp [Registry.register, built], .unfit (Draft.build_eq_error built)⟩
  | ok transformer =>
      have fit := (draft.exists_build_iff _).mp ⟨transformer, built⟩
      have registered : registry.register (start.serial + earlier.length) draft =
          registry.insert transformer := by
        simp [Registry.register, built]
      rw [registered]
      have sameId : transformer.id = draft.id := by
        obtain ⟨-, -, store, -, rfl⟩ := (Draft.build_eq_ok_iff _ _ _).mp built
        rfl
      have sameName : transformer.name = draft.name := by
        obtain ⟨-, -, store, -, rfl⟩ := (Draft.build_eq_ok_iff _ _ _).mp built
        rfl
      have ways := comprises.knows.insert_cases transformer
      rw [comprises.ids, comprises.names, sameId, sameName] at ways
      rcases ways with ⟨taken, refused⟩ | ⟨fresh, taken, refused⟩ | ⟨freshId, freshName, inserted⟩
      · exact Or.inl ⟨_, refused, .sameId fit taken⟩
      · exact Or.inl ⟨_, refused, .sameName fit fresh taken⟩
      · exact Or.inr ⟨_, _, inserted,
          comprises.extended built (comprises.compatible.concat fit freshId freshName)⟩

end

/-- What comes of registering drafts in a registry that holds earlier ones: it holds all of them, or
it has refused one after it took those before that one. The number is the one that is free then. -/
inductive Registers (start : Numbering) (earlier drafts : List Draft)
    (outcome : Except TransformerError Registry × Nat) : Prop
  | taken {next} : outcome = (.ok next, start.serial + (earlier ++ drafts).length) →
      next.Comprises start (earlier ++ drafts) → Registers start earlier drafts outcome
  | stopped {early bad late error} {registry : Registry} : drafts = early ++ bad :: late →
      registry.Comprises start (earlier ++ early) →
      registry.register (start.serial + (earlier ++ early).length) bad = .error error →
      bad.Refused (earlier ++ early) error →
      outcome = (.error error, start.serial + (earlier ++ early).length + 1) →
      Registers start earlier drafts outcome

theorem Comprises.registers {start : Numbering} (drafts : List Draft) :
    ∀ {registry : Registry} {earlier : List Draft}, registry.Comprises start earlier →
      Registers start earlier drafts
        (registry.registerAll (start.serial + earlier.length) drafts) := by
  induction drafts with
  | nil =>
      intro registry earlier comprises
      have whole : registry.Comprises start (earlier ++ []) := by simpa using comprises
      exact .taken (by simp [registerAll]) whole
  | cons draft rest ih =>
      intro registry earlier comprises
      rcases comprises.register draft with ⟨error, refused, reason⟩ | ⟨ref, next, accepted, longer⟩
      · have outcome : registry.registerAll (start.serial + earlier.length) (draft :: rest) =
            (.error error, start.serial + (earlier ++ []).length + 1) := by
          simp [registerAll, refused]
        rw [← List.append_nil earlier] at comprises refused reason
        exact .stopped (List.nil_append _).symm comprises refused reason outcome
      · have step : registry.registerAll (start.serial + earlier.length) (draft :: rest) =
            next.registerAll (start.serial + (earlier ++ [draft]).length) rest := by
          simp [registerAll, accepted, Nat.add_assoc]
        rw [step]
        have shifted : ∀ more, earlier ++ [draft] ++ more = earlier ++ draft :: more := by simp
        cases ih longer with
        | taken outcome whole =>
            rw [shifted] at outcome whole
            exact .taken outcome whole
        | @stopped early bad late error registry divided held refused reason outcome =>
            rw [shifted] at held refused reason outcome
            exact .stopped (congrArg (draft :: ·) divided) held refused reason outcome

/-- A registry takes what it can hold together with the drafts that it holds, and nothing else. -/
theorem Registers.exists_ok_iff {start : Numbering} {earlier drafts : List Draft}
    {outcome : Except TransformerError Registry × Nat}
    (registers : Registers start earlier drafts outcome) :
    (∃ next, outcome.1 = .ok next) ↔ Draft.Compatible (earlier ++ drafts) := by
  cases registers with
  | taken same whole => simp [same, whole.compatible]
  | @stopped early bad late error registry divided _ _ reason same =>
      have incompatible := reason.not_compatible late
      rw [List.append_assoc, ← divided] at incompatible
      simp [same, incompatible]

theorem registerAll_append (first second : List Draft) : ∀ (registry : Registry) (serial : Nat),
    registry.registerAll serial (first ++ second) =
      match registry.registerAll serial first with
      | (.error error, free) => (.error error, free)
      | (.ok next, free) => next.registerAll free second := by
  induction first with
  | nil => exact fun _ _ => rfl
  | cons draft rest ih =>
      intro registry serial
      simp only [List.cons_append, registerAll]
      split
      · rfl
      · exact ih _ _

end Registry

end ArtifactTools
