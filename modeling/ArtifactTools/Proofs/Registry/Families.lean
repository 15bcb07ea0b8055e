import ArtifactTools.Proofs.Registry.Builtin
import ArtifactTools.Proofs.Registry.Drafts
import ArtifactTools.Proofs.Registry.Importing

/-! Families that build a registry. They register as if their drafts stood in one list, so a draft
can be refused for one of another family, and no family begins after that. Persisted settings come
last: they reach every family, and have no say in whether a registry is built. -/

namespace ArtifactTools

namespace Builder

def drafts (builder : Builder) (environment : Environment) : List Draft :=
  builder.families.flatMap (·.drafts environment)

theorem registerFamilies_flatMap (environment : Environment) (families : List Family) :
    ∀ (registry : Registry) (serial started : Nat),
      let outcome := registerFamilies environment registry serial started families
      (outcome.1, outcome.2.1) =
        registry.registerAll serial (families.flatMap (·.drafts environment)) := by
  induction families with
  | nil => exact fun _ _ _ => rfl
  | cons family rest ih =>
      intro registry serial started
      simp only [registerFamilies, List.flatMap_cons, Registry.registerAll_append]
      rcases registry.registerAll serial (family.drafts environment) with ⟨error | next, free⟩
      · rfl
      · exact ih next free (started + 1)

/-- What comes of families that register in a registry with earlier drafts: all their drafts are
taken, or one is refused, within a family that is the last to begin. -/
inductive Registers (environment : Environment) (start : Numbering) (earlier : List Draft)
    (started : Nat) (families : List Family)
    (outcome : Except TransformerError Registry × Nat × Nat) : Prop
  | taken {next held} : held = earlier ++ families.flatMap (·.drafts environment) →
      outcome = (.ok next, start.serial + held.length, started + families.length) →
      next.Comprises start held → Registers environment start earlier started families outcome
  | stopped {before family after early bad late held error} {registry : Registry} :
      families = before ++ family :: after → family.drafts environment = early ++ bad :: late →
      held = earlier ++ before.flatMap (·.drafts environment) ++ early →
      registry.Comprises start held →
      registry.register (start.serial + held.length) bad = .error error → bad.Refused held error →
      outcome = (.error error, start.serial + held.length + 1, started + before.length + 1) →
      Registers environment start earlier started families outcome

theorem registers (environment : Environment) {start : Numbering} (families : List Family) :
    ∀ {registry : Registry} {earlier : List Draft} (started : Nat),
      registry.Comprises start earlier → Registers environment start earlier started families
        (registerFamilies environment registry (start.serial + earlier.length) started
          families) := by
  induction families with
  | nil =>
      intro registry earlier started comprises
      exact .taken (by simp) rfl comprises
  | cons family rest ih =>
      intro registry earlier started comprises
      cases comprises.registers (family.drafts environment) with
      | @taken next outcome longer =>
          have step : registerFamilies environment registry (start.serial + earlier.length) started
              (family :: rest) = registerFamilies environment next
                (start.serial + (earlier ++ family.drafts environment).length) (started + 1)
                rest := by
            rw [registerFamilies, outcome]
          rw [step]
          cases ih (started + 1) longer with
          | taken held outcome whole =>
              refine .taken ?_ (outcome.trans ?_) whole
              · rw [held, List.flatMap_cons, List.append_assoc]
              · rw [List.length_cons, Nat.add_assoc started, Nat.add_comm 1]
          | @stopped before last after early bad late held error registry divided within held' there
              refused reason outcome =>
              have longer : family :: rest = (family :: before) ++ last :: after :=
                congrArg (family :: ·) divided
              refine .stopped longer within ?_ there refused reason (outcome.trans ?_)
              · rw [held', List.flatMap_cons, ← List.append_assoc earlier]
              · rw [List.length_cons, Nat.add_assoc started, Nat.add_comm 1]
      | @stopped early bad late error taken divided held refused reason outcome =>
          refine .stopped (List.nil_append (family :: rest)).symm divided ?_ held refused reason ?_
          · simp
          · simp [registerFamilies, outcome]

end Builder

/-! What stands in a registry that was built. -/

def Transformer.IsMadeFrom (transformer : Transformer) (draft : Draft) (serial : Nat) : Prop :=
  ∃ made, draft.build serial = .ok made ∧ transformer.bare = made.bare ∧
    transformer.store.descriptors = made.store.descriptors

def Draft.descriptor? (draft : Draft) (key : String) : Option Settings.Descriptor :=
  draft.descriptors.reverse.find? fun descriptor => descriptor.key == key

def Settings.Descriptor.restored (descriptor : Settings.Descriptor)
    (persisted : Option Json.Value) : Settings.Value :=
  ((persisted.bind Settings.Value.ofJson?).filter descriptor.kind.accepts).getD descriptor.default

theorem Draft.restored_of_made {draft : Draft} {store : Settings.Store}
    (made : Settings.Store.ofDescriptors draft.descriptors = .ok store) (key : String)
    (persisted : Option Json.Value) :
    (persisted.bind (store.taken? key)).or (store.get? key) =
      (draft.descriptor? key).map (·.restored persisted) := by
  have declared : store.descriptor? key = draft.descriptor? key :=
    (Settings.Store.records_empty.registerAll made).latest key
  have untouched : store.Untouched :=
    Settings.Store.Untouched.registerAll (fun _ member => absurd member List.not_mem_nil) made
  rw [← declared]
  cases found : store.descriptor? key with
  | none =>
      have absent : store.find? key = none := Option.map_eq_none_iff.mp found
      cases persisted <;>
        simp [Settings.Store.taken?, Settings.Store.kind?, Settings.Store.get?, found, absent]
  | some descriptor =>
      have initial := untouched.find? found
      have taken : store.taken? key = fun raw =>
          (Settings.Value.ofJson? raw).filter descriptor.kind.accepts := by
        funext raw
        simp [Settings.Store.taken?, Settings.Store.kind?, found]
      cases persisted with
      | none =>
          simp [Settings.Store.get?, initial, Settings.Entry.initial,
            Settings.Descriptor.restored]
      | some raw =>
          cases accepted : (Settings.Value.ofJson? raw).filter descriptor.kind.accepts <;>
            simp [taken, accepted, Settings.Store.get?, initial, Settings.Entry.initial,
              Settings.Descriptor.restored]

namespace Registry

theorem getElem?_selectFrom (registry : Registry) (entries : List Transformer) :
    ∀ start index : Nat, (registry.selectFrom (fun _ => true) start entries)[index]? =
      entries[index]?.map (registry.refOf (start + index)) := by
  induction entries with
  | nil => exact fun _ _ => rfl
  | cons first rest ih =>
      intro start index
      cases index with
      | zero => rfl
      | succ index =>
          have place : start + 1 + index = start + (index + 1) := by omega
          have later := ih (start + 1) index
          rw [place] at later
          simpa [selectFrom] using later

theorem getElem?_all (registry : Registry) (index : Nat) :
    registry.all[index]? = registry.refAt? index := by
  have same := getElem?_selectFrom registry registry.entries 0 index
  rwa [Nat.zero_add] at same

theorem length_all (registry : Registry) : registry.all.length = registry.size := by
  have transformers := congrArg List.length
    (map_transformer_selectFrom registry (fun _ => true) registry.entries 0)
  simpa [all, allMatching, size] using transformers

section

variable {registry : Registry} {start : Numbering} {drafts : List Draft}
  (comprises : registry.Comprises start drafts) (sound : registry.Sound)
  (persisted : Settings.Persisted)

include comprises sound

theorem Comprises.all_imported {index : Nat} {draft : Draft} (there : drafts[index]? = some draft) :
    ∃ ref, (registry.importSettings persisted).1.all[index]? = some ref ∧
      ref.handle = ⟨start.registry, UInt32.ofNat index⟩ ∧
      ref.transformer.IsMadeFrom draft (start.serial + index) := by
  obtain ⟨made, holds, built⟩ := comprises.built index draft there
  have imported := sound.imported persisted
  generalize (registry.importSettings persisted).1 = next at imported ⊢
  have entry : registry.entries[index]? = some made := holds
  have bare : next.entries[index]?.map Transformer.bare = some made.bare := by
    rw [← List.getElem?_map, show next.entries.map Transformer.bare =
      registry.entries.map Transformer.bare from congrArg (·.entries) imported.bare,
      List.getElem?_map, entry, Option.map_some]
  obtain ⟨transformer, present, same⟩ := Option.map_eq_some_iff.mp bare
  have declarations := congrArg (·[index]?) imported.declarations
  simp only [List.getElem?_map, entry, present, Option.map_some, Option.some.injEq] at declarations
  refine ⟨next.refOf index transformer, ?_, ?_, made, built, same, declarations⟩
  · rw [getElem?_all, refAt?, present, Option.map_some]
  · have number : next.number = registry.number := congrArg (·.number) imported.bare
    simp [refOf, number, comprises.number]

theorem Comprises.valueOf?_imported {draft : Draft} (member : draft ∈ drafts) (key : String) :
    (registry.importSettings persisted).1.valueOf? draft.id key =
      (draft.descriptor? key).map (·.restored (persisted.value? draft.id key)) := by
  obtain ⟨index, there⟩ := List.mem_iff_getElem?.mp member
  obtain ⟨made, holds, built⟩ := comprises.built index draft there
  obtain ⟨-, -, store, declared, rfl⟩ := (Draft.build_eq_ok_iff _ _ _).mp built
  have settings : registry.settingsOf? draft.id = some store :=
    sound.toIndexed.settingsOf?_of_holds holds
  rw [sound.valueOf?_imported, settings, Option.bind_some,
    Draft.restored_of_made declared]

end

end Registry

/-! What has no say in whether a registry is built. -/

def Draft.outline (draft : Draft) : Draft :=
  { draft with
    type := .other
    accepts := fun _ => true
    behaviour := fun _ _ services => (.unsupported, services) }

def Transformer.outline (transformer : Transformer) : Transformer :=
  { transformer with
    type := .other
    accepts := fun _ => true
    behaviour := fun _ _ services => (.unsupported, services) }

theorem Draft.build_outline (draft : Draft) (serial : Nat) :
    draft.outline.build serial = (draft.build serial).map Transformer.outline := by
  simp only [build, outline]
  cases Identity.checkId draft.id with
  | error error => rfl
  | ok =>
      cases Identity.checkName draft.name with
      | error error => rfl
      | ok => cases Settings.Store.ofDescriptors draft.descriptors <;> rfl

namespace Registry

def outline (registry : Registry) : Registry :=
  { registry with entries := registry.entries.map Transformer.outline }

theorem insert_outline (registry : Registry) (transformer : Transformer) :
    (registry.outline.insert transformer.outline).map Prod.snd =
      (registry.insert transformer).map fun result => result.2.outline := by
  have sameId : registry.outline.containsId transformer.outline.id =
      registry.containsId transformer.id := rfl
  have sameName : registry.outline.containsName transformer.outline.name =
      registry.containsName transformer.name := rfl
  simp only [insert, sameId, sameName]
  cases registry.containsId transformer.id with
  | true => rfl
  | false =>
      cases registry.containsName transformer.name with
      | true => rfl
      | false => simp [Except.map, outline, Transformer.outline]

theorem register_outline (registry : Registry) (serial : Nat) (draft : Draft) :
    (registry.outline.register serial draft.outline).map Prod.snd =
      (registry.register serial draft).map fun result => result.2.outline := by
  simp only [register, Draft.build_outline]
  cases draft.build serial with
  | error error => rfl
  | ok transformer => exact insert_outline registry transformer

theorem registerAll_outline (drafts : List Draft) : ∀ (registry : Registry) (serial : Nat),
    registry.outline.registerAll serial (drafts.map Draft.outline) =
      ((registry.registerAll serial drafts).1.map outline,
        (registry.registerAll serial drafts).2) := by
  induction drafts with
  | nil => exact fun _ _ => rfl
  | cons draft rest ih =>
      intro registry serial
      have step := register_outline registry serial draft
      simp only [List.map_cons, registerAll]
      cases registered : registry.register serial draft with
      | error error =>
          cases outlined : registry.outline.register serial draft.outline with
          | error fault =>
              simp only [registered, outlined, Except.map, Except.error.injEq] at step
              simp [step, Except.map]
          | ok result => simp [registered, outlined, Except.map] at step
      | ok result =>
          cases outlined : registry.outline.register serial draft.outline with
          | error fault => simp [registered, outlined, Except.map] at step
          | ok other =>
              simp only [registered, outlined, Except.map, Except.ok.injEq] at step
              simp only [step]
              exact ih result.2 (serial + 1)

end Registry

def Family.SameOutlines (family : Family) (first second : Environment) : Prop :=
  (family.drafts first).map Draft.outline = (family.drafts second).map Draft.outline

theorem Family.sameOutlines_builtin (first second : Environment) :
    ∀ family ∈ Builder.builtin.families, family.SameOutlines first second := by
  intro family member
  simp only [Builder.builtin, List.mem_cons, List.not_mem_nil, or_false] at member
  rcases member with rfl | rfl
  · rfl
  · rfl

namespace Builder

theorem registerFamilies_congr {first second : Environment} (families : List Family) :
    (∀ family ∈ families, family.SameOutlines first second) →
      ∀ {one other : Registry} (serial started : Nat), one.outline = other.outline →
        let here := registerFamilies first one serial started families
        let there := registerFamilies second other serial started families
        here.1.map Registry.outline = there.1.map Registry.outline ∧ here.2 = there.2 := by
  induction families with
  | nil => exact fun _ _ _ _ _ same => ⟨congrArg Except.ok same, rfl⟩
  | cons family rest ih =>
      intro alike one other serial started same
      obtain ⟨familyAlike, restAlike⟩ := List.forall_mem_cons.mp alike
      have outcomes := (Registry.registerAll_outline (family.drafts first) one serial).symm
      rw [familyAlike, same, Registry.registerAll_outline, Prod.mk.injEq] at outcomes
      simp only [registerFamilies]
      generalize one.registerAll serial (family.drafts first) = here at outcomes ⊢
      generalize other.registerAll serial (family.drafts second) = there at outcomes ⊢
      rcases here with ⟨error | next, free⟩ <;> rcases there with ⟨fault | later, freeToo⟩
      · obtain ⟨⟨rfl⟩, rfl⟩ := outcomes
        exact ⟨rfl, rfl⟩
      · cases outcomes.1
      · cases outcomes.1
      · obtain ⟨sameNext, rfl⟩ := outcomes
        exact ih restAlike free (started + 1) (Except.ok.inj sameNext)

structure BuildsInTurn (builder : Builder) (environment : Environment) (numbering : Numbering) :
    Prop where
  result : (builder.build environment numbering).result =
    ((Registry.empty numbering.registry).registerAll numbering.serial
      (builder.drafts environment)).1.map fun registry =>
        (registry.importSettings environment.config.settings).1
  succeeds : (∃ registry, (builder.build environment numbering).result = .ok registry) ↔
    ∃ registry, ((Registry.empty numbering.registry).registerAll numbering.serial
      (builder.drafts environment)).1 = .ok registry
  compatible : (∃ registry, (builder.build environment numbering).result = .ok registry) ↔
    Draft.Compatible (builder.drafts environment)
  complete : ∀ registry, (builder.build environment numbering).result = .ok registry →
    (builder.build environment numbering).familiesStarted = builder.families.length ∧
      registry.all.length = (builder.drafts environment).length
  all : ∀ registry, (builder.build environment numbering).result = .ok registry →
    ∀ index draft, (builder.drafts environment)[index]? = some draft →
      ∃ ref : Ref, registry.all[index]? = some ref ∧
        ref.handle = ⟨numbering.registry, UInt32.ofNat index⟩ ∧
        ref.transformer.IsMadeFrom draft (numbering.serial + index)
  settings : ∀ registry, (builder.build environment numbering).result = .ok registry →
    ∀ family ∈ builder.families, ∀ draft ∈ family.drafts environment, ∀ key,
      registry.valueOf? draft.id key = (draft.descriptor? key).map fun descriptor =>
        descriptor.restored (environment.config.settings.value? draft.id key)
  stopped : ∀ error, (builder.build environment numbering).result = .error error →
    ∃ before family after early bad late held, ∃ registry : Registry,
      builder.families = before ++ family :: after ∧
      family.drafts environment = early ++ bad :: late ∧
      held = before.flatMap (·.drafts environment) ++ early ∧
      registry.Comprises numbering held ∧
      registry.register (numbering.serial + held.length) bad = .error error ∧
      bad.Refused held error ∧
      (builder.build environment numbering).familiesStarted = before.length + 1 ∧
      (builder.build environment numbering).numbering.serial =
        numbering.serial + held.length + 1
  /-- Of the environment, what it does to outlines alone can make building fail. -/
  regardless : ∀ other : Environment,
    (∀ family ∈ builder.families, family ∉ builtin.families →
      family.SameOutlines other environment) →
    (∀ error, (builder.build other numbering).result = .error error ↔
      (builder.build environment numbering).result = .error error) ∧
    (builder.build other numbering).familiesStarted =
      (builder.build environment numbering).familiesStarted ∧
    (builder.build other numbering).numbering = (builder.build environment numbering).numbering

section

variable (builder : Builder) (environment : Environment) (numbering : Numbering)

theorem result_build : (builder.build environment numbering).result =
    ((Registry.empty numbering.registry).registerAll numbering.serial
      (builder.drafts environment)).1.map fun registry =>
        (registry.importSettings environment.config.settings).1 := by
  have flat := registerFamilies_flatMap environment builder.families
    (.empty numbering.registry) numbering.serial 0
  rw [drafts, ← flat]
  rfl

theorem exists_build_iff :
    (∃ registry, (builder.build environment numbering).result = .ok registry) ↔
      ∃ registry, ((Registry.empty numbering.registry).registerAll numbering.serial
        (builder.drafts environment)).1 = .ok registry := by
  rw [result_build]
  cases ((Registry.empty numbering.registry).registerAll numbering.serial
    (builder.drafts environment)).1 <;> simp [Except.map]

theorem registers_build : Registers environment numbering [] 0 builder.families
    (registerFamilies environment (.empty numbering.registry) numbering.serial 0
      builder.families) :=
  registers environment builder.families 0 (Registry.comprises_empty numbering)

theorem exists_fresh {registry : Registry}
    (built : (builder.build environment numbering).result = .ok registry) :
    (builder.build environment numbering).familiesStarted = builder.families.length ∧
      ∃ fresh : Registry, fresh.Sound ∧ fresh.Comprises numbering (builder.drafts environment) ∧
        registry = (fresh.importSettings environment.config.settings).1 := by
  simp only [build] at built ⊢
  cases registers_build builder environment numbering with
  | @taken fresh held same outcome comprises =>
      have sound := (Registry.sound_empty numbering.registry).registerFamilies
        (congrArg Prod.fst outcome)
      rw [List.nil_append] at same
      subst same
      simp only [outcome, Except.map, Except.ok.injEq] at built ⊢
      exact ⟨Nat.zero_add _, fresh, sound, comprises, built.symm⟩
  | stopped _ _ _ _ _ _ outcome => simp [outcome, Except.map] at built

/-- A family cannot tell from the persisted settings whether it is refused. -/
theorem build_congr {other : Environment} (alike : ∀ family ∈ builder.families,
    family ∉ builtin.families → family.SameOutlines other environment) :
    (∀ error, (builder.build other numbering).result = .error error ↔
      (builder.build environment numbering).result = .error error) ∧
    (builder.build other numbering).familiesStarted =
      (builder.build environment numbering).familiesStarted ∧
    (builder.build other numbering).numbering =
      (builder.build environment numbering).numbering := by
  have every : ∀ family ∈ builder.families, family.SameOutlines other environment := by
    intro family member
    by_cases known : family ∈ builtin.families
    · exact Family.sameOutlines_builtin other environment family known
    · exact alike family member known
  obtain ⟨results, rests⟩ := registerFamilies_congr builder.families every numbering.serial 0
    (rfl : (Registry.empty numbering.registry).outline = _)
  simp only [build]
  generalize registerFamilies other (.empty numbering.registry) numbering.serial 0
    builder.families = there at results rests ⊢
  generalize registerFamilies environment (.empty numbering.registry) numbering.serial 0
    builder.families = here at results rests ⊢
  obtain ⟨outcome, rest⟩ := there
  obtain ⟨outcome', rest'⟩ := here
  obtain rfl : rest = rest' := rests
  refine ⟨?_, rfl, rfl⟩
  cases outcome <;> cases outcome' <;> simp_all [Except.map]

end

/-- Whatever families there are, whatever they register and whatever settings were kept: a registry
is built if and only if it can hold all the drafts together. It holds them in their order then, with
the settings that they accept. Otherwise building ends at the first draft that is refused. -/
theorem buildsInTurn (builder : Builder) (environment : Environment) (numbering : Numbering) :
    builder.BuildsInTurn environment numbering := by
  constructor
  · exact result_build builder environment numbering
  · exact exists_build_iff builder environment numbering
  · rw [exists_build_iff]
    exact ((Registry.comprises_empty numbering).registers _).exists_ok_iff
  · intro registry built
    obtain ⟨started, fresh, -, comprises, rfl⟩ := exists_fresh builder environment numbering built
    refine ⟨started, ?_⟩
    rw [Registry.length_all, Registry.size_importSettings, comprises.size]
  · intro registry built index draft there
    obtain ⟨-, fresh, sound, comprises, rfl⟩ := exists_fresh builder environment numbering built
    exact comprises.all_imported sound _ there
  · intro registry built family member draft drafted key
    obtain ⟨-, fresh, sound, comprises, rfl⟩ := exists_fresh builder environment numbering built
    have listed : draft ∈ builder.drafts environment :=
      List.mem_flatMap.mpr ⟨family, member, drafted⟩
    exact comprises.valueOf?_imported sound _ listed key
  · intro error failed
    simp only [build] at failed ⊢
    cases registers_build builder environment numbering with
    | taken _ outcome _ => simp [outcome, Except.map] at failed
    | @stopped before family after early bad late held fault registry divided within same comprises
        refused reason outcome =>
        simp only [outcome, Except.map, Except.error.injEq] at failed ⊢
        subst failed
        rw [List.nil_append] at same
        exact ⟨before, family, after, early, bad, late, held, registry, divided, within, same,
          comprises, refused, reason, by rw [Nat.zero_add], rfl⟩
  · exact fun other alike => build_congr builder environment numbering alike

/-- Of four values that were kept two are restored, one in a built-in family and one in another. -/
theorem buildsInTurn_strip :
    let strip : Draft := ⟨"strip", "Strip", .other,
      [.bool "debug" "Debug" false, .integer "level" "Level" 3], fun _ => true,
      fun _ _ services => (.unsupported, services)⟩
    let settings : Settings.Persisted :=
      .ofList [("hex", .ofList [("bytes_per_row", .number (.whole 8)), ("size", .bool true)]),
        ("strip", .ofList [("debug", .bool true), ("level", .string "x")])]
    let environment : Environment := ⟨{ Config.default with settings },
      fun _ host _ => (.error .cancelled, host)⟩
    let builder : Builder := ⟨builtin.families ++ [⟨"strip", fun _ => [strip]⟩]⟩
    ∃ registry, (builder.build environment .first).result = .ok registry ∧
      registry.all.length = 7 ∧
      registry.valueOf? "hex" "bytes_per_row" = some (.integer 8) ∧
      registry.valueOf? "hex" "uppercase" = some (.bool false) ∧
      registry.valueOf? "strip" "debug" = some (.bool true) ∧
      registry.valueOf? "strip" "level" = some (.integer 3) := by
  intro strip settings environment builder
  have inTurn : builder.BuildsInTurn environment .first :=
    buildsInTurn builder environment .first
  obtain ⟨registry, built⟩ := inTurn.succeeds.mpr ⟨_, by cbv⟩
  have values := inTurn.settings registry built
  have hex := values .viewers (by simp [builder, builtin]) Viewer.hex
    (by simp [Family.viewers, Viewer.drafts])
  have stripped := values ⟨"strip", fun _ => [strip]⟩ (by simp [builder]) strip (by simp)
  refine ⟨registry, built, (inTurn.complete registry built).2, ?_⟩
  exact ⟨(hex _).trans (by decide +kernel), (hex _).trans (by decide +kernel),
    (stripped _).trans (by decide +kernel), (stripped _).trans (by decide +kernel)⟩

end Builder

end ArtifactTools
