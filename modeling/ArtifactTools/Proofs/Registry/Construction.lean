import ArtifactTools.Proofs.Registry.Drafts
import ArtifactTools.Proofs.Registry.Serials

/-! How transformers come about. A draft is refused for the first of the checks that it fails, and
becomes a transformer if it fails none. Whatever a registry hands out has become so. -/

namespace ArtifactTools

namespace Identity

inductive Complaint (id : String) : String → Prop
  | empty : id = "" → Complaint id "id must not be empty"
  | foreign {character} : character ∈ id.toList → character ∉ alphabet →
      Complaint id "id must only contain lowercase letters, digits, '-', '.', or '_'"

theorem Complaint.unique {id first second : String} (one : Complaint id first)
    (other : Complaint id second) : first = second := by
  cases one with
  | empty none =>
      cases other with
      | empty _ => rfl
      | foreign member _ => simp [none] at member
  | foreign member _ =>
      cases other with
      | empty none => simp [none] at member
      | foreign _ _ => rfl

theorem Complaint.not_isLegal {id reason : String} (complaint : Complaint id reason) :
    ¬ IsLegal id := by
  rintro ⟨written, within⟩
  cases complaint with
  | empty none => exact written none
  | foreign member foreign => exact foreign (within _ member)

theorem complaint_of_checkId {id : String} {error : TransformerError}
    (refused : checkId id = .error error) :
    ∃ reason, Complaint id reason ∧ error = .invalidIdentifier id reason := by
  unfold checkId at refused
  split at refused
  · next blank =>
      exact ⟨_, .empty (by simpa using blank), (Except.error.inj refused).symm⟩
  · split at refused
    · cases refused
    · next stray =>
        rw [Bool.not_eq_true, List.all_eq_false] at stray
        obtain ⟨character, member, foreign⟩ := stray
        rw [isIdCharacter_iff] at foreign
        exact ⟨_, .foreign member foreign, (Except.error.inj refused).symm⟩

theorem checkId_eq_error_iff (id : String) (error : TransformerError) :
    checkId id = .error error ↔
      ∃ reason, Complaint id reason ∧ error = .invalidIdentifier id reason := by
  refine ⟨complaint_of_checkId, ?_⟩
  rintro ⟨reason, complaint, rfl⟩
  cases checked : checkId id with
  | ok => exact absurd ((checkId_eq_ok_iff id).mp checked) complaint.not_isLegal
  | error error =>
      obtain ⟨other, also, rfl⟩ := complaint_of_checkId checked
      rw [complaint.unique also]

theorem checkName_eq_error_iff (name : String) (error : TransformerError) :
    checkName name = .error error ↔
      name = "" ∧ error = .invalidIdentifier name "name must not be empty" := by
  rcases eq_or_ne name "" with rfl | named
  · constructor
    · intro refused
      exact ⟨rfl, (Except.error.inj refused).symm⟩
    · rintro ⟨-, rfl⟩
      rfl
  · rw [(checkName_eq_ok_iff name).mpr named]
    simp [named]

end Identity

namespace Settings.Descriptor

inductive Defect (descriptor : Descriptor) : String → Prop
  | unnamed : descriptor.key = "" → Defect descriptor "setting key must not be empty"
  | optionless : descriptor.key ≠ "" → descriptor.kind = .choice [] →
      Defect descriptor "choice setting must declare at least one option"
  | mismatched : descriptor.key ≠ "" → descriptor.kind ≠ .choice [] →
      descriptor.kind.accepts descriptor.default = false →
      Defect descriptor ("default " ++ descriptor.default.describe ++
        " does not match declared kind " ++ descriptor.kind.display)

variable {descriptor : Descriptor}

theorem Defect.unique {first second : String} (one : descriptor.Defect first)
    (other : descriptor.Defect second) : first = second := by
  cases one with
  | unnamed none =>
      cases other with
      | unnamed _ => rfl
      | optionless named _ => exact absurd none named
      | mismatched named _ _ => exact absurd none named
  | optionless named optionless =>
      cases other with
      | unnamed none => exact absurd none named
      | optionless _ _ => rfl
      | mismatched _ optional _ => exact absurd optionless optional
  | mismatched named optional _ =>
      cases other with
      | unnamed none => exact absurd none named
      | optionless _ optionless => exact absurd optionless optional
      | mismatched _ _ _ => rfl

theorem Defect.isDefective {reason : String} (defect : descriptor.Defect reason) :
    descriptor.IsDefective := by
  cases defect with
  | unnamed none => exact .inl none
  | optionless _ optionless => exact .inr (.inl optionless)
  | mismatched _ _ rejected => exact .inr (.inr rejected)

theorem defect_of_validate {error : TransformerError}
    (refused : descriptor.validate = .error error) :
    ∃ reason, descriptor.Defect reason ∧
      error = .unsupportedConfiguration descriptor.key reason := by
  unfold validate at refused
  split at refused
  · next keyless =>
      exact ⟨_, .unnamed (by simpa using keyless), (Except.error.inj refused).symm⟩
  · next named =>
      have named : descriptor.key ≠ "" := by simpa using named
      split at refused
      · next optionless =>
          exact ⟨_, .optionless named optionless, (Except.error.inj refused).symm⟩
      · next optional =>
          split at refused
          · cases refused
          · next rejected =>
              have rejected := Bool.eq_false_iff.mpr rejected
              exact ⟨_, .mismatched named optional rejected, (Except.error.inj refused).symm⟩

theorem validate_eq_error_iff (descriptor : Descriptor) (error : TransformerError) :
    descriptor.validate = .error error ↔ ∃ reason, descriptor.Defect reason ∧
      error = .unsupportedConfiguration descriptor.key reason := by
  refine ⟨defect_of_validate, ?_⟩
  rintro ⟨reason, defect, rfl⟩
  cases checked : descriptor.validate with
  | ok => exact absurd checked (descriptor.isDefective_iff.mp defect.isDefective)
  | error error =>
      obtain ⟨other, also, rfl⟩ := defect_of_validate checked
      rw [defect.unique also]

end Settings.Descriptor

namespace Draft

/-- The first fault of a draft, with the error for it. -/
inductive Fault (draft : Draft) : TransformerError → Prop
  | id {reason} : Identity.Complaint draft.id reason →
      Fault draft (.invalidIdentifier draft.id reason)
  | name : Identity.IsLegal draft.id → draft.name = "" →
      Fault draft (.invalidIdentifier draft.name "name must not be empty")
  | declaration {before bad after reason} : Identity.IsLegal draft.id → draft.name ≠ "" →
      draft.descriptors = before ++ bad :: after → (∀ earlier ∈ before, ¬ earlier.IsDefective) →
      bad.Defect reason → Fault draft (.unsupportedConfiguration bad.key reason)

theorem fault_of_build {draft : Draft} {serial : Nat} {error : TransformerError}
    (refused : draft.build serial = .error error) : draft.Fault error := by
  unfold build at refused
  cases checkedId : Identity.checkId draft.id with
  | error fault =>
      rw [checkedId] at refused
      obtain rfl := Except.error.inj refused
      obtain ⟨reason, complaint, rfl⟩ := Identity.complaint_of_checkId checkedId
      exact .id complaint
  | ok =>
      have legal := (Identity.checkId_eq_ok_iff draft.id).mp checkedId
      rw [checkedId] at refused
      cases checkedName : Identity.checkName draft.name with
      | error fault =>
          rw [checkedName] at refused
          obtain rfl := Except.error.inj refused
          obtain ⟨nameless, rfl⟩ := (Identity.checkName_eq_error_iff _ _).mp checkedName
          exact .name legal nameless
      | ok =>
          have named := (Identity.checkName_eq_ok_iff draft.name).mp checkedName
          rw [checkedName] at refused
          cases made : Settings.Store.ofDescriptors draft.descriptors with
          | ok store =>
              rw [made] at refused
              cases refused
          | error fault =>
              rw [made] at refused
              obtain rfl := Except.error.inj refused
              obtain ⟨before, bad, after, divided, valid, invalid⟩ :=
                (Settings.Store.registerAll_eq_error_iff _ _ _).mp made
              obtain ⟨reason, defect, rfl⟩ := Settings.Descriptor.defect_of_validate invalid
              refine .declaration legal named divided ?_ defect
              intro earlier member
              simpa [Settings.Descriptor.isDefective_iff] using valid earlier member

theorem Fault.build {draft : Draft} {error : TransformerError} (fault : draft.Fault error)
    (serial : Nat) : draft.build serial = .error error := by
  cases fault with
  | id complaint =>
      have refused := (Identity.checkId_eq_error_iff _ _).mpr ⟨_, complaint, rfl⟩
      simp [Draft.build, refused]
  | name legal nameless =>
      have passed := (Identity.checkId_eq_ok_iff draft.id).mpr legal
      have refused := (Identity.checkName_eq_error_iff draft.name _).mpr ⟨nameless, rfl⟩
      simp [Draft.build, passed, refused]
  | @declaration before bad after reason legal named divided sound defect =>
      have passedId := (Identity.checkId_eq_ok_iff draft.id).mpr legal
      have passedName := (Identity.checkName_eq_ok_iff draft.name).mpr named
      have valid : ∀ earlier ∈ before, earlier.validate = .ok () := by
        simpa [Settings.Descriptor.isDefective_iff] using sound
      have invalid := (bad.validate_eq_error_iff _).mpr ⟨reason, defect, rfl⟩
      have refused := (Settings.Store.registerAll_eq_error_iff draft.descriptors _ .empty).mpr
        ⟨before, bad, after, divided, valid, invalid⟩
      simp [Draft.build, passedId, passedName, Settings.Store.ofDescriptors, refused]

structure Decided (draft : Draft) (answer : Except TransformerError Transformer) : Prop where
  made : (∃ transformer, answer = .ok transformer) ↔ draft.IsFit
  kept : ∀ transformer, answer = .ok transformer → transformer.id = draft.id ∧
    transformer.name = draft.name ∧ transformer.type = draft.type ∧
      Settings.Store.ofDescriptors draft.descriptors = .ok transformer.store
  refused : ∀ error, answer = .error error ↔ draft.Fault error

theorem decided_build (draft : Draft) (serial : Nat) : draft.Decided (draft.build serial) := by
  refine ⟨draft.exists_build_iff serial, ?_, fun error => ⟨fault_of_build, (·.build serial)⟩⟩
  intro transformer built
  obtain ⟨-, -, store, declared, rfl⟩ := (build_eq_ok_iff draft serial transformer).mp built
  exact ⟨rfl, rfl, rfl, declared⟩

end Draft

namespace Registry

/-! Where the entries of a registry come from. -/

def Stems (requests : List Request) (transformer : Transformer) : Prop :=
  ∃ serial draft built, Request.register serial draft ∈ requests ∧
    draft.build serial = .ok built ∧ transformer.bare = built.bare

theorem Stems.of_subset {requests more : List Request} {transformer : Transformer}
    (stems : Stems requests transformer) (within : requests ⊆ more) : Stems more transformer := by
  obtain ⟨serial, draft, built, requested, made, same⟩ := stems
  exact ⟨serial, draft, built, within requested, made, same⟩

theorem Stems.of_bare_eq {requests : List Request} {transformer other : Transformer}
    (stems : Stems requests other) (same : transformer.bare = other.bare) :
    Stems requests transformer := by
  obtain ⟨serial, draft, built, requested, made, bare⟩ := stems
  exact ⟨serial, draft, built, requested, made, same.trans bare⟩

theorem exists_mem_of_bare_eq {registry next : Registry} (same : next.bare = registry.bare)
    {transformer : Transformer} (member : transformer ∈ next.entries) :
    ∃ old ∈ registry.entries, transformer.bare = old.bare := by
  have bares : next.entries.map Transformer.bare = registry.entries.map Transformer.bare :=
    congrArg (·.entries) same
  have there : transformer.bare ∈ registry.entries.map Transformer.bare :=
    bares ▸ List.mem_map_of_mem member
  obtain ⟨old, entry, bare⟩ := List.mem_map.mp there
  exact ⟨old, entry, bare.symm⟩

theorem stems_of_mem_serve {registry : Registry} {request : Request} {transformer : Transformer}
    (member : transformer ∈ (registry.serve request).2.entries) :
    (∃ old ∈ registry.entries, transformer.bare = old.bare) ∨ Stems [request] transformer := by
  cases request with
  | register serial draft =>
      simp only [serve] at member
      cases registered : registry.register serial draft with
      | error error =>
          rw [registered] at member
          exact .inl ⟨transformer, member, rfl⟩
      | ok result =>
          obtain ⟨ref, next⟩ := result
          rw [registered] at member
          obtain ⟨built, made, inserted⟩ := register_eq_ok registered
          obtain ⟨-, -, -, rfl⟩ := (insert_eq_ok_iff _ _ _ _).mp inserted
          rcases List.mem_append.mp member with old | new
          · exact .inl ⟨transformer, old, rfl⟩
          · obtain rfl := List.mem_singleton.mp new
            exact .inr ⟨serial, draft, _, List.mem_singleton_self _, made, rfl⟩
  | settings index call =>
      exact .inl (exists_mem_of_bare_eq (bare_stepSettings _ index call) member)
  | importSettings persisted =>
      exact .inl (exists_mem_of_bare_eq (bare_importSettings persisted _) member)
  | findById id => exact .inl ⟨transformer, member, rfl⟩
  | findByName name => exact .inl ⟨transformer, member, rfl⟩
  | follow handle => exact .inl ⟨transformer, member, rfl⟩
  | select accepts => exact .inl ⟨transformer, member, rfl⟩

theorem stems_run (requests : List Request) : ∀ (registry : Registry) (transformer : Transformer),
    transformer ∈ (registry.run requests).entries →
      (∃ old ∈ registry.entries, transformer.bare = old.bare) ∨ Stems requests transformer := by
  induction requests with
  | nil => exact fun _ transformer member => .inl ⟨transformer, member, rfl⟩
  | cons request rest ih =>
      intro registry transformer member
      rcases ih (registry.serve request).2 transformer member with ⟨old, entry, same⟩ | later
      · rcases stems_of_mem_serve entry with ⟨older, there, also⟩ | now
        · exact .inl ⟨older, there, same.trans also⟩
        · exact .inr ((now.of_bare_eq same).of_subset (by simp))
      · exact .inr (later.of_subset (List.subset_cons_self request rest))

theorem stems_run_empty {number : UInt32} {requests : List Request} {transformer : Transformer}
    (member : transformer ∈ ((empty number).run requests).entries) :
    Stems requests transformer := by
  rcases stems_run requests (empty number) transformer member with ⟨old, entry, -⟩ | stems
  · exact absurd entry List.not_mem_nil
  · exact stems

end Registry

structure Transformer.IsChecked (transformer : Transformer) : Prop where
  legal : Identity.IsLegal transformer.id
  named : transformer.name ≠ ""
  declarations : ∀ descriptor ∈ transformer.store.descriptors, ¬ descriptor.IsDefective

theorem Registry.Sound.isChecked {registry : Registry} (sound : registry.Sound)
    {transformer : Transformer} (entry : transformer ∈ registry.entries) :
    transformer.IsChecked := by
  refine ⟨sound.legal _ (List.mem_map_of_mem entry), sound.named _ (List.mem_map_of_mem entry), ?_⟩
  intro descriptor member
  obtain ⟨setting, there, rfl⟩ := List.mem_map.mp member
  rw [Settings.Descriptor.isDefective_iff, ne_eq, not_not]
  exact (sound.settings transformer entry).valid setting there

namespace Registry

/-- A registry that is offered an unfit draft is none the richer. -/
theorem serve_of_not_isFit {draft : Draft} (unfit : ¬ draft.IsFit) (registry : Registry)
    (serial : Nat) : registry.serve (.register serial draft) = ([], registry) := by
  cases built : draft.build serial with
  | ok transformer => exact absurd ((draft.exists_build_iff serial).mp ⟨_, built⟩) unfit
  | error error => simp [serve, register, built]

/-- Every draft is decided by its id, its name and its declarations, checked in this order. One that
fails a check leaves no trace in a registry: whatever a registry has been asked, what it hands out
has passed all checks and was made from a fit draft that was registered there. -/
theorem transformers_checked :
    (∀ (draft : Draft) (serial : Nat), draft.Decided (draft.build serial)) ∧
    (∀ draft : Draft, ¬ draft.IsFit → ∀ (registry : Registry) (serial : Nat),
      registry.serve (.register serial draft) = ([], registry)) ∧
    ∀ (number : UInt32) (requests : List Request) (request : Request),
      ∀ ref ∈ (((empty number).run requests).serve request).1, ref.transformer.IsChecked ∧
        ∃ serial draft built, Request.register serial draft ∈ requests ++ [request] ∧
          draft.IsFit ∧ draft.build serial = .ok built ∧ ref.transformer.bare = built.bare := by
  refine ⟨Draft.decided_build, fun draft unfit => serve_of_not_isFit unfit, ?_⟩
  intro number requests request ref handed
  obtain ⟨index, transformer, holds, rfl⟩ := exists_holds_of_mem_serve handed
  have whole : (((empty number).run requests).serve request).2 =
      (empty number).run (requests ++ [request]) := by
    simp [run]
  rw [whole] at holds
  refine ⟨(sound_run_empty number _).isChecked holds.mem, ?_⟩
  obtain ⟨serial, draft, built, requested, made, same⟩ := stems_run_empty holds.mem
  have fits := (draft.exists_build_iff serial).mp ⟨built, made⟩
  exact ⟨serial, draft, built, requested, fits, made, same⟩

/-- A draft with which everything is wrong, offered to a registry that holds a fit one. -/
theorem transformers_checked_spoiled :
    let fit : Draft :=
      ⟨"hex", "Hex", .other, [], fun _ => true, fun _ _ services => (.unsupported, services)⟩
    let spoiled : Draft :=
      { fit with id := "hex\n", name := "", descriptors := [⟨"", "", .choice [], .bool true⟩] }
    let requests : List Request := [.register 0 fit, .register 1 spoiled]
    let handed := (((empty 0).run requests).serve (.select fun _ => true)).1
    spoiled.build 1 = .error (.invalidIdentifier "hex\n"
        "id must only contain lowercase letters, digits, '-', '.', or '_'") ∧
      ¬ spoiled.IsFit ∧ (empty 0).serve (.register 1 spoiled) = ([], empty 0) ∧
      handed.map (·.transformer.id) = ["hex"] ∧ ∀ ref ∈ handed, ref.transformer.IsChecked := by
  intro fit spoiled requests handed
  obtain ⟨decided, untouched, found⟩ := transformers_checked
  have foreign : Identity.Complaint spoiled.id
      "id must only contain lowercase letters, digits, '-', '.', or '_'" :=
    @Identity.Complaint.foreign "hex\n" '\n' (by decide) (by decide +kernel)
  have unfit : ¬ spoiled.IsFit := fun fits => foreign.not_isLegal fits.legal
  refine ⟨((decided spoiled 1).refused _).mpr (.id foreign), unfit, untouched spoiled unfit _ _,
    by decide +kernel, ?_⟩
  intro ref member
  exact (found 0 requests _ ref member).1

end Registry

end ArtifactTools
