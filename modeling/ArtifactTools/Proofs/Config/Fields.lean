import ArtifactTools.Config
import ArtifactTools.Proofs.Settings.Persistence

/-! A configuration's text is read as the configuration, field by field: what a field is written as
sets it again, and a field that is left out has its default. -/

namespace ArtifactTools.Config

def adopt (config source : Config) : Field → Config
  | .python3Location => { config with python3Location := source.python3Location }
  | .enjarifyDirectory => { config with enjarifyDirectory := source.enjarifyDirectory }
  | .dex2jarLocation => { config with dex2jarLocation := source.dex2jarLocation }
  | .runtimeLibrary => { config with runtimeLibrary := source.runtimeLibrary }
  | .extraClasspath => { config with extraClasspath := source.extraClasspath }
  | .timeoutSeconds => { config with timeoutSeconds := source.timeoutSeconds }
  | .discoversTools => { config with discoversTools := source.discoversTools }
  | .settings => { config with settings := source.settings }

def adoptAll (config source : Config) (fields : List Field) : Config :=
  fields.foldl (fun config field => config.adopt source field) config

theorem adoptAll_all (config source : Config) : config.adoptAll source Field.all = source := by
  simp [adoptAll, Field.all, adopt]

theorem adopt_comm (config first second : Config) {field other : Field}
    (different : field ≠ other) :
    (config.adopt first field).adopt second other =
      (config.adopt second other).adopt first field := by
  cases field <;> cases other <;> first | rfl | exact absurd rfl different

theorem Field.ofKey?_key (field : Field) : Field.ofKey? field.key = some field := by
  cases field <;> decide +kernel

/-- What a reader makes of the settings, around which two objects and the configuration are open. -/
def Legible (config : Config) : Prop := config.settings.Legible 124

theorem readText?_text (text : String) :
    readText? (Json.Value.string text).document = some (some text) := rfl

theorem readSeconds?_seconds (seconds : UInt64) :
    readSeconds? (Json.Value.number (.whole seconds.toNat)).document = some seconds := by
  have bound := seconds.toNat_lt
  have word : Json.IsWord seconds.toNat := by
    constructor
    · exact Int.le_trans (by decide) (Int.natCast_nonneg _)
    · exact Int.ofNat_lt.mpr bound
  have nonnegative : (0 : Int) ≤ seconds.toNat := Int.natCast_nonneg _
  simp only [Json.Value.document, Json.Number.numeral_whole, readSeconds?,
    Json.number?_wholeNumeral word, if_pos nonnegative]
  simp

theorem assign?_of_member? {source : Config} {field : Field} {member : String × Json.Value}
    (legible : source.Legible) (free : source.settings.DoubleFree) (config : Config)
    (written : source.member? field = some member) :
    member.1 = field.key ∧
      config.assign? member.2.document field = some (config.adopt source field) := by
  cases field
  case timeoutSeconds =>
    obtain rfl := Option.some.inj written
    refine ⟨rfl, ?_⟩
    rw [assign?, readSeconds?_seconds]
    rfl
  case discoversTools =>
    obtain rfl := Option.some.inj written
    exact ⟨rfl, rfl⟩
  case settings =>
    simp only [member?] at written
    split at written
    · cases written
    · obtain rfl := Option.some.inj written
      have read := Settings.Persisted.ofDocument?_toJson legible free
      refine ⟨rfl, ?_⟩
      rw [assign?, show fieldBudget = 124 + 2 from rfl, read]
      rfl
  all_goals
    obtain ⟨text, present, rfl⟩ := Option.map_eq_some_iff.mp written
    refine ⟨rfl, ?_⟩
    rw [assign?, readText?_text, Option.map_some, adopt, present]

theorem adopt_of_member?_eq_none {source : Config} {field : Field}
    (absent : source.member? field = none) (config : Config) :
    config.adopt source field = config.adopt default field := by
  cases field
  case timeoutSeconds => cases absent
  case discoversTools => cases absent
  case settings =>
    simp only [member?] at absent
    split at absent
    · next empty =>
        have nothing : source.settings = default.settings :=
          Dictionary.ext (List.isEmpty_iff.mp empty)
        rw [adopt, adopt, nothing]
    · cases absent
  all_goals rw [adopt, adopt, Option.map_eq_none_iff.mp absent, default]

theorem memberDocuments_filterMap_cons (source : Config) (field : Field) (rest : List Field) :
    Json.memberDocuments ((field :: rest).filterMap source.member?) =
      match source.member? field with
      | some member =>
          (some member.1, member.2.document) ::
            Json.memberDocuments (rest.filterMap source.member?)
      | none => Json.memberDocuments (rest.filterMap source.member?) := by
  rw [List.filterMap_cons]
  cases source.member? field <;> rfl

/-- Each field that has not been read yet is still at its default. -/
theorem readMembers?_fields {source : Config} (legible : source.Legible)
    (free : source.settings.DoubleFree) (fields : List Field) :
    ∀ (config : Config) (seen : List Field), fields.Nodup → (∀ field ∈ fields, field ∉ seen) →
      (∀ field ∈ fields, config.adopt default field = config) →
      config.readMembers? seen (Json.memberDocuments (fields.filterMap source.member?)) =
        some (config.adoptAll source fields) := by
  induction fields with
  | nil => exact fun _ _ _ _ _ => rfl
  | cons field rest ih =>
      intro config seen distinct unseen untouched
      obtain ⟨notLater, distinctRest⟩ := List.nodup_cons.mp distinct
      obtain ⟨new, newRest⟩ := List.forall_mem_cons.mp unseen
      obtain ⟨atDefault, restAtDefault⟩ := List.forall_mem_cons.mp untouched
      rw [memberDocuments_filterMap_cons]
      cases written : source.member? field with
      | none =>
          have skipped : config.adoptAll source (field :: rest) = config.adoptAll source rest := by
            rw [adoptAll, List.foldl_cons, adopt_of_member?_eq_none written, atDefault, adoptAll]
          rw [skipped]
          exact ih config seen distinctRest newRest restAtDefault
      | some member =>
          obtain ⟨key, assigned⟩ := assign?_of_member? legible free config written
          simp only [readMembers?, key, Field.ofKey?_key, if_neg new, assigned]
          refine ih (config.adopt source field) (field :: seen) distinctRest ?_ ?_
          · intro other later repeated
            rcases List.mem_cons.mp repeated with rfl | old
            · exact notLater later
            · exact newRest other later old
          · intro other later
            have different : field ≠ other := by
              rintro rfl
              exact notLater later
            rw [adopt_comm config source default different, restAtDefault other later]

theorem doubleFree_toJson {config : Config} (free : config.settings.DoubleFree) :
    config.toJson.DoubleFree := by
  refine .object ?_
  intro member kept
  obtain ⟨field, -, written⟩ := List.mem_filterMap.mp kept
  cases field
  case timeoutSeconds =>
    obtain rfl := Option.some.inj written
    exact .whole _
  case discoversTools =>
    obtain rfl := Option.some.inj written
    exact .bool _
  case settings =>
    simp only [member?] at written
    split at written
    · cases written
    · obtain rfl := Option.some.inj written
      exact free.toJson
  all_goals
    obtain ⟨text, -, rfl⟩ := Option.map_eq_some_iff.mp written
    exact .string text

theorem parse?_text {config : Config} (legible : config.Legible)
    (free : config.settings.DoubleFree) : parse? config.text = some config := by
  have untouched : ∀ field ∈ Field.all, default.adopt default field = default := by
    intro field _
    cases field <;> rfl
  have read := readMembers?_fields legible free Field.all default [] (by decide)
    (by simp) untouched
  rw [adoptAll_all] at read
  rw [parse?, text, (doubleFree_toJson free).read?_prettyText, Option.bind_some, toJson,
    Json.Value.document, ofDocument?, read]

end ArtifactTools.Config
