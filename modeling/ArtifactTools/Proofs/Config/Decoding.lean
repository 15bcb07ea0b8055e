import ArtifactTools.Proofs.Config.Fields
import ArtifactTools.Proofs.Json.Nesting
import Mathlib.Data.List.Permutation

/-! What a configuration is read from. An object is accepted if no known field comes twice and each
has its type; every field then holds what its member gives, or its default, whatever the order of
the members and whatever else stands among them. -/

namespace ArtifactTools.Settings.Persisted

open Json

def IsWritten (persisted : Persisted) (document : Document) : Prop :=
  ∃ entries, document.Lists Document.IsMembers entries ∧ persisted.Gathers entries

theorem persistedEntries?_eq_some_iff {budget : Nat} {members : List (Option String × Document)}
    (within : memberDepth members ≤ budget) {entries : List (String × Members)} :
    persistedEntries? budget members = some entries ↔ Spell Document.IsMembers members entries := by
  refine spell_iff rfl ⟨persistedEntries?_cons, ?_⟩ fun member present value => ?_
  · rintro ⟨id, first, others, rfl, readFirst, readOthers, rfl⟩
    simp only [persistedEntries?, readFirst, readOthers]
  · exact members?_eq_some_iff (Nat.le_trans (depth_le_memberDepth present) within)

theorem ofDocument?_eq_some_iff {budget : Nat} {document : Document}
    (within : document.depth ≤ budget) {persisted : Persisted} :
    ofDocument? budget document = some persisted ↔ persisted.IsWritten document := by
  cases document with
  | object members =>
      obtain ⟨less, rfl⟩ := Nat.exists_eq_add_of_le' (Nat.le_trans (Nat.succ_pos _) within)
      have inside := Nat.le_of_succ_le_succ within
      simp [ofDocument?, IsWritten, Document.Lists, Dictionary.gathers_iff,
        persistedEntries?_eq_some_iff inside, @eq_comm _ persisted]
  | _ => simp [ofDocument?, IsWritten, Document.Lists]

end ArtifactTools.Settings.Persisted

namespace ArtifactTools.Config

/-! What the fields hold. -/

inductive Content where
  | text (value : Option String)
  | seconds (value : UInt64)
  | switch (value : Bool)
  | settings (value : Settings.Persisted)

def content (config : Config) : Field → Content
  | .python3Location => .text config.python3Location
  | .enjarifyDirectory => .text config.enjarifyDirectory
  | .dex2jarLocation => .text config.dex2jarLocation
  | .runtimeLibrary => .text config.runtimeLibrary
  | .extraClasspath => .text config.extraClasspath
  | .timeoutSeconds => .seconds config.timeoutSeconds
  | .discoversTools => .switch config.discoversTools
  | .settings => .settings config.settings

theorem eq_of_content {first second : Config}
    (same : ∀ field, first.content field = second.content field) : first = second := by
  have := same .python3Location
  have := same .enjarifyDirectory
  have := same .dex2jarLocation
  have := same .runtimeLibrary
  have := same .extraClasspath
  have := same .timeoutSeconds
  have := same .discoversTools
  have := same .settings
  cases first
  cases second
  simp_all [content]

theorem content_adopt_self (config source : Config) (field : Field) :
    (config.adopt source field).content field = source.content field := by
  cases field <;> rfl

theorem content_adopt_of_ne (config source : Config) {field other : Field}
    (different : other ≠ field) :
    (config.adopt source field).content other = config.content other := by
  cases field <;> cases other <;> first | rfl | exact absurd rfl different

def Content.IsWritten (document : Json.Document) : Content → Prop
  | .text none => document = .null
  | .text (some value) => document = .string (some value)
  | .seconds value =>
      ∃ digits, document = .number ⟨false, digits, [], none⟩ ∧ Decimal.value digits = value.toNat
  | .switch value => document = .bool value
  | .settings value => value.IsWritten document

def Field.Takes (document : Json.Document) : Field → Prop
  | .timeoutSeconds =>
      ∃ digits, document = .number ⟨false, digits, [], none⟩ ∧ Decimal.value digits < Nat.pow 2 64
  | .discoversTools => ∃ value, document = .bool value
  | .settings => ∃ entries, document.Lists Json.Document.IsMembers entries
  | _ => document = .null ∨ ∃ text, document = .string (some text)

theorem readText?_eq_some_iff {document : Json.Document} {value : Option String} :
    readText? document = some value ↔ (Content.text value).IsWritten document := by
  cases document with
  | string text => cases text <;> cases value <;> simp [readText?, Content.IsWritten]
  | _ => cases value <;> simp [readText?, Content.IsWritten]

theorem readSeconds?_eq_some_iff {document : Json.Document} {value : UInt64} :
    readSeconds? document = some value ↔ (Content.seconds value).IsWritten document := by
  cases document with
  | number numeral =>
      constructor
      · intro read
        simp only [readSeconds?] at read
        split at read
        · next whole written =>
            split at read
            · next nonnegative =>
                obtain ⟨size, rfl⟩ := Int.eq_ofNat_of_zero_le nonnegative
                obtain ⟨digits, rfl, same, bound⟩ := Json.number?_eq_whole_iff.mp written
                obtain rfl := Option.some.inj read
                exact ⟨digits, rfl, same.trans (UInt64.toNat_ofNat_of_lt' bound).symm⟩
            · cases read
        · cases read
      · rintro ⟨digits, plain, size⟩
        have written := Json.number?_eq_whole_iff.mpr
          ⟨digits, Json.Document.number.inj plain, size, value.toNat_lt⟩
        simp [readSeconds?, written]
  | _ => simp [readSeconds?, Content.IsWritten]

theorem readSwitch?_eq_some_iff {document : Json.Document} {value : Bool} :
    readSwitch? document = some value ↔ (Content.switch value).IsWritten document := by
  cases document <;> simp [readSwitch?, Content.IsWritten]

theorem readSettings?_eq_some_iff {document : Json.Document} (within : document.depth ≤ fieldBudget)
    {value : Settings.Persisted} :
    Settings.Persisted.ofDocument? fieldBudget document = some value ↔
      (Content.settings value).IsWritten document :=
  Settings.Persisted.ofDocument?_eq_some_iff within

theorem takes_text {document : Json.Document} {value : Option String}
    (written : (Content.text value).IsWritten document) :
    document = .null ∨ ∃ text, document = .string (some text) := by
  cases value with
  | none => exact Or.inl written
  | some text => exact Or.inr ⟨text, written⟩

theorem takes_iff {field : Field} {document : Json.Document} :
    field.Takes document ↔ ∃ source : Config, (source.content field).IsWritten document := by
  cases field
  case timeoutSeconds =>
    constructor
    · rintro ⟨digits, plain, bound⟩
      exact ⟨{ default with timeoutSeconds := UInt64.ofNat (Decimal.value digits) }, digits, plain,
        (UInt64.toNat_ofNat_of_lt' bound).symm⟩
    · rintro ⟨source, digits, plain, size⟩
      exact ⟨digits, plain, size ▸ source.timeoutSeconds.toNat_lt⟩
  case discoversTools =>
    constructor
    · rintro ⟨value, switch⟩
      exact ⟨{ default with discoversTools := value }, switch⟩
    · rintro ⟨source, switch⟩
      exact ⟨source.discoversTools, switch⟩
  case settings =>
    constructor
    · rintro ⟨entries, lists⟩
      exact ⟨{ default with settings := Dictionary.ofList entries }, entries, lists,
        Dictionary.gathers_iff.mpr rfl⟩
    · rintro ⟨source, entries, lists, -⟩
      exact ⟨entries, lists⟩
  all_goals
    constructor
    · rintro (absent | ⟨text, present⟩)
      · exact ⟨default, absent⟩
      · let filled := some text
        exact ⟨⟨filled, filled, filled, filled, filled, 0, true, .empty⟩, present⟩
    · rintro ⟨source, written⟩
      exact takes_text written

theorem assign?_eq_some_iff {document : Json.Document} (within : document.depth ≤ fieldBudget)
    {config next : Config} {field : Field} :
    config.assign? document field = some next ↔
      ∃ source : Config, (source.content field).IsWritten document ∧
        next = config.adopt source field := by
  cases field
  all_goals
    simp only [assign?, Option.map_eq_some_iff, readText?_eq_some_iff, readSeconds?_eq_some_iff,
      readSwitch?_eq_some_iff, readSettings?_eq_some_iff within]
    constructor
    · rintro ⟨value, written, made⟩
      refine ⟨next, ?_, ?_⟩ <;> subst made
      · exact written
      · rfl
    · rintro ⟨source, written, rfl⟩
      exact ⟨_, written, rfl⟩

/-! Objects. -/

theorem Field.key_of_ofKey? {key : String} {field : Field} (found : Field.ofKey? key = some field) :
    field.key = key := by
  simpa using List.find?_some found

theorem Field.key_ne_of_ofKey? {key : String} (unknown : Field.ofKey? key = none)
    (field : Field) : field.key ≠ key := by
  rintro rfl
  rw [Field.ofKey?_key] at unknown
  cases unknown

theorem Field.key_injective : Function.Injective Field.key := by
  intro field other same
  have found := Field.ofKey?_key other
  rw [← same, Field.ofKey?_key] at found
  exact Option.some.inj found

abbrev Pairs := List (String × Json.Document)

def Pairs.object (pairs : Pairs) : Json.Document :=
  .object (pairs.map fun pair => (some pair.1, pair.2))

def Pairs.Has (pairs : Pairs) (field : Field) : Prop := field.key ∈ pairs.map Prod.fst

def Pairs.OnceEach (pairs : Pairs) : Prop :=
  ∀ field : Field, (pairs.map Prod.fst).count field.key ≤ 1

structure Follows (config before : Config) (pairs : Pairs) : Prop where
  given : ∀ {field : Field} {document}, (field.key, document) ∈ pairs →
    (config.content field).IsWritten document
  kept : ∀ {field : Field}, ¬ pairs.Has field → config.content field = before.content field

structure Decodes (config before : Config) (seen : List Field) (pairs : Pairs) : Prop where
  once : pairs.OnceEach
  unseen : ∀ field ∈ seen, ¬ pairs.Has field
  follows : config.Follows before pairs

section

variable {config before : Config} {seen : List Field} {rest : Pairs} {document : Json.Document}

theorem decodes_nil : config.Decodes before seen [] ↔ config = before := by
  constructor
  · intro decodes
    exact eq_of_content fun field => decodes.follows.kept (by simp [Pairs.Has])
  · rintro rfl
    exact ⟨by simp [Pairs.OnceEach], by simp [Pairs.Has], ⟨by simp, by simp⟩⟩

theorem has_cons_unknown {key : String} (unknown : Field.ofKey? key = none) {field : Field} :
    Pairs.Has ((key, document) :: rest) field ↔ rest.Has field := by
  simp [Pairs.Has, Field.key_ne_of_ofKey? unknown]

theorem onceEach_cons_unknown {key : String} (unknown : Field.ofKey? key = none) :
    Pairs.OnceEach ((key, document) :: rest) ↔ rest.OnceEach := by
  simp [Pairs.OnceEach, (Field.key_ne_of_ofKey? unknown _).symm]

theorem decodes_cons_unknown {key : String} (unknown : Field.ofKey? key = none) :
    config.Decodes before seen ((key, document) :: rest) ↔ config.Decodes before seen rest := by
  have member {field : Field} {found} :
      (field.key, found) ∈ (key, document) :: rest ↔ (field.key, found) ∈ rest := by
    simp [Field.key_ne_of_ofKey? unknown]
  constructor
  · rintro ⟨once, unseen, given, kept⟩
    simp only [has_cons_unknown unknown, member] at unseen given kept
    exact ⟨(onceEach_cons_unknown unknown).mp once, unseen, given, kept⟩
  · rintro ⟨once, unseen, given, kept⟩
    refine ⟨(onceEach_cons_unknown unknown).mpr once, ?_, ?_, ?_⟩
    · exact fun field before has => unseen field before ((has_cons_unknown unknown).mp has)
    · exact fun found => given (member.mp found)
    · exact fun absent => kept fun has => absent ((has_cons_unknown unknown).mpr has)

theorem has_cons {field other : Field} :
    Pairs.Has ((field.key, document) :: rest) other ↔ other = field ∨ rest.Has other := by
  simp [Pairs.Has, Field.key_injective.eq_iff]

theorem onceEach_cons {field : Field} :
    Pairs.OnceEach ((field.key, document) :: rest) ↔ ¬ rest.Has field ∧ rest.OnceEach := by
  have counts (other : Field) : (field.key :: rest.map Prod.fst).count other.key =
      (rest.map Prod.fst).count other.key + if field = other then 1 else 0 := by
    simp [List.count_cons, Field.key_injective.eq_iff]
  unfold Pairs.OnceEach Pairs.Has
  rw [List.map_cons, ← List.count_eq_zero]
  simp only [counts]
  constructor
  · intro single
    refine ⟨?_, fun other => ?_⟩
    · have := single field
      simp only [if_true] at this
      omega
    · exact Nat.le_trans (Nat.le_add_right _ _) (single other)
  · rintro ⟨absent, single⟩ other
    split
    · next same => exact same ▸ (by omega)
    · exact single other

theorem decodes_cons_known {field : Field} (new : field ∉ seen) :
    config.Decodes before seen ((field.key, document) :: rest) ↔
      ∃ source : Config, (source.content field).IsWritten document ∧
        config.Decodes (before.adopt source field) (field :: seen) rest := by
  constructor
  · rintro ⟨single, unseen, given, kept⟩
    obtain ⟨last, singleRest⟩ := onceEach_cons.mp single
    refine ⟨config, given List.mem_cons_self, singleRest, ?_, ?_, ?_⟩
    · refine List.forall_mem_cons.mpr ⟨last, ?_⟩
      intro other before has
      exact unseen other before (has_cons.mpr (Or.inr has))
    · exact fun member => given (List.mem_cons_of_mem _ member)
    · intro other absent
      by_cases same : other = field
      · subst same
        rw [content_adopt_self]
      · rw [content_adopt_of_ne _ _ same]
        exact kept fun has => (has_cons.mp has).elim same absent
  · rintro ⟨source, written, singleRest, unseen, given, kept⟩
    obtain ⟨last, unseenBefore⟩ := List.forall_mem_cons.mp unseen
    refine ⟨onceEach_cons.mpr ⟨last, singleRest⟩, ?_, ?_, ?_⟩
    · intro other before has
      rcases has_cons.mp has with rfl | later
      · exact new before
      · exact unseenBefore other before later
    · intro other found member
      rcases List.mem_cons.mp member with first | later
      · obtain ⟨sameKey, rfl⟩ := Prod.mk.inj first
        obtain rfl := Field.key_injective sameKey
        rw [kept last, content_adopt_self]
        exact written
      · exact given later
    · intro other absent
      have different : other ≠ field := fun same => absent (has_cons.mpr (Or.inl same))
      rw [kept fun has => absent (has_cons.mpr (Or.inr has)), content_adopt_of_ne _ _ different]

end

theorem readMembers?_eq_some_iff {pairs : Pairs} {config : Config} : ∀ {before seen},
    (∀ {field : Field} {document}, (field.key, document) ∈ pairs → document.depth ≤ fieldBudget) →
    (before.readMembers? seen (pairs.map fun pair => (some pair.1, pair.2)) = some config ↔
      config.Decodes before seen pairs) := by
  -- What was read before and which fields have been seen stays general: a known member changes
  -- both, and one under an unknown key neither.
  induction pairs with
  | nil =>
      intro before seen _
      rw [decodes_nil, List.map_nil, readMembers?, Option.some_inj, eq_comm]
  | cons pair rest ih =>
      intro before seen within
      obtain ⟨key, document⟩ := pair
      have later : ∀ {field : Field} {found}, (field.key, found) ∈ rest →
          found.depth ≤ fieldBudget := fun member => within (List.mem_cons_of_mem _ member)
      rw [List.map_cons, readMembers?]
      cases found : Field.ofKey? key with
      | none => exact (ih later).trans (decodes_cons_unknown found).symm
      | some field =>
          obtain rfl := Field.key_of_ofKey? found
          have assigned := @assign?_eq_some_iff document (within List.mem_cons_self) before
          by_cases again : field ∈ seen
          · have twice : ¬ config.Decodes before seen ((field.key, document) :: rest) :=
              fun decodes => decodes.unseen field again (has_cons.mpr (Or.inl rfl))
            simp [again, twice]
          · simp only [if_neg again]
            rw [decodes_cons_known again]
            constructor
            · intro read
              split at read
              · cases read
              · next next set =>
                  obtain ⟨source, written, rfl⟩ := assigned.mp set
                  exact ⟨source, written, (ih later).mp read⟩
            · rintro ⟨source, written, decodes⟩
              rw [assigned.mpr ⟨source, written, rfl⟩]
              exact (ih later).mpr decodes

theorem exists_decodes {pairs : Pairs} : ∀ {before : Config} {seen : List Field},
    pairs.OnceEach → (∀ field ∈ seen, ¬ pairs.Has field) →
    (∀ {field : Field} {document}, (field.key, document) ∈ pairs → field.Takes document) →
      ∃ config : Config, config.Decodes before seen pairs := by
  -- Along the pairs as the reader goes, since the first known member says what is read from it.
  induction pairs with
  | nil => exact fun _ _ _ => ⟨_, decodes_nil.mpr rfl⟩
  | cons pair rest ih =>
      intro before seen once unseen typed
      obtain ⟨key, document⟩ := pair
      have later : ∀ {field : Field} {found}, (field.key, found) ∈ rest → field.Takes found :=
        fun member => typed (List.mem_cons_of_mem _ member)
      cases found : Field.ofKey? key with
      | none =>
          have unseenLater : ∀ field ∈ seen, ¬ Pairs.Has rest field :=
            fun field before has => unseen field before ((has_cons_unknown found).mpr has)
          obtain ⟨config, decodes⟩ := ih ((onceEach_cons_unknown found).mp once) unseenLater later
          exact ⟨config, (decodes_cons_unknown found).mpr decodes⟩
      | some field =>
          obtain rfl := Field.key_of_ofKey? found
          have new : field ∉ seen := fun again => unseen field again (has_cons.mpr (Or.inl rfl))
          obtain ⟨source, written⟩ := takes_iff.mp (typed List.mem_cons_self)
          obtain ⟨last, onceLater⟩ := onceEach_cons.mp once
          have unseenLater : ∀ other ∈ field :: seen, ¬ Pairs.Has rest other :=
            List.forall_mem_cons.mpr ⟨last, fun other before has =>
              unseen other before (has_cons.mpr (Or.inr has))⟩
          obtain ⟨config, decodes⟩ := ih onceLater unseenLater later
          exact ⟨config, (decodes_cons_known new).mpr ⟨source, written, decodes⟩⟩

def Pairs.known (pairs : Pairs) : Pairs :=
  pairs.filter fun pair => (Field.ofKey? pair.1).isSome

theorem mem_known {pairs : Pairs} {field : Field} {document : Json.Document} :
    (field.key, document) ∈ pairs.known ↔ (field.key, document) ∈ pairs := by
  simp [Pairs.known, Field.ofKey?_key]

theorem count_known (pairs : Pairs) (field : Field) :
    (pairs.known.map Prod.fst).count field.key = (pairs.map Prod.fst).count field.key := by
  have moved : pairs.known.map Prod.fst =
      (pairs.map Prod.fst).filter fun key => (Field.ofKey? key).isSome := by
    rw [List.filter_map]
    rfl
  have isKnown : (Field.ofKey? field.key).isSome := by rw [Field.ofKey?_key]; rfl
  rw [moved]
  exact List.count_filter isKnown

/-- Neither the order of the members nor those under unknown keys say anything. -/
theorem Decodes.of_perm {config before : Config} {seen : List Field} {pairs others : Pairs}
    (decodes : config.Decodes before seen pairs) (same : pairs.known.Perm others.known) :
    config.Decodes before seen others := by
  have counts (field : Field) :
      (others.map Prod.fst).count field.key = (pairs.map Prod.fst).count field.key := by
    rw [← count_known others, ← count_known pairs, (same.map Prod.fst).count_eq]
  have has {field : Field} : others.Has field ↔ pairs.Has field := by
    rw [Pairs.Has, ← List.count_pos_iff, counts, List.count_pos_iff, Pairs.Has]
  obtain ⟨once, unseen, given, kept⟩ := decodes
  refine ⟨fun field => counts field ▸ once field, ?_, ?_, ?_⟩
  · exact fun field before present => unseen field before (has.mp present)
  · exact fun member => given (mem_known.mp (same.mem_iff.mpr (mem_known.mpr member)))
  · exact fun absent => kept fun present => absent (has.mpr present)

theorem parse?_eq_some_iff {text : String} {pairs : Pairs}
    (reads : Json.read? text = some pairs.object)
    (within : ∀ {field : Field} {document}, (field.key, document) ∈ pairs →
      document.depth ≤ fieldBudget) {config : Config} :
    parse? text = some config ↔ config.Decodes default [] pairs := by
  rw [parse?, reads, Option.bind_some]
  exact readMembers?_eq_some_iff within

theorem depth_le_fieldBudget {pairs : Pairs} (nested : pairs.object.depth ≤ Json.nestingLimit)
    {key : String} {document : Json.Document} (member : (key, document) ∈ pairs) :
    document.depth ≤ fieldBudget := by
  have present : (some key, document) ∈ pairs.map fun pair => (some pair.1, pair.2) :=
    List.mem_map.mpr ⟨_, member, rfl⟩
  exact Nat.le_trans (Json.depth_le_memberDepth present) (Nat.le_of_succ_le_succ nested)

/-- An object is read if and only if no known field comes twice and each has its type. Every field
then holds what its member gives, or its default, so that neither the order of the members nor
those under unknown keys matter. -/
theorem parse?_object {text : String} {pairs : Pairs}
    (reads : Json.read? text = some pairs.object)
    (nested : pairs.object.depth ≤ Json.nestingLimit) :
    ((∃ config, parse? text = some config) ↔
      pairs.OnceEach ∧
        ∀ (field : Field) (document), (field.key, document) ∈ pairs → field.Takes document) ∧
    (∀ config, parse? text = some config ↔ pairs.OnceEach ∧ config.Follows default pairs) ∧
    ∀ (other : String) (others : Pairs), Json.read? other = some others.object →
      pairs.known.Perm others.known → parse? other = parse? text := by
  have within := fun {field : Field} {document} =>
    @depth_le_fieldBudget pairs nested field.key document
  have decodes_iff (config : Config) :
      config.Decodes default [] pairs ↔ pairs.OnceEach ∧ config.Follows default pairs := by
    constructor
    · exact fun decodes => ⟨decodes.once, decodes.follows⟩
    · exact fun ⟨once, follows⟩ => ⟨once, by simp, follows⟩
  refine ⟨⟨?_, ?_⟩, ?_, ?_⟩
  · rintro ⟨config, read⟩
    have decodes := (parse?_eq_some_iff reads within).mp read
    exact ⟨decodes.once, fun field document member =>
      takes_iff.mpr ⟨config, decodes.follows.given member⟩⟩
  · rintro ⟨once, typed⟩
    obtain ⟨config, decodes⟩ := exists_decodes once (List.forall_mem_nil _) fun {field document} =>
      typed field document
    exact ⟨config, (parse?_eq_some_iff reads within).mpr decodes⟩
  · exact fun config => (parse?_eq_some_iff reads within).trans (decodes_iff config)
  · intro other others readsOther same
    have withinOther : ∀ {field : Field} {document}, (field.key, document) ∈ others →
        document.depth ≤ fieldBudget :=
      fun member => within (mem_known.mp (same.mem_iff.mpr (mem_known.mpr member)))
    refine Option.ext fun config => ?_
    rw [parse?_eq_some_iff readsOther withinOther, parse?_eq_some_iff reads within]
    exact ⟨fun decodes => decodes.of_perm same.symm, fun decodes => decodes.of_perm same⟩

/-- Settings with repeated keys come first, then half a surrogate pair in a field that is not
known, then the longest timeout and a text that is null. -/
theorem parse?_object_repeated :
    let text :=
      "\x7b\"settings\":\x7b\"hex\":\x7b\"b\":1\x7d,\"hex\":\x7b\"b\":1,\"b\":true\x7d\x7d," ++
        "\"x\":[\"\\ud800\"],\"process_timeout_secs\":18446744073709551615,\"rt_location\":null\x7d"
    let one : Json.Document := .number ⟨false, ['1'], [], none⟩
    let pairs : Pairs :=
      [("settings", .object [(some "hex", .object [(some "b", one)]),
        (some "hex", .object [(some "b", one), (some "b", .bool true)])]),
      ("x", .array [.string none]),
      ("process_timeout_secs", .number ⟨false, "18446744073709551615".toList, [], none⟩),
      ("rt_location", .null)]
    Json.read? text = some pairs.object ∧ pairs.object.depth ≤ Json.nestingLimit ∧
      parse? text = some { default with
        timeoutSeconds := 18446744073709551615
        settings := .ofList [("hex", .ofList [("b", .bool true)])] } := by
  intro text one pairs
  have reads : Json.read? text = some pairs.object := by
    subst text pairs one
    cbv
  have nested : pairs.object.depth ≤ Json.nestingLimit := by decide
  have once : pairs.OnceEach := by
    intro field
    cases field <;> decide
  refine ⟨reads, nested, ((parse?_object reads nested).2.1 _).mpr ⟨once, ?_, ?_⟩⟩
  · intro field document member
    cases field <;> simp [pairs, Field.key] at member
    · subst member
      exact rfl
    · subst member
      exact ⟨_, rfl, rfl⟩
    · subst member
      exact (readSettings?_eq_some_iff (by decide)).mp rfl
  · intro field absent
    cases field <;> first | rfl | exact absurd (by simp [Pairs.Has, pairs, Field.key]) absent

end ArtifactTools.Config
