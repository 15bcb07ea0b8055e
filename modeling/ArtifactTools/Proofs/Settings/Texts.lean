import ArtifactTools.Proofs.Settings.Locality
import ArtifactTools.Proofs.Text.Decimal

/-! Settings that are given as texts. A text is taken if it stands for a value of the kind that is
declared for its key, and then that value is stored. Every value is taken as it is displayed. -/

namespace ArtifactTools.Settings

inductive Kind.Denotes : Kind → String → Value → Prop
  | yes : Denotes .bool "true" (.bool true)
  | no : Denotes .bool "false" (.bool false)
  | integer {raw : String} {value : Int64} :
      Decimal.Spells raw.toList value.toInt → Denotes .integer raw (.integer value)
  | text (raw : String) : Denotes .text raw (.text raw)
  | path (raw : String) : Denotes .path raw (.text raw)
  | choice {options : List String} {raw : String} :
      raw ∈ options → Denotes (.choice options) raw (.text raw)

theorem Value.ofInt?_eq_some_iff (number : Int) (value : Value) :
    Value.ofInt? number = some value ↔
      ∃ content : Int64, value = .integer content ∧ content.toInt = number := by
  constructor
  · intro read
    unfold Value.ofInt? at read
    split at read
    · next bounds =>
        refine ⟨Int64.ofInt number, (Option.some.inj read).symm, ?_⟩
        exact Int64.toInt_ofInt_of_le bounds.1 bounds.2
    · cases read
  · rintro ⟨content, rfl, rfl⟩
    exact Value.ofInt?_toInt content

theorem Kind.denotes_iff (kind : Kind) (raw : String) (value : Value) :
    kind.Denotes raw value ↔ kind.read? raw = some value ∧ kind.accepts value = true := by
  constructor
  · intro denotes
    cases denotes with
    | yes => exact ⟨by simp [Kind.read?], rfl⟩
    | no => exact ⟨by simp [Kind.read?], rfl⟩
    | text | path => exact ⟨rfl, rfl⟩
    | choice option => exact ⟨rfl, by simpa [Kind.accepts] using option⟩
    | integer spells =>
        refine ⟨?_, rfl⟩
        rw [Kind.read?, (Decimal.readInt?_eq_some_iff _ _).mpr spells, Option.bind_some]
        exact Value.ofInt?_toInt _
  · rintro ⟨read, accepted⟩
    cases kind with
    | bool =>
        simp only [Kind.read?] at read
        split at read
        · next same =>
            obtain rfl := Option.some.inj read
            exact same ▸ .yes
        · split at read
          · next same =>
              obtain rfl := Option.some.inj read
              exact same ▸ .no
          · cases read
    | integer =>
        obtain ⟨number, spelled, ranged⟩ := Option.bind_eq_some_iff.mp read
        obtain ⟨content, rfl, rfl⟩ := (Value.ofInt?_eq_some_iff number value).mp ranged
        exact .integer ((Decimal.readInt?_eq_some_iff raw _).mp spelled)
    | text =>
        obtain rfl := Option.some.inj read
        exact .text raw
    | path =>
        obtain rfl := Option.some.inj read
        exact .path raw
    | choice options =>
        obtain rfl := Option.some.inj read
        exact .choice (by simpa [Kind.accepts] using accepted)

theorem Kind.Denotes.unique {kind : Kind} {raw : String} {first second : Value}
    (one : kind.Denotes raw first) (other : kind.Denotes raw second) : first = second := by
  obtain ⟨read, -⟩ := (kind.denotes_iff raw first).mp one
  obtain ⟨readToo, -⟩ := (kind.denotes_iff raw second).mp other
  exact Option.some.inj (read.symm.trans readToo)

/-- A value that a kind accepts is displayed as a text that stands for it. -/
theorem Kind.denotes_display {kind : Kind} {value : Value} (accepted : kind.accepts value = true) :
    kind.Denotes value.display value := by
  rcases Kind.accepts_cases accepted with ⟨rfl, content, rfl⟩ | ⟨rfl, content, rfl⟩ |
    ⟨rfl | rfl | ⟨options, rfl⟩, content, rfl⟩
  · cases content with
    | true => exact .yes
    | false => exact .no
  · refine .integer ?_
    rw [Value.display, Decimal.ofInt, String.toList_ofList]
    exact Decimal.spells_intDigits content.toInt
  · exact .text content
  · exact .path content
  · have option : content ∈ options := by simpa [Kind.accepts] using accepted
    exact .choice option

theorem Kind.exists_denotes_integer_iff (raw : String) :
    (∃ value, Kind.integer.Denotes raw value) ↔
      ∃ number, Decimal.Spells raw.toList number ∧ -2 ^ 63 ≤ number ∧ number < 2 ^ 63 := by
  constructor
  · rintro ⟨_, spells⟩
    cases spells with
    | @integer _ content spells =>
        exact ⟨content.toInt, spells, Int64.le_toInt content, Int64.toInt_lt content⟩
  · rintro ⟨number, spells, lower, upper⟩
    refine ⟨.integer (Int64.ofInt number), .integer ?_⟩
    rwa [Int64.toInt_ofInt_of_le lower upper]

structure Store.TakesTexts (store : Store) (key : String) (descriptor : Descriptor) : Prop where
  taken_iff : ∀ raw, (∃ next, store.setText key raw = .ok next) ↔
    ∃ value, descriptor.kind.Denotes raw value
  stored : ∀ raw next, store.setText key raw = .ok next →
    ∃ value, descriptor.kind.Denotes raw value ∧ next.get? key = some value ∧
      store.Places ⟨descriptor, value⟩ next
  unique : ∀ raw first second, descriptor.kind.Denotes raw first →
    descriptor.kind.Denotes raw second → first = second
  numbers : descriptor.kind = .integer → ∀ raw, (∃ next, store.setText key raw = .ok next) ↔
    ∃ number, Decimal.Spells raw.toList number ∧ -2 ^ 63 ≤ number ∧ number < 2 ^ 63
  displayed : ∀ value, descriptor.kind.accepts value = true →
    ∃ next, store.setText key value.display = .ok next ∧ next.get? key = some value

namespace Store

variable {store : Store} {key : String} {descriptor : Descriptor}

theorem takes_iff_denotes (declared : store.descriptor? key = some descriptor) (raw : String)
    (value : Value) : store.Takes key raw value ↔ descriptor.kind.Denotes raw value := by
  have kind : store.kind? key = some descriptor.kind := by rw [kind?, declared, Option.map_some]
  simp only [Takes, kind, Option.some.injEq, exists_eq_left', Kind.denotes_iff]

theorem exists_setText_iff (declared : store.descriptor? key = some descriptor) (raw : String) :
    (∃ next, store.setText key raw = .ok next) ↔ ∃ value, descriptor.kind.Denotes raw value := by
  simp only [← takes_iff_denotes declared]
  constructor
  · rintro ⟨next, stored⟩
    obtain ⟨value, takes, -⟩ := (setText_eq_ok_iff store next key raw).mp stored
    exact ⟨value, takes⟩
  · rintro ⟨value, takes⟩
    exact exists_setText takes

theorem Consistent.stores_denoted (consistent : store.Consistent)
    (declared : store.descriptor? key = some descriptor) {raw : String} {next : Store}
    (stored : store.setText key raw = .ok next) :
    ∃ value, descriptor.kind.Denotes raw value ∧ next.get? key = some value ∧
      store.Places ⟨descriptor, value⟩ next := by
  obtain ⟨⟨written, value⟩, ⟨known, named, read, accepted⟩, places⟩ :=
    consistent.places_of_setText stored
  obtain rfl := Option.some.inj (known.symm.trans declared)
  have found := places.get?
  rw [named] at found
  exact ⟨value, (written.kind.denotes_iff raw value).mpr ⟨read, accepted⟩, found, places⟩

theorem Consistent.takesTexts (consistent : store.Consistent)
    (declared : store.descriptor? key = some descriptor) : store.TakesTexts key descriptor := by
  constructor
  · exact exists_setText_iff declared
  · exact fun raw next stored => consistent.stores_denoted declared stored
  · exact fun raw first second one other => one.unique other
  · intro integer raw
    rw [exists_setText_iff declared, integer]
    exact Kind.exists_denotes_integer_iff raw
  · intro value accepted
    have denotes := Kind.denotes_display accepted
    obtain ⟨next, stored⟩ := (exists_setText_iff declared _).mpr ⟨value, denotes⟩
    obtain ⟨other, denoted, found, -⟩ := consistent.stores_denoted declared stored
    obtain rfl := denotes.unique denoted
    exact ⟨next, stored, found⟩

end Store

namespace Traffic

/-- Whatever a store made from declarations has been through, a text is taken for a key if and only
if it stands for a value of the kind that is now declared for it, and that value is stored. -/
theorem takesTexts_run_opened {descriptors : List Descriptor} {start : Store}
    (built : Store.ofDescriptors descriptors = .ok start) (moves : List Move) {key : String}
    {descriptor : Descriptor}
    (declared : ((opened start descriptors).run moves).store.descriptor? key = some descriptor) :
    ((opened start descriptors).run moves).store.TakesTexts key descriptor := by
  have records : start.Records descriptors := Store.records_empty.registerAll built
  exact (records_run records moves).consistent.takesTexts declared

/-- A text has become an integer, and takes the least one that there is. -/
theorem takesTexts_run_opened_least :
    let level : Descriptor := .integer "level" "Level" 3
    let start : Store := ⟨[.initial ⟨"level", "Level", .text, .text "low"⟩]⟩
    let traffic := (opened start start.descriptors).run [.arrive (.register level), .advance 0]
    Store.ofDescriptors start.descriptors = .ok start ∧
      traffic.store.descriptor? "level" = some level ∧
      traffic.store.TakesTexts "level" level ∧
      ∃ next, traffic.store.setText "level" "-9223372036854775808" = .ok next ∧
        next.get? "level" = some (.integer Int64.minValue) := by
  intro level start traffic
  have takes : traffic.store.TakesTexts "level" level :=
    takesTexts_run_opened (by rfl) _ (by rfl)
  refine ⟨by rfl, by rfl, takes, ?_⟩
  obtain ⟨next, stored, found⟩ := takes.displayed (.integer Int64.minValue) rfl
  have shown : (Value.integer Int64.minValue).display = "-9223372036854775808" := by decide +kernel
  exact ⟨next, shown ▸ stored, found⟩

end Traffic

end ArtifactTools.Settings
