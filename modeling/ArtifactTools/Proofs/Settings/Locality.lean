import ArtifactTools.Proofs.Settings.Editing
import ArtifactTools.Proofs.Settings.Traffic

/-! Calls that write under one key. One that is refused leaves the store as it was. One that is done
has put an entry in the place of the one with its key, or last if there was none, and nothing else
has changed. Which calls are refused can be told from the declarations. -/

namespace ArtifactTools.Settings

def Answer.IsRefusal : Answer → Prop
  | .declared (.error _) | .changed (.error _) => True
  | _ => False

def Answer.IsDone : Answer → Prop
  | .declared (.ok ()) | .changed (.ok ()) => True
  | _ => False

namespace Call

def Writes (store : Store) : Call → Entry → Prop
  | .register descriptor, entry => descriptor.validate = .ok () ∧ entry = .initial descriptor
  | .set key value, entry =>
      store.descriptor? key = some entry.descriptor ∧ entry.key = key ∧ entry.value = value ∧
        entry.descriptor.kind.accepts value = true
  | .setText key raw, entry =>
      store.descriptor? key = some entry.descriptor ∧ entry.key = key ∧
        entry.descriptor.kind.read? raw = some entry.value ∧
        entry.descriptor.kind.accepts entry.value = true
  | .reset key, entry =>
      store.descriptor? key = some entry.descriptor ∧ entry.key = key ∧
        entry.value = entry.descriptor.default
  | _, _ => False

theorem Alone.unique {store next other : Store} {call : Call} {answer reply : Answer}
    (first : Alone store call next answer) (second : Alone store call other reply) :
    next = other ∧ answer = reply := by
  induction first with
  | answered step =>
      cases second with
      | answered same =>
          obtain ⟨rfl, answers⟩ := Prod.mk.inj (step.symm.trans same)
          exact ⟨rfl, Progress.answered.inj answers⟩
      | goesOn same _ => cases (Prod.mk.inj (step.symm.trans same)).2
  | goesOn step _ ih =>
      cases second with
      | answered same => cases (Prod.mk.inj (step.symm.trans same)).2
      | goesOn same later =>
          obtain ⟨rfl, goesOn⟩ := Prod.mk.inj (step.symm.trans same)
          obtain rfl := Progress.goesOn.inj goesOn
          exact ih later

end Call

namespace Store

/-! Where an entry goes. -/

inductive Places (store : Store) (entry : Entry) : Store → Prop
  | instead {before after : List Entry} {old : Entry} :
      store.entries = before ++ old :: after → old.key = entry.key →
      (∀ other ∈ before ++ after, other.key ≠ entry.key) →
      Places store entry ⟨before ++ entry :: after⟩
  | last : entry.key ∉ store.keys → Places store entry ⟨store.entries ++ [entry]⟩

theorem replace_append {before after : List Entry} {old entry : Entry}
    (same : old.key = entry.key) (apart : ∀ other ∈ before, other.key ≠ entry.key) :
    replace entry (before ++ old :: after) = before ++ entry :: after := by
  induction before with
  | nil => simp [replace, same]
  | cons first rest ih =>
      obtain ⟨different, others⟩ := List.forall_mem_cons.mp apart
      simp [replace, different, ih others]

theorem Consistent.places_replace {store : Store} (consistent : store.Consistent) {entry : Entry}
    (registered : entry.key ∈ store.keys) :
    store.Places entry ⟨Store.replace entry store.entries⟩ := by
  obtain ⟨old, member, same⟩ := List.mem_map.mp registered
  obtain ⟨before, after, divided⟩ := List.append_of_mem member
  have distinct := consistent.distinct
  simp only [keys, divided, List.map_append, List.map_cons] at distinct
  have apart : ∀ other ∈ before ++ after, other.key ≠ entry.key := by
    obtain ⟨absent, -⟩ := List.nodup_cons.mp (List.perm_middle.nodup_iff.mp distinct)
    rw [← List.map_append] at absent
    intro other present sameKey
    exact absent (List.mem_map.mpr ⟨other, present, sameKey.trans same.symm⟩)
  have replaced := @replace_append before after old entry same fun other present =>
    apart other (List.mem_append_left after present)
  rw [divided, replaced]
  exact .instead divided same apart

theorem Consistent.places_put {store : Store} (consistent : store.Consistent) (entry : Entry) :
    store.Places entry (store.put entry) := by
  unfold Store.put
  cases found : store.find? entry.key with
  | none => exact .last ((find?_eq_none_iff store entry.key).mp found)
  | some other => exact consistent.places_replace (key_mem_of_find? found)

theorem Places.get? {store next : Store} {entry : Entry} (places : store.Places entry next) :
    next.get? entry.key = some entry.value := by
  cases places with
  | @instead before after old divided same apart =>
      have absent : before.find? (fun other => other.key == entry.key) = none := by
        rw [List.find?_eq_none]
        intro other present
        simpa using apart other (List.mem_append_left after present)
      simp [Store.get?, find?, List.find?_append, absent]
  | last fresh =>
      have absent : store.entries.find? (fun other => other.key == entry.key) = none :=
        (find?_eq_none_iff store entry.key).mpr fresh
      simp [Store.get?, find?, List.find?_append, absent]

theorem Places.descriptors {store next : Store} {entry : Entry} (places : store.Places entry next)
    (declared : store.descriptor? entry.key = some entry.descriptor) :
    next.descriptors = store.descriptors := by
  obtain ⟨found, present, same⟩ := Option.map_eq_some_iff.mp declared
  cases places with
  | @instead before after old divided sameKey apart =>
      obtain ⟨member, foundKey⟩ := find?_some present
      rw [divided] at member
      -- The entry that has gone is the one that was found under the key.
      have here : found = old := by
        rcases List.mem_append.mp member with early | late
        · exact absurd foundKey (apart found (List.mem_append_left after early))
        · rcases List.mem_cons.mp late with rfl | later
          · rfl
          · exact absurd foundKey (apart found (List.mem_append_right before later))
      simp [Store.descriptors, divided, ← same, here]
  | last fresh => exact absurd (key_mem_of_find? present) fresh

/-! What the operations write. -/

section

variable {store next : Store} (consistent : store.Consistent)

include consistent

theorem Consistent.places_of_register {descriptor : Descriptor}
    (registered : store.register descriptor = .ok next) :
    ∃ entry, (Call.register descriptor).Writes store entry ∧ store.Places entry next := by
  obtain ⟨valid, rfl⟩ := (register_eq_ok_iff store next descriptor).mp registered
  exact ⟨.initial descriptor, ⟨valid, rfl⟩, consistent.places_put _⟩

theorem Consistent.places_value {entry : Entry} {key : String}
    (found : store.find? key = some entry) (value : Value) :
    store.Places ⟨entry.descriptor, value⟩
      ⟨Store.replace ⟨entry.descriptor, value⟩ store.entries⟩ := by
  obtain ⟨member, rfl⟩ := find?_some found
  have registered : entry.key ∈ store.keys := List.mem_map_of_mem member
  exact consistent.places_replace registered

theorem Consistent.places_of_set {key : String} {value : Value}
    (stored : store.set key value = .ok next) :
    ∃ entry, (Call.set key value).Writes store entry ∧ store.Places entry next := by
  obtain ⟨entry, found, accepted, rfl⟩ := (set_eq_ok_iff store next key value).mp stored
  have declared : store.descriptor? key = some entry.descriptor := by rw [descriptor?, found]; rfl
  exact ⟨⟨entry.descriptor, value⟩, ⟨declared, (find?_some found).2, rfl, accepted⟩,
    consistent.places_value found value⟩

theorem Consistent.places_of_setText {key raw : String}
    (stored : store.setText key raw = .ok next) :
    ∃ entry, (Call.setText key raw).Writes store entry ∧ store.Places entry next := by
  obtain ⟨value, ⟨kind, kinds, read, -⟩, sets⟩ := (setText_eq_ok_iff store next key raw).mp stored
  obtain ⟨entry, ⟨declared, named, rfl, accepted⟩, places⟩ := consistent.places_of_set sets
  rw [kind?, declared, Option.map_some, Option.some.injEq] at kinds
  exact ⟨entry, ⟨declared, named, kinds ▸ read, accepted⟩, places⟩

theorem Consistent.places_of_reset {key : String} (restored : store.reset key = .ok next) :
    ∃ entry, (Call.reset key).Writes store entry ∧ store.Places entry next := by
  obtain ⟨entry, found, rfl⟩ := (reset_eq_ok_iff store next key).mp restored
  have declared : store.descriptor? key = some entry.descriptor := by rw [descriptor?, found]; rfl
  exact ⟨.initial entry.descriptor, ⟨declared, (find?_some found).2, rfl⟩,
    consistent.places_value found _⟩

/-- A call either leaves the store as it was or has written its entry, and the answer tells
which. -/
theorem Consistent.settles {call : Call} {answer : Answer}
    (ends : Call.Alone store call next answer) :
    (answer.IsRefusal → next = store) ∧
      (answer.IsDone → ∃ entry, call.Writes store entry ∧ store.Places entry next) := by
  obtain ⟨rfl, rfl⟩ := ends.unique (call.alone_outcome store)
  cases call with
  | register descriptor =>
      cases result : store.register descriptor with
      | error error => simp [Call.outcome, after, result, Answer.IsDone]
      | ok next =>
          have places := consistent.places_of_register result
          simpa [Call.outcome, after, result, Answer.IsRefusal] using fun _ => places
  | set key value =>
      cases result : store.set key value with
      | error error => simp [Call.outcome, after, result, Answer.IsDone]
      | ok next =>
          have places := consistent.places_of_set result
          simpa [Call.outcome, after, result, Answer.IsRefusal] using fun _ => places
  | setText key raw =>
      cases result : store.setText key raw with
      | error error => simp [Call.outcome, after, result, Answer.IsDone]
      | ok next =>
          have places := consistent.places_of_setText result
          simpa [Call.outcome, after, result, Answer.IsRefusal] using fun _ => places
  | reset key =>
      cases result : store.reset key with
      | error error => simp [Call.outcome, after, result, Answer.IsDone]
      | ok next =>
          have places := consistent.places_of_reset result
          simpa [Call.outcome, after, result, Answer.IsRefusal] using fun _ => places
  | get key => simp [Call.outcome, Answer.IsDone]
  | apply values problems => simp [Call.outcome, Answer.IsRefusal, Answer.IsDone]

end

/-! What is refused. -/

theorem descriptor?_eq_none_iff (store : Store) (key : String) :
    store.descriptor? key = none ↔ key ∉ store.keys := by
  rw [← find?_eq_none_iff, descriptor?, Option.map_eq_none_iff]

theorem key_mem_of_descriptor? {store : Store} {key : String} {descriptor : Descriptor}
    (declared : store.descriptor? key = some descriptor) : key ∈ store.keys := by
  by_contra unknown
  rw [(store.descriptor?_eq_none_iff key).mpr unknown] at declared
  cases declared

theorem set_eq_of_unknown {store : Store} {key : String} (unknown : key ∉ store.keys)
    (value : Value) : store.set key value = .error (.unknownKey key) := by
  rw [set, (find?_eq_none_iff store key).mpr unknown]

theorem set_eq_of_declared {store : Store} {key : String} {descriptor : Descriptor}
    (declared : store.descriptor? key = some descriptor) {value : Value}
    (rejected : descriptor.kind.accepts value = false) :
    store.set key value =
      .error (.kindMismatch key descriptor.kind.display value.describe) := by
  obtain ⟨entry, found, rfl⟩ := Option.map_eq_some_iff.mp declared
  simp [set, found, rejected]

theorem set_cases (store : Store) (key : String) (value : Value) :
    (key ∉ store.keys ∧ store.set key value = .error (.unknownKey key)) ∨
    ∃ descriptor, store.descriptor? key = some descriptor ∧
      ((descriptor.kind.accepts value = false ∧ store.set key value =
          .error (.kindMismatch key descriptor.kind.display value.describe)) ∨
        descriptor.kind.accepts value = true ∧ ∃ next, store.set key value = .ok next) := by
  cases declared : store.descriptor? key with
  | none =>
      have unknown := (descriptor?_eq_none_iff store key).mp declared
      exact .inl ⟨unknown, set_eq_of_unknown unknown value⟩
  | some descriptor =>
      refine .inr ⟨descriptor, rfl, ?_⟩
      cases accepted : descriptor.kind.accepts value with
      | false => exact .inl ⟨rfl, set_eq_of_declared declared accepted⟩
      | true =>
          obtain ⟨entry, found, rfl⟩ := Option.map_eq_some_iff.mp declared
          exact .inr ⟨rfl, _, (set_eq_ok_iff store _ key value).mpr ⟨entry, found, accepted, rfl⟩⟩

end Store

def Descriptor.IsDefective (descriptor : Descriptor) : Prop :=
  descriptor.key = "" ∨ descriptor.kind = .choice [] ∨
    descriptor.kind.accepts descriptor.default = false

theorem Descriptor.isDefective_iff (descriptor : Descriptor) :
    descriptor.IsDefective ↔ descriptor.validate ≠ .ok () := by
  rw [ne_eq, validate_eq_ok_iff, IsDefective]
  by_cases named : descriptor.key = "" <;> by_cases optional : descriptor.kind = .choice [] <;>
    simp [named, optional]

theorem Descriptor.exists_reason {descriptor : Descriptor} {error : TransformerError}
    (refused : descriptor.validate = .error error) :
    ∃ reason, error = .unsupportedConfiguration descriptor.key reason := by
  unfold validate at refused
  split at refused
  · exact ⟨_, (Except.error.inj refused).symm⟩
  · split at refused
    · exact ⟨_, (Except.error.inj refused).symm⟩
    · split at refused
      · cases refused
      · exact ⟨_, (Except.error.inj refused).symm⟩

namespace Call

variable {store next : Store} {answer : Answer}

theorem Alone.answer_eq {call : Call} (ends : Alone store call next answer) :
    answer = (call.outcome store).2 :=
  (ends.unique (call.alone_outcome store)).2

theorem Alone.register_answers {descriptor : Descriptor}
    (ends : Alone store (.register descriptor) next answer) :
    (descriptor.IsDefective ↔ ∃ reason, answer =
        .declared (.error (.unsupportedConfiguration descriptor.key reason))) ∧
      (¬descriptor.IsDefective ↔ answer = .declared (.ok ())) := by
  rw [ends.answer_eq, Descriptor.isDefective_iff, ne_eq, not_not]
  cases checked : descriptor.validate with
  | error error =>
      obtain ⟨reason, rfl⟩ := Descriptor.exists_reason checked
      simp [outcome, Store.register, checked, Store.after]
  | ok => simp [outcome, Store.register, checked, Store.after]

theorem Alone.set_answers {key : String} {value : Value}
    (ends : Alone store (.set key value) next answer) :
    (answer = .changed (.error (.unknownKey key)) ↔ key ∉ store.keys) ∧
      ((∃ expected actual, answer = .changed (.error (.kindMismatch key expected actual))) ↔
        ∃ descriptor, store.descriptor? key = some descriptor ∧
          descriptor.kind.accepts value = false) ∧
      (answer = .changed (.ok ()) ↔ ∃ descriptor, store.descriptor? key = some descriptor ∧
        descriptor.kind.accepts value = true) := by
  rw [ends.answer_eq]
  rcases store.set_cases key value with ⟨unknown, result⟩ | ⟨descriptor, declared, decided⟩
  · have undeclared := (store.descriptor?_eq_none_iff key).mpr unknown
    simp [outcome, Store.after, unknown, result, undeclared]
  · have registered := Store.key_mem_of_descriptor? declared
    rcases decided with ⟨rejected, result⟩ | ⟨accepted, other, result⟩
    · simp [outcome, Store.after, registered, result, declared, rejected]
    · simp [outcome, Store.after, registered, result, declared, accepted]

theorem setText_goesOn {key raw : String} {rest : Call}
    (step : (Call.setText key raw).step store = (next, .goesOn rest)) :
    next = store ∧ ∃ value, rest = .set key value := by
  simp only [Call.step] at step
  split at step
  · cases step
  · split at step
    · cases step
    · next value _ =>
        obtain ⟨rfl, goesOn⟩ := Prod.mk.inj step
        exact ⟨rfl, value, (Progress.goesOn.inj goesOn).symm⟩

theorem Alone.setText_answers {key raw : String}
    (ends : Alone store (.setText key raw) next answer) :
    (answer = .changed (.error (.unknownKey key)) ↔ key ∉ store.keys) ∧
      (answer = .changed (.ok ()) ↔ ∃ value, store.Takes key raw value) := by
  have success : (∃ after, store.setText key raw = .ok after) ↔
      ∃ value, store.Takes key raw value := by
    constructor
    · rintro ⟨after, stored⟩
      obtain ⟨value, takes, -⟩ := (Store.setText_eq_ok_iff store after key raw).mp stored
      exact ⟨value, takes⟩
    · rintro ⟨value, takes⟩
      exact Store.exists_setText takes
  have unknown : store.setText key raw = .error (.unknownKey key) ↔ key ∉ store.keys := by
    unfold Store.setText
    cases declared : store.descriptor? key with
    | none => simp [(store.descriptor?_eq_none_iff key).mp declared]
    | some descriptor =>
        have registered := Store.key_mem_of_descriptor? declared
        cases read : descriptor.kind.read? raw with
        | none => simp [Store.readFor, read, registered]
        | some value =>
            rcases store.set_cases key value with ⟨absent, -⟩ |
              ⟨other, -, ⟨-, result⟩ | ⟨-, after, result⟩⟩
            · exact absurd registered absent
            · simp [Store.readFor, read, registered, result]
            · simp [Store.readFor, read, registered, result]
  rw [ends.answer_eq, ← success, ← unknown]
  cases result : store.setText key raw with
  | error error => simp [outcome, Store.after, result]
  | ok after => simp [outcome, Store.after, result]

theorem Alone.reset_answers {key : String} (ends : Alone store (.reset key) next answer) :
    (answer = .changed (.error (.unknownKey key)) ↔ key ∉ store.keys) ∧
      (answer = .changed (.ok ()) ↔ key ∈ store.keys) := by
  rw [ends.answer_eq]
  cases found : store.find? key with
  | none =>
      have unknown := (store.find?_eq_none_iff key).mp found
      simp [outcome, Store.reset, found, Store.after, unknown]
  | some entry =>
      have registered := Store.key_mem_of_find? found
      simp [outcome, Store.reset, found, Store.after, registered]

end Call

theorem Store.Consistent.descriptors_of_changed {store next : Store} (consistent : store.Consistent)
    {call : Call} (ends : Call.Alone store call next (.changed (.ok ()))) :
    next.descriptors = store.descriptors := by
  obtain ⟨entry, writes, places⟩ := (consistent.settles ends).2 trivial
  -- What is written has the declaration of its key, unless it is a declaration itself.
  cases call with
  | register descriptor => cases ends.answer_eq
  | get key => cases ends.answer_eq
  | apply values problems => cases ends.answer_eq
  | set key value =>
      obtain ⟨declared, rfl, -⟩ := writes
      exact places.descriptors declared
  | setText key raw =>
      obtain ⟨declared, rfl, -⟩ := writes
      exact places.descriptors declared
  | reset key =>
      obtain ⟨declared, rfl, -⟩ := writes
      exact places.descriptors declared

structure Store.WritesLocally (store : Store) : Prop where
  ends : ∀ call, Call.Alone store call (call.outcome store).1 (call.outcome store).2
  refused : ∀ call next answer, Call.Alone store call next answer → answer.IsRefusal →
    next = store
  written : ∀ call next answer, Call.Alone store call next answer → answer.IsDone →
    ∃ entry, call.Writes store entry ∧ store.Places entry next ∧
      next.get? entry.key = some entry.value
  declarations : ∀ call next, Call.Alone store call next (.changed (.ok ())) →
    next.descriptors = store.descriptors
  reads : ∀ key raw next rest, (Call.setText key raw).step store = (next, .goesOn rest) →
    next = store ∧ ∃ value, rest = .set key value
  registers : ∀ descriptor next answer,
    Call.Alone store (.register descriptor) next answer →
      (descriptor.IsDefective ↔ ∃ reason, answer =
        .declared (.error (.unsupportedConfiguration descriptor.key reason))) ∧
      (¬descriptor.IsDefective ↔ answer = .declared (.ok ()))
  sets : ∀ key value next answer, Call.Alone store (.set key value) next answer →
      (answer = .changed (.error (.unknownKey key)) ↔ key ∉ store.keys) ∧
      ((∃ expected actual, answer = .changed (.error (.kindMismatch key expected actual))) ↔
        ∃ descriptor, store.descriptor? key = some descriptor ∧
          descriptor.kind.accepts value = false) ∧
      (answer = .changed (.ok ()) ↔ ∃ descriptor, store.descriptor? key = some descriptor ∧
        descriptor.kind.accepts value = true)
  texts : ∀ key raw next answer, Call.Alone store (.setText key raw) next answer →
      (answer = .changed (.error (.unknownKey key)) ↔ key ∉ store.keys) ∧
      (answer = .changed (.ok ()) ↔ ∃ value, store.Takes key raw value)
  resets : ∀ key next answer, Call.Alone store (.reset key) next answer →
      (answer = .changed (.error (.unknownKey key)) ↔ key ∉ store.keys) ∧
      (answer = .changed (.ok ()) ↔ key ∈ store.keys)

theorem Store.Consistent.writesLocally {store : Store} (consistent : store.Consistent) :
    store.WritesLocally := by
  constructor
  · exact Call.alone_outcome store
  · intro call next answer ends refusal
    exact (consistent.settles ends).1 refusal
  · intro call next answer ends done
    obtain ⟨entry, writes, places⟩ := (consistent.settles ends).2 done
    exact ⟨entry, writes, places, places.get?⟩
  · exact fun _ _ ends => consistent.descriptors_of_changed ends
  · exact fun _ _ _ _ step => Call.setText_goesOn step
  · exact fun _ _ _ ends => ends.register_answers
  · exact fun _ _ _ _ ends => ends.set_answers
  · exact fun _ _ _ _ ends => ends.setText_answers
  · exact fun _ _ _ ends => ends.reset_answers

namespace Traffic

/-- Whatever a store made from declarations has been through, calls that write to it are refused
without effect or change what is under their own key. -/
theorem writesLocally_run_opened {descriptors : List Descriptor} {start : Store}
    (built : Store.ofDescriptors descriptors = .ok start) (moves : List Move) :
    ((opened start descriptors).run moves).store.WritesLocally := by
  have records : start.Records descriptors := Store.records_empty.registerAll built
  exact (records_run records moves).consistent.writesLocally

/-- A switch has become a text, and another key stands behind it. -/
theorem writesLocally_run_opened_redeclared :
    Store.ofDescriptors [.bool "strip" "Strip" false] =
        .ok ⟨[.initial (.bool "strip" "Strip" false)]⟩ ∧
      ((opened ⟨[.initial (.bool "strip" "Strip" false)]⟩ [.bool "strip" "Strip" false]).run
        [.arrive (.register (.integer "level" "Level" 3)), .advance 0,
          .arrive (.register ⟨"strip", "Strip", .text, .text "all"⟩),
          .advance 0]).store.WritesLocally :=
  ⟨rfl, writesLocally_run_opened rfl _⟩

end Traffic

end ArtifactTools.Settings
