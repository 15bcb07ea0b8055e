import ArtifactTools.Settings.Persisted
import Mathlib.Data.List.Nodup

/-! What every store of settings keeps: its keys are distinct and not empty, its declarations are
valid, and each value is of the kind that is now declared for its key. Every way of writing keeps
it, and it decides which of the typed readings answers. -/

namespace ArtifactTools.Settings

theorem Descriptor.validate_eq_ok_iff (descriptor : Descriptor) :
    descriptor.validate = .ok () ↔ descriptor.key ≠ "" ∧ descriptor.kind ≠ .choice [] ∧
      descriptor.kind.accepts descriptor.default = true := by
  unfold Descriptor.validate
  by_cases empty : descriptor.key = ""
  · simp [empty]
  · by_cases optionless : descriptor.kind = .choice []
    · simp [empty, optionless]
    · by_cases accepted : descriptor.kind.accepts descriptor.default = true
      · simp [empty, optionless, accepted]
      · simp [empty, optionless, accepted]

theorem Kind.accepts_choice {options : List String} {value : Value}
    (accepted : (Kind.choice options).accepts value = true) :
    ∃ option ∈ options, value = .text option := by
  cases value with
  | bool content => simp [Kind.accepts] at accepted
  | integer content => simp [Kind.accepts] at accepted
  | text content => exact ⟨content, by simpa [Kind.accepts] using accepted, rfl⟩

theorem Kind.accepts_cases {kind : Kind} {value : Value} (accepted : kind.accepts value = true) :
    (kind = .bool ∧ ∃ content, value = .bool content) ∨
    (kind = .integer ∧ ∃ content, value = .integer content) ∨
    ((kind = .text ∨ kind = .path ∨ ∃ options, kind = .choice options) ∧
      ∃ content, value = .text content) := by
  cases kind <;> cases value <;> simp_all [Kind.accepts]

namespace Store

/-- The invariant of stores. -/
structure Consistent (store : Store) : Prop where
  distinct : store.keys.Nodup
  named : ∀ key ∈ store.keys, key ≠ ""
  valid : ∀ entry ∈ store.entries, entry.descriptor.validate = .ok ()
  accepted : ∀ entry ∈ store.entries, entry.descriptor.kind.accepts entry.value = true

theorem consistent_empty : empty.Consistent := by
  constructor <;> simp [empty, keys]

/-! Finding an entry by its key. -/

theorem find?_some {store : Store} {key : String} {entry : Entry}
    (found : store.find? key = some entry) : entry ∈ store.entries ∧ entry.key = key := by
  have sameKey := List.find?_some found
  exact ⟨List.mem_of_find?_eq_some found, by simpa using sameKey⟩

theorem find?_eq_none_iff (store : Store) (key : String) :
    store.find? key = none ↔ key ∉ store.keys := by
  simp [find?, keys]

theorem exists_find? {store : Store} {key : String} (registered : key ∈ store.keys) :
    ∃ entry, store.find? key = some entry := by
  cases found : store.find? key with
  | none => exact absurd registered ((find?_eq_none_iff store key).mp found)
  | some entry => exact ⟨entry, rfl⟩

theorem key_mem_of_find? {store : Store} {key : String} {entry : Entry}
    (found : store.find? key = some entry) : key ∈ store.keys := by
  obtain ⟨member, rfl⟩ := find?_some found
  exact List.mem_map_of_mem member

theorem Consistent.find?_of_mem {store : Store} (consistent : store.Consistent) {entry : Entry}
    (member : entry ∈ store.entries) : store.find? entry.key = some entry := by
  obtain ⟨other, found⟩ := exists_find? (List.mem_map_of_mem (f := Entry.key) member)
  obtain ⟨otherMember, sameKey⟩ := find?_some found
  have same : other = entry :=
    List.inj_on_of_nodup_map (f := Entry.key) consistent.distinct otherMember member sameKey
  rw [found, same]

/-! Replacing an entry and adding one. -/

theorem mem_replace {entry other : Entry} {entries : List Entry}
    (member : other ∈ replace entry entries) : other = entry ∨ other ∈ entries := by
  induction entries with
  | nil => simp [replace] at member
  | cons first rest ih =>
      simp only [replace] at member
      split at member
      · rcases List.mem_cons.mp member with same | later
        · exact Or.inl same
        · exact Or.inr (List.mem_cons_of_mem first later)
      · rcases List.mem_cons.mp member with same | later
        · exact Or.inr (by simp [same])
        · rcases ih later with same | old
          · exact Or.inl same
          · exact Or.inr (List.mem_cons_of_mem first old)

theorem find?_replace_self {entry : Entry} {entries : List Entry}
    (registered : entry.key ∈ entries.map (·.key)) :
    (Store.mk (replace entry entries)).find? entry.key = some entry := by
  induction entries with
  | nil => simp at registered
  | cons first rest ih =>
      simp only [replace]
      split
      · simp [find?]
      · next different =>
          have later : entry.key ∈ rest.map (·.key) := by
            simpa [Ne.symm different] using registered
          simpa [find?, different] using ih later

theorem find?_replace_of_ne {entry : Entry} {key : String} (different : key ≠ entry.key)
    (entries : List Entry) :
    (Store.mk (replace entry entries)).find? key = (Store.mk entries).find? key := by
  induction entries with
  | nil => rfl
  | cons first rest ih =>
      simp only [replace]
      split
      · next same => simp [find?, same, Ne.symm different]
      · simp only [find?, List.find?_cons] at ih ⊢
        rw [ih]

theorem keys_replace (entry : Entry) (store : Store) :
    (Store.mk (replace entry store.entries)).keys = store.keys :=
  map_key_replace entry store.entries

theorem keys_put (store : Store) (entry : Entry) :
    (store.put entry).keys =
      if entry.key ∈ store.keys then store.keys else store.keys ++ [entry.key] := by
  unfold put
  cases found : store.find? entry.key with
  | none =>
      have absent := (find?_eq_none_iff store entry.key).mp found
      rw [if_neg absent]
      simp [keys]
  | some other =>
      rw [if_pos (key_mem_of_find? found)]
      exact keys_replace entry store

theorem find?_put_self (store : Store) (entry : Entry) :
    (store.put entry).find? entry.key = some entry := by
  unfold put
  cases found : store.find? entry.key with
  | none =>
      have absent : store.entries.find? (fun other => other.key == entry.key) = none := found
      simp [find?, absent]
  | some other => exact find?_replace_self (key_mem_of_find? found)

theorem find?_put_of_ne {entry : Entry} {key : String} (different : key ≠ entry.key)
    (store : Store) : (store.put entry).find? key = store.find? key := by
  unfold put
  split
  · exact find?_replace_of_ne different store.entries
  · simp [find?, Ne.symm different]

theorem descriptor?_replace {store : Store} {key : String} {entry : Entry}
    (found : store.find? key = some entry) (value : Value) (other : String) :
    (Store.mk (replace ⟨entry.descriptor, value⟩ store.entries)).descriptor? other =
      store.descriptor? other := by
  obtain ⟨member, rfl⟩ := find?_some found
  by_cases same : other = entry.key
  · subst same
    have registered : entry.key ∈ store.entries.map (·.key) := List.mem_map_of_mem member
    have replaced := @find?_replace_self ⟨entry.descriptor, value⟩ store.entries registered
    unfold descriptor?
    rw [found]
    exact congrArg (Option.map (·.descriptor)) replaced
  · have kept := @find?_replace_of_ne ⟨entry.descriptor, value⟩ other same store.entries
    exact congrArg (Option.map (·.descriptor)) kept

theorem mem_put {store : Store} {entry other : Entry}
    (member : other ∈ (store.put entry).entries) : other = entry ∨ other ∈ store.entries := by
  unfold put at member
  split at member
  · exact mem_replace member
  · rcases List.mem_append.mp member with old | new
    · exact Or.inr old
    · exact Or.inl (List.mem_singleton.mp new)

/-- The invariant survives any entry that is valid in itself, in the place of one with its key. -/
theorem Consistent.replace {store : Store} (consistent : store.Consistent) {entry : Entry}
    (valid : entry.descriptor.validate = .ok ())
    (accepted : entry.descriptor.kind.accepts entry.value = true) :
    (Store.mk (Store.replace entry store.entries)).Consistent := by
  constructor
  · rw [keys_replace]
    exact consistent.distinct
  · rw [keys_replace]
    exact consistent.named
  · intro other member
    rcases mem_replace member with rfl | old
    · exact valid
    · exact consistent.valid other old
  · intro other member
    rcases mem_replace member with rfl | old
    · exact accepted
    · exact consistent.accepted other old

theorem Consistent.put {store : Store} (consistent : store.Consistent) {entry : Entry}
    (valid : entry.descriptor.validate = .ok ())
    (accepted : entry.descriptor.kind.accepts entry.value = true) :
    (store.put entry).Consistent := by
  have named : entry.key ≠ "" := ((Descriptor.validate_eq_ok_iff entry.descriptor).mp valid).1
  constructor
  · rw [keys_put]
    split
    · exact consistent.distinct
    · next absent =>
        rw [← List.concat_eq_append]
        exact consistent.distinct.concat absent
  · intro key member
    rw [keys_put] at member
    split at member
    · exact consistent.named key member
    · rcases List.mem_append.mp member with old | new
      · exact consistent.named key old
      · rw [List.mem_singleton.mp new]
        exact named
  · intro other member
    rcases mem_put member with rfl | old
    · exact valid
    · exact consistent.valid other old
  · intro other member
    rcases mem_put member with rfl | old
    · exact accepted
    · exact consistent.accepted other old

/-! What the operations do when they succeed. -/

theorem register_eq_ok_iff (store next : Store) (descriptor : Descriptor) :
    store.register descriptor = .ok next ↔
      descriptor.validate = .ok () ∧ next = store.put (.initial descriptor) := by
  unfold register
  cases descriptor.validate with
  | error error => simp
  | ok => simp [eq_comm]

theorem set_eq_ok_iff (store next : Store) (key : String) (value : Value) :
    store.set key value = .ok next ↔
      ∃ entry, store.find? key = some entry ∧ entry.descriptor.kind.accepts value = true ∧
        next = ⟨replace ⟨entry.descriptor, value⟩ store.entries⟩ := by
  unfold set
  cases store.find? key with
  | none => simp
  | some entry =>
      by_cases accepted : entry.descriptor.kind.accepts value = true
      · simp only [accepted, if_true, Except.ok.injEq, Option.some.injEq, exists_eq_left', true_and]
        exact eq_comm
      · simp [accepted]

theorem reset_eq_ok_iff (store next : Store) (key : String) :
    store.reset key = .ok next ↔
      ∃ entry, store.find? key = some entry ∧
        next = ⟨replace (.initial entry.descriptor) store.entries⟩ := by
  unfold reset
  cases store.find? key with
  | none => simp
  | some entry => simp [eq_comm]

theorem Consistent.register {store next : Store} {descriptor : Descriptor}
    (consistent : store.Consistent) (registered : store.register descriptor = .ok next) :
    next.Consistent := by
  obtain ⟨valid, rfl⟩ := (register_eq_ok_iff store next descriptor).mp registered
  have accepted := ((Descriptor.validate_eq_ok_iff descriptor).mp valid).2.2
  exact consistent.put valid accepted

theorem Consistent.set {store next : Store} {key : String} {value : Value}
    (consistent : store.Consistent) (stored : store.set key value = .ok next) :
    next.Consistent := by
  obtain ⟨entry, found, accepted, rfl⟩ := (set_eq_ok_iff store next key value).mp stored
  exact consistent.replace (consistent.valid entry (find?_some found).1) accepted

theorem applyValue_eq_ok_iff (store next : Store) (key : String) (raw : Json.Value) :
    store.applyValue key raw = .ok next ↔
      ∃ value, Value.ofJson? raw = some value ∧ store.set key value = .ok next := by
  unfold applyValue
  cases Value.ofJson? raw with
  | none => simp
  | some value => simp

theorem Consistent.applyValue {store next : Store} {key : String} {raw : Json.Value}
    (consistent : store.Consistent) (applied : store.applyValue key raw = .ok next) :
    next.Consistent := by
  obtain ⟨value, -, stored⟩ := (applyValue_eq_ok_iff store next key raw).mp applied
  exact consistent.set stored

theorem Consistent.apply {store : Store} (consistent : store.Consistent)
    (values : List (String × Json.Value)) :
    (store.apply values).1.Consistent := by
  induction values generalizing store with
  | nil => exact consistent
  | cons entry rest ih =>
      obtain ⟨key, raw⟩ := entry
      simp only [Store.apply]
      cases applied : store.applyValue key raw with
      | error error => exact ih consistent
      | ok next => exact ih (consistent.applyValue applied)

theorem Consistent.registerAll {store next : Store} {descriptors : List Descriptor}
    (consistent : store.Consistent) (registered : store.registerAll descriptors = .ok next) :
    next.Consistent := by
  induction descriptors generalizing store with
  | nil =>
      simp only [Store.registerAll, Except.ok.injEq] at registered
      exact registered ▸ consistent
  | cons descriptor rest ih =>
      simp only [Store.registerAll] at registered
      cases first : store.register descriptor with
      | error error => simp [first] at registered
      | ok middle =>
          rw [first] at registered
          exact ih (consistent.register first) registered

theorem consistent_ofDescriptors {descriptors : List Descriptor} {store : Store}
    (built : ofDescriptors descriptors = .ok store) : store.Consistent :=
  consistent_empty.registerAll built

/-! The typed readings. -/

/-- Of the typed readings exactly the one for the declared kind answers. -/
theorem Consistent.getters {store : Store} (consistent : store.Consistent) {key : String}
    {descriptor : Descriptor} (declared : store.descriptor? key = some descriptor) :
    ((store.getBool? key).isSome ↔ descriptor.kind = .bool) ∧
    ((store.getInteger? key).isSome ↔ descriptor.kind = .integer) ∧
    ((store.getText? key).isSome ↔ descriptor.kind = .text ∨ descriptor.kind = .path ∨
      ∃ options, descriptor.kind = .choice options) := by
  obtain ⟨entry, found, rfl⟩ := Option.map_eq_some_iff.mp declared
  have accepted := consistent.accepted entry (find?_some found).1
  have value : store.get? key = some entry.value := by simp [get?, found]
  rcases Kind.accepts_cases accepted with ⟨kind, content, holds⟩ | ⟨kind, content, holds⟩ |
    ⟨kind, content, holds⟩
  · simp [getBool?, getInteger?, getText?, value, holds, kind]
  · simp [getBool?, getInteger?, getText?, value, holds, kind]
  · rcases kind with kind | kind | ⟨options, kind⟩ <;>
      simp [getBool?, getInteger?, getText?, value, holds, kind]

end Store

end ArtifactTools.Settings
