import ArtifactTools.Proofs.Settings.Snapshots

/-! What writing to a store changes: the value under one key, and no declaration. A text is taken
where the declared kind of its key reads it as a value that it accepts. -/

namespace ArtifactTools.Settings.Store

def SameDescriptors (first second : Store) : Prop :=
  ∀ key, first.descriptor? key = second.descriptor? key

theorem SameDescriptors.sameKinds {first second : Store} (same : first.SameDescriptors second) :
    first.SameKinds second := by
  intro key
  rw [kind?, kind?, same]

structure Changed (store : Store) (key : String) (value : Value) (next : Store) : Prop where
  descriptors : next.SameDescriptors store
  value : next.get? key = some value
  others : ∀ other, other ≠ key → next.get? other = store.get? other

theorem changed_replace {store : Store} {key : String} {entry : Entry}
    (found : store.find? key = some entry) (value : Value) :
    store.Changed key value ⟨replace ⟨entry.descriptor, value⟩ store.entries⟩ := by
  obtain ⟨member, rfl⟩ := find?_some found
  constructor
  · exact descriptor?_replace found value
  · have registered : entry.key ∈ store.entries.map (·.key) := List.mem_map_of_mem member
    have replaced := @find?_replace_self ⟨entry.descriptor, value⟩ store.entries registered
    exact congrArg (Option.map (·.value)) replaced
  · intro other different
    have kept := @find?_replace_of_ne ⟨entry.descriptor, value⟩ other different store.entries
    exact congrArg (Option.map (·.value)) kept

theorem changed_of_set {store next : Store} {key : String} {value : Value}
    (stored : store.set key value = .ok next) : store.Changed key value next := by
  obtain ⟨entry, found, -, rfl⟩ := (set_eq_ok_iff store next key value).mp stored
  exact changed_replace found value

theorem Consistent.reset {store next : Store} {key : String} (consistent : store.Consistent)
    (reset : store.reset key = .ok next) : next.Consistent := by
  obtain ⟨entry, found, rfl⟩ := (reset_eq_ok_iff store next key).mp reset
  have valid := consistent.valid entry (find?_some found).1
  have accepted := ((Descriptor.validate_eq_ok_iff entry.descriptor).mp valid).2.2
  exact consistent.replace valid accepted

theorem sameDescriptors_apply (values : List (String × Json.Value)) : ∀ store : Store,
    (store.apply values).1.SameDescriptors store := by
  induction values with
  | nil => intro store key; rfl
  | cons member rest ih =>
      intro store other
      obtain ⟨key, raw⟩ := member
      rw [apply]
      cases applied : store.applyValue key raw with
      | error error => exact ih store other
      | ok next =>
          obtain ⟨value, -, stored⟩ := (applyValue_eq_ok_iff store next key raw).mp applied
          exact (ih next other).trans ((changed_of_set stored).descriptors other)

/-! Texts. -/

def Takes (store : Store) (key raw : String) (value : Value) : Prop :=
  ∃ kind, store.kind? key = some kind ∧ kind.read? raw = some value ∧ kind.accepts value = true

theorem Takes.unique {store : Store} {key raw : String} {first second : Value}
    (one : store.Takes key raw first) (other : store.Takes key raw second) : first = second := by
  obtain ⟨kind, declared, read, -⟩ := one
  obtain ⟨same, declaredToo, readToo, -⟩ := other
  obtain rfl := Option.some.inj (declared.symm.trans declaredToo)
  exact Option.some.inj (read.symm.trans readToo)

theorem SameKinds.takes_iff {first second : Store} (same : first.SameKinds second)
    (key raw : String) (value : Value) :
    first.Takes key raw value ↔ second.Takes key raw value := by
  simp only [Takes, same key]

theorem setText_eq_ok_iff (store next : Store) (key raw : String) :
    store.setText key raw = .ok next ↔
      ∃ value, store.Takes key raw value ∧ store.set key value = .ok next := by
  unfold setText
  cases declared : store.descriptor? key with
  | none => simp [Takes, kind?, declared]
  | some descriptor =>
      have kind : store.kind? key = some descriptor.kind := by rw [kind?, declared]; rfl
      cases read : descriptor.kind.read? raw with
      | none => simp [readFor, Takes, kind, read]
      | some value =>
          simp only [readFor, Takes, kind, read, Option.some.injEq, exists_eq_left']
          constructor
          · intro stored
            obtain ⟨entry, found, accepted, -⟩ := (set_eq_ok_iff store next key value).mp stored
            rw [descriptor?, found] at declared
            obtain rfl := Option.some.inj declared
            exact ⟨value, ⟨rfl, accepted⟩, stored⟩
          · rintro ⟨_, ⟨rfl, -⟩, stored⟩
            exact stored

theorem exists_setText {store : Store} {key raw : String} {value : Value}
    (takes : store.Takes key raw value) : ∃ next, store.setText key raw = .ok next := by
  obtain ⟨kind, declared, read, accepted⟩ := takes
  obtain ⟨next, stored, -⟩ := set_accepted declared accepted
  exact ⟨next, (setText_eq_ok_iff store next key raw).mpr
    ⟨value, ⟨kind, declared, read, accepted⟩, stored⟩⟩

end ArtifactTools.Settings.Store
