import ArtifactTools.Proofs.Settings.Consistency
import ArtifactTools.Proofs.Settings.Persistence

/-! A snapshot of a store holds its values under its keys, and a store with the same declarations
takes all of it over. -/

namespace ArtifactTools.Settings

/-! Values as JSON. -/

theorem Value.ofInt?_toInt (value : Int64) : Value.ofInt? value.toInt = some (.integer value) := by
  have lower := Int64.le_toInt value
  have upper := Int64.toInt_lt value
  unfold Value.ofInt?
  rw [Int64.ofInt_toInt, if_pos]
  exact ⟨lower, upper⟩

theorem Value.ofJson?_toJson (value : Value) : Value.ofJson? value.toJson = some value := by
  cases value with
  | bool content => rfl
  | integer content => exact Value.ofInt?_toInt content
  | text content => rfl

theorem Value.legible_toJson (value : Value) (budget : Nat) : value.toJson.Legible budget := by
  cases value with
  | bool content => exact .bool budget content
  | integer content =>
      have lower := Int64.le_toInt content
      have upper := Int64.toInt_lt content
      exact .whole budget ⟨lower, Int.lt_trans upper (by decide)⟩
  | text content => exact .string budget content

theorem Value.doubleFree_toJson (value : Value) : value.toJson.DoubleFree := by
  cases value with
  | bool content => exact .bool content
  | integer content => exact .whole content.toInt
  | text content => exact .string content

namespace Store

/-! What a snapshot holds. -/

theorem mem_snapshot {store : Store} {member : String × Json.Value}
    (kept : member ∈ store.snapshot.entries) :
    ∃ entry ∈ store.entries, member = (entry.key, entry.value.toJson) := by
  obtain ⟨entry, present, same⟩ := List.mem_map.mp (Dictionary.mem_of_mem_ofList kept)
  exact ⟨entry, present, same.symm⟩

theorem Consistent.snapshot_perm {store : Store} (consistent : store.Consistent) :
    store.snapshot.entries.Perm
      (store.entries.map fun entry => (entry.key, entry.value.toJson)) := by
  refine Dictionary.ofList_perm ?_
  rw [List.map_map]
  exact consistent.distinct

theorem Consistent.get?_snapshot {store : Store} (consistent : store.Consistent) (key : String) :
    store.snapshot.get? key = (store.get? key).map Value.toJson := by
  have perm := consistent.snapshot_perm
  cases found : store.find? key with
  | none =>
      rw [get?, found, Option.map_none, Option.map_none, Option.eq_none_iff_forall_ne_some]
      intro value held
      obtain ⟨entry, present, same⟩ :=
        mem_snapshot ((Dictionary.get?_eq_some_iff _ _ _).mp held)
      obtain rfl : key = entry.key := congrArg Prod.fst same
      rw [consistent.find?_of_mem present] at found
      cases found
  | some entry =>
      obtain ⟨member, rfl⟩ := find?_some found
      rw [get?, found, Option.map_some, Option.map_some,
        Dictionary.get?_eq_some_iff, perm.mem_iff]
      exact List.mem_map_of_mem member

theorem snapshot_legible (store : Store) (budget : Nat) :
    ∀ member ∈ store.snapshot.entries, member.2.Legible budget := by
  intro member kept
  obtain ⟨entry, -, rfl⟩ := mem_snapshot kept
  exact entry.value.legible_toJson budget

theorem snapshot_doubleFree (store : Store) :
    ∀ member ∈ store.snapshot.entries, member.2.DoubleFree := by
  intro member kept
  obtain ⟨entry, -, rfl⟩ := mem_snapshot kept
  exact entry.value.doubleFree_toJson

/-! Taking over a snapshot. -/

def kind? (store : Store) (key : String) : Option Kind := (store.descriptor? key).map (·.kind)

def SameKinds (first second : Store) : Prop := ∀ key, first.kind? key = second.kind? key

theorem kind?_eq_some_iff (store : Store) (key : String) (kind : Kind) :
    store.kind? key = some kind ↔
      ∃ entry, store.find? key = some entry ∧ entry.descriptor.kind = kind := by
  simp [kind?, descriptor?]

theorem isSome_get? (store : Store) (key : String) :
    (store.get? key).isSome = (store.kind? key).isSome := by
  simp [get?, kind?, descriptor?]

theorem Consistent.accepts {store : Store} (consistent : store.Consistent) {key : String}
    {value : Value} (held : store.get? key = some value) :
    ∃ kind, store.kind? key = some kind ∧ kind.accepts value = true := by
  obtain ⟨entry, found, rfl⟩ := Option.map_eq_some_iff.mp held
  exact ⟨entry.descriptor.kind, (kind?_eq_some_iff store key _).mpr ⟨entry, found, rfl⟩,
    consistent.accepted entry (find?_some found).1⟩

theorem set_accepted {store : Store} {key : String} {kind : Kind} {value : Value}
    (declared : store.kind? key = some kind) (accepted : kind.accepts value = true) :
    ∃ next, store.set key value = .ok next ∧ next.SameKinds store ∧ next.get? key = some value ∧
      ∀ other, other ≠ key → next.get? other = store.get? other := by
  obtain ⟨entry, found, rfl⟩ := (kind?_eq_some_iff store key kind).mp declared
  obtain ⟨member, rfl⟩ := find?_some found
  refine ⟨_, (set_eq_ok_iff store _ entry.key value).mpr ⟨entry, found, accepted, rfl⟩,
    ?_, ?_, ?_⟩
  · intro other
    exact congrArg (Option.map (·.kind)) (descriptor?_replace found value other)
  · have registered : entry.key ∈ store.entries.map (·.key) := List.mem_map_of_mem member
    have replaced := @find?_replace_self ⟨entry.descriptor, value⟩ store.entries registered
    exact congrArg (Option.map (·.value)) replaced
  · intro other different
    have kept := @find?_replace_of_ne ⟨entry.descriptor, value⟩ other different store.entries
    exact congrArg (Option.map (·.value)) kept

theorem apply_accepted {values : List (String × Json.Value)} : ∀ {store : Store},
    Dictionary.Ordered values →
    (∀ member ∈ values, ∃ value kind, Value.ofJson? member.2 = some value ∧
      store.kind? member.1 = some kind ∧ kind.accepts value = true) →
    (store.apply values).2 = [] ∧ (store.apply values).1.SameKinds store ∧
      ∀ key, (store.apply values).1.get? key =
        match values.lookup key with
        | some raw => Value.ofJson? raw
        | none => store.get? key := by
  -- The store stays general: each value changes it, but none of the kinds in it.
  induction values with
  | nil => exact fun _ _ => ⟨rfl, fun _ => rfl, fun _ => rfl⟩
  | cons member rest ih =>
      intro store ordered accepted
      obtain ⟨key, raw⟩ := member
      obtain ⟨beyond, orderedRest⟩ := List.pairwise_cons.mp ordered
      obtain ⟨value, kind, read, declared, accepts⟩ := accepted _ List.mem_cons_self
      obtain ⟨next, stored, sameKinds, held, others⟩ := set_accepted declared accepts
      have applied : store.applyValue key raw = .ok next :=
        (applyValue_eq_ok_iff store next key raw).mpr ⟨value, read, stored⟩
      have acceptedRest : ∀ member ∈ rest, ∃ value kind, Value.ofJson? member.2 = some value ∧
          next.kind? member.1 = some kind ∧ kind.accepts value = true := by
        intro member later
        obtain ⟨value, kind, read, declared, accepts⟩ :=
          accepted member (List.mem_cons_of_mem _ later)
        exact ⟨value, kind, read, (sameKinds member.1).trans declared, accepts⟩
      obtain ⟨silent, kinds, values⟩ := ih orderedRest acceptedRest
      have taken : store.apply ((key, raw) :: rest) = next.apply rest := by
        rw [apply, applied]
      rw [taken]
      refine ⟨silent, fun other => (kinds other).trans (sameKinds other), ?_⟩
      intro other
      rw [values other]
      by_cases same : other = key
      · subst same
        simp [Dictionary.lookup_eq_none_of_lt beyond, held, read]
      · simp [List.lookup_cons, beq_false_of_ne same, others other same]

/-- A store with the same declarations takes over all values of a snapshot. -/
theorem Consistent.apply_snapshot {store other : Store} (consistent : store.Consistent)
    (same : other.SameKinds store) :
    (other.apply store.snapshot.entries).2 = [] ∧
      (other.apply store.snapshot.entries).1.SameKinds other ∧
        ∀ key, (other.apply store.snapshot.entries).1.get? key = store.get? key := by
  have accepted : ∀ member ∈ store.snapshot.entries, ∃ value kind,
      Value.ofJson? member.2 = some value ∧ other.kind? member.1 = some kind ∧
        kind.accepts value = true := by
    intro member kept
    obtain ⟨entry, present, rfl⟩ := mem_snapshot kept
    have held : store.get? entry.key = some entry.value := by
      rw [get?, consistent.find?_of_mem present, Option.map_some]
    obtain ⟨kind, declared, accepts⟩ := consistent.accepts held
    exact ⟨entry.value, kind, Value.ofJson?_toJson entry.value, (same entry.key).trans declared,
      accepts⟩
  obtain ⟨silent, kinds, values⟩ := apply_accepted store.snapshot.ordered accepted
  refine ⟨silent, kinds, ?_⟩
  intro key
  rw [values key, ← Dictionary.get?, consistent.get?_snapshot key]
  cases held : store.get? key with
  | some value => exact Value.ofJson?_toJson value
  | none =>
      have undeclared := isSome_get? store key
      rw [held, ← same key, ← isSome_get? other key] at undeclared
      simpa using undeclared.symm

end Store

end ArtifactTools.Settings
