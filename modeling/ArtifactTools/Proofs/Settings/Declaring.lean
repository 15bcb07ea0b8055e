import ArtifactTools.Proofs.Settings.Locality
import Mathlib.Data.Finset.Card

/-! Lists of declarations. A store is made from a list unless one of its declarations is defective.
Where a key is declared several times, the first time decides its place and the last time what
stands there. -/

namespace ArtifactTools.Settings

namespace Store

/-! How far a list of declarations comes. -/

theorem registerAll_cons_of_valid {descriptor : Descriptor}
    (valid : descriptor.validate = .ok ()) (store : Store) (rest : List Descriptor) :
    store.registerAll (descriptor :: rest) =
      (store.put (.initial descriptor)).registerAll rest := by
  have registered := (register_eq_ok_iff store _ descriptor).mpr ⟨valid, rfl⟩
  simp only [registerAll, registered]

theorem registerAll_cons_of_invalid {descriptor : Descriptor} {error : TransformerError}
    (invalid : descriptor.validate = .error error) (store : Store) (rest : List Descriptor) :
    store.registerAll (descriptor :: rest) = .error error := by
  simp only [registerAll, register, invalid]

theorem registerAll_eq_error_iff (descriptors : List Descriptor) (error : TransformerError) :
    ∀ store : Store, store.registerAll descriptors = .error error ↔
      ∃ before descriptor after, descriptors = before ++ descriptor :: after ∧
        (∀ earlier ∈ before, earlier.validate = .ok ()) ∧ descriptor.validate = .error error := by
  induction descriptors with
  | nil => simp [registerAll]
  | cons first rest ih =>
      intro store
      constructor
      · intro refused
        cases checked : first.validate with
        | error cause =>
            rw [registerAll_cons_of_invalid checked, Except.error.injEq] at refused
            exact ⟨[], first, rest, rfl, by simp, refused ▸ checked⟩
        | ok =>
            rw [registerAll_cons_of_valid checked] at refused
            obtain ⟨before, descriptor, after, rfl, valid, invalid⟩ := (ih _).mp refused
            exact ⟨first :: before, descriptor, after, rfl, by simpa [checked] using valid, invalid⟩
      · rintro ⟨before, descriptor, after, divided, valid, invalid⟩
        cases before with
        | nil =>
            obtain ⟨rfl, rfl⟩ := List.cons.inj divided
            exact registerAll_cons_of_invalid invalid store rest
        | cons other others =>
            obtain ⟨rfl, rfl⟩ := List.cons.inj divided
            obtain ⟨firstValid, othersValid⟩ := List.forall_mem_cons.mp valid
            rw [registerAll_cons_of_valid firstValid]
            exact (ih _).mpr ⟨others, descriptor, after, rfl, othersValid, invalid⟩

theorem exists_registerAll_iff (descriptors : List Descriptor) : ∀ store : Store,
    (∃ next, store.registerAll descriptors = .ok next) ↔
      ∀ descriptor ∈ descriptors, descriptor.validate = .ok () := by
  induction descriptors with
  | nil => simp [registerAll]
  | cons first rest ih =>
      intro store
      cases checked : first.validate with
      | error error => simp [registerAll_cons_of_invalid checked, checked]
      | ok =>
          rw [registerAll_cons_of_valid checked, ih, List.forall_mem_cons]
          simp [checked]

/-! What stands in the store then. -/

def Untouched (store : Store) : Prop :=
  ∀ entry ∈ store.entries, entry.value = entry.descriptor.default

theorem Untouched.registerAll {descriptors : List Descriptor} : ∀ {store next : Store},
    store.Untouched → store.registerAll descriptors = .ok next → next.Untouched := by
  induction descriptors with
  | nil =>
      intro store next untouched registered
      obtain rfl := Except.ok.inj registered
      exact untouched
  | cons first rest ih =>
      intro store next untouched registered
      cases checked : first.validate with
      | error error =>
          rw [registerAll_cons_of_invalid checked] at registered
          cases registered
      | ok =>
          rw [registerAll_cons_of_valid checked] at registered
          refine ih ?_ registered
          intro entry member
          rcases mem_put member with rfl | old
          · rfl
          · exact untouched entry old

theorem Untouched.find? {store : Store} (untouched : store.Untouched) {key : String}
    {descriptor : Descriptor} (declared : store.descriptor? key = some descriptor) :
    store.find? key = some (.initial descriptor) := by
  obtain ⟨⟨other, value⟩, found, rfl⟩ := Option.map_eq_some_iff.mp declared
  have unchanged : value = other.default := untouched _ (find?_some found).1
  rw [found, unchanged, Entry.initial]

theorem Records.descriptor?_of_last {store : Store} {before after : List Descriptor}
    {descriptor : Descriptor} (records : store.Records (before ++ descriptor :: after))
    (last : ∀ later ∈ after, later.key ≠ descriptor.key) :
    store.descriptor? descriptor.key = some descriptor := by
  have passed : after.reverse.find? (fun later => later.key == descriptor.key) = none := by
    rw [List.find?_eq_none]
    intro later member
    simpa using last later (List.mem_reverse.mp member)
  rw [records.latest]
  simp [List.find?_append, passed]

theorem Records.size_eq {store : Store} {declared : List Descriptor}
    (records : store.Records declared) :
    store.size = (declared.map (·.key)).toFinset.card := by
  have size : store.size = store.keys.length := (List.length_map _).symm
  rw [size, ← List.toFinset_card_of_nodup records.consistent.distinct, records.ordered]
  congr 1
  ext key
  simp

structure MadeFrom (descriptors : List Descriptor)
    (result : Except TransformerError Store) : Prop where
  made : (∃ store, result = .ok store) ↔ ∀ descriptor ∈ descriptors, ¬ descriptor.IsDefective
  refused : ∀ error, result = .error error ↔
    ∃ before descriptor after, descriptors = before ++ descriptor :: after ∧
      (∀ earlier ∈ before, ¬ earlier.IsDefective) ∧ descriptor.validate = .error error
  keys : ∀ store, result = .ok store → store.keys = (descriptors.map (·.key)).eraseDups
  last : ∀ store, result = .ok store → ∀ before descriptor after,
    descriptors = before ++ descriptor :: after →
    (∀ later ∈ after, later.key ≠ descriptor.key) →
      store.find? descriptor.key = some (.initial descriptor)
  size : ∀ store, result = .ok store →
    store.size = (descriptors.map (·.key)).toFinset.card

/-- Whatever is declared, in whatever order and however often: the first defective declaration is
what is complained of, and without one the store holds each key where it was declared first and as
it was declared last. -/
theorem ofDescriptors_madeFrom (descriptors : List Descriptor) :
    MadeFrom descriptors (ofDescriptors descriptors) := by
  have records : ∀ store, ofDescriptors descriptors = .ok store → store.Records descriptors :=
    fun store built => records_empty.registerAll built
  constructor
  · simp only [Descriptor.isDefective_iff, ne_eq, not_not]
    exact exists_registerAll_iff descriptors empty
  · intro error
    simp only [Descriptor.isDefective_iff, ne_eq, not_not]
    exact registerAll_eq_error_iff descriptors error empty
  · exact fun store built => (records store built).ordered
  · rintro store built before descriptor after rfl last
    have untouched : store.Untouched :=
      Untouched.registerAll (fun _ member => absurd member List.not_mem_nil) built
    exact untouched.find? ((records store built).descriptor?_of_last last)
  · exact fun store built => (records store built).size_eq

end Store

end ArtifactTools.Settings
