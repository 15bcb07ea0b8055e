import ArtifactTools.Proofs.Registry.Requests

/-! Insertions. Under the lock of its registry an insertion makes two checks and then three writes.
It is either refused before the first write, for its id sooner than for its name, or it makes them
all. Then the new entry stands last, and whatever does not ask for it is answered as before. -/

namespace ArtifactTools

namespace Registry

def extended (registry : Registry) (transformer : Transformer) : Registry :=
  { registry with
    entries := registry.entries ++ [transformer]
    byId := (transformer.id, registry.size) :: registry.byId
    byName := (transformer.name, registry.size) :: registry.byName }

/-- How far an insertion has come. What is written stays written, whatever comes after it. -/
inductive Insertion where
  | checksId
  | checksName
  | writesEntry
  | writesId (index : Nat)
  | writesName (index : Nat)
  | ended (answer : Except TransformerError Ref)

namespace Insertion

def step (transformer : Transformer) (registry : Registry) : Insertion → Registry × Insertion
  | .checksId =>
      if registry.containsId transformer.id then
        (registry, .ended (.error (.duplicateIdentifier transformer.id)))
      else (registry, .checksName)
  | .checksName =>
      if registry.containsName transformer.name then
        (registry, .ended (.error (.duplicateName transformer.name)))
      else (registry, .writesEntry)
  | .writesEntry =>
      ({ registry with entries := registry.entries ++ [transformer] }, .writesId registry.size)
  | .writesId index =>
      ({ registry with byId := (transformer.id, index) :: registry.byId }, .writesName index)
  | .writesName index =>
      ({ registry with byName := (transformer.name, index) :: registry.byName },
        .ended (.ok (registry.refOf index transformer)))
  | .ended answer => (registry, .ended answer)

def course (transformer : Transformer) (registry : Registry) : Nat → Registry × Insertion
  | 0 => (registry, .checksId)
  | steps + 1 =>
      let (current, insertion) := course transformer registry steps
      insertion.step transformer current

def Passes (transformer : Transformer) (registry : Registry) : Prop :=
  registry.containsId transformer.id = false ∧ registry.containsName transformer.name = false

inductive Reaches (transformer : Transformer) (registry : Registry) : Registry → Insertion → Prop
  | checksId : Reaches transformer registry registry .checksId
  | checksName : registry.containsId transformer.id = false →
      Reaches transformer registry registry .checksName
  | writesEntry : Passes transformer registry → Reaches transformer registry registry .writesEntry
  | writesId : Passes transformer registry →
      Reaches transformer registry
        { registry with entries := registry.entries ++ [transformer] } (.writesId registry.size)
  | writesName : Passes transformer registry →
      Reaches transformer registry
        { registry with
          entries := registry.entries ++ [transformer]
          byId := (transformer.id, registry.size) :: registry.byId } (.writesName registry.size)
  | refused {error} : registry.insert transformer = .error error →
      Reaches transformer registry registry (.ended (.error error))
  | accepted {ref next} : registry.insert transformer = .ok (ref, next) →
      Reaches transformer registry next (.ended (.ok ref))

def remaining : Insertion → Nat
  | .checksId => 5
  | .checksName => 4
  | .writesEntry => 3
  | .writesId _ => 2
  | .writesName _ => 1
  | .ended _ => 0

theorem remaining_step (transformer : Transformer) (registry : Registry) (insertion : Insertion) :
    (insertion.step transformer registry).2.remaining ≤ insertion.remaining - 1 := by
  cases insertion with
  | checksId => by_cases taken : registry.containsId transformer.id <;> simp [step, taken, remaining]
  | checksName =>
      by_cases taken : registry.containsName transformer.name <;> simp [step, taken, remaining]
  | _ => simp [step, remaining]

theorem remaining_course (transformer : Transformer) (registry : Registry) (steps : Nat) :
    (course transformer registry steps).2.remaining ≤ 5 - steps := by
  induction steps with
  | zero => exact Nat.le_refl _
  | succ steps ih =>
      have less := remaining_step transformer (course transformer registry steps).1
        (course transformer registry steps).2
      simp only [course]
      omega

theorem exists_ended {steps : Nat} (enough : 5 ≤ steps) (transformer : Transformer)
    (registry : Registry) :
    ∃ answer, (course transformer registry steps).2 = .ended answer := by
  have left := remaining_course transformer registry steps
  cases reached : (course transformer registry steps).2 with
  | ended answer => exact ⟨answer, rfl⟩
  | _ =>
      rw [reached] at left
      simp only [remaining] at left
      omega

section

variable {transformer : Transformer} {registry : Registry}

theorem insert_of_takenId (taken : registry.containsId transformer.id = true) :
    registry.insert transformer = .error (.duplicateIdentifier transformer.id) := by
  simp [insert, taken]

theorem insert_of_takenName (fresh : registry.containsId transformer.id = false)
    (taken : registry.containsName transformer.name = true) :
    registry.insert transformer = .error (.duplicateName transformer.name) := by
  simp [insert, fresh, taken]

theorem Passes.insert (passes : Passes transformer registry) :
    registry.insert transformer =
      .ok (registry.refOf registry.size transformer, registry.extended transformer) :=
  (insert_eq_ok_iff _ _ _ _).mpr ⟨passes.1, passes.2, rfl, rfl⟩

theorem Reaches.step {current : Registry} {insertion : Insertion}
    (reaches : Reaches transformer registry current insertion) :
    Reaches transformer registry (insertion.step transformer current).1
      (insertion.step transformer current).2 := by
  cases reaches with
  | checksId =>
      cases taken : registry.containsId transformer.id with
      | true => simpa [Insertion.step, taken] using .refused (insert_of_takenId taken)
      | false => simpa [Insertion.step, taken] using .checksName taken
  | checksName fresh =>
      cases taken : registry.containsName transformer.name with
      | true => simpa [Insertion.step, taken] using .refused (insert_of_takenName fresh taken)
      | false => simpa [Insertion.step, taken] using .writesEntry ⟨fresh, taken⟩
  | writesEntry passes => exact .writesId passes
  | writesId passes => exact .writesName passes
  | writesName passes => exact .accepted passes.insert
  | refused same => exact .refused same
  | accepted same => exact .accepted same

theorem reaches_course (transformer : Transformer) (registry : Registry) (steps : Nat) :
    Reaches transformer registry (course transformer registry steps).1
      (course transformer registry steps).2 := by
  induction steps with
  | zero => exact .checksId
  | succ steps ih => exact ih.step

/-- A refused insertion writes nothing at any moment. -/
theorem Reaches.eq_of_refused {current : Registry} {insertion : Insertion} {error : TransformerError}
    (reaches : Reaches transformer registry current insertion)
    (refused : registry.insert transformer = .error error) : current = registry := by
  cases reaches with
  | writesId passes => rw [passes.insert] at refused; cases refused
  | writesName passes => rw [passes.insert] at refused; cases refused
  | accepted same => rw [same] at refused; cases refused
  | _ => rfl

/-- At its end an insertion has come to what `insert` says. -/
theorem Reaches.ended {current : Registry} {answer : Except TransformerError Ref}
    (reaches : Reaches transformer registry current (.ended answer)) :
    (∃ error, registry.insert transformer = .error error ∧ answer = .error error ∧
      current = registry) ∨
    ∃ ref, registry.insert transformer = .ok (ref, current) ∧ answer = .ok ref := by
  cases reaches with
  | refused same => exact Or.inl ⟨_, same, rfl, rfl⟩
  | accepted same => exact Or.inr ⟨_, same, rfl⟩

theorem course_eq {steps : Nat} (enough : 5 ≤ steps) (transformer : Transformer)
    (registry : Registry) :
    course transformer registry steps =
      match registry.insert transformer with
      | .error error => (registry, .ended (.error error))
      | .ok (ref, next) => (next, .ended (.ok ref)) := by
  have reaches := reaches_course transformer registry steps
  obtain ⟨answer, ended⟩ := exists_ended enough transformer registry
  rw [ended] at reaches
  rcases reaches.ended with ⟨error, refused, rfl, same⟩ | ⟨ref, accepted, rfl⟩
  · rw [refused]
    exact Prod.ext same ended
  · rw [accepted]
    exact Prod.ext rfl ended

end

end Insertion

/-! What one more entry changes. -/

theorem selectFrom_append (registry : Registry) (accepts : Transformer → Bool)
    (entries more : List Transformer) : ∀ start,
    registry.selectFrom accepts start (entries ++ more) =
      registry.selectFrom accepts start entries ++
        registry.selectFrom accepts (start + entries.length) more := by
  induction entries with
  | nil => intro start; rfl
  | cons first rest ih =>
      intro start
      have place : start + 1 + rest.length = start + (first :: rest).length := by
        simp only [List.length_cons]
        omega
      by_cases accepted : accepts first = true
      · simp only [List.cons_append, selectFrom, accepted, if_true, ih, place]
      · simp only [List.cons_append, selectFrom, accepted, ih, place, Bool.false_eq_true, if_false]

theorem selectFrom_of_number_eq {registry next : Registry} (same : next.number = registry.number)
    (accepts : Transformer → Bool) (entries : List Transformer) : ∀ start,
    next.selectFrom accepts start entries = registry.selectFrom accepts start entries := by
  induction entries with
  | nil => intro start; rfl
  | cons first rest ih =>
      intro start
      simp only [selectFrom, ih, refOf, same]

structure Enters (registry : Registry) (transformer : Transformer) (ref : Ref) (next : Registry) :
    Prop where
  entries : next.entries = registry.entries ++ [transformer]
  number : next.number = registry.number
  issued : ref = registry.refOf registry.size transformer
  findById : next.findById? transformer.id = some ref
  findByName : next.findByName? transformer.name = some ref
  follow : registry.size < UInt32.size → next.get? ref.handle = some ref
  otherIds : ∀ id, id ≠ transformer.id → next.findById? id = registry.findById? id ∧
    next.containsId id = registry.containsId id
  otherNames : ∀ name, name ≠ transformer.name → next.findByName? name = registry.findByName? name ∧
    next.containsName name = registry.containsName name
  otherHandles : ∀ handle, handle ≠ ref.handle → next.get? handle = registry.get? handle
  kept : ∀ handle found, registry.get? handle = some found → next.get? handle = some found
  selected : ∀ accepts, next.allMatching accepts =
    registry.allMatching accepts ++ if accepts transformer then [ref] else []

section

variable {registry : Registry} {transformer : Transformer}

theorem refAt?_extended_size (registry : Registry) (transformer : Transformer) :
    (registry.extended transformer).refAt? registry.size =
      some (registry.refOf registry.size transformer) := by
  simp [refAt?, extended, size, refOf]

theorem refAt?_extended_of_ne (registry : Registry) (transformer : Transformer) {index : Nat}
    (different : index ≠ registry.size) :
    (registry.extended transformer).refAt? index = registry.refAt? index := by
  have same : (registry.entries ++ [transformer])[index]? = registry.entries[index]? := by
    by_cases within : index < registry.entries.length
    · rw [List.getElem?_append_left within]
    · have outside : index ≠ registry.entries.length := different
      have beyond : (registry.entries ++ [transformer]).length ≤ index := by
        rw [List.length_append, List.length_singleton]
        omega
      rw [List.getElem?_eq_none beyond, List.getElem?_eq_none (Nat.le_of_not_lt within)]
  simp only [refAt?, extended, same]
  rfl

theorem lt_size_of_refAt? {index : Nat} {ref : Ref} (found : registry.refAt? index = some ref) :
    index < registry.size := by
  obtain ⟨other, holds, -⟩ := Option.map_eq_some_iff.mp found
  exact Holds.lt_size holds

theorem bind_refAt?_extended {textOf : Transformer → String} {index : List (String × Nat)}
    (leads : ∀ text place,
      index.lookup text = some place ↔ (registry.entries.map textOf)[place]? = some text)
    (transformer : Transformer) (text : String) :
    (index.lookup text).bind (registry.extended transformer).refAt? =
      (index.lookup text).bind registry.refAt? := by
  cases led : index.lookup text with
  | none => rfl
  | some place =>
      have bound : place < (registry.entries.map textOf).length :=
        (List.getElem?_eq_some_iff.mp ((leads text place).mp led)).1
      rw [List.length_map] at bound
      exact refAt?_extended_of_ne registry transformer (Nat.ne_of_lt bound)

theorem get?_extended_of_ne (registry : Registry) (transformer : Transformer) {handle : Handle}
    (different : handle ≠ (registry.refOf registry.size transformer).handle) :
    (registry.extended transformer).get? handle = registry.get? handle := by
  have number : (registry.extended transformer).number = registry.number := rfl
  simp only [get?, number]
  by_cases own : handle.registry = registry.number
  · have elsewhere : handle.index.toNat ≠ registry.size := by
      intro here
      apply different
      have index : handle.index = UInt32.ofNat registry.size := by rw [← here, UInt32.ofNat_toNat]
      cases handle
      simp_all [refOf]
    simp only [own, if_true, refAt?_extended_of_ne registry transformer elsewhere]
  · simp only [own, if_false]

theorem get?_extended_of_some (transformer : Transformer) {handle : Handle} {found : Ref}
    (known : registry.get? handle = some found) :
    (registry.extended transformer).get? handle = some found := by
  have number : (registry.extended transformer).number = registry.number := rfl
  unfold get? at known ⊢
  rw [number]
  split at known
  · next own =>
      have bound := lt_size_of_refAt? known
      rw [if_pos own, refAt?_extended_of_ne registry transformer (Nat.ne_of_lt bound)]
      exact known
  · cases known

theorem Indexed.enters (indexed : registry.Indexed) (transformer : Transformer) :
    registry.Enters transformer (registry.refOf registry.size transformer)
      (registry.extended transformer) := by
  have last := refAt?_extended_size registry transformer
  constructor
  · rfl
  · rfl
  · rfl
  · simpa [findById?, extended] using last
  · simpa [findByName?, extended] using last
  · intro fits
    have back : (UInt32.ofNat registry.size).toNat = registry.size := UInt32.toNat_ofNat_of_lt fits
    simpa [get?, extended, refOf, back] using last
  · intro id different
    have other : (id == transformer.id) = false := by simpa using different
    have led : (registry.extended transformer).byId.lookup id = registry.byId.lookup id := by
      simp only [extended, List.lookup_cons, other]
    simp only [findById?, containsId, led, and_true]
    exact bind_refAt?_extended indexed.byId transformer id
  · intro name different
    have other : (name == transformer.name) = false := by simpa using different
    have led : (registry.extended transformer).byName.lookup name = registry.byName.lookup name := by
      simp only [extended, List.lookup_cons, other]
    simp only [findByName?, containsName, led, and_true]
    exact bind_refAt?_extended indexed.byName transformer name
  · intro handle different
    exact get?_extended_of_ne registry transformer different
  · intro handle found known
    exact get?_extended_of_some transformer known
  · intro accepts
    have number : (registry.extended transformer).number = registry.number := rfl
    simp only [allMatching, selectFrom_of_number_eq number]
    simp only [extended, selectFrom_append, selectFrom, Nat.zero_add]
    rfl

structure Atomic (registry : Registry) (transformer : Transformer) : Prop where
  takenId : ∀ id, registry.insert transformer = .error (.duplicateIdentifier id) ↔
    id = transformer.id ∧ transformer.id ∈ registry.ids
  takenName : ∀ name, registry.insert transformer = .error (.duplicateName name) ↔
    name = transformer.name ∧ transformer.id ∉ registry.ids ∧ transformer.name ∈ registry.names
  free : (∃ ref next, registry.insert transformer = .ok (ref, next)) ↔
    transformer.id ∉ registry.ids ∧ transformer.name ∉ registry.names
  refused : ∀ error, registry.insert transformer = .error error → ∀ steps,
    (Insertion.course transformer registry steps).1 = registry ∧
      (5 ≤ steps → (Insertion.course transformer registry steps).2 = .ended (.error error))
  accepted : ∀ ref next, registry.insert transformer = .ok (ref, next) →
    registry.Enters transformer ref next ∧ ∀ steps, 5 ≤ steps →
      Insertion.course transformer registry steps = (next, .ended (.ok ref))

structure Knows (registry : Registry) : Prop where
  ids : ∀ id, registry.containsId id = true ↔ id ∈ registry.ids
  names : ∀ name, registry.containsName name = true ↔ name ∈ registry.names

theorem Indexed.knows (indexed : registry.Indexed) : registry.Knows :=
  ⟨indexed.containsId_iff, indexed.containsName_iff⟩

theorem isSome_lookup_cons {index : List (String × Nat)} {texts : List String}
    (knows : ∀ text, (index.lookup text).isSome = true ↔ text ∈ texts) (new : String)
    (place : Nat) (text : String) :
    (((new, place) :: index).lookup text).isSome = true ↔ text ∈ texts ++ [new] := by
  by_cases same : text = new
  · simp [same]
  · have other : (text == new) = false := by simpa using same
    simp only [List.lookup_cons, other, knows, List.mem_append, List.mem_singleton, same, or_false]

theorem Knows.extended (knows : registry.Knows) (transformer : Transformer) :
    (registry.extended transformer).Knows := by
  constructor
  · intro id
    rw [Registry.ids, Registry.extended, List.map_append]
    exact isSome_lookup_cons knows.ids transformer.id registry.size id
  · intro name
    rw [Registry.names, Registry.extended, List.map_append]
    exact isSome_lookup_cons knows.names transformer.name registry.size name

theorem Knows.insert_cases (knows : registry.Knows) (transformer : Transformer) :
    (transformer.id ∈ registry.ids ∧
      registry.insert transformer = .error (.duplicateIdentifier transformer.id)) ∨
    (transformer.id ∉ registry.ids ∧ transformer.name ∈ registry.names ∧
      registry.insert transformer = .error (.duplicateName transformer.name)) ∨
    (transformer.id ∉ registry.ids ∧ transformer.name ∉ registry.names ∧
      registry.insert transformer =
        .ok (registry.refOf registry.size transformer, registry.extended transformer)) := by
  rw [← knows.ids, ← knows.names]
  cases knownId : registry.containsId transformer.id with
  | true => exact Or.inl ⟨rfl, Insertion.insert_of_takenId knownId⟩
  | false =>
      cases knownName : registry.containsName transformer.name with
      | true =>
          exact Or.inr (Or.inl ⟨by simp, rfl, Insertion.insert_of_takenName knownId knownName⟩)
      | false =>
          have passes : Insertion.Passes transformer registry := ⟨knownId, knownName⟩
          exact Or.inr (Or.inr ⟨by simp, by simp, passes.insert⟩)

theorem Knows.of_insert (knows : registry.Knows) {ref : Ref} {next : Registry}
    (inserted : registry.insert transformer = .ok (ref, next)) :
    transformer.id ∉ registry.ids ∧ transformer.name ∉ registry.names ∧
      ref = registry.refOf registry.size transformer ∧ next = registry.extended transformer := by
  rcases knows.insert_cases transformer with ⟨-, answer⟩ | ⟨-, -, answer⟩ |
    ⟨freshId, freshName, answer⟩
  · rw [inserted] at answer
    cases answer
  · rw [inserted] at answer
    cases answer
  · rw [inserted, Except.ok.injEq, Prod.mk.injEq] at answer
    exact ⟨freshId, freshName, answer⟩

theorem Indexed.atomic (indexed : registry.Indexed) (transformer : Transformer) :
    registry.Atomic transformer := by
  have ways := indexed.knows.insert_cases transformer
  constructor
  · intro id
    rcases ways with ⟨taken, answer⟩ | ⟨fresh, -, answer⟩ | ⟨fresh, -, answer⟩
    · simp [answer, taken, eq_comm]
    · simp [answer, fresh]
    · simp [answer, fresh]
  · intro name
    rcases ways with ⟨taken, answer⟩ | ⟨fresh, taken, answer⟩ | ⟨fresh, free, answer⟩
    · simp [answer, taken]
    · simp [answer, fresh, taken, eq_comm]
    · simp [answer, free]
  · rcases ways with ⟨taken, answer⟩ | ⟨-, taken, answer⟩ | ⟨fresh, free, answer⟩
    · simp [answer, taken]
    · simp [answer, taken]
    · simp [answer, fresh, free]
  · intro error refused steps
    have reaches := Insertion.reaches_course transformer registry steps
    refine ⟨reaches.eq_of_refused refused, ?_⟩
    intro enough
    rw [Insertion.course_eq enough, refused]
  · intro ref next inserted
    constructor
    · obtain ⟨-, -, rfl, rfl⟩ := indexed.knows.of_insert inserted
      exact indexed.enters transformer
    · intro steps enough
      rw [Insertion.course_eq enough, inserted]

end

/-- Whatever a registry that began empty has been asked, and whatever is to be inserted: the
insertion is refused for the id if that is taken, for the name if only that is taken, and is
accepted otherwise, wholly or not at all. -/
theorem insertion_atomic (number : UInt32) (requests : List Request) (transformer : Transformer) :
    ((empty number).run requests).Atomic transformer :=
  (sound_run_empty number requests).toIndexed.atomic transformer

end Registry

end ArtifactTools
