import ArtifactTools.Proofs.Registry.Exports
import ArtifactTools.Registry.Builder

/-! An import reaches the transformer under each id once. What one registry exports, another with
the same declarations takes over without a problem, and exports again. -/

namespace ArtifactTools.Registry

theorem Indexed.settingsOf?_eq_some_iff {registry : Registry} (indexed : registry.Indexed)
    (id : String) (store : Settings.Store) :
    registry.settingsOf? id = some store ↔
      ∃ index transformer, registry.Holds index transformer ∧ transformer.id = id ∧
        transformer.store = store := by
  refine ⟨indexed.settingsOf?_eq_some, ?_⟩
  rintro ⟨index, transformer, holds, rfl, rfl⟩
  exact indexed.settingsOf?_of_holds holds

theorem Indexed.withStore {registry : Registry} (indexed : registry.Indexed) (index : Nat)
    (store : Settings.Store) : (registry.withStore index store).Indexed :=
  indexed.of_bare_eq (bare_withStore registry index store)

theorem Indexed.settingsOf?_withStore {registry : Registry} (indexed : registry.Indexed)
    {index : Nat} {transformer : Transformer} (holds : registry.Holds index transformer)
    (store : Settings.Store) (id : String) :
    (registry.withStore index store).settingsOf? id =
      if id = transformer.id then some store else registry.settingsOf? id := by
  have indexedNext := indexed.withStore index store
  have holdsNext := holds_withStore_self holds store
  by_cases same : id = transformer.id
  · subst same
    rw [if_pos rfl]
    exact indexedNext.settingsOf?_of_holds holdsNext
  · rw [if_neg same]
    apply Option.ext
    intro other
    rw [indexedNext.settingsOf?_eq_some_iff, indexed.settingsOf?_eq_some_iff]
    constructor
    · rintro ⟨place, found, holdsFound, rfl, rfl⟩
      have different : place ≠ index := by
        rintro rfl
        obtain rfl := Option.some.inj (holdsFound.symm.trans holdsNext)
        exact same rfl
      exact ⟨place, found, (holds_withStore_of_ne different store found).mp holdsFound, rfl, rfl⟩
    · rintro ⟨place, found, holdsFound, rfl, rfl⟩
      have different : place ≠ index := by
        rintro rfl
        obtain rfl := Option.some.inj (holdsFound.symm.trans holds)
        exact same rfl
      exact ⟨place, found, (holds_withStore_of_ne different store found).mpr holdsFound, rfl, rfl⟩

/-! What an import does, id by id. -/

def applied (members : Option Json.Members) (store : Settings.Store) : Settings.Store :=
  match members with
  | some members => (store.apply members.entries).1
  | none => store

def refused (registry : Registry) (entry : String × Json.Members) :
    List (String × SettingsError) :=
  match registry.settingsOf? entry.1 with
  | some store => (store.apply entry.2.entries).2.map fun error => (entry.1, error)
  | none => []

theorem importSettings_unknown {registry : Registry} {id : String}
    (unknown : registry.settingsOf? id = none) (members : Json.Members)
    (rest : List (String × Json.Members)) :
    registry.importSettings ((id, members) :: rest) = registry.importSettings rest := by
  simp only [importSettings, indexOf?]
  split
  · rfl
  · next index transformer found =>
      obtain ⟨place, led, there⟩ := Option.bind_eq_some_iff.mp found
      obtain ⟨entry, present, -⟩ := Option.map_eq_some_iff.mp there
      have reference : registry.findById? id = some (registry.refOf place entry) := by
        rw [findById?, led, Option.bind_some, Holds.refAt? present]
      rw [settingsOf?, reference] at unknown
      cases unknown

theorem importSettings_known {registry : Registry} (indexed : registry.Indexed) {index : Nat}
    {transformer : Transformer} (holds : registry.Holds index transformer)
    (members : Json.Members) (rest : List (String × Json.Members)) :
    registry.importSettings ((transformer.id, members) :: rest) =
      let next := registry.withStore index (transformer.store.apply members.entries).1
      ((next.importSettings rest).1,
        registry.refused (transformer.id, members) ++ (next.importSettings rest).2) := by
  have led := (indexed.byId transformer.id index).mpr holds.getElem?_ids
  have present : registry.entries[index]? = some transformer := holds
  simp only [importSettings, indexOf?, led, present, Option.bind_some, Option.map_some, refused,
    indexed.settingsOf?_of_holds holds]

theorem Indexed.importSettings {entries : List (String × Json.Members)} :
    ∀ {registry : Registry}, registry.Indexed → Dictionary.Ordered entries →
      (registry.importSettings entries).2 = entries.flatMap registry.refused ∧
        ∀ id, (registry.importSettings entries).1.settingsOf? id =
          (registry.settingsOf? id).map (applied (entries.lookup id)) := by
  -- The registry stays general: each entry changes it. What an entry changed no later one reaches,
  -- as their ids are greater.
  induction entries with
  | nil =>
      intro registry _ _
      refine ⟨rfl, ?_⟩
      intro id
      cases found : registry.settingsOf? id <;>
        simp [Registry.importSettings, applied, found]
  | cons entry rest ih =>
      intro registry indexed ordered
      obtain ⟨id, members⟩ := entry
      obtain ⟨beyond, orderedRest⟩ := List.pairwise_cons.mp ordered
      have absent := Dictionary.lookup_eq_none_of_lt beyond
      cases found : registry.settingsOf? id with
      | none =>
          obtain ⟨problems, settings⟩ := ih indexed orderedRest
          rw [importSettings_unknown found]
          refine ⟨?_, ?_⟩
          · rw [problems, List.flatMap_cons, refused, found]
            rfl
          · intro other
            rw [settings other]
            by_cases same : other = id
            · rw [same, found]
              rfl
            · rw [List.lookup_cons, beq_false_of_ne same]
      | some store =>
          obtain ⟨index, transformer, holds, rfl, rfl⟩ := indexed.settingsOf?_eq_some found
          obtain ⟨problems, settings⟩ := ih
            (indexed.withStore index (transformer.store.apply members.entries).1) orderedRest
          rw [importSettings_known indexed holds]
          have changed := indexed.settingsOf?_withStore holds
            (transformer.store.apply members.entries).1
          refine ⟨?_, ?_⟩
          · rw [List.flatMap_cons]
            refine congrArg _ (problems.trans (List.flatMap_congr ?_))
            intro entry later
            have different : entry.1 ≠ transformer.id :=
              Ne.symm (String.ne_of_lt (beyond entry later))
            rw [refused, refused, changed, if_neg different]
          · intro other
            simp only [settings other, changed other]
            by_cases same : other = transformer.id
            · subst same
              simp only [List.lookup_cons, beq_self_eq_true, absent, found, if_true]
              rfl
            · simp only [List.lookup_cons, beq_false_of_ne same, same, if_false]

/-! What one registry exports, another takes over. -/

/-- Under each id the registries both hold a transformer or both hold none, and those transformers
declare the same keys with the same kinds. -/
def SameDeclarations (first second : Registry) : Prop :=
  ∀ id key, (first.settingsOf? id).map (·.kind? key) = (second.settingsOf? id).map (·.kind? key)

theorem SameDeclarations.cases {first second : Registry} (same : first.SameDeclarations second)
    (id : String) :
    (first.settingsOf? id = none ∧ second.settingsOf? id = none) ∨
    (∃ one other, first.settingsOf? id = some one ∧ second.settingsOf? id = some other ∧
      one.SameKinds other) := by
  have declared := same id
  cases foundFirst : first.settingsOf? id with
  | none =>
      cases foundSecond : second.settingsOf? id with
      | none => exact Or.inl ⟨rfl, rfl⟩
      | some other =>
          rw [foundFirst, foundSecond] at declared
          cases declared ""
  | some one =>
      cases foundSecond : second.settingsOf? id with
      | none =>
          rw [foundFirst, foundSecond] at declared
          cases declared ""
      | some other =>
          rw [foundFirst, foundSecond] at declared
          exact Or.inr ⟨one, other, rfl, rfl, fun key => Option.some.inj (declared key)⟩

theorem exported?_of_values {first second : Settings.Store} (firstConsistent : first.Consistent)
    (secondConsistent : second.Consistent) (same : ∀ key, first.get? key = second.get? key) :
    exported? first = exported? second := by
  have snapshots : first.snapshot = second.snapshot := by
    refine Dictionary.eq_of_get?_eq ?_
    intro key
    rw [firstConsistent.get?_snapshot, secondConsistent.get?_snapshot, same]
  have sizes : first.size = second.size := by
    have firstLength := firstConsistent.snapshot_perm.length_eq
    have secondLength := secondConsistent.snapshot_perm.length_eq
    rw [List.length_map] at firstLength secondLength
    rw [Settings.Store.size, Settings.Store.size, ← firstLength, ← secondLength, snapshots]
  rw [exported?, exported?, sizes, snapshots]

structure TakesOver (target source : Registry) (persisted : Settings.Persisted) : Prop where
  silent : (target.importSettings persisted).2 = []
  values : ∀ id key,
    (target.importSettings persisted).1.valueOf? id key = source.valueOf? id key
  exported : (target.importSettings persisted).1.exportSettings = source.exportSettings

theorem apply_exported {one other : Settings.Store} (consistent : other.Consistent)
    (same : one.SameKinds other) :
    (∀ key, (applied (exported? other) one).get? key = other.get? key) ∧
      ∀ members, exported? other = some members → (one.apply members).2 = [] := by
  unfold exported?
  split
  · obtain ⟨silent, -, values⟩ := consistent.apply_snapshot same
    refine ⟨values, ?_⟩
    rintro members ⟨⟩
    exact silent
  · next empty =>
      refine ⟨?_, by simp⟩
      have nothing : other.entries = [] := List.eq_nil_of_length_eq_zero (by
        simpa [Settings.Store.size] using empty)
      intro key
      have undeclared : other.kind? key = none := by
        simp [Settings.Store.kind?, Settings.Store.descriptor?, Settings.Store.find?, nothing]
      have absentOther := Settings.Store.isSome_get? other key
      have absentOne := Settings.Store.isSome_get? one key
      rw [undeclared] at absentOther
      rw [same key, undeclared] at absentOne
      have noneOther : other.get? key = none := by simpa using absentOther
      have noneOne : one.get? key = none := by simpa using absentOne
      simp [applied, noneOther, noneOne]

/-- What an import of what the source exports leaves under an id. -/
theorem SameDeclarations.settingsOf?_import {target source : Registry}
    (same : target.SameDeclarations source) (soundTarget : target.Sound)
    (soundSource : source.Sound) (id : String) :
    let next := (target.importSettings source.exportSettings).1
    (next.settingsOf? id = none ∧ source.settingsOf? id = none) ∨
    (∃ store other, next.settingsOf? id = some store ∧ source.settingsOf? id = some other ∧
      ∀ key, store.get? key = other.get? key) := by
  intro next
  obtain ⟨-, settings⟩ := soundTarget.toIndexed.importSettings source.exportSettings.ordered
  have exported := soundSource.toIndexed.get?_exportSettings id
  rcases same.cases id with ⟨foundOne, foundOther⟩ | ⟨one, other, foundOne, foundOther, kinds⟩
  · refine Or.inl ⟨?_, foundOther⟩
    rw [settings, foundOne, Option.map_none]
  · rw [foundOther, Option.bind_some] at exported
    refine Or.inr ⟨applied (exported? other) one, other, ?_, foundOther,
      (apply_exported (soundSource.consistent foundOther) kinds).1⟩
    rw [settings, foundOne, ← Dictionary.get?, exported, Option.map_some]

theorem SameDeclarations.refused_eq_nil {target source : Registry}
    (same : target.SameDeclarations source) (soundSource : source.Sound)
    {entry : String × Json.Members} (kept : entry ∈ source.exportSettings.entries) :
    target.refused entry = [] := by
  have held := (source.exportSettings.get?_eq_some_iff entry.1 entry.2).mpr kept
  rw [soundSource.toIndexed.get?_exportSettings] at held
  rcases same.cases entry.1 with ⟨foundOne, -⟩ | ⟨one, other, foundOne, foundOther, kinds⟩
  · rw [refused, foundOne]
  · rw [foundOther, Option.bind_some] at held
    have silent := (apply_exported (soundSource.consistent foundOther) kinds).2 entry.2 held
    rw [refused, foundOne]
    simp only [silent, List.map_nil]

theorem SameDeclarations.takesOver {target source : Registry} (soundTarget : target.Sound)
    (soundSource : source.Sound) (same : target.SameDeclarations source) :
    target.TakesOver source source.exportSettings := by
  have arrived := same.settingsOf?_import soundTarget soundSource
  constructor
  · obtain ⟨problems, -⟩ :=
      soundTarget.toIndexed.importSettings source.exportSettings.ordered
    rw [problems, List.flatMap_eq_nil_iff]
    exact fun entry kept => same.refused_eq_nil soundSource kept
  · intro id key
    rw [valueOf?, valueOf?]
    rcases arrived id with ⟨foundNext, foundOther⟩ | ⟨store, other, foundNext, foundOther, values⟩
    · rw [foundNext, foundOther]
    · rw [foundNext, foundOther]
      exact values key
  · have soundNext := soundTarget.importSettings source.exportSettings
    refine Dictionary.eq_of_get?_eq ?_
    intro id
    rw [soundNext.toIndexed.get?_exportSettings, soundSource.toIndexed.get?_exportSettings]
    rcases arrived id with ⟨foundNext, foundOther⟩ | ⟨store, other, foundNext, foundOther, values⟩
    · rw [foundNext, foundOther]
    · rw [foundNext, foundOther]
      exact exported?_of_values (soundNext.consistent foundNext)
        (soundSource.consistent foundOther) values

end ArtifactTools.Registry
