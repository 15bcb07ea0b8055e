import ArtifactTools.Proofs.Registry.Indexing
import ArtifactTools.Proofs.Settings.Calls

/-! What may be asked of a registry while it lives: registrations, lookups and selections, and steps
of calls on the settings of its transformers. An empty registry that has served any requests is
sound: its indices agree with its entries, and each entry has consistent settings. -/

namespace ArtifactTools

theorem Draft.build_eq_ok_iff (draft : Draft) (serial : Nat) (transformer : Transformer) :
    draft.build serial = .ok transformer ↔
      Identity.IsLegal draft.id ∧ draft.name ≠ "" ∧
        ∃ store, Settings.Store.ofDescriptors draft.descriptors = .ok store ∧
          transformer = ⟨serial, draft.id, draft.name, draft.type, store, draft.accepts,
            draft.behaviour⟩ := by
  rw [← Identity.checkId_eq_ok_iff, ← Identity.checkName_eq_ok_iff]
  unfold Draft.build
  cases Identity.checkId draft.id with
  | error error => simp
  | ok =>
      cases Identity.checkName draft.name with
      | error error => simp
      | ok =>
          cases Settings.Store.ofDescriptors draft.descriptors with
          | error error => simp
          | ok store => simp [eq_comm]

def Transformer.bare (transformer : Transformer) : Transformer :=
  { transformer with store := .empty }

namespace Registry

def bare (registry : Registry) : Registry :=
  { registry with entries := registry.entries.map Transformer.bare }

theorem ids_bare (registry : Registry) : registry.bare.ids = registry.ids := by
  simp [ids, bare, Transformer.bare]

theorem names_bare (registry : Registry) : registry.bare.names = registry.names := by
  simp [names, bare, Transformer.bare]

theorem size_bare (registry : Registry) : registry.bare.size = registry.size := by
  simp [size, bare]

theorem Indexed.of_bare_eq {registry next : Registry} (indexed : registry.Indexed)
    (same : next.bare = registry.bare) : next.Indexed := by
  have sameIds : next.ids = registry.ids := by rw [← ids_bare, same, ids_bare]
  have sameNames : next.names = registry.names := by rw [← names_bare, same, names_bare]
  have sameById : next.byId = registry.byId := congrArg (·.byId) same
  have sameByName : next.byName = registry.byName := congrArg (·.byName) same
  constructor
  · exact sameIds ▸ indexed.legal
  · exact sameNames ▸ indexed.named
  · exact sameIds ▸ indexed.idsDistinct
  · exact sameNames ▸ indexed.namesDistinct
  · rw [sameIds, sameById]
    exact indexed.byId
  · rw [sameNames, sameByName]
    exact indexed.byName

/-! Other settings for one entry. -/

theorem bare_withStore (registry : Registry) (index : Nat) (store : Settings.Store) :
    (registry.withStore index store).bare = registry.bare := by
  simp only [bare, withStore, mk.injEq, true_and, and_true]
  apply List.ext_getElem?
  intro position
  simp only [List.getElem?_map, List.getElem?_modify]
  by_cases same : index = position
  · cases registry.entries[position]? with
    | none => simp
    | some transformer => simp [same, Transformer.bare]
  · simp [same]

theorem holds_withStore_self {registry : Registry} {index : Nat} {transformer : Transformer}
    (holds : registry.Holds index transformer) (store : Settings.Store) :
    (registry.withStore index store).Holds index { transformer with store } := by
  have entry : registry.entries[index]? = some transformer := holds
  simp [Holds, withStore, entry]

theorem holds_withStore_of_ne {registry : Registry} {index other : Nat}
    (different : other ≠ index) (store : Settings.Store) (transformer : Transformer) :
    (registry.withStore index store).Holds other transformer ↔
      registry.Holds other transformer := by
  simp [Holds, withStore, Ne.symm different]

theorem mem_withStore {registry : Registry} {index : Nat} {store : Settings.Store}
    {transformer : Transformer} (member : transformer ∈ (registry.withStore index store).entries) :
    transformer ∈ registry.entries ∨
      ∃ old, registry.Holds index old ∧ transformer = { old with store } := by
  obtain ⟨position, holds⟩ := exists_holds_of_mem member
  by_cases same : position = index
  · subst same
    simp only [Holds, withStore, List.getElem?_modify, if_true] at holds
    obtain ⟨old, entry, changed⟩ := Option.map_eq_some_iff.mp holds
    exact Or.inr ⟨old, entry, changed.symm⟩
  · exact Or.inl ((holds_withStore_of_ne same store transformer).mp holds).mem

/-- The indices agree with the entries, and each entry has consistent settings. -/
structure Sound (registry : Registry) : Prop extends registry.Indexed where
  settings : ∀ transformer ∈ registry.entries, transformer.store.Consistent

theorem sound_empty (number : UInt32) : (empty number).Sound := by
  constructor
  · constructor <;> simp [empty, ids, names]
  · simp [empty]

theorem Sound.withStore {registry : Registry} (sound : registry.Sound) {store : Settings.Store}
    (consistent : store.Consistent) (index : Nat) : (registry.withStore index store).Sound := by
  refine ⟨sound.toIndexed.of_bare_eq (bare_withStore registry index store), ?_⟩
  intro transformer member
  rcases mem_withStore member with old | ⟨old, -, rfl⟩
  · exact sound.settings transformer old
  · exact consistent

/-! Registering. -/

theorem insert_eq_ok_iff (registry next : Registry) (transformer : Transformer) (ref : Ref) :
    registry.insert transformer = .ok (ref, next) ↔
      registry.containsId transformer.id = false ∧ registry.containsName transformer.name = false ∧
        ref = registry.refOf registry.size transformer ∧
        next = { registry with
          entries := registry.entries ++ [transformer]
          byId := (transformer.id, registry.size) :: registry.byId
          byName := (transformer.name, registry.size) :: registry.byName } := by
  unfold insert
  by_cases knownId : registry.containsId transformer.id = true
  · simp [knownId]
  · by_cases knownName : registry.containsName transformer.name = true
    · simp [knownId, knownName]
    · simp only [knownId, knownName, Bool.false_eq_true, if_false, Except.ok.injEq, Prod.mk.injEq,
        size, true_and]
      exact and_congr eq_comm eq_comm

theorem lookup_cons_iff {index : List (String × Nat)} {texts : List String}
    (leads : ∀ text place, index.lookup text = some place ↔ texts[place]? = some text)
    {added : String} (fresh : added ∉ texts) (text : String) (place : Nat) :
    ((added, texts.length) :: index).lookup text = some place ↔
      (texts ++ [added])[place]? = some text := by
  rw [List.lookup_cons, List.getElem?_append]
  by_cases same : text = added
  · subst same
    simp only [beq_self_eq_true, Option.some.injEq]
    by_cases within : place < texts.length
    · simp only [within, if_true]
      constructor
      · intro last
        omega
      · intro known
        exact absurd (List.mem_of_getElem? known) fresh
    · simp only [within, if_false, List.getElem?_singleton]
      split
      · next last => simp; omega
      · next beyond => simp; omega
  · have different : (text == added) = false := by simpa using same
    simp only [different, leads]
    by_cases within : place < texts.length
    · simp only [within, if_true]
    · simp only [within, if_false, List.getElem?_singleton]
      have outside : texts[place]? = none := by simpa using within
      rw [outside]
      split <;> simp [Ne.symm same]

theorem Indexed.insert {registry next : Registry} {transformer : Transformer} {ref : Ref}
    (indexed : registry.Indexed) (legal : Identity.IsLegal transformer.id)
    (named : transformer.name ≠ "") (inserted : registry.insert transformer = .ok (ref, next)) :
    next.Indexed := by
  obtain ⟨newId, newName, -, rfl⟩ :=
    (insert_eq_ok_iff registry next transformer ref).mp inserted
  have freshId : transformer.id ∉ registry.ids := by
    rw [← indexed.containsId_iff, newId]
    simp
  have freshName : transformer.name ∉ registry.names := by
    rw [← indexed.containsName_iff, newName]
    simp
  have idCount : registry.ids.length = registry.size := by simp [ids, size]
  have nameCount : registry.names.length = registry.size := by simp [names, size]
  constructor
  · intro id member
    simp only [ids, List.map_append, List.map_singleton, List.mem_append,
      List.mem_singleton] at member
    rcases member with old | rfl
    · exact indexed.legal id old
    · exact legal
  · intro name member
    simp only [names, List.map_append, List.map_singleton, List.mem_append,
      List.mem_singleton] at member
    rcases member with old | rfl
    · exact indexed.named name old
    · exact named
  · simpa [ids] using indexed.idsDistinct.concat freshId
  · simpa [names] using indexed.namesDistinct.concat freshName
  · intro id index
    have leads := lookup_cons_iff indexed.byId freshId id index
    rw [idCount] at leads
    simpa [ids] using leads
  · intro name index
    have leads := lookup_cons_iff indexed.byName freshName name index
    rw [nameCount] at leads
    simpa [names] using leads

theorem register_eq_ok {registry next : Registry} {draft : Draft} {serial : Nat} {ref : Ref}
    (registered : registry.register serial draft = .ok (ref, next)) :
    ∃ transformer, draft.build serial = .ok transformer ∧
      registry.insert transformer = .ok (ref, next) := by
  unfold register at registered
  cases built : draft.build serial with
  | error error => simp [built] at registered
  | ok transformer => exact ⟨transformer, rfl, by rwa [built] at registered⟩

theorem Sound.register {registry next : Registry} {draft : Draft} {serial : Nat} {ref : Ref}
    (sound : registry.Sound) (registered : registry.register serial draft = .ok (ref, next)) :
    next.Sound := by
  obtain ⟨transformer, built, inserted⟩ := register_eq_ok registered
  obtain ⟨legal, named, store, declared, rfl⟩ :=
    (Draft.build_eq_ok_iff draft serial transformer).mp built
  refine ⟨sound.toIndexed.insert legal named inserted, ?_⟩
  obtain ⟨-, -, -, rfl⟩ := (insert_eq_ok_iff _ _ _ _).mp inserted
  intro transformer member
  rcases List.mem_append.mp member with old | new
  · exact sound.settings transformer old
  · rw [List.mem_singleton.mp new]
    exact Settings.Store.consistent_ofDescriptors declared

/-! Importing settings. -/

theorem bare_importSettings (persisted : List (String × Json.Members)) : ∀ registry : Registry,
    (registry.importSettings persisted).1.bare = registry.bare := by
  induction persisted with
  | nil => intro registry; rfl
  | cons entry rest ih =>
      intro registry
      obtain ⟨id, members⟩ := entry
      simp only [importSettings]
      split
      · exact ih registry
      · next index transformer _ =>
          exact (ih (registry.withStore index _)).trans (bare_withStore registry index _)

theorem Sound.importSettings {registry : Registry} (sound : registry.Sound)
    (persisted : List (String × Json.Members)) : (registry.importSettings persisted).1.Sound := by
  induction persisted generalizing registry with
  | nil => exact sound
  | cons entry rest ih =>
      obtain ⟨id, members⟩ := entry
      simp only [Registry.importSettings]
      split
      · exact ih sound
      · next index transformer found =>
          obtain ⟨place, -, there⟩ := Option.bind_eq_some_iff.mp found
          obtain ⟨other, entry, same⟩ := Option.map_eq_some_iff.mp there
          simp only [Prod.mk.injEq] at same
          obtain ⟨rfl, rfl⟩ := same
          have consistent := sound.settings other (List.mem_of_getElem? entry)
          exact ih (sound.withStore (consistent.apply members) place)

/-! Requests. -/

/-- A request to a registry. `select` stands for every enumeration, and `settings` for the next step
of a call on the settings of one entry. What only counts, or tells whether a text is known, changes
nothing and hands out nothing. -/
inductive Request where
  | register (serial : Nat) (draft : Draft)
  | findById (id : String)
  | findByName (name : String)
  | follow (handle : Handle)
  | select (accepts : Transformer → Bool)
  | settings (index : Nat) (call : Settings.Call)
  | importSettings (persisted : Settings.Persisted)

def stepSettings (registry : Registry) (index : Nat) (call : Settings.Call) : Registry :=
  match registry.entries[index]? with
  | none => registry
  | some transformer => registry.withStore index (call.step transformer.store).1

def serve (registry : Registry) : Request → List Ref × Registry
  | .register serial draft =>
      match registry.register serial draft with
      | .ok (ref, next) => ([ref], next)
      | .error _ => ([], registry)
  | .findById id => ((registry.findById? id).toList, registry)
  | .findByName name => ((registry.findByName? name).toList, registry)
  | .follow handle => ((registry.get? handle).toList, registry)
  | .select accepts => (registry.allMatching accepts, registry)
  | .settings index call => ([], registry.stepSettings index call)
  | .importSettings persisted => ([], (registry.importSettings persisted).1)

def run (registry : Registry) (requests : List Request) : Registry :=
  requests.foldl (fun registry request => (registry.serve request).2) registry

def admits (registry : Registry) : Request → Bool
  | .register serial draft =>
      match registry.register serial draft with
      | .ok _ => true
      | .error _ => false
  | _ => false

def admissions (registry : Registry) : List Request → Nat
  | [] => 0
  | request :: rest =>
      (if registry.admits request then 1 else 0) + (registry.serve request).2.admissions rest

theorem bare_stepSettings (registry : Registry) (index : Nat) (call : Settings.Call) :
    (registry.stepSettings index call).bare = registry.bare := by
  unfold stepSettings
  split
  · rfl
  · exact bare_withStore registry index _

theorem Sound.serve {registry : Registry} (sound : registry.Sound) (request : Request) :
    (registry.serve request).2.Sound := by
  cases request with
  | register serial draft =>
      simp only [Registry.serve]
      cases registered : registry.register serial draft with
      | error error => exact sound
      | ok result => exact sound.register registered
  | findById id => exact sound
  | findByName name => exact sound
  | follow handle => exact sound
  | select accepts => exact sound
  | settings index call =>
      simp only [Registry.serve, stepSettings]
      split
      · exact sound
      · next transformer entry =>
          have consistent := sound.settings transformer (List.mem_of_getElem? entry)
          exact sound.withStore (consistent.step call) index
  | importSettings persisted => exact sound.importSettings persisted

theorem Sound.run {registry : Registry} (sound : registry.Sound) (requests : List Request) :
    (registry.run requests).Sound := by
  induction requests generalizing registry with
  | nil => exact sound
  | cons request rest ih => exact ih (sound.serve request)

theorem sound_run_empty (number : UInt32) (requests : List Request) :
    ((empty number).run requests).Sound :=
  (sound_empty number).run requests

theorem size_serve (registry : Registry) (request : Request) :
    (registry.serve request).2.size =
      registry.size + (if registry.admits request then 1 else 0) := by
  cases request with
  | register serial draft =>
      cases registered : registry.register serial draft with
      | error error => simp [serve, admits, registered]
      | ok result =>
          obtain ⟨ref, next⟩ := result
          obtain ⟨transformer, -, inserted⟩ := register_eq_ok registered
          obtain ⟨-, -, -, rfl⟩ := (insert_eq_ok_iff _ _ _ _).mp inserted
          simp [serve, admits, registered, size]
  | findById id => rfl
  | findByName name => rfl
  | follow handle => rfl
  | select accepts => rfl
  | settings index call =>
      simp only [serve, admits, Bool.false_eq_true, if_false, Nat.add_zero]
      rw [← size_bare, bare_stepSettings, size_bare]
  | importSettings persisted =>
      simp only [serve, admits, Bool.false_eq_true, if_false, Nat.add_zero]
      rw [← size_bare, bare_importSettings, size_bare]

theorem size_run (requests : List Request) : ∀ registry : Registry,
    (registry.run requests).size = registry.size + registry.admissions requests := by
  induction requests with
  | nil => intro registry; rfl
  | cons request rest ih =>
      intro registry
      have later := ih (registry.serve request).2
      rw [size_serve] at later
      simp only [run, List.foldl_cons, admissions] at later ⊢
      omega

structure Answers (registry : Registry) : Prop where
  findById : ∀ id ref, registry.findById? id = some ref ↔ ∃ index transformer,
    registry.Holds index transformer ∧ transformer.id = id ∧
      ref = registry.refOf index transformer
  findByName : ∀ name ref, registry.findByName? name = some ref ↔ ∃ index transformer,
    registry.Holds index transformer ∧ transformer.name = name ∧
      ref = registry.refOf index transformer
  containsId : ∀ id, registry.containsId id = true ↔ id ∈ registry.ids
  containsName : ∀ name, registry.containsName name = true ↔ name ∈ registry.names
  agree : ∀ index transformer, registry.Holds index transformer →
    registry.findById? transformer.id = some (registry.refOf index transformer) ∧
    registry.findByName? transformer.name = some (registry.refOf index transformer)
  /-- So does its handle. References are the same if their handles are; that the transformer is the
  same too takes a position that thirty-two bits can hold. -/
  follow : ∀ index transformer, registry.Holds index transformer →
    ∃ ref, registry.get? (registry.refOf index transformer).handle = some ref ∧
      ref.isSame (registry.refOf index transformer) = true ∧
      (index < UInt32.size → ref = registry.refOf index transformer)
  once : ∀ index transformer, registry.Holds index transformer →
    registry.all.filter (fun ref => ref.transformer.id == transformer.id) =
      [registry.refOf index transformer]

theorem Indexed.answers {registry : Registry} (indexed : registry.Indexed) :
    registry.Answers := by
  constructor
  · exact indexed.findById?_eq_some_iff
  · exact indexed.findByName?_eq_some_iff
  · exact indexed.containsId_iff
  · exact indexed.containsName_iff
  · intro index transformer holds
    exact ⟨indexed.findById?_of_holds holds, indexed.findByName?_of_holds holds⟩
  · intro index transformer holds
    obtain ⟨ref, found, same⟩ := get?_refOf holds
    refine ⟨ref, found, same, ?_⟩
    intro fits
    rw [get?_refOf_of_lt holds fits, Option.some.injEq] at found
    exact found.symm
  · intro index transformer holds
    exact indexed.filter_all holds

/-- A registry that began empty agrees with its indices whatever it has been asked: ids and names
are legal and distinct, every lookup finds just the entry that it asks for, and there are as many
entries as registrations that succeeded. -/
theorem indices_agree_after_requests (number : UInt32) (requests : List Request) :
    let registry := (empty number).run requests
    registry.Indexed ∧ registry.Answers ∧ registry.size = (empty number).admissions requests := by
  have sound := sound_run_empty number requests
  refine ⟨sound.toIndexed, sound.toIndexed.answers, ?_⟩
  rw [size_run]
  exact Nat.zero_add _

end Registry

end ArtifactTools
