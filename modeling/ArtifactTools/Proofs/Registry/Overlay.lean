import ArtifactTools.Proofs.Registry.Imports
import ArtifactTools.Proofs.Settings.Applying

/-! An import lays persisted values over the settings of a registry. Each value counts or is refused
by the declarations alone, so that neither the order of the values nor what else there is among them
makes a difference to it. -/

namespace ArtifactTools

namespace Settings.Persisted

def items (entries : List (String × Json.Members)) : List ((String × String) × Json.Value) :=
  entries.flatMap fun entry => entry.2.entries.map fun member => ((entry.1, member.1), member.2)

def Precedes (first second : String × String) : Prop :=
  first.1 < second.1 ∨ first.1 = second.1 ∧ first.2 < second.2

theorem Precedes.ne {first second : String × String} (precedes : Precedes first second) :
    first ≠ second := by
  rintro rfl
  rcases precedes with less | ⟨-, less⟩
  · exact String.lt_irrefl _ less
  · exact String.lt_irrefl _ less

theorem items_cons (id : String) (members : Json.Members) (rest : List (String × Json.Members)) :
    items ((id, members) :: rest) =
      (members.entries.map fun member => ((id, member.1), member.2)) ++ items rest := rfl

theorem lookup_map_under (id : String) (members : List (String × Json.Value))
    (other key : String) :
    (members.map fun member => ((id, member.1), member.2)).lookup (other, key) =
      if other = id then members.lookup key else none := by
  induction members with
  | nil => simp
  | cons member rest ih =>
      rw [List.map_cons, List.lookup_cons, List.lookup_cons, ih]
      by_cases same : (other, key) = (id, member.1)
      · obtain ⟨rfl, rfl⟩ := Prod.mk.inj same
        simp
      · rw [beq_false_of_ne same]
        by_cases sameId : other = id
        · have sameKey : key ≠ member.1 := fun here => same (by rw [sameId, here])
          simp [sameId, beq_false_of_ne sameKey]
        · simp [sameId]

theorem lookup_items_cons (id : String) (members : Json.Members)
    (rest : List (String × Json.Members)) (other key : String) :
    (items ((id, members) :: rest)).lookup (other, key) =
      (if other = id then members.get? key else none).or ((items rest).lookup (other, key)) := by
  rw [items_cons, List.lookup_append, lookup_map_under, Dictionary.get?]

theorem distinct_of_items_cons {id : String} {members : Json.Members}
    {rest : List (String × Json.Members)}
    (distinct : ((items ((id, members) :: rest)).map Prod.fst).Nodup) :
    ((items rest).map Prod.fst).Nodup ∧
      ∀ key, members.get? key = none ∨ (items rest).lookup (id, key) = none := by
  rw [items_cons, List.map_append, List.nodup_append'] at distinct
  obtain ⟨-, later, apart⟩ := distinct
  have keysHere : members.keys.map (fun key => (id, key)) =
      (members.entries.map fun member => ((id, member.1), member.2)).map Prod.fst := by
    rw [Dictionary.keys, List.map_map, List.map_map]
    rfl
  rw [← keysHere] at apart
  refine ⟨later, ?_⟩
  intro key
  by_cases present : key ∈ members.keys
  · exact .inr (Dictionary.lookup_eq_none_iff_absent.mpr (apart (List.mem_map_of_mem present)))
  · exact .inl (Dictionary.lookup_eq_none_iff_absent.mpr present)

theorem mem_items {entries : List (String × Json.Members)} {id key : String} {raw : Json.Value} :
    ((id, key), raw) ∈ items entries ↔ ∃ members, (id, members) ∈ entries ∧
      (key, raw) ∈ members.entries := by
  simp [items]

section

variable (persisted : Persisted)

theorem pairwise_items :
    (items persisted).Pairwise fun first second => Precedes first.1 second.1 := by
  refine List.pairwise_flatMap.mpr ⟨?_, ?_⟩
  · intro entry _
    rw [List.pairwise_map]
    exact entry.2.ordered.imp fun less => .inr ⟨rfl, less⟩
  · refine persisted.ordered.imp ?_
    intro first second less one inFirst other inSecond
    obtain ⟨-, -, rfl⟩ := List.mem_map.mp inFirst
    obtain ⟨-, -, rfl⟩ := List.mem_map.mp inSecond
    exact .inl less

theorem nodup_items : ((items persisted).map Prod.fst).Nodup := by
  rw [List.Nodup, List.pairwise_map]
  exact (pairwise_items persisted).imp Precedes.ne

theorem lookup_items (id key : String) :
    (items persisted).lookup (id, key) = persisted.value? id key := by
  apply Option.ext
  intro raw
  simp only [Dictionary.lookup_eq_some_iff_mem (nodup_items persisted), mem_items, value?,
    Option.bind_eq_some_iff, Dictionary.get?_eq_some_iff]

end

end Settings.Persisted

namespace Registry

/-! Refusals. -/

def Refuses (registry : Registry) (id key : String) (raw : Json.Value) (error : SettingsError) :
    Prop :=
  ∃ store, registry.settingsOf? id = some store ∧ store.Refuses key raw error

def refusal? (registry : Registry) (id key : String) (raw : Json.Value) : Option SettingsError :=
  (registry.settingsOf? id).bind fun store => store.refusal? key raw

theorem refusal?_eq_some_iff {registry : Registry} {id key : String} {raw : Json.Value}
    {error : SettingsError} :
    registry.refusal? id key raw = some error ↔ registry.Refuses id key raw error := by
  simp only [refusal?, Refuses, Option.bind_eq_some_iff, Settings.Store.refusal?_eq_some_iff]

theorem Indexed.exists_settingsOf? {registry : Registry} (indexed : registry.Indexed) {id : String}
    (registered : id ∈ registry.ids) : ∃ store, registry.settingsOf? id = some store := by
  obtain ⟨transformer, member, rfl⟩ := List.mem_map.mp registered
  exact ⟨_, indexed.settingsOf?_of_mem member⟩

theorem Indexed.containsId_eq {registry : Registry} (indexed : registry.Indexed) (id : String) :
    registry.containsId id = (registry.settingsOf? id).isSome := by
  rw [Bool.eq_iff_iff, indexed.containsId_iff]
  constructor
  · intro registered
    exact Option.isSome_iff_exists.mpr (indexed.exists_settingsOf? registered)
  · intro found
    obtain ⟨store, there⟩ := Option.isSome_iff_exists.mp found
    obtain ⟨index, transformer, holds, rfl, -⟩ := indexed.settingsOf?_eq_some there
    exact List.mem_map_of_mem holds.mem

theorem Indexed.refusal?_withStore {registry : Registry} (indexed : registry.Indexed) {index : Nat}
    {transformer : Transformer} (holds : registry.Holds index transformer)
    {store : Settings.Store} (same : store.SameDescriptors transformer.store) :
    (registry.withStore index store).refusal? = registry.refusal? := by
  funext id key raw
  rw [refusal?, refusal?, indexed.settingsOf?_withStore holds]
  by_cases here : id = transformer.id
  · rw [if_pos here, here, indexed.settingsOf?_of_holds holds, Option.bind_some, Option.bind_some,
      same.refusal?_eq]
  · rw [if_neg here]

/-! Overlays. -/

def overlaid (registry : Registry) (given : String → String → Option Json.Value) : Registry :=
  { registry with entries := registry.entries.map fun transformer =>
      { transformer with store := transformer.store.overlaid (given transformer.id) } }

theorem bare_overlaid (registry : Registry) (given : String → String → Option Json.Value) :
    (registry.overlaid given).bare = registry.bare := by
  simp [bare, overlaid, Transformer.bare]

theorem holds_overlaid {registry : Registry} {index : Nat} {transformer : Transformer}
    (holds : registry.Holds index transformer) (given : String → String → Option Json.Value) :
    (registry.overlaid given).Holds index
      { transformer with store := transformer.store.overlaid (given transformer.id) } := by
  have entry : registry.entries[index]? = some transformer := holds
  simp [Holds, overlaid, entry]

theorem exists_holds_of_overlaid {registry : Registry} {index : Nat} {transformer : Transformer}
    {given : String → String → Option Json.Value}
    (holds : (registry.overlaid given).Holds index transformer) :
    ∃ old, registry.Holds index old ∧ old.id = transformer.id := by
  simp only [Holds, overlaid, List.getElem?_map] at holds
  obtain ⟨old, there, rfl⟩ := Option.map_eq_some_iff.mp holds
  exact ⟨old, there, rfl⟩

theorem Indexed.settingsOf?_overlaid {registry : Registry} (indexed : registry.Indexed)
    (given : String → String → Option Json.Value) (id : String) :
    (registry.overlaid given).settingsOf? id =
      (registry.settingsOf? id).map fun store => store.overlaid (given id) := by
  have indexedNext := indexed.of_bare_eq (bare_overlaid registry given)
  cases found : registry.settingsOf? id with
  | some store =>
      obtain ⟨index, transformer, holds, rfl, rfl⟩ := indexed.settingsOf?_eq_some found
      exact indexedNext.settingsOf?_of_holds (holds_overlaid holds given)
  | none =>
      rw [Option.map_none, Option.eq_none_iff_forall_ne_some]
      intro store foundNext
      obtain ⟨index, transformer, holds, rfl, -⟩ := indexedNext.settingsOf?_eq_some foundNext
      obtain ⟨old, holdsOld, same⟩ := exists_holds_of_overlaid holds
      have foundOld := indexed.settingsOf?_of_holds holdsOld
      rw [same, found] at foundOld
      cases foundOld

theorem Indexed.refusal?_overlaid {registry : Registry} (indexed : registry.Indexed)
    (given : String → String → Option Json.Value) :
    (registry.overlaid given).refusal? = registry.refusal? := by
  funext id key raw
  rw [refusal?, refusal?, indexed.settingsOf?_overlaid, Option.bind_map]
  refine congrArg _ (funext fun store => ?_)
  rw [Function.comp_apply, (store.sameDescriptors_overlaid (given id)).refusal?_eq]

theorem Indexed.valueOf?_overlaid {registry : Registry} (indexed : registry.Indexed)
    (given : String → String → Option Json.Value) (id key : String) :
    (registry.overlaid given).valueOf? id key = (registry.settingsOf? id).bind fun store =>
      ((given id key).bind (store.taken? key)).or (store.get? key) := by
  rw [valueOf?, indexed.settingsOf?_overlaid, Option.bind_map]
  refine congrArg _ (funext fun store => ?_)
  rw [Function.comp_apply, Settings.Store.get?_overlaid]

theorem overlaid_congr {registry : Registry} {given other : String → String → Option Json.Value}
    (same : ∀ id ∈ registry.ids, given id = other id) :
    registry.overlaid given = registry.overlaid other := by
  rw [overlaid, overlaid]
  congr 1
  refine List.map_congr_left ?_
  intro transformer member
  rw [same transformer.id (List.mem_map_of_mem member)]

theorem overlaid_none (registry : Registry) :
    (registry.overlaid fun _ _ => none) = registry := by
  simp [overlaid, Settings.Store.overlaid_none]

theorem overlaid_overlaid {registry : Registry}
    {first second : String → String → Option Json.Value}
    (apart : ∀ id key, first id key = none ∨ second id key = none) :
    (registry.overlaid first).overlaid second =
      registry.overlaid fun id key => (first id key).or (second id key) := by
  simp [overlaid, Settings.Store.overlaid_overlaid (apart _)]

theorem overlaid_again (registry : Registry) (given : String → String → Option Json.Value) :
    (registry.overlaid given).overlaid given = registry.overlaid given := by
  simp [overlaid, Settings.Store.overlaid_again]

theorem Indexed.withStore_eq_overlaid {registry : Registry} (indexed : registry.Indexed)
    {index : Nat} {transformer : Transformer} (holds : registry.Holds index transformer)
    (given : String → Option Json.Value) :
    registry.withStore index (transformer.store.overlaid given) =
      registry.overlaid fun id key => if id = transformer.id then given key else none := by
  rw [Registry.withStore, overlaid]
  congr 1
  refine List.ext_getElem? ?_
  intro position
  rw [List.getElem?_modify, List.getElem?_map]
  cases there : registry.entries[position]? with
  | none => rfl
  | some other =>
      by_cases same : index = position
      · subst same
        obtain rfl := Option.some.inj (there.symm.trans holds)
        simp
      · have different : other.id ≠ transformer.id := fun sameId =>
          same (indexed.index_unique holds there sameId.symm)
        simp [same, different, Settings.Store.overlaid_none]

/-! Imports. -/

theorem Sound.importSettings_eq_overlaid {entries : List (String × Json.Members)} :
    ∀ {registry : Registry}, registry.Sound →
      ((Settings.Persisted.items entries).map Prod.fst).Nodup →
      (registry.importSettings entries).1 = registry.overlaid fun id key =>
        (Settings.Persisted.items entries).lookup (id, key) := by
  -- The registry stays general: the values of the first entry are laid over it, and no later value
  -- has the id and the key of one of them.
  induction entries with
  | nil => exact fun _ _ => (overlaid_none _).symm
  | cons entry rest ih =>
      intro registry sound distinct
      obtain ⟨id, members⟩ := entry
      obtain ⟨distinctRest, apart⟩ := Settings.Persisted.distinct_of_items_cons distinct
      simp only [Settings.Persisted.lookup_items_cons]
      cases found : registry.settingsOf? id with
      | none =>
          rw [importSettings_unknown found, ih sound distinctRest]
          refine overlaid_congr ?_
          intro other registered
          have different : other ≠ id := by
            rintro rfl
            obtain ⟨store, there⟩ := sound.toIndexed.exists_settingsOf? registered
            cases found.symm.trans there
          simp [different]
      | some store =>
          obtain ⟨index, transformer, holds, rfl, rfl⟩ :=
            sound.toIndexed.settingsOf?_eq_some found
          have consistent := sound.settings transformer holds.mem
          have soundNext := sound.withStore (consistent.apply members.entries) index
          have laid : (transformer.store.apply members.entries).1 =
              transformer.store.overlaid fun key => members.get? key :=
            consistent.apply_eq_overlaid members.nodup_keys
          rw [importSettings_known sound.toIndexed holds]
          dsimp only
          rw [ih soundNext distinctRest, laid,
            sound.toIndexed.withStore_eq_overlaid holds, overlaid_overlaid]
          intro other key
          by_cases same : other = transformer.id
          · subst same
            simpa using apart key
          · exact .inl (if_neg same)

theorem Indexed.problems_importSettings {entries : List (String × Json.Members)} :
    ∀ {registry : Registry}, registry.Indexed →
      (registry.importSettings entries).2 = (Settings.Persisted.items entries).filterMap fun item =>
        (registry.refusal? item.1.1 item.1.2 item.2).map fun error => (item.1.1, error) := by
  -- What has been applied before changes no declaration, and with them no refusal.
  induction entries with
  | nil => exact fun _ => rfl
  | cons entry rest ih =>
      intro registry indexed
      obtain ⟨id, members⟩ := entry
      rw [Settings.Persisted.items_cons, List.filterMap_append, List.filterMap_map]
      cases found : registry.settingsOf? id with
      | none =>
          have silent : ∀ key raw, registry.refusal? id key raw = none := by
            intro key raw
            rw [refusal?, found, Option.bind_none]
          rw [importSettings_unknown found, ih indexed]
          simp [silent]
      | some store =>
          obtain ⟨index, transformer, holds, rfl, rfl⟩ := indexed.settingsOf?_eq_some found
          have same := indexed.refusal?_withStore holds
            (Settings.Store.sameDescriptors_apply members.entries transformer.store)
          rw [importSettings_known indexed holds]
          dsimp only
          rw [ih (indexed.withStore index _), same, refused, found]
          dsimp only
          rw [Settings.Store.errors_apply, List.map_filterMap]
          simp [refusal?, found]

/-- Values under unregistered ids may as well be left out. -/
theorem Indexed.importSettings_filter {entries : List (String × Json.Members)} :
    ∀ {registry : Registry}, registry.Indexed →
      registry.importSettings (entries.filter fun entry => registry.containsId entry.1) =
        registry.importSettings entries := by
  induction entries with
  | nil => exact fun _ => rfl
  | cons entry rest ih =>
      intro registry indexed
      obtain ⟨id, members⟩ := entry
      have contains := indexed.containsId_eq id
      cases found : registry.settingsOf? id with
      | none =>
          rw [found, Option.isSome_none] at contains
          rw [importSettings_unknown found, List.filter_cons]
          simp only [contains, Bool.false_eq_true, if_false]
          exact ih indexed
      | some store =>
          rw [found, Option.isSome_some] at contains
          obtain ⟨index, transformer, holds, rfl, rfl⟩ := indexed.settingsOf?_eq_some found
          have later := ih (indexed.withStore index (transformer.store.apply members.entries).1)
          have same : (registry.withStore index (transformer.store.apply members.entries).1).containsId =
              registry.containsId := rfl
          rw [same] at later
          rw [List.filter_cons]
          simp only [contains, if_true]
          rw [importSettings_known indexed holds, importSettings_known indexed holds]
          dsimp only
          rw [later]

section

variable {registry : Registry} (sound : registry.Sound) (persisted : Settings.Persisted)

include sound

theorem Sound.valueOf?_imported (id key : String) :
    (registry.importSettings persisted).1.valueOf? id key =
      (registry.settingsOf? id).bind fun store =>
        ((persisted.value? id key).bind (store.taken? key)).or (store.get? key) := by
  rw [sound.importSettings_eq_overlaid (Settings.Persisted.nodup_items persisted),
    sound.toIndexed.valueOf?_overlaid, Settings.Persisted.lookup_items]

theorem Sound.mem_problems_iff {id : String} {error : SettingsError} :
    (id, error) ∈ (registry.importSettings persisted).2 ↔ ∃ raw,
      persisted.value? id error.key = some raw ∧ registry.Refuses id error.key raw error := by
  have distinct := Settings.Persisted.nodup_items persisted
  rw [sound.toIndexed.problems_importSettings, List.mem_filterMap]
  constructor
  · rintro ⟨⟨⟨other, key⟩, raw⟩, member, said⟩
    obtain ⟨same, refusal, pair⟩ := Option.map_eq_some_iff.mp said
    obtain ⟨rfl, rfl⟩ := Prod.mk.inj pair
    have refuses := refusal?_eq_some_iff.mp refusal
    obtain ⟨store, -, refusesThere⟩ := refuses
    obtain rfl := refusesThere.key_eq
    rw [← Dictionary.lookup_eq_some_iff_mem distinct,
      Settings.Persisted.lookup_items] at member
    exact ⟨raw, member, refusal?_eq_some_iff.mp refusal⟩
  · rintro ⟨raw, held, refuses⟩
    rw [← Settings.Persisted.lookup_items,
      Dictionary.lookup_eq_some_iff_mem distinct] at held
    exact ⟨_, held, by rw [refusal?_eq_some_iff.mpr refuses]; rfl⟩

theorem Sound.pairwise_problems : (registry.importSettings persisted).2.Pairwise
    fun first second =>
      Settings.Persisted.Precedes (first.1, first.2.key) (second.1, second.2.key) := by
  rw [sound.toIndexed.problems_importSettings, List.pairwise_filterMap]
  refine (Settings.Persisted.pairwise_items persisted).imp ?_
  intro first second precedes one saidOne other saidOther
  have named : ∀ {item : (String × String) × Json.Value} {problem : String × SettingsError},
      (registry.refusal? item.1.1 item.1.2 item.2).map (fun error => (item.1.1, error)) =
        some problem → (problem.1, problem.2.key) = item.1 := by
    intro item problem said
    obtain ⟨error, refusal, rfl⟩ := Option.map_eq_some_iff.mp said
    obtain ⟨store, -, refuses⟩ := refusal?_eq_some_iff.mp refusal
    rw [refuses.key_eq]
  rw [named saidOne, named saidOther]
  exact precedes

theorem Sound.importSettings_again :
    (registry.importSettings persisted).1.importSettings persisted =
      registry.importSettings persisted := by
  have distinct := Settings.Persisted.nodup_items persisted
  have soundNext := sound.importSettings persisted
  refine Prod.ext ?_ ?_
  · rw [soundNext.importSettings_eq_overlaid distinct, sound.importSettings_eq_overlaid distinct,
      overlaid_again]
  · rw [soundNext.toIndexed.problems_importSettings, sound.toIndexed.problems_importSettings,
      sound.importSettings_eq_overlaid distinct, sound.toIndexed.refusal?_overlaid]

end

end Registry

end ArtifactTools
