import ArtifactTools.Proofs.Identity
import ArtifactTools.Proofs.Settings.Consistency
import ArtifactTools.Registry
import Mathlib.Data.List.Nodup

/-! How a registry and its two indices agree: distinct ids and distinct names, each of which the
index for it leads to the place of its entry, and no other text to any place. What the lookups
answer follows from this. -/

namespace ArtifactTools

namespace Registry

def ids (registry : Registry) : List String := registry.entries.map (·.id)

def names (registry : Registry) : List String := registry.entries.map (·.name)

structure Indexed (registry : Registry) : Prop where
  legal : ∀ id ∈ registry.ids, Identity.IsLegal id
  named : ∀ name ∈ registry.names, name ≠ ""
  idsDistinct : registry.ids.Nodup
  namesDistinct : registry.names.Nodup
  byId : ∀ id index, registry.byId.lookup id = some index ↔ registry.ids[index]? = some id
  byName : ∀ name index,
    registry.byName.lookup name = some index ↔ registry.names[index]? = some name

def Holds (registry : Registry) (index : Nat) (transformer : Transformer) : Prop :=
  registry.entries[index]? = some transformer

section

variable {registry : Registry} {index : Nat} {transformer : Transformer}

theorem Holds.mem (holds : registry.Holds index transformer) : transformer ∈ registry.entries :=
  List.mem_of_getElem? holds

theorem Holds.lt_size (holds : registry.Holds index transformer) : index < registry.size :=
  (List.getElem?_eq_some_iff.mp holds).1

theorem Holds.getElem?_ids (holds : registry.Holds index transformer) :
    registry.ids[index]? = some transformer.id := by
  have entry : registry.entries[index]? = some transformer := holds
  simp [ids, entry]

theorem Holds.refAt? (holds : registry.Holds index transformer) :
    registry.refAt? index = some (registry.refOf index transformer) := by
  have entry : registry.entries[index]? = some transformer := holds
  simp [Registry.refAt?, entry]

end

theorem getElem?_map_entries {registry : Registry} {index : Nat} {text : String}
    (textOf : Transformer → String) :
    (registry.entries.map textOf)[index]? = some text ↔
      ∃ transformer, registry.Holds index transformer ∧ textOf transformer = text := by
  rw [List.getElem?_map]
  exact Option.map_eq_some_iff

theorem exists_holds_of_mem {registry : Registry} {transformer : Transformer}
    (member : transformer ∈ registry.entries) : ∃ index, registry.Holds index transformer :=
  List.mem_iff_getElem?.mp member

/-! Lookups by a text that entries have, which is their id or their name. -/

section

variable {registry : Registry} {textOf : Transformer → String} {index : List (String × Nat)}
  (leads : ∀ text place,
    index.lookup text = some place ↔ (registry.entries.map textOf)[place]? = some text)

include leads

theorem bind_refAt?_eq_some_iff (text : String) (ref : Ref) :
    (index.lookup text).bind registry.refAt? = some ref ↔
      ∃ place transformer, registry.Holds place transformer ∧ textOf transformer = text ∧
        ref = registry.refOf place transformer := by
  constructor
  · intro found
    obtain ⟨place, led, entry⟩ := Option.bind_eq_some_iff.mp found
    obtain ⟨transformer, holds, same⟩ := (getElem?_map_entries textOf).mp ((leads text place).mp led)
    rw [holds.refAt?, Option.some.injEq] at entry
    exact ⟨place, transformer, holds, same, entry.symm⟩
  · rintro ⟨place, transformer, holds, same, rfl⟩
    have led := (leads text place).mpr
      ((getElem?_map_entries textOf).mpr ⟨transformer, holds, same⟩)
    rw [led, Option.bind_some, holds.refAt?]

theorem bind_refAt?_eq_none_iff (text : String) :
    (index.lookup text).bind registry.refAt? = none ↔
      ∀ transformer ∈ registry.entries, textOf transformer ≠ text := by
  rw [Option.eq_none_iff_forall_ne_some]
  constructor
  · intro missing transformer entry same
    obtain ⟨place, holds⟩ := exists_holds_of_mem entry
    exact missing _
      ((bind_refAt?_eq_some_iff leads text _).mpr ⟨place, transformer, holds, same, rfl⟩)
  · intro lacking ref found
    obtain ⟨place, transformer, holds, same, -⟩ := (bind_refAt?_eq_some_iff leads text ref).mp found
    exact lacking transformer holds.mem same

theorem isSome_lookup_iff (text : String) :
    (index.lookup text).isSome = true ↔ text ∈ registry.entries.map textOf := by
  simp only [Option.isSome_iff_exists, leads]
  exact List.mem_iff_getElem?.symm

end

namespace Indexed

variable {registry : Registry} (indexed : registry.Indexed)

include indexed

theorem findById?_eq_some_iff (id : String) (ref : Ref) :
    registry.findById? id = some ref ↔ ∃ index transformer, registry.Holds index transformer ∧
      transformer.id = id ∧ ref = registry.refOf index transformer :=
  bind_refAt?_eq_some_iff indexed.byId id ref

theorem findByName?_eq_some_iff (name : String) (ref : Ref) :
    registry.findByName? name = some ref ↔ ∃ index transformer,
      registry.Holds index transformer ∧ transformer.name = name ∧
        ref = registry.refOf index transformer :=
  bind_refAt?_eq_some_iff indexed.byName name ref

theorem findById?_of_holds {index : Nat} {transformer : Transformer}
    (holds : registry.Holds index transformer) :
    registry.findById? transformer.id = some (registry.refOf index transformer) :=
  (indexed.findById?_eq_some_iff _ _).mpr ⟨index, transformer, holds, rfl, rfl⟩

theorem findByName?_of_holds {index : Nat} {transformer : Transformer}
    (holds : registry.Holds index transformer) :
    registry.findByName? transformer.name = some (registry.refOf index transformer) :=
  (indexed.findByName?_eq_some_iff _ _).mpr ⟨index, transformer, holds, rfl, rfl⟩

theorem findById?_eq_none_iff (id : String) :
    registry.findById? id = none ↔ ∀ transformer ∈ registry.entries, transformer.id ≠ id :=
  bind_refAt?_eq_none_iff indexed.byId id

theorem findByName?_eq_none_iff (name : String) :
    registry.findByName? name = none ↔ ∀ transformer ∈ registry.entries, transformer.name ≠ name :=
  bind_refAt?_eq_none_iff indexed.byName name

theorem eq_of_id {transformer other : Transformer} (entry : transformer ∈ registry.entries)
    (also : other ∈ registry.entries) (same : transformer.id = other.id) : transformer = other :=
  List.inj_on_of_nodup_map indexed.idsDistinct entry also same

theorem eq_of_name {transformer other : Transformer} (entry : transformer ∈ registry.entries)
    (also : other ∈ registry.entries) (same : transformer.name = other.name) :
    transformer = other :=
  List.inj_on_of_nodup_map indexed.namesDistinct entry also same

theorem containsId_iff (id : String) : registry.containsId id = true ↔ id ∈ registry.ids :=
  isSome_lookup_iff indexed.byId id

theorem containsName_iff (name : String) :
    registry.containsName name = true ↔ name ∈ registry.names :=
  isSome_lookup_iff indexed.byName name

end Indexed

/-! Handles. A position is kept in thirty-two bits, so a handle leads back to its own entry while the
positions fit; beyond that it still leads to the entry that shares it. -/

theorem get?_refOf_of_lt {registry : Registry} {index : Nat} {transformer : Transformer}
    (holds : registry.Holds index transformer) (fits : index < UInt32.size) :
    registry.get? (registry.refOf index transformer).handle =
      some (registry.refOf index transformer) := by
  have back : (UInt32.ofNat index).toNat = index := UInt32.toNat_ofNat_of_lt fits
  simp [get?, refOf, back, holds.refAt?]

theorem get?_refOf {registry : Registry} {index : Nat} {transformer : Transformer}
    (holds : registry.Holds index transformer) :
    ∃ ref, registry.get? (registry.refOf index transformer).handle = some ref ∧
      ref.isSame (registry.refOf index transformer) = true := by
  have shared : (UInt32.ofNat index).toNat < registry.entries.length := by
    have bound : index < registry.entries.length := holds.lt_size
    have wrapped : (UInt32.ofNat index).toNat = index % 2 ^ 32 := UInt32.toNat_ofNat'
    have below := Nat.mod_le index (2 ^ 32)
    omega
  refine ⟨registry.refOf (UInt32.ofNat index).toNat (registry.entries[(UInt32.ofNat index).toNat]),
    ?_, ?_⟩
  · have entry := List.getElem?_eq_getElem shared
    simp only [get?, refOf, if_true, Registry.refAt?, entry, Option.map_some]
  · simp only [Ref.isSame, refOf, UInt32.ofNat_toNat, decide_true]

/-! Enumerations. -/

theorem selectFrom_filter (registry : Registry) (accepts keeps : Transformer → Bool)
    (entries : List Transformer) : ∀ start,
    (registry.selectFrom accepts start entries).filter (fun ref => keeps ref.transformer) =
      registry.selectFrom (fun transformer => accepts transformer && keeps transformer) start
        entries := by
  induction entries with
  | nil => intro start; rfl
  | cons first rest ih =>
      intro start
      simp only [selectFrom]
      by_cases accepted : accepts first = true
      · by_cases kept : keeps first = true
        · simp [accepted, kept, refOf, ih]
        · simp [accepted, kept, refOf, ih]
      · simp [accepted, ih]

theorem selectFrom_eq_nil (registry : Registry) {accepts : Transformer → Bool}
    {entries : List Transformer}
    (rejected : ∀ transformer ∈ entries, accepts transformer = false) :
    ∀ start, registry.selectFrom accepts start entries = [] := by
  induction entries with
  | nil => intro start; rfl
  | cons first rest ih =>
      intro start
      simp only [selectFrom, rejected first (by simp)]
      exact ih (fun transformer member => rejected transformer (by simp [member])) (start + 1)

theorem selectFrom_eq_singleton (registry : Registry) (accepts : Transformer → Bool)
    {entries : List Transformer} {index : Nat} {transformer : Transformer}
    (found : entries[index]? = some transformer) (accepted : accepts transformer = true)
    (alone : ∀ other position, entries[position]? = some other → accepts other = true →
      position = index) :
    ∀ start, registry.selectFrom accepts start entries =
      [registry.refOf (start + index) transformer] := by
  induction entries generalizing index with
  | nil => simp at found
  | cons first rest ih =>
      intro start
      cases index with
      | zero =>
          simp only [List.getElem?_cons_zero, Option.some.injEq] at found
          subst found
          have others : ∀ other ∈ rest, accepts other = false := by
            intro other member
            obtain ⟨position, place⟩ := List.mem_iff_getElem?.mp member
            by_contra passed
            have clash := alone other (position + 1) (by simpa using place) (by simpa using passed)
            omega
          simp [selectFrom, accepted, selectFrom_eq_nil registry others]
      | succ index =>
          have refused : accepts first = false := by
            by_contra passed
            have clash := alone first 0 (by simp) (by simpa using passed)
            omega
          have later := ih (by simpa using found)
            (fun other position place passed => by
              have same := alone other (position + 1) (by simpa using place) passed
              omega) (start + 1)
          simp only [selectFrom, refused]
          rw [show start + (index + 1) = start + 1 + index by omega]
          exact later

theorem Indexed.index_unique {registry : Registry} (indexed : registry.Indexed)
    {first second : Nat} {one other : Transformer} (holdsOne : registry.Holds first one)
    (holdsOther : registry.Holds second other) (same : one.id = other.id) : first = second := by
  have firstId := holdsOne.getElem?_ids
  have secondId := holdsOther.getElem?_ids
  rw [same] at firstId
  have bound : first < registry.ids.length := (List.getElem?_eq_some_iff.mp firstId).1
  exact (List.getElem?_inj bound indexed.idsDistinct).mp (firstId.trans secondId.symm)

theorem Indexed.filter_all {registry : Registry} (indexed : registry.Indexed) {index : Nat}
    {transformer : Transformer} (holds : registry.Holds index transformer) :
    registry.all.filter (fun ref => ref.transformer.id == transformer.id) =
      [registry.refOf index transformer] := by
  rw [all, allMatching,
    selectFrom_filter registry (fun _ => true) (fun other => other.id == transformer.id)]
  have single := selectFrom_eq_singleton registry
    (fun other => true && other.id == transformer.id) holds (by simp)
    (fun other position place same =>
      indexed.index_unique place holds (by simpa using same)) 0
  rw [single, Nat.zero_add]

end Registry

end ArtifactTools
