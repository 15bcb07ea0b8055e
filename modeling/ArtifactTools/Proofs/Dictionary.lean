import ArtifactTools.Dictionary
import Mathlib.Data.List.Induction
import Mathlib.Data.List.Nodup

/-! What dictionaries hold. Of the entries that one is made from the last under each key counts, and
a dictionary is determined by what is found in it. -/

namespace ArtifactTools.Dictionary

variable {α : Type}

/-! Lists of entries in any order. -/

section

variable {κ : Type} [BEq κ] [LawfulBEq κ] {entries : List (κ × α)}

theorem lookup_eq_none_iff_absent {key : κ} :
    entries.lookup key = none ↔ key ∉ entries.map Prod.fst := by
  rw [List.lookup_eq_none_iff, List.mem_map]
  constructor
  · rintro different ⟨entry, member, rfl⟩
    simpa using different entry member
  · intro absent entry member
    have different : key ≠ entry.1 := fun same => absent ⟨entry, member, same.symm⟩
    simpa using different

theorem lookup_eq_some_iff_mem (distinct : (entries.map Prod.fst).Nodup) {key : κ} {value : α} :
    entries.lookup key = some value ↔ (key, value) ∈ entries := by
  induction entries with
  | nil => simp
  | cons first rest ih =>
      obtain ⟨other, content⟩ := first
      obtain ⟨absent, restDistinct⟩ := List.nodup_cons.mp distinct
      rw [List.lookup_cons, List.mem_cons, Prod.mk.injEq]
      by_cases same : key = other
      · subst same
        have elsewhere : (key, value) ∉ rest := fun member =>
          absent (List.mem_map.mpr ⟨_, member, rfl⟩)
        simp [elsewhere, eq_comm]
      · simp [same, beq_false_of_ne same, ih restDistinct]

theorem lookup_eq_of_perm {others : List (κ × α)} (distinct : (entries.map Prod.fst).Nodup)
    (same : entries.Perm others) (key : κ) : entries.lookup key = others.lookup key := by
  have distinctToo := (same.map Prod.fst).nodup_iff.mp distinct
  apply Option.ext
  intro value
  rw [lookup_eq_some_iff_mem distinct, lookup_eq_some_iff_mem distinctToo, same.mem_iff]

end

/-! Entries in order. -/

theorem Ordered.nodup {entries : List (String × α)} (ordered : Ordered entries) :
    (entries.map Prod.fst).Nodup :=
  List.Pairwise.map Prod.fst (fun _ _ less => String.ne_of_lt less) ordered

theorem nodup_keys (dictionary : Dictionary α) : dictionary.keys.Nodup := dictionary.ordered.nodup

theorem lookup_eq_none_of_lt {entries : List (String × α)} {key : String}
    (beyond : ∀ entry ∈ entries, key < entry.1) : entries.lookup key = none := by
  rw [lookup_eq_none_iff_absent, List.mem_map]
  rintro ⟨entry, member, rfl⟩
  exact String.lt_irrefl _ (beyond entry member)

theorem place_of_greatest {entries : List (String × α)} {key : String}
    (greatest : ∀ entry ∈ entries, entry.1 < key) (value : α) :
    place key value entries = entries ++ [(key, value)] := by
  induction entries with
  | nil => rfl
  | cons first rest ih =>
      obtain ⟨other, old⟩ := first
      have less : other < key := greatest (other, old) List.mem_cons_self
      have later := ih fun entry member => greatest entry (List.mem_cons_of_mem _ member)
      simp only [place, String.lt_asymm less, (String.ne_of_lt less).symm, if_false, later,
        List.cons_append]

theorem place_perm {entries : List (String × α)} {key : String}
    (fresh : key ∉ entries.map Prod.fst) (value : α) :
    (place key value entries).Perm ((key, value) :: entries) := by
  induction entries with
  | nil => exact List.Perm.refl _
  | cons first rest ih =>
      obtain ⟨other, old⟩ := first
      simp only [List.map_cons, List.mem_cons, not_or] at fresh
      simp only [place, fresh.1, if_false]
      split
      · exact List.Perm.refl _
      · exact ((ih fresh.2).cons (other, old)).trans (List.Perm.swap _ _ _)

theorem lookup_place_self (key : String) (value : α) (entries : List (String × α)) :
    (place key value entries).lookup key = some value := by
  induction entries with
  | nil => simp [place]
  | cons entry rest ih =>
      obtain ⟨other, old⟩ := entry
      simp only [place]
      split
      · simp
      · split
        · simp
        · next different => simp [List.lookup_cons, beq_false_of_ne different, ih]

theorem lookup_place_of_ne {key other : String} (different : other ≠ key) (value : α)
    (entries : List (String × α)) :
    (place key value entries).lookup other = entries.lookup other := by
  have apart := beq_false_of_ne different
  induction entries with
  | nil => simp [place, List.lookup_cons, apart]
  | cons entry rest ih =>
      obtain ⟨first, old⟩ := entry
      simp only [place]
      split
      · simp [List.lookup_cons, apart]
      · split
        · next same => simp [List.lookup_cons, apart, ← same]
        · simp [List.lookup_cons, ih]

/-! Dictionaries of entries. -/

def insertAll (dictionary : Dictionary α) (entries : List (String × α)) : Dictionary α :=
  entries.foldl (fun dictionary entry => dictionary.insert entry.1 entry.2) dictionary

theorem mem_insertAll {entries : List (String × α)} {found : String × α} :
    ∀ {dictionary : Dictionary α}, found ∈ (dictionary.insertAll entries).entries →
      found ∈ dictionary.entries ∨ found ∈ entries := by
  induction entries with
  | nil => exact fun member => Or.inl member
  | cons entry rest ih =>
      intro dictionary member
      rcases ih member with earlier | later
      · rcases mem_place earlier with rfl | old
        · exact Or.inr List.mem_cons_self
        · exact Or.inl old
      · exact Or.inr (List.mem_cons_of_mem entry later)

theorem entries_insertAll_of_ordered (entries : List (String × α)) :
    ∀ dictionary : Dictionary α, Ordered (dictionary.entries ++ entries) →
      (dictionary.insertAll entries).entries = dictionary.entries ++ entries := by
  induction entries with
  | nil => exact fun dictionary _ => (List.append_nil dictionary.entries).symm
  | cons entry rest ih =>
      intro dictionary ordered
      have greatest : ∀ earlier ∈ dictionary.entries, earlier.1 < entry.1 := by
        intro earlier member
        exact (List.pairwise_append.mp ordered).2.2 earlier member entry List.mem_cons_self
      have placed : (dictionary.insert entry.1 entry.2).entries = dictionary.entries ++ [entry] :=
        place_of_greatest greatest entry.2
      rw [List.append_cons, ← placed] at ordered ⊢
      exact ih _ ordered

theorem insertAll_perm (entries : List (String × α)) : ∀ dictionary : Dictionary α,
    ((dictionary.entries ++ entries).map Prod.fst).Nodup →
      (dictionary.insertAll entries).entries.Perm (dictionary.entries ++ entries) := by
  induction entries with
  | nil => exact fun dictionary _ => by rw [List.append_nil]; exact List.Perm.refl _
  | cons entry rest ih =>
      intro dictionary distinct
      have fresh : entry.1 ∉ dictionary.entries.map Prod.fst := by
        rw [List.map_append] at distinct
        intro member
        exact (List.nodup_append.mp distinct).2.2 _ member _ List.mem_cons_self rfl
      have moved : (dictionary.insert entry.1 entry.2).entries.Perm (entry :: dictionary.entries) :=
        place_perm fresh entry.2
      have shifted : ((dictionary.insert entry.1 entry.2).entries ++ rest).Perm
          (dictionary.entries ++ entry :: rest) :=
        (moved.append_right rest).trans List.perm_middle.symm
      have still := ((shifted.map Prod.fst).nodup_iff).mpr distinct
      exact (ih _ still).trans shifted

theorem mem_of_mem_ofList {entries : List (String × α)} {entry : String × α}
    (member : entry ∈ (ofList entries).entries) : entry ∈ entries := by
  rcases mem_insertAll member with absent | present
  · exact absurd absent List.not_mem_nil
  · exact present

theorem entries_ofList {entries : List (String × α)} (ordered : Ordered entries) :
    (ofList entries).entries = entries :=
  entries_insertAll_of_ordered entries empty ordered

theorem ofList_entries (dictionary : Dictionary α) : ofList dictionary.entries = dictionary :=
  Dictionary.ext (entries_ofList dictionary.ordered)

theorem ofList_perm {entries : List (String × α)} (distinct : (entries.map Prod.fst).Nodup) :
    (ofList entries).entries.Perm entries :=
  insertAll_perm entries empty distinct

/-! What is found in a dictionary. -/

theorem get?_eq_some_iff (dictionary : Dictionary α) (key : String) (value : α) :
    dictionary.get? key = some value ↔ (key, value) ∈ dictionary.entries :=
  lookup_eq_some_iff_mem dictionary.nodup_keys

theorem eq_of_get?_eq {first second : Dictionary α}
    (same : ∀ key, first.get? key = second.get? key) : first = second := by
  have members : first.entries.Perm second.entries := by
    rw [List.perm_ext_iff_of_nodup first.nodup_keys.of_map second.nodup_keys.of_map]
    intro entry
    rw [← first.get?_eq_some_iff entry.1 entry.2, same, second.get?_eq_some_iff entry.1 entry.2]
  refine Dictionary.ext (members.eq_of_pairwise ?_ first.ordered second.ordered)
  intro one other _ _ less greater
  exact absurd greater (String.lt_asymm less)

/-- Of the entries under a key the last counts. -/
theorem get?_ofList (entries : List (String × α)) (key : String) :
    (ofList entries).get? key = entries.reverse.lookup key := by
  induction entries using List.reverseRecOn with
  | nil => rfl
  | append_singleton entries last ih =>
      obtain ⟨other, value⟩ := last
      have built : (ofList (entries ++ [(other, value)])).entries =
          place other value (ofList entries).entries := by simp [ofList, insert]
      rw [get?, built, List.reverse_append, List.reverse_singleton, List.singleton_append,
        List.lookup_cons]
      by_cases same : key = other
      · subst same
        simp [lookup_place_self]
      · rw [lookup_place_of_ne same, beq_false_of_ne same]
        exact ih

def Gathers (dictionary : Dictionary α) (entries : List (String × α)) : Prop :=
  ∀ key, dictionary.get? key = entries.reverse.lookup key

theorem gathers_iff {dictionary : Dictionary α} {entries : List (String × α)} :
    dictionary.Gathers entries ↔ dictionary = ofList entries := by
  constructor
  · intro last
    exact eq_of_get?_eq fun key => (last key).trans (get?_ofList entries key).symm
  · rintro rfl
    exact get?_ofList entries

end ArtifactTools.Dictionary
