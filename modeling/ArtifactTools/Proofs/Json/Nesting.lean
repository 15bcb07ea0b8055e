import ArtifactTools.Proofs.Json.Meaning
import Mathlib.Data.List.Forall2

/-! How deep documents nest, and what they mean however deep that is. A reader that may open as many
arrays and objects as a document nests takes what the document means. -/

namespace ArtifactTools.Json

mutual

def Document.depth : Document → Nat
  | .array elements => elementDepth elements + 1
  | .object members => memberDepth members + 1
  | _ => 0

def elementDepth : List Document → Nat
  | [] => 0
  | element :: rest => max element.depth (elementDepth rest)

def memberDepth : List (Option String × Document) → Nat
  | [] => 0
  | (_, document) :: rest => max document.depth (memberDepth rest)

end

theorem depth_le_memberDepth {members : List (Option String × Document)}
    {member : Option String × Document} (present : member ∈ members) :
    member.2.depth ≤ memberDepth members := by
  induction members with
  | nil => cases present
  | cons first rest ih =>
      rw [memberDepth]
      rcases List.mem_cons.mp present with rfl | later
      · exact Nat.le_max_left _ _
      · exact Nat.le_trans (ih later) (Nat.le_max_right _ _)

/-- What a reader makes of the document if it may open enough arrays and objects. Halves of
surrogate pairs and numerals beyond the doubles mean nothing. -/
def Document.Denotes (document : Document) (value : Value) : Prop :=
  ∃ budget, document.value? budget = some value

section

variable {more budget : Nat} (same : ∀ {document : Document} {value},
  document.value? more = some value → document.depth ≤ budget →
    document.value? budget = some value)

include same

theorem elementValues?_of_depth_le {documents : List Document} : ∀ {values},
    elementValues? more documents = some values → elementDepth documents ≤ budget →
      elementValues? budget documents = some values := by
  induction documents with
  | nil => exact fun read _ => read
  | cons document rest ih =>
      intro values read within
      obtain ⟨here, there⟩ := Nat.max_le.mp within
      rw [elementValues?] at read
      split at read
      · next first others readFirst readOthers =>
          rw [elementValues?, same readFirst here, ih readOthers there]
          exact read
      · simp at read

theorem memberValues?_of_depth_le {documents : List (Option String × Document)} : ∀ {members},
    memberValues? more documents = some members → memberDepth documents ≤ budget →
      memberValues? budget documents = some members := by
  induction documents with
  | nil => exact fun read _ => read
  | cons member rest ih =>
      intro members read within
      obtain ⟨key, document⟩ := member
      obtain ⟨here, there⟩ := Nat.max_le.mp within
      obtain ⟨name, value, others, rfl, readFirst, readOthers, rfl⟩ := memberValues?_cons read
      simp only [memberValues?, same readFirst here, ih readOthers there]

end

theorem value?_of_depth_le (more : Nat) : ∀ {budget : Nat} {document : Document} {value : Value},
    document.value? more = some value → document.depth ≤ budget →
      document.value? budget = some value := by
  -- On the budget that was enough. The depth bounds the other one from below at every level.
  induction more with
  | zero =>
      intro budget document value read within
      cases document with
      | array elements => simp [Document.value?] at read
      | object members => simp [Document.value?] at read
      | _ => exact read
  | succ more ih =>
      intro budget document value read within
      cases document with
      | array elements =>
          obtain ⟨less, rfl⟩ := Nat.exists_eq_add_of_le' (Nat.le_trans (Nat.succ_pos _) within)
          obtain ⟨values, readValues, rfl⟩ := Option.map_eq_some_iff.mp read
          have again := elementValues?_of_depth_le ih readValues (Nat.le_of_succ_le_succ within)
          simp [Document.value?, again]
      | object members =>
          obtain ⟨less, rfl⟩ := Nat.exists_eq_add_of_le' (Nat.le_trans (Nat.succ_pos _) within)
          obtain ⟨entries, readEntries, rfl⟩ := Option.map_eq_some_iff.mp read
          have again := memberValues?_of_depth_le ih readEntries (Nat.le_of_succ_le_succ within)
          simp [Document.value?, again]
      | _ => exact read

theorem denotes_iff {document : Document} {budget : Nat} (within : document.depth ≤ budget)
    (value : Value) : document.Denotes value ↔ document.value? budget = some value := by
  constructor
  · rintro ⟨more, read⟩
    exact value?_of_depth_le more read within
  · exact fun read => ⟨budget, read⟩

/-! Objects. -/

def Spell {α : Type} (Means : Document → α → Prop) (members : List (Option String × Document))
    (entries : List (String × α)) : Prop :=
  List.Forall₂ (fun member entry => member.1 = some entry.1 ∧ Means member.2 entry.2) members
    entries

def Document.Lists {α : Type} (Means : Document → α → Prop) (document : Document)
    (entries : List (String × α)) : Prop :=
  ∃ members, document = .object members ∧ Spell Means members entries

theorem spell_iff {α : Type} {Means : Document → α → Prop} {reads : Document → Option α}
    {readAll : List (Option String × Document) → Option (List (String × α))}
    (nil : readAll [] = some [])
    (cons : ∀ {key document rest entries}, readAll ((key, document) :: rest) = some entries ↔
      ∃ name value others, key = some name ∧ reads document = some value ∧
        readAll rest = some others ∧ entries = (name, value) :: others)
    {members : List (Option String × Document)} : ∀ {entries},
    (∀ member ∈ members, ∀ value, reads member.2 = some value ↔ Means member.2 value) →
      (readAll members = some entries ↔ Spell Means members entries) := by
  induction members with
  | nil =>
      intro entries _
      rw [nil, Spell, List.forall₂_nil_left_iff, Option.some_inj, eq_comm]
  | cons member rest ih =>
      intro entries means
      obtain ⟨key, document⟩ := member
      obtain ⟨first, later⟩ := List.forall_mem_cons.mp means
      rw [cons, Spell, List.forall₂_cons_left_iff]
      constructor
      · rintro ⟨name, value, others, rfl, readFirst, readOthers, rfl⟩
        exact ⟨(name, value), others, ⟨rfl, (first value).mp readFirst⟩, (ih later).mp readOthers,
          rfl⟩
      · rintro ⟨⟨name, value⟩, others, ⟨rfl, meansFirst⟩, spelled, rfl⟩
        exact ⟨name, value, others, rfl, (first value).mpr meansFirst, (ih later).mpr spelled, rfl⟩

theorem memberValues?_eq_some_iff {budget : Nat} {members : List (Option String × Document)}
    (within : memberDepth members ≤ budget) {entries : List (String × Value)} :
    memberValues? budget members = some entries ↔ Spell Document.Denotes members entries := by
  refine spell_iff rfl ⟨memberValues?_cons, ?_⟩ fun member present value => ?_
  · rintro ⟨name, value, others, rfl, readFirst, readOthers, rfl⟩
    simp only [memberValues?, readFirst, readOthers]
  · exact (denotes_iff (Nat.le_trans (depth_le_memberDepth present) within) value).symm

def Document.IsMembers (document : Document) (members : Members) : Prop :=
  ∃ entries, document.Lists Document.Denotes entries ∧ members.Gathers entries

theorem members?_eq_some_iff {document : Document} {budget : Nat}
    (within : document.depth ≤ budget) {members : Members} :
    document.members? budget = some members ↔ document.IsMembers members := by
  cases document with
  | object documents =>
      obtain ⟨less, rfl⟩ := Nat.exists_eq_add_of_le' (Nat.le_trans (Nat.succ_pos _) within)
      have inside := Nat.le_of_succ_le_succ within
      simp [Document.members?, Document.IsMembers, Document.Lists, Dictionary.gathers_iff,
        memberValues?_eq_some_iff inside, @eq_comm _ members]
  | _ => simp [Document.members?, Document.IsMembers, Document.Lists]

end ArtifactTools.Json
