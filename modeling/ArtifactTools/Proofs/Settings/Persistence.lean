import ArtifactTools.Proofs.Json.Meaning
import ArtifactTools.Settings.Persisted

/-! Persisted settings, once read, are written so that they are read the same. -/

namespace ArtifactTools.Settings.Persisted

def Legible (budget : Nat) (persisted : Persisted) : Prop :=
  ∀ entry ∈ persisted.entries, ∀ member ∈ entry.2.entries, member.2.Legible budget

def DoubleFree (persisted : Persisted) : Prop :=
  ∀ entry ∈ persisted.entries, ∀ member ∈ entry.2.entries, member.2.DoubleFree

theorem legible_empty (budget : Nat) : Legible budget .empty := List.forall_mem_nil _

theorem persistedEntries?_cons {budget : Nat} {key : Option String} {document : Json.Document}
    {rest : List (Option String × Json.Document)} {entries : List (String × Json.Members)}
    (read : persistedEntries? budget ((key, document) :: rest) = some entries) :
    ∃ id members others, key = some id ∧ document.members? budget = some members ∧
      persistedEntries? budget rest = some others ∧ entries = (id, members) :: others := by
  unfold persistedEntries? at read
  split at read
  · next id members others readMembers readOthers =>
      exact ⟨id, members, others, rfl, readMembers, readOthers, (Option.some.inj read).symm⟩
  · simp at read

theorem legible_of_persistedEntries? {budget : Nat}
    {documents : List (Option String × Json.Document)} {entries : List (String × Json.Members)}
    (read : persistedEntries? (budget + 1) documents = some entries) :
    ∀ entry ∈ entries, ∀ member ∈ entry.2.entries, member.2.Legible budget := by
  induction documents generalizing entries with
  | nil =>
      simp only [persistedEntries?, Option.some.injEq] at read
      subst entries
      simp
  | cons document rest ih =>
      obtain ⟨key, document⟩ := document
      obtain ⟨id, members, others, -, readMembers, readOthers, rfl⟩ := persistedEntries?_cons read
      exact List.forall_mem_cons.mpr ⟨Json.legible_of_members? readMembers, ih readOthers⟩

theorem legible_of_ofDocument? {budget : Nat} {document : Json.Document} {persisted : Persisted}
    (read : ofDocument? (budget + 2) document = some persisted) : persisted.Legible budget := by
  cases document with
  | object documents =>
      obtain ⟨entries, readEntries, rfl⟩ := Option.map_eq_some_iff.mp read
      have legible := legible_of_persistedEntries? readEntries
      exact fun entry kept => legible entry (Dictionary.mem_of_mem_ofList kept)
  | _ => simp [ofDocument?] at read

theorem DoubleFree.toJson {persisted : Persisted} (free : persisted.DoubleFree) :
    persisted.toJson.DoubleFree := by
  refine .object ?_
  intro member kept
  obtain ⟨entry, present, rfl⟩ := List.mem_map.mp kept
  exact .object (free entry present)

theorem persistedEntries?_documents {budget : Nat} {entries : List (String × Json.Members)}
    (legible : ∀ entry ∈ entries, ∀ member ∈ entry.2.entries, member.2.Legible budget)
    (free : ∀ entry ∈ entries, ∀ member ∈ entry.2.entries, member.2.DoubleFree) :
    persistedEntries? (budget + 1)
      (Json.memberDocuments (entries.map fun entry => (entry.1, .object entry.2.entries))) =
      some entries := by
  induction entries with
  | nil => rfl
  | cons entry rest ih =>
      obtain ⟨id, members⟩ := entry
      have first := Json.members?_object (legible _ List.mem_cons_self) (free _ List.mem_cons_self)
      have others := ih (fun entry later => legible entry (List.mem_cons_of_mem _ later))
        (fun entry later => free entry (List.mem_cons_of_mem _ later))
      simp only at first
      simp only [List.map_cons, Json.memberDocuments, persistedEntries?, first, others]

theorem ofDocument?_toJson {budget : Nat} {persisted : Persisted}
    (legible : persisted.Legible budget) (free : persisted.DoubleFree) :
    ofDocument? (budget + 2) persisted.toJson.document = some persisted := by
  have read := persistedEntries?_documents legible free
  simp [toJson, Json.Value.document, ofDocument?, read, Dictionary.ofList_entries]

theorem parse?_textIn {persisted : Persisted} (legible : persisted.Legible 125)
    (free : persisted.DoubleFree) (layout : Json.Layout) :
    parse? (persisted.toJson.textIn layout) = some persisted := by
  rw [parse?, free.toJson.read?_textIn, Option.bind_some]
  exact ofDocument?_toJson legible free

end ArtifactTools.Settings.Persisted
