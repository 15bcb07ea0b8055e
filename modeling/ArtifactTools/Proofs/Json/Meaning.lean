import ArtifactTools.Proofs.Dictionary
import ArtifactTools.Proofs.Json.Reading

/-! The values that documents mean. Whatever a reader accepts is legible: a printer's text of it is
accepted again while as many arrays and objects may be opened, and means the same value. -/

namespace ArtifactTools.Json

/-- The whole numbers of a legible value are words, its members stand in order, and its arrays and
objects do not nest beyond the budget. -/
inductive Value.Legible : Nat → Value → Prop
  | null (budget) : Legible budget .null
  | bool (budget value) : Legible budget (.bool value)
  | whole (budget) {value} : IsWord value → Legible budget (.number (.whole value))
  | double (budget value) : Legible budget (.number (.double value))
  | string (budget text) : Legible budget (.string text)
  | array {budget elements} : (∀ element ∈ elements, Legible budget element) →
      Legible (budget + 1) (.array elements)
  | object {budget members} : Dictionary.Ordered members →
      (∀ member ∈ members, Legible budget member.2) → Legible (budget + 1) (.object members)

/-! What a reader accepts is legible. -/

theorem forall_mem_elementValues? {budget : Nat} {documents : List Document} {values : List Value}
    {Holds : Value → Prop}
    (holds : ∀ {document : Document} {value}, document.value? budget = some value → Holds value)
    (read : elementValues? budget documents = some values) : ∀ value ∈ values, Holds value := by
  induction documents generalizing values with
  | nil =>
      simp only [elementValues?, Option.some.injEq] at read
      subst values
      simp
  | cons document rest ih =>
      rw [elementValues?] at read
      split at read
      · next first others readFirst readOthers =>
          obtain rfl := Option.some.inj read
          exact List.forall_mem_cons.mpr ⟨holds readFirst, ih readOthers⟩
      · simp at read

theorem memberValues?_cons {budget : Nat} {key : Option String} {document : Document}
    {rest : List (Option String × Document)} {members : List (String × Value)}
    (read : memberValues? budget ((key, document) :: rest) = some members) :
    ∃ name value others, key = some name ∧ document.value? budget = some value ∧
      memberValues? budget rest = some others ∧ members = (name, value) :: others := by
  unfold memberValues? at read
  split at read
  · next name value others readFirst readOthers =>
      exact ⟨name, value, others, rfl, readFirst, readOthers, (Option.some.inj read).symm⟩
  · simp at read

theorem forall_mem_memberValues? {budget : Nat} {documents : List (Option String × Document)}
    {members : List (String × Value)} {Holds : Value → Prop}
    (holds : ∀ {document : Document} {value}, document.value? budget = some value → Holds value)
    (read : memberValues? budget documents = some members) :
    ∀ member ∈ members, Holds member.2 := by
  induction documents generalizing members with
  | nil =>
      simp only [memberValues?, Option.some.injEq] at read
      subst members
      simp
  | cons document rest ih =>
      obtain ⟨key, document⟩ := document
      obtain ⟨name, first, others, -, readFirst, readOthers, rfl⟩ := memberValues?_cons read
      exact List.forall_mem_cons.mpr ⟨holds readFirst, ih readOthers⟩

theorem legible_of_number? (budget : Nat) {numeral : Numeral} {number : Number}
    (read : numeral.number? = some number) : (Value.number number).Legible budget := by
  cases number with
  | whole value => exact .whole budget (isWord_of_number? read)
  | double value => exact .double budget value

theorem legible_of_value? (budget : Nat) : ∀ {document : Document} {value : Value},
    document.value? budget = some value → value.Legible budget := by
  induction budget using Nat.strongRecOn with
  | ind budget ih =>
      intro document value read
      cases document with
      | null =>
          obtain rfl := Option.some.inj read
          exact .null budget
      | bool content =>
          obtain rfl := Option.some.inj read
          exact .bool budget content
      | number numeral =>
          obtain ⟨number, readNumber, rfl⟩ := Option.map_eq_some_iff.mp read
          exact legible_of_number? budget readNumber
      | string text =>
          obtain ⟨content, -, rfl⟩ := Option.map_eq_some_iff.mp read
          exact .string budget content
      | array elements =>
          rw [Document.value?] at read
          split at read
          · simp at read
          · next positive =>
              obtain ⟨less, rfl⟩ := Nat.exists_eq_succ_of_ne_zero positive
              obtain ⟨values, readValues, rfl⟩ := Option.map_eq_some_iff.mp read
              exact .array (forall_mem_elementValues? (ih less (Nat.lt_succ_self less)) readValues)
      | object members =>
          rw [Document.value?] at read
          split at read
          · simp at read
          · next positive =>
              obtain ⟨less, rfl⟩ := Nat.exists_eq_succ_of_ne_zero positive
              obtain ⟨entries, readEntries, rfl⟩ := Option.map_eq_some_iff.mp read
              have legible := forall_mem_memberValues? (ih less (Nat.lt_succ_self less)) readEntries
              exact .object (Dictionary.ofList entries).ordered
                fun member kept => legible member (Dictionary.mem_of_mem_ofList kept)

theorem legible_of_members? {budget : Nat} {document : Document} {members : Members}
    (read : document.members? (budget + 1) = some members) :
    ∀ member ∈ members.entries, member.2.Legible budget := by
  cases document with
  | object documents =>
      obtain ⟨entries, readEntries, rfl⟩ := Option.map_eq_some_iff.mp read
      have legible := forall_mem_memberValues? (legible_of_value? budget) readEntries
      exact fun member kept => legible member (Dictionary.mem_of_mem_ofList kept)
  | _ => simp [Document.members?] at read

/-! A legible value is what its document means. -/

theorem elementValues?_documents {budget : Nat} {elements : List Value}
    (returns : ∀ element ∈ elements, element.document.value? budget = some element) :
    elementValues? budget (elementDocuments elements) = some elements := by
  induction elements with
  | nil => rfl
  | cons element rest ih =>
      obtain ⟨first, others⟩ := List.forall_mem_cons.mp returns
      rw [elementDocuments, elementValues?, first, ih others]

theorem memberValues?_documents {budget : Nat} {members : List (String × Value)}
    (returns : ∀ member ∈ members, member.2.document.value? budget = some member.2) :
    memberValues? budget (memberDocuments members) = some members := by
  induction members with
  | nil => rfl
  | cons member rest ih =>
      obtain ⟨key, value⟩ := member
      obtain ⟨first, others⟩ := List.forall_mem_cons.mp returns
      have read : value.document.value? budget = some value := first
      simp only [memberDocuments, memberValues?, read, ih others]

theorem Value.Legible.value?_document {budget : Nat} {value : Value}
    (legible : value.Legible budget) (free : value.DoubleFree) :
    value.document.value? budget = some value := by
  induction legible with
  | null budget => rfl
  | bool budget content => rfl
  | whole budget word =>
      rw [Value.document, Number.numeral_whole, Document.value?, number?_wholeNumeral word]
      rfl
  | double budget content => cases free
  | string budget text => rfl
  | array _ ih =>
      cases free with
      | array free =>
          have read := elementValues?_documents fun element member =>
            ih element member (free element member)
          simp [Value.document, Document.value?, read]
  | object ordered _ ih =>
      cases free with
      | object free =>
          have read := memberValues?_documents fun member kept => ih member kept (free member kept)
          simp [Value.document, Document.value?, read, Dictionary.entries_ofList ordered]

theorem members?_object {budget : Nat} {members : Members}
    (legible : ∀ member ∈ members.entries, member.2.Legible budget)
    (free : ∀ member ∈ members.entries, member.2.DoubleFree) :
    (Value.object members.entries).document.members? (budget + 1) = some members := by
  have read := memberValues?_documents fun member kept =>
    (legible member kept).value?_document (free member kept)
  simp [Value.document, Document.members?, read, Dictionary.ofList_entries]

end ArtifactTools.Json
