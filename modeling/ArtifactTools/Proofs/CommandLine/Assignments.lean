import ArtifactTools.CommandLine.Change
import ArtifactTools.Proofs.Settings.Editing

/-! What a list of assignments does to a store. It is taken as a whole or not at all: if every one
is well-formed and its value accepted, each key has what the last assignment to it gives, and
otherwise there is no store at all. -/

namespace ArtifactTools.CommandLine

open Settings (Store Value)

theorem splitAtEquals_cons_of_ne {character : Char} (other : character ≠ '=') (rest : List Char) :
    splitAtEquals (character :: rest) =
      (character :: (splitAtEquals rest).1, (splitAtEquals rest).2) := by
  rw [splitAtEquals]
  exact fun same => other same

theorem splitAtEquals_eq_some_iff (characters before after : List Char) :
    splitAtEquals characters = (before, some after) ↔
      characters = before ++ '=' :: after ∧ '=' ∉ before := by
  induction characters generalizing before with
  | nil => simp [splitAtEquals]
  | cons character rest ih =>
      by_cases equals : character = '='
      · subst equals
        simp only [splitAtEquals, Prod.mk.injEq, Option.some.injEq]
        constructor
        · rintro ⟨rfl, rfl⟩
          simp
        · rintro ⟨divided, absent⟩
          cases before with
          | nil => simpa using divided
          | cons first others =>
              obtain ⟨rfl, -⟩ := List.cons.inj divided
              simp at absent
      · rw [splitAtEquals_cons_of_ne equals, Prod.mk.injEq]
        constructor
        · rintro ⟨rfl, found⟩
          obtain ⟨divided, absent⟩ := (ih _).mp (Prod.ext rfl found)
          refine ⟨congrArg (character :: ·) divided, ?_⟩
          simpa [Ne.symm equals] using absent
        · rintro ⟨divided, absent⟩
          cases before with
          | nil => exact absurd (List.cons.inj divided).1 equals
          | cons first others =>
              obtain ⟨rfl, sameRest⟩ := List.cons.inj divided
              have found := (ih others).mpr ⟨sameRest, fun member => absent (by simp [member])⟩
              rw [found]
              exact ⟨rfl, rfl⟩

/-- An assignment names a key before its first equals sign and a text after it. The blanks around
both say nothing. -/
def Spells (assignment key raw : String) : Prop :=
  ∃ before after, assignment.toList = before ++ '=' :: after ∧ '=' ∉ before ∧
    key = Blank.trim (String.ofList before) ∧ raw = Blank.trim (String.ofList after) ∧ key ≠ ""

theorem readAssignment_eq_ok_iff (assignment key raw : String) :
    readAssignment assignment = .ok (key, raw) ↔ Spells assignment key raw := by
  have halves : Spells assignment key raw ↔ ∃ before after,
      splitAtEquals assignment.toList = (before, some after) ∧
        key = Blank.trim (String.ofList before) ∧ raw = Blank.trim (String.ofList after) ∧
        key ≠ "" := by
    simp only [Spells, splitAtEquals_eq_some_iff, and_assoc]
  rw [halves]
  unfold readAssignment
  rcases divided : splitAtEquals assignment.toList with ⟨before, _ | after⟩
  · simp
  · by_cases empty : Blank.trim (String.ofList before) = ""
    · simp +contextual [empty]
    · have named : (Blank.trim (String.ofList before)).isEmpty = false := by simpa using empty
      simp only [named, Bool.false_eq_true, if_false, Except.ok.injEq, Prod.mk.injEq,
        Option.some.injEq]
      constructor
      · rintro ⟨rfl, rfl⟩
        exact ⟨before, after, ⟨rfl, rfl⟩, rfl, rfl, empty⟩
      · rintro ⟨_, _, ⟨rfl, rfl⟩, rfl, rfl, -⟩
        exact ⟨rfl, rfl⟩

theorem Spells.unique {assignment key raw other text : String} (first : Spells assignment key raw)
    (second : Spells assignment other text) : key = other ∧ raw = text := by
  rw [← readAssignment_eq_ok_iff] at first second
  rw [first] at second
  exact Prod.mk.inj (Except.ok.inj second)

def Assigns (store : Store) (assignment key : String) (value : Value) : Prop :=
  ∃ raw, Spells assignment key raw ∧ store.Takes key raw value

def Accepted (store : Store) (assignment : String) : Prop :=
  ∃ key value, Assigns store assignment key value

def Untouched (store : Store) (assignments : List String) (key : String) : Prop :=
  ∀ assignment ∈ assignments, ∀ value, ¬ Assigns store assignment key value

def LastAssigns (store : Store) (assignments : List String) (key : String) (value : Value) : Prop :=
  ∃ before last after, assignments = before ++ last :: after ∧ Assigns store last key value ∧
    Untouched store after key

theorem Assigns.unique {store : Store} {assignment key other : String} {value content : Value}
    (first : Assigns store assignment key value) (second : Assigns store assignment other content) :
    key = other ∧ value = content := by
  obtain ⟨raw, spells, takes⟩ := first
  obtain ⟨text, spellsToo, takesToo⟩ := second
  obtain ⟨rfl, rfl⟩ := spells.unique spellsToo
  exact ⟨rfl, takes.unique takesToo⟩

section

variable {first second : Store} (same : first.SameKinds second)

include same

theorem assigns_iff_of_sameKinds (assignment key : String) (value : Value) :
    Assigns first assignment key value ↔ Assigns second assignment key value := by
  simp only [Assigns, same.takes_iff]

theorem accepted_iff_of_sameKinds (assignment : String) :
    Accepted first assignment ↔ Accepted second assignment := by
  simp only [Accepted, assigns_iff_of_sameKinds same]

theorem untouched_iff_of_sameKinds (assignments : List String) (key : String) :
    Untouched first assignments key ↔ Untouched second assignments key := by
  simp only [Untouched, assigns_iff_of_sameKinds same]

theorem lastAssigns_iff_of_sameKinds (assignments : List String) (key : String) (value : Value) :
    LastAssigns first assignments key value ↔ LastAssigns second assignments key value := by
  simp only [LastAssigns, assigns_iff_of_sameKinds same, untouched_iff_of_sameKinds same]

end

theorem assignAll_cons_of_accepted {store : Store} {id assignment : String}
    (accepted : Accepted store assignment) (rest : List String) :
    ∃ key value next, Assigns store assignment key value ∧ store.set key value = .ok next ∧
      assignAll id store (assignment :: rest) = assignAll id next rest := by
  obtain ⟨key, value, raw, spells, takes⟩ := accepted
  obtain ⟨next, wrote⟩ := Store.exists_setText takes
  obtain ⟨other, takesOther, stored⟩ := (Store.setText_eq_ok_iff store next key raw).mp wrote
  obtain rfl := takes.unique takesOther
  refine ⟨key, value, next, ⟨raw, spells, takes⟩, stored, ?_⟩
  rw [assignAll, (readAssignment_eq_ok_iff _ _ _).mpr spells]
  simp only [wrote]

theorem assignAll_cons_of_refused {store : Store} {id assignment : String}
    (refused : ¬ Accepted store assignment) (rest : List String) :
    ∃ messages, assignAll id store (assignment :: rest) = .error messages := by
  rw [assignAll]
  rcases read : readAssignment assignment with messages | ⟨key, raw⟩
  · exact ⟨messages, rfl⟩
  · cases wrote : store.setText key raw with
    | error error => exact ⟨_, by simp only [wrote]; rfl⟩
    | ok next =>
        obtain ⟨value, takes, -⟩ := (Store.setText_eq_ok_iff store next key raw).mp wrote
        have spells := (readAssignment_eq_ok_iff assignment key raw).mp read
        exact absurd ⟨key, value, raw, spells, takes⟩ refused

theorem assignAll_of_refused {id : String} {assignments : List String} : ∀ {store : Store},
    (∃ assignment ∈ assignments, ¬ Accepted store assignment) →
      ∃ messages, assignAll id store assignments = .error messages := by
  -- The store stays general: each assignment changes it, but none of the kinds in it.
  induction assignments with
  | nil => intro store refused; simp at refused
  | cons first rest ih =>
      intro store refused
      by_cases accepted : Accepted store first
      · obtain ⟨key, value, next, -, stored, goesOn⟩ :=
          @assignAll_cons_of_accepted store id first accepted rest
        have kinds := (Store.changed_of_set stored).descriptors.sameKinds
        obtain ⟨assignment, member, bad⟩ := refused
        rw [goesOn]
        refine ih ⟨assignment, ?_, (accepted_iff_of_sameKinds kinds assignment).not.mpr bad⟩
        rcases List.mem_cons.mp member with rfl | later
        · exact absurd accepted bad
        · exact later
      · exact assignAll_cons_of_refused accepted rest

/-- A store after assignments: nothing is declared differently, and each key has what the last
assignment to it gives it, if there is one. -/
structure Assigned (store : Store) (assignments : List String) (next : Store) : Prop where
  descriptors : next.SameDescriptors store
  consistent : store.Consistent → next.Consistent
  last : ∀ key value, LastAssigns store assignments key value → next.get? key = some value
  untouched : ∀ key, Untouched store assignments key → next.get? key = store.get? key

theorem assigned_cons {store middle next : Store} {assignment key : String} {value : Value}
    {rest : List String} (assigns : Assigns store assignment key value)
    (stored : store.set key value = .ok middle) (later : Assigned middle rest next) :
    Assigned store (assignment :: rest) next := by
  have changed := Store.changed_of_set stored
  have kinds := changed.descriptors.sameKinds
  constructor
  · exact fun other => (later.descriptors other).trans (changed.descriptors other)
  · exact fun consistent => later.consistent (consistent.set stored)
  · rintro other content ⟨before, last, after, divided, assignsLast, untouched⟩
    cases before with
    | nil =>
        obtain ⟨rfl, rfl⟩ := List.cons.inj divided
        obtain ⟨rfl, rfl⟩ := assigns.unique assignsLast
        rw [later.untouched _ ((untouched_iff_of_sameKinds kinds _ _).mpr untouched)]
        exact changed.value
    | cons first others =>
        obtain ⟨rfl, rfl⟩ := List.cons.inj divided
        exact later.last other content ((lastAssigns_iff_of_sameKinds kinds _ _ _).mpr
          ⟨others, last, after, rfl, assignsLast, untouched⟩)
  · intro other untouched
    obtain ⟨here, there⟩ := List.forall_mem_cons.mp untouched
    have different : other ≠ key := by
      rintro rfl
      exact here value assigns
    rw [later.untouched other ((untouched_iff_of_sameKinds kinds _ _).mpr there)]
    exact changed.others other different

theorem assignAll_of_accepted {id : String} {assignments : List String} : ∀ {store : Store},
    (∀ assignment ∈ assignments, Accepted store assignment) →
      ∃ next, assignAll id store assignments = .ok next ∧ Assigned store assignments next := by
  induction assignments with
  | nil =>
      intro store accepted
      refine ⟨store, rfl, fun _ => rfl, fun consistent => consistent, ?_, fun _ _ => rfl⟩
      rintro key value ⟨before, last, after, divided, -⟩
      simp at divided
  | cons first rest ih =>
      intro store accepted
      obtain ⟨here, there⟩ := List.forall_mem_cons.mp accepted
      obtain ⟨key, value, middle, assigns, stored, goesOn⟩ :=
        @assignAll_cons_of_accepted store id first here rest
      have kinds := (Store.changed_of_set stored).descriptors.sameKinds
      obtain ⟨next, ends, assigned⟩ := ih fun assignment member =>
        (accepted_iff_of_sameKinds kinds assignment).mpr (there assignment member)
      exact ⟨next, goesOn.trans ends, assigned_cons assigns stored assigned⟩

/-! Resets. -/

theorem exists_reset {store : Store} {key : String} {descriptor : Settings.Descriptor}
    (declared : store.descriptor? key = some descriptor) : ∃ next, store.reset key = .ok next ∧
      store.Changed key descriptor.default next := by
  obtain ⟨entry, found, rfl⟩ := Option.map_eq_some_iff.mp declared
  exact ⟨_, (Store.reset_eq_ok_iff store _ key).mpr ⟨entry, found, rfl⟩,
    Store.changed_replace found _⟩

theorem resetAll_declared {keys : List String} : ∀ {store : Store},
    (∀ key ∈ keys, ∃ descriptor, store.descriptor? key = some descriptor) →
      ∃ next, resetAll store keys = .ok next ∧ next.SameDescriptors store ∧
        (store.Consistent → next.Consistent) ∧
        ∀ key, next.get? key =
          if key ∈ keys then (store.descriptor? key).map (·.default) else store.get? key := by
  induction keys with
  | nil => intro store _; exact ⟨store, rfl, fun _ => rfl, fun consistent => consistent, by simp⟩
  | cons first rest ih =>
      intro store declared
      obtain ⟨⟨descriptor, here⟩, there⟩ := List.forall_mem_cons.mp declared
      obtain ⟨middle, resets, changed⟩ := exists_reset here
      obtain ⟨next, ends, descriptors, consistent, values⟩ := ih fun key member => by
        rw [changed.descriptors key]
        exact there key member
      refine ⟨next, ?_, fun key => (descriptors key).trans (changed.descriptors key),
        fun before => consistent (before.reset resets), ?_⟩
      · rw [resetAll, resets]
        exact ends
      · intro key
        rw [values key, changed.descriptors key]
        by_cases same : key = first
        · subst same
          simp [changed.value, here]
        · simp [same, changed.others key same]

theorem resetAll_keys (store : Store) : ∃ next, resetAll store store.keys = .ok next ∧
    next.SameDescriptors store ∧ (store.Consistent → next.Consistent) ∧
    ∀ key, next.get? key = (store.descriptor? key).map (·.default) := by
  have declared : ∀ key ∈ store.keys, ∃ descriptor, store.descriptor? key = some descriptor := by
    intro key member
    obtain ⟨entry, found⟩ := Store.exists_find? member
    exact ⟨entry.descriptor, by rw [Store.descriptor?, found]; rfl⟩
  obtain ⟨next, resets, descriptors, consistent, values⟩ := resetAll_declared declared
  refine ⟨next, resets, descriptors, consistent, ?_⟩
  intro key
  rw [values key]
  split
  · rfl
  · next absent =>
      have unknown := (Store.find?_eq_none_iff store key).mpr absent
      rw [Store.get?, Store.descriptor?, unknown]
      rfl

/-! Both. -/

structure Edited (store : Store) (assignments : List String) (resets : Bool) (next : Store) :
    Prop where
  descriptors : next.SameDescriptors store
  consistent : store.Consistent → next.Consistent
  last : ∀ key value, LastAssigns store assignments key value → next.get? key = some value
  untouched : ∀ key, Untouched store assignments key → next.get? key =
    if resets then (store.descriptor? key).map (·.default) else store.get? key

theorem editStore_of_accepted {transformer : Transformer} {assignments : List String}
    (accepted : ∀ assignment ∈ assignments, Accepted transformer.store assignment)
    (resets : Bool) : ∃ next, editStore transformer assignments resets = .ok next ∧
      Edited transformer.store assignments resets next := by
  cases resets with
  | false =>
      obtain ⟨next, ends, assigned⟩ := @assignAll_of_accepted transformer.id _ _ accepted
      exact ⟨next, ends, assigned.descriptors, assigned.consistent, assigned.last,
        assigned.untouched⟩
  | true =>
      obtain ⟨start, resets, descriptors, consistent, values⟩ := resetAll_keys transformer.store
      have kinds := descriptors.sameKinds
      obtain ⟨next, ends, assigned⟩ := @assignAll_of_accepted transformer.id _ _
        fun assignment member => (accepted_iff_of_sameKinds kinds assignment).mpr
          (accepted assignment member)
      refine ⟨next, ?_, ?_⟩
      · simp only [editStore, if_true, resets]
        exact ends
      · constructor
        · exact fun key => (assigned.descriptors key).trans (descriptors key)
        · exact fun before => assigned.consistent (consistent before)
        · intro key value last
          exact assigned.last key value ((lastAssigns_iff_of_sameKinds kinds _ _ _).mpr last)
        · intro key untouched
          rw [assigned.untouched key ((untouched_iff_of_sameKinds kinds _ _).mpr untouched)]
          exact values key

theorem editStore_of_refused {transformer : Transformer} {assignments : List String}
    (refused : ∃ assignment ∈ assignments, ¬ Accepted transformer.store assignment)
    (resets : Bool) : ∃ messages, editStore transformer assignments resets = .error messages := by
  cases resets with
  | false => exact assignAll_of_refused refused
  | true =>
      obtain ⟨start, resets, descriptors, -⟩ := resetAll_keys transformer.store
      obtain ⟨assignment, member, bad⟩ := refused
      have still := (accepted_iff_of_sameKinds descriptors.sameKinds assignment).not.mpr bad
      obtain ⟨messages, ends⟩ :=
        @assignAll_of_refused transformer.id _ _ ⟨assignment, member, still⟩
      refine ⟨messages, ?_⟩
      simp only [editStore, if_true, resets]
      exact ends

end ArtifactTools.CommandLine
