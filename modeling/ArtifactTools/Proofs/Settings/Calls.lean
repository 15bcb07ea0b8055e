import ArtifactTools.Proofs.Settings.Consistency

/-! Calls that several callers make on one store. A call works in steps, each of which has the store
to itself: to set from a text it looks the declaration up in one step and stores in another, and to
apply persisted values it takes a step for each of them. Steps of different calls follow one another
in any order. Whatever the order, the store is consistent at every moment, its keys stand as they
were first declared, and each key has the declaration that was made last. -/

namespace ArtifactTools.Settings

inductive Answer where
  | declared (result : Except TransformerError Unit)
  | changed (result : Except SettingsError Unit)
  | found (value : Option Value)
  | applied (problems : List SettingsError)

/-- A call as far as it has come. One that applies values holds those that are left and the problems
with those before. -/
inductive Call where
  | register (descriptor : Descriptor)
  | set (key : String) (value : Value)
  | setText (key raw : String)
  | reset (key : String)
  | get (key : String)
  | apply (values : List (String × Json.Value)) (problems : List SettingsError)

inductive Progress where
  | answered (answer : Answer)
  | goesOn (call : Call)

def Store.after {ε : Type} (store : Store) : Except ε Store → Store × Except ε Unit
  | .ok next => (next, .ok ())
  | .error error => (store, .error error)

namespace Call

def step (store : Store) : Call → Store × Progress
  | .register descriptor =>
      let (next, result) := store.after (store.register descriptor)
      (next, .answered (.declared result))
  | .set key value =>
      let (next, result) := store.after (store.set key value)
      (next, .answered (.changed result))
  | .setText key raw =>
      match store.descriptor? key with
      | none => (store, .answered (.changed (.error (.unknownKey key))))
      | some descriptor =>
          match Store.readFor descriptor key raw with
          | .error error => (store, .answered (.changed (.error error)))
          | .ok value => (store, .goesOn (.set key value))
  | .reset key =>
      let (next, result) := store.after (store.reset key)
      (next, .answered (.changed result))
  | .get key => (store, .answered (.found (store.get? key)))
  | .apply [] problems => (store, .answered (.applied problems))
  | .apply ((key, raw) :: rest) problems =>
      match store.applyValue key raw with
      | .ok next => (next, .goesOn (.apply rest problems))
      | .error error => (store, .goesOn (.apply rest (problems ++ [error])))

def declares : Call → List Descriptor
  | .register descriptor =>
      match descriptor.validate with
      | .ok () => [descriptor]
      | .error _ => []
  | _ => []

inductive Alone : Store → Call → Store → Answer → Prop
  | answered {store next call answer} : call.step store = (next, .answered answer) →
      Alone store call next answer
  | goesOn {store middle next call rest answer} : call.step store = (middle, .goesOn rest) →
      Alone middle rest next answer → Alone store call next answer

def outcome (store : Store) : Call → Store × Answer
  | .register descriptor =>
      let (next, result) := store.after (store.register descriptor)
      (next, .declared result)
  | .set key value =>
      let (next, result) := store.after (store.set key value)
      (next, .changed result)
  | .setText key raw =>
      let (next, result) := store.after (store.setText key raw)
      (next, .changed result)
  | .reset key =>
      let (next, result) := store.after (store.reset key)
      (next, .changed result)
  | .get key => (store, .found (store.get? key))
  | .apply values problems =>
      let (next, errors) := store.apply values
      (next, .applied (problems ++ errors))

theorem alone_apply (values : List (String × Json.Value)) : ∀ store problems,
    Alone store (.apply values problems) (store.apply values).1
      (.applied (problems ++ (store.apply values).2)) := by
  induction values with
  | nil =>
      intro store problems
      simp only [Store.apply, List.append_nil]
      exact .answered rfl
  | cons entry rest ih =>
      intro store problems
      obtain ⟨key, raw⟩ := entry
      simp only [Store.apply]
      cases applied : store.applyValue key raw with
      | ok next => exact .goesOn (by simp only [step, applied]) (ih next problems)
      | error error =>
          have later := ih store (problems ++ [error])
          rw [List.append_assoc] at later
          exact .goesOn (by simp only [step, applied]) later

/-- Undisturbed, the steps of a call amount to the operation of the store. -/
theorem alone_outcome (store : Store) (call : Call) :
    Alone store call (call.outcome store).1 (call.outcome store).2 := by
  cases call with
  | register descriptor => exact .answered rfl
  | set key value => exact .answered rfl
  | reset key => exact .answered rfl
  | get key => exact .answered rfl
  | apply values problems => exact alone_apply values store problems
  | setText key raw =>
      simp only [outcome, Store.setText]
      cases declared : store.descriptor? key with
      | none => exact .answered (by simp only [step, declared, Store.after])
      | some descriptor =>
          cases read : Store.readFor descriptor key raw with
          | error error => exact .answered (by simp only [step, declared, read, Store.after])
          | ok value =>
              have first : (Call.setText key raw).step store =
                  (store, .goesOn (.set key value)) := by
                simp only [step, declared, read]
              exact .goesOn first (.answered (by simp only [step, read]))

/-- All that one step can do to a store: nothing, a declaration, or another value under a
declaration that stays. -/
theorem step_cases {store : Store} (consistent : store.Consistent) (call : Call) :
    ((call.step store).1 = store ∧ call.declares = []) ∨
    (∃ descriptor, descriptor.validate = .ok () ∧ call.declares = [descriptor] ∧
      (call.step store).1 = store.put (.initial descriptor)) ∨
    (∃ key entry value, store.find? key = some entry ∧
      entry.descriptor.kind.accepts value = true ∧ call.declares = [] ∧
      (call.step store).1 = ⟨Store.replace ⟨entry.descriptor, value⟩ store.entries⟩) := by
  cases call with
  | register descriptor =>
      cases registered : store.register descriptor with
      | error error =>
          have refused : descriptor.validate ≠ .ok () := by
            intro valid
            simp [Store.register, valid] at registered
          refine Or.inl ⟨by simp [step, registered, Store.after], ?_⟩
          cases invalid : descriptor.validate with
          | error error => simp [declares, invalid]
          | ok => exact absurd invalid refused
      | ok next =>
          obtain ⟨valid, rfl⟩ := (Store.register_eq_ok_iff store next descriptor).mp registered
          exact Or.inr (Or.inl ⟨descriptor, valid, by simp [declares, valid],
            by simp [step, registered, Store.after]⟩)
  | set key value =>
      cases stored : store.set key value with
      | error error => exact Or.inl ⟨by simp [step, stored, Store.after], rfl⟩
      | ok next =>
          obtain ⟨entry, found, accepted, rfl⟩ := (Store.set_eq_ok_iff store next key value).mp stored
          exact Or.inr (Or.inr ⟨key, entry, value, found, accepted, rfl,
            by simp [step, stored, Store.after]⟩)
  | setText key raw =>
      refine Or.inl ⟨?_, rfl⟩
      simp only [step]
      split
      · rfl
      · split <;> rfl
  | reset key =>
      cases restored : store.reset key with
      | error error => exact Or.inl ⟨by simp [step, restored, Store.after], rfl⟩
      | ok next =>
          obtain ⟨entry, found, rfl⟩ := (Store.reset_eq_ok_iff store next key).mp restored
          have valid := consistent.valid entry (Store.find?_some found).1
          have accepted := ((Descriptor.validate_eq_ok_iff entry.descriptor).mp valid).2.2
          exact Or.inr (Or.inr ⟨key, entry, entry.descriptor.default, found, accepted, rfl,
            by simp [step, restored, Store.after, Entry.initial]⟩)
  | get key => exact Or.inl ⟨rfl, rfl⟩
  | apply values problems =>
      cases values with
      | nil => exact Or.inl ⟨rfl, rfl⟩
      | cons first rest =>
          obtain ⟨key, raw⟩ := first
          cases applied : store.applyValue key raw with
          | error error => exact Or.inl ⟨by simp [step, applied], rfl⟩
          | ok next =>
              obtain ⟨value, -, stored⟩ :=
                (Store.applyValue_eq_ok_iff store next key raw).mp applied
              obtain ⟨entry, found, accepted, rfl⟩ :=
                (Store.set_eq_ok_iff store next key value).mp stored
              exact Or.inr (Or.inr ⟨key, entry, value, found, accepted, rfl,
                by simp [step, applied]⟩)

end Call

theorem Store.Consistent.step {store : Store} (consistent : store.Consistent) (call : Call) :
    (call.step store).1.Consistent := by
  rcases call.step_cases consistent with ⟨same, -⟩ | ⟨descriptor, valid, -, stored⟩ |
    ⟨key, entry, value, found, accepted, -, stored⟩
  · rw [same]
    exact consistent
  · rw [stored]
    exact consistent.put valid ((Descriptor.validate_eq_ok_iff descriptor).mp valid).2.2
  · rw [stored]
    exact consistent.replace (consistent.valid entry (Store.find?_some found).1) accepted

end ArtifactTools.Settings
