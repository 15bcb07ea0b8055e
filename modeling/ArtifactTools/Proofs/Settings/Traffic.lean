import ArtifactTools.Proofs.Settings.Calls

/-! A store of settings in use. Callers come at any time, and at any time one of the calls under way
takes its next step. -/

namespace ArtifactTools.Settings

structure Traffic where
  store : Store
  calls : List Call
  declared : List Descriptor

inductive Move where
  | arrive (call : Call)
  | advance (position : Nat)

/-- What a store has come to through these declarations: it is consistent, its keys stand in the
order of their first declaration, and under each key is the latest one. -/
structure Store.Records (store : Store) (declared : List Descriptor) : Prop where
  consistent : store.Consistent
  ordered : store.keys = (declared.map (·.key)).eraseDups
  latest : ∀ key, store.descriptor? key =
    declared.reverse.find? fun descriptor => descriptor.key == key

namespace Store

theorem records_empty : empty.Records [] :=
  ⟨consistent_empty, rfl, fun _ => rfl⟩

theorem eraseDups_append_singleton (texts : List String) (text : String) :
    (texts ++ [text]).eraseDups =
      if text ∈ texts.eraseDups then texts.eraseDups else texts.eraseDups ++ [text] := by
  rw [List.eraseDups_append]
  by_cases present : text ∈ texts
  · simp [present, List.removeAll]
  · simp [present, List.removeAll, List.eraseDups_cons]

theorem Records.put {store : Store} {declared : List Descriptor}
    (records : store.Records declared) {descriptor : Descriptor}
    (valid : descriptor.validate = .ok ()) :
    (store.put (.initial descriptor)).Records (declared ++ [descriptor]) := by
  have accepted := ((Descriptor.validate_eq_ok_iff descriptor).mp valid).2.2
  constructor
  · exact records.consistent.put valid accepted
  · rw [keys_put, records.ordered, List.map_append, List.map_singleton,
      eraseDups_append_singleton]
    rfl
  · intro key
    rw [List.reverse_append, List.reverse_singleton, List.singleton_append, List.find?_cons]
    by_cases same : descriptor.key = key
    · subst same
      have found := find?_put_self store (.initial descriptor)
      simp only [beq_self_eq_true]
      exact congrArg (Option.map (·.descriptor)) found
    · have different : (descriptor.key == key) = false := by simpa using same
      simp only [different]
      rw [← records.latest key]
      have kept := @find?_put_of_ne (.initial descriptor) key (Ne.symm same) store
      exact congrArg (Option.map (·.descriptor)) kept

theorem Records.replace {store : Store} {declared : List Descriptor}
    (records : store.Records declared) {key : String} {entry : Entry} {value : Value}
    (found : store.find? key = some entry)
    (accepted : entry.descriptor.kind.accepts value = true) :
    (Store.mk (Store.replace ⟨entry.descriptor, value⟩ store.entries)).Records declared := by
  have valid := records.consistent.valid entry (find?_some found).1
  constructor
  · exact records.consistent.replace valid accepted
  · rw [keys_replace]
    exact records.ordered
  · intro other
    rw [descriptor?_replace found value other]
    exact records.latest other

theorem Records.step {store : Store} {declared : List Descriptor}
    (records : store.Records declared) (call : Call) :
    (call.step store).1.Records (declared ++ call.declares) := by
  rcases call.step_cases records.consistent with ⟨same, nothing⟩ |
    ⟨descriptor, valid, one, stored⟩ | ⟨key, entry, value, found, accepted, nothing, stored⟩
  · rw [same, nothing, List.append_nil]
    exact records
  · rw [stored, one]
    exact records.put valid
  · rw [stored, nothing, List.append_nil]
    exact records.replace found accepted

theorem Records.registerAll {store next : Store} {declared descriptors : List Descriptor}
    (records : store.Records declared)
    (registered : store.registerAll descriptors = .ok next) :
    next.Records (declared ++ descriptors) := by
  induction descriptors generalizing store declared with
  | nil =>
      simp only [Store.registerAll, Except.ok.injEq] at registered
      rw [List.append_nil, ← registered]
      exact records
  | cons descriptor rest ih =>
      simp only [Store.registerAll] at registered
      cases first : store.register descriptor with
      | error error => simp [first] at registered
      | ok middle =>
          rw [first] at registered
          obtain ⟨valid, rfl⟩ := (register_eq_ok_iff store middle descriptor).mp first
          have later := ih (records.put valid) registered
          rwa [List.append_assoc, List.singleton_append] at later

end Store

namespace Traffic

def opened (store : Store) (descriptors : List Descriptor) : Traffic := ⟨store, [], descriptors⟩

def move (traffic : Traffic) : Move → Traffic
  | .arrive call => { traffic with calls := traffic.calls ++ [call] }
  | .advance position =>
      match traffic.calls[position]? with
      | none => traffic
      | some call =>
          let (store, progress) := call.step traffic.store
          let calls :=
            match progress with
            | .answered _ => traffic.calls.eraseIdx position
            | .goesOn rest => traffic.calls.set position rest
          ⟨store, calls, traffic.declared ++ call.declares⟩

def run (traffic : Traffic) (moves : List Move) : Traffic := moves.foldl move traffic

theorem records_move {traffic : Traffic} (records : traffic.store.Records traffic.declared)
    (next : Move) : (traffic.move next).store.Records (traffic.move next).declared := by
  cases next with
  | arrive call => exact records
  | advance position =>
      simp only [move]
      split
      · exact records
      · next call _ => exact records.step call

theorem records_run {traffic : Traffic} (records : traffic.store.Records traffic.declared)
    (moves : List Move) : (traffic.run moves).store.Records (traffic.run moves).declared := by
  induction moves generalizing traffic with
  | nil => exact records
  | cons first rest ih => exact ih (records_move records first)

structure Sound (traffic : Traffic) : Prop where
  distinct : traffic.store.keys.Nodup
  named : ∀ key ∈ traffic.store.keys, key ≠ ""
  ordered : traffic.store.keys = (traffic.declared.map (·.key)).eraseDups
  valid : ∀ entry ∈ traffic.store.entries, entry.descriptor.validate = .ok ()
  latest : ∀ key, traffic.store.descriptor? key =
    traffic.declared.reverse.find? fun descriptor => descriptor.key == key
  accepted : ∀ entry ∈ traffic.store.entries, entry.descriptor.kind.accepts entry.value = true
  chosen : ∀ entry ∈ traffic.store.entries, ∀ options,
    entry.descriptor.kind = .choice options → ∃ option ∈ options, entry.value = .text option
  readings : ∀ key descriptor, traffic.store.descriptor? key = some descriptor →
    ((traffic.store.getBool? key).isSome ↔ descriptor.kind = .bool) ∧
    ((traffic.store.getInteger? key).isSome ↔ descriptor.kind = .integer) ∧
    ((traffic.store.getText? key).isSome ↔ descriptor.kind = .text ∨ descriptor.kind = .path ∨
      ∃ options, descriptor.kind = .choice options)

theorem sound_of_records {traffic : Traffic}
    (records : traffic.store.Records traffic.declared) : traffic.Sound := by
  have consistent := records.consistent
  constructor
  · exact consistent.distinct
  · exact consistent.named
  · exact records.ordered
  · exact consistent.valid
  · exact records.latest
  · exact consistent.accepted
  · intro entry member options choice
    have accepted := consistent.accepted entry member
    rw [choice] at accepted
    exact Kind.accepts_choice accepted
  · intro key descriptor declared
    exact consistent.getters declared

/-- A store made from declarations, of which there may be none, stays sound under any calls, in any
order of their steps. -/
theorem sound_run_opened {descriptors : List Descriptor} {start : Store}
    (built : Store.ofDescriptors descriptors = .ok start) (moves : List Move) :
    ((opened start descriptors).run moves).Sound := by
  have records : start.Records descriptors := Store.records_empty.registerAll built
  exact sound_of_records (records_run records moves)

/-- A switch becomes a text between the two steps of a call that sets it. -/
theorem sound_run_opened_redeclared :
    Store.ofDescriptors [.bool "strip" "Strip" false] =
        .ok ⟨[.initial (.bool "strip" "Strip" false)]⟩ ∧
      ((opened ⟨[.initial (.bool "strip" "Strip" false)]⟩ [.bool "strip" "Strip" false]).run
        [.arrive (.setText "strip" "true"), .advance 0,
          .arrive (.register ⟨"strip", "Strip", .text, .text "all"⟩), .advance 1,
          .advance 0]).Sound :=
  ⟨rfl, sound_run_opened rfl _⟩

end Traffic

end ArtifactTools.Settings
