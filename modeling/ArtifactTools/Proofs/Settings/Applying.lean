import ArtifactTools.Proofs.Settings.Locality

/-! What applying persisted values does to a store. A value counts where its key is declared with a
kind that accepts it, and is refused elsewhere, whatever has been applied before it. So the outcome
is the store with these values laid over its own. -/

namespace ArtifactTools

def SettingsError.key : SettingsError → String
  | .unknownKey key => key
  | .kindMismatch key _ _ => key

namespace Settings

def Persisted.value? (persisted : Persisted) (id key : String) : Option Json.Value :=
  (persisted.get? id).bind (Dictionary.get? key)

theorem Value.toJson_of_ofInt? {number : Int} {value : Value}
    (read : Value.ofInt? number = some value) : value.toJson = .number (.whole number) := by
  unfold Value.ofInt? at read
  split at read
  · next bounds =>
      obtain rfl := Option.some.inj read
      rw [Value.toJson, Int64.toInt_ofInt_of_le bounds.1 bounds.2]
  · cases read

theorem Value.toJson_of_ofJson? {raw : Json.Value} {value : Value}
    (read : Value.ofJson? raw = some value) : value.toJson = raw := by
  unfold Value.ofJson? at read
  split at read
  · obtain rfl := Option.some.inj read
    rfl
  · exact Value.toJson_of_ofInt? read
  · obtain rfl := Option.some.inj read
    rfl
  · cases read

namespace Store

def taken? (store : Store) (key : String) (raw : Json.Value) : Option Value :=
  (store.kind? key).bind fun kind => (Value.ofJson? raw).filter kind.accepts

theorem taken?_eq_some_iff {store : Store} {key : String} {raw : Json.Value} {value : Value} :
    store.taken? key raw = some value ↔
      ∃ kind, store.kind? key = some kind ∧ Value.ofJson? raw = some value ∧
        kind.accepts value = true := by
  simp only [taken?, Option.bind_eq_some_iff, Option.filter_eq_some_iff]

theorem SameKinds.taken?_eq {first second : Store} (same : first.SameKinds second) :
    first.taken? = second.taken? := by
  funext key raw
  rw [taken?, same key, taken?]

theorem exists_applyValue_iff {store : Store} {key : String} {raw : Json.Value} :
    (∃ next, store.applyValue key raw = .ok next) ↔ ∃ value, store.taken? key raw = some value := by
  constructor
  · rintro ⟨next, applied⟩
    obtain ⟨value, read, stored⟩ := (applyValue_eq_ok_iff store next key raw).mp applied
    obtain ⟨entry, found, accepts, -⟩ := (set_eq_ok_iff store next key value).mp stored
    exact ⟨value, taken?_eq_some_iff.mpr
      ⟨_, (kind?_eq_some_iff store key _).mpr ⟨entry, found, rfl⟩, read, accepts⟩⟩
  · rintro ⟨value, taken⟩
    obtain ⟨kind, declared, read, accepts⟩ := taken?_eq_some_iff.mp taken
    obtain ⟨next, stored, -⟩ := set_accepted declared accepts
    exact ⟨next, (applyValue_eq_ok_iff store next key raw).mpr ⟨value, read, stored⟩⟩

/-! What is refused. -/

inductive Refuses (store : Store) (key : String) (raw : Json.Value) : SettingsError → Prop
  | unknown {value} : Value.ofJson? raw = some value → store.descriptor? key = none →
      Refuses store key raw (.unknownKey key)
  | unaccepted {value descriptor} : Value.ofJson? raw = some value →
      store.descriptor? key = some descriptor → descriptor.kind.accepts value = false →
      Refuses store key raw (.kindMismatch key descriptor.kind.display value.describe)
  | unreadable : Value.ofJson? raw = none →
      Refuses store key raw (.kindMismatch key
        (((store.descriptor? key).map (·.kind.display)).getD "a scalar") raw.compactText)

theorem applyValue_eq_error_iff {store : Store} {key : String} {raw : Json.Value}
    {error : SettingsError} :
    store.applyValue key raw = .error error ↔ store.Refuses key raw error := by
  constructor
  · intro refused
    unfold applyValue at refused
    cases read : Value.ofJson? raw with
    | none =>
        rw [read] at refused
        obtain rfl := Except.error.inj refused
        exact .unreadable read
    | some value =>
        rw [read] at refused
        rcases store.set_cases key value with ⟨unknown, result⟩ |
          ⟨descriptor, declared, ⟨rejected, result⟩ | ⟨-, next, result⟩⟩
        · obtain rfl := Except.error.inj (result.symm.trans refused)
          exact .unknown read ((store.descriptor?_eq_none_iff key).mpr unknown)
        · obtain rfl := Except.error.inj (result.symm.trans refused)
          exact .unaccepted read declared rejected
        · cases result.symm.trans refused
  · intro refuses
    cases refuses with
    | unknown read undeclared =>
        simp only [applyValue, read]
        exact set_eq_of_unknown ((store.descriptor?_eq_none_iff key).mp undeclared) _
    | unaccepted read declared rejected =>
        simp only [applyValue, read]
        exact set_eq_of_declared declared rejected
    | unreadable read => simp only [applyValue, read]

theorem Refuses.key_eq {store : Store} {key : String} {raw : Json.Value} {error : SettingsError}
    (refuses : store.Refuses key raw error) : error.key = key := by
  cases refuses <;> rfl

theorem exists_refuses_iff {store : Store} {key : String} {raw : Json.Value} :
    (∃ error, store.Refuses key raw error) ↔ store.taken? key raw = none := by
  rw [Option.eq_none_iff_forall_ne_some, ← not_exists, ← exists_applyValue_iff]
  simp only [← applyValue_eq_error_iff]
  cases store.applyValue key raw <;> simp

def refusal? (store : Store) (key : String) (raw : Json.Value) : Option SettingsError :=
  match store.applyValue key raw with
  | .ok _ => none
  | .error error => some error

theorem refusal?_eq_some_iff {store : Store} {key : String} {raw : Json.Value}
    {error : SettingsError} : store.refusal? key raw = some error ↔ store.Refuses key raw error := by
  rw [← applyValue_eq_error_iff, refusal?]
  cases store.applyValue key raw <;> simp

section

variable {first second : Store} (same : first.SameDescriptors second)

include same

theorem SameDescriptors.refuses {key : String} {raw : Json.Value} {error : SettingsError}
    (refuses : first.Refuses key raw error) : second.Refuses key raw error := by
  cases refuses with
  | unknown read undeclared => exact .unknown read (same key ▸ undeclared)
  | unaccepted read declared rejected => exact .unaccepted read (same key ▸ declared) rejected
  | unreadable read =>
      rw [same key]
      exact .unreadable read

theorem SameDescriptors.refusal?_eq : first.refusal? = second.refusal? := by
  have back : second.SameDescriptors first := fun key => (same key).symm
  funext key raw
  apply Option.ext
  intro error
  rw [refusal?_eq_some_iff, refusal?_eq_some_iff]
  exact ⟨same.refuses, back.refuses⟩

end

theorem sameDescriptors_applyValue {store next : Store} {key : String} {raw : Json.Value}
    (applied : store.applyValue key raw = .ok next) : next.SameDescriptors store := by
  obtain ⟨value, -, stored⟩ := (applyValue_eq_ok_iff store next key raw).mp applied
  exact (changed_of_set stored).descriptors

theorem errors_apply (values : List (String × Json.Value)) : ∀ store : Store,
    (store.apply values).2 = values.filterMap fun member => store.refusal? member.1 member.2 := by
  induction values with
  | nil => intro store; rfl
  | cons member rest ih =>
      intro store
      obtain ⟨key, raw⟩ := member
      rw [apply]
      cases applied : store.applyValue key raw with
      | error error =>
          have said : store.refusal? key raw = some error := by rw [refusal?, applied]
          rw [List.filterMap_cons]
          simp only [said]
          exact congrArg (error :: ·) (ih store)
      | ok next =>
          have silent : store.refusal? key raw = none := by rw [refusal?, applied]
          rw [List.filterMap_cons]
          simp only [silent, ← (sameDescriptors_applyValue applied).refusal?_eq]
          exact ih next

/-! Overlays. -/

def laid (store : Store) (given : String → Option Json.Value) (entry : Entry) : Entry :=
  ⟨entry.descriptor, ((given entry.key).bind (store.taken? entry.key)).getD entry.value⟩

def overlaid (store : Store) (given : String → Option Json.Value) : Store :=
  ⟨store.entries.map (store.laid given)⟩

theorem descriptors_overlaid (store : Store) (given : String → Option Json.Value) :
    (store.overlaid given).descriptors = store.descriptors := by
  simp [descriptors, overlaid, laid]

theorem find?_overlaid (store : Store) (given : String → Option Json.Value) (key : String) :
    (store.overlaid given).find? key = (store.find? key).map (store.laid given) :=
  List.find?_map

theorem sameDescriptors_overlaid (store : Store) (given : String → Option Json.Value) :
    (store.overlaid given).SameDescriptors store := by
  intro key
  rw [descriptor?, find?_overlaid, Option.map_map]
  rfl

theorem taken?_overlaid (store : Store) (given : String → Option Json.Value) :
    (store.overlaid given).taken? = store.taken? :=
  (store.sameDescriptors_overlaid given).sameKinds.taken?_eq

theorem get?_overlaid (store : Store) (given : String → Option Json.Value) (key : String) :
    (store.overlaid given).get? key =
      ((given key).bind (store.taken? key)).or (store.get? key) := by
  rw [get?, find?_overlaid, get?]
  cases found : store.find? key with
  | none =>
      have nothing : store.taken? key = fun _ => none := by
        funext raw
        simp [taken?, kind?, descriptor?, found]
      cases given key <;> simp [nothing]
  | some entry =>
      obtain ⟨-, rfl⟩ := find?_some found
      cases chosen : (given entry.key).bind (store.taken? entry.key) <;> simp [laid, chosen]

theorem overlaid_none (store : Store) : (store.overlaid fun _ => none) = store := by
  have same : (store.laid fun _ => none) = id := funext fun _ => rfl
  rw [overlaid, same, List.map_id]

/-- Values for different keys may as well be laid over together. -/
theorem overlaid_overlaid {store : Store} {first second : String → Option Json.Value}
    (apart : ∀ key, first key = none ∨ second key = none) :
    (store.overlaid first).overlaid second =
      store.overlaid fun key => (first key).or (second key) := by
  have taken := store.taken?_overlaid first
  rw [overlaid, overlaid, overlaid, List.map_map]
  rw [overlaid] at taken
  refine congrArg Store.mk (List.map_congr_left ?_)
  intro entry _
  simp only [Function.comp_apply, laid, taken, Entry.key]
  rcases apart entry.descriptor.key with silent | silent <;> simp [silent]

theorem overlaid_again (store : Store) (given : String → Option Json.Value) :
    (store.overlaid given).overlaid given = store.overlaid given := by
  have taken := store.taken?_overlaid given
  rw [overlaid, overlaid, List.map_map]
  rw [overlaid] at taken
  refine congrArg Store.mk (List.map_congr_left ?_)
  intro entry _
  simp only [Function.comp_apply, laid, taken, Entry.key]
  cases (given entry.descriptor.key).bind (store.taken? entry.descriptor.key) <;> rfl

theorem replace_eq_map {entry : Entry} {entries : List Entry}
    (distinct : (entries.map (·.key)).Nodup) :
    replace entry entries =
      entries.map fun other => if other.key = entry.key then entry else other := by
  induction entries with
  | nil => rfl
  | cons first rest ih =>
      obtain ⟨absent, restDistinct⟩ := List.nodup_cons.mp distinct
      rw [replace, List.map_cons]
      by_cases same : first.key = entry.key
      · have others : ∀ other ∈ rest, other.key ≠ entry.key := by
          rintro other member sameToo
          exact absent (List.mem_map.mpr ⟨other, member, sameToo.trans same.symm⟩)
        rw [if_pos same, if_pos same, List.map_congr_left fun other member =>
          if_neg (others other member), List.map_id']
      · rw [if_neg same, if_neg same, ih restDistinct]

theorem Consistent.after_applyValue {store : Store} (consistent : store.Consistent)
    (key : String) (raw : Json.Value) :
    (store.after (store.applyValue key raw)).1 =
      store.overlaid fun other => if other = key then some raw else none := by
  cases applied : store.applyValue key raw with
  | error error =>
      -- A value that is refused is not taken either when it is laid over the store.
      have refused := exists_refuses_iff.mp ⟨error, applyValue_eq_error_iff.mp applied⟩
      have same : (store.laid fun other => if other = key then some raw else none) = id := by
        funext entry
        by_cases here : entry.key = key
        · simp [laid, here, refused]
        · simp [laid, here]
      rw [overlaid, same, List.map_id]
      rfl
  | ok next =>
      obtain ⟨value, read, stored⟩ := (applyValue_eq_ok_iff store next key raw).mp applied
      obtain ⟨found, present, accepted, rfl⟩ := (set_eq_ok_iff store next key value).mp stored
      obtain ⟨member, rfl⟩ := find?_some present
      have taken : store.taken? found.key raw = some value := taken?_eq_some_iff.mpr
        ⟨found.descriptor.kind, (kind?_eq_some_iff _ _ _).mpr ⟨found, present, rfl⟩, read, accepted⟩
      refine congrArg Store.mk ((replace_eq_map consistent.distinct).trans ?_)
      refine List.map_congr_left ?_
      intro entry there
      by_cases here : entry.key = found.key
      · have same := consistent.find?_of_mem there
        rw [here, present] at same
        obtain rfl := Option.some.inj same
        have placed : found.key = Entry.key ⟨found.descriptor, value⟩ := rfl
        rw [if_pos placed, laid, if_pos rfl, Option.bind_some, taken, Option.getD_some]
      · have apart : entry.key ≠ Entry.key ⟨found.descriptor, value⟩ := here
        simp [laid, here, apart]

theorem apply_cons (store : Store) (key : String) (raw : Json.Value)
    (rest : List (String × Json.Value)) :
    (store.apply ((key, raw) :: rest)).1 =
      ((store.after (store.applyValue key raw)).1.apply rest).1 := by
  rw [apply]
  cases store.applyValue key raw <;> rfl

/-- To apply values for different keys is to lay them over the store. -/
theorem Consistent.apply_eq_overlaid {values : List (String × Json.Value)} : ∀ {store : Store},
    store.Consistent → (values.map Prod.fst).Nodup →
      (store.apply values).1 = store.overlaid fun key => values.lookup key := by
  -- The store stays general: the first value is laid over it, and no other has the same key.
  induction values with
  | nil => exact fun _ _ => (overlaid_none _).symm
  | cons member rest ih =>
      intro store consistent distinct
      obtain ⟨key, raw⟩ := member
      obtain ⟨absent, restDistinct⟩ := List.nodup_cons.mp distinct
      have consistentNext : (store.after (store.applyValue key raw)).1.Consistent := by
        cases applied : store.applyValue key raw with
        | error error => exact consistent
        | ok next => exact consistent.applyValue applied
      have apart : ∀ other, (if other = key then some raw else none) = none ∨
          rest.lookup other = none := by
        intro other
        by_cases same : other = key
        · subst same
          exact .inr (Dictionary.lookup_eq_none_iff_absent.mpr absent)
        · exact .inl (if_neg same)
      rw [apply_cons, ih consistentNext restDistinct, consistent.after_applyValue,
        overlaid_overlaid apart]
      refine congrArg _ (funext fun other => ?_)
      rw [List.lookup_cons]
      by_cases same : other = key
      · simp [same]
      · simp [same, beq_false_of_ne same]

end Store

end Settings

end ArtifactTools
