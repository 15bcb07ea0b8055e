import ArtifactTools.Proofs.Settings.Texts
import Mathlib.Data.List.InsertIdx

/-! Calls that are under way at once, beside calls that come one after another. A call that sets
from a text reads it under one declaration and stores under whatever declaration there is by then.
While the text still stands for what it was read as, the calls might as well have come one after
another, in the order of their answers. When it does not, the call is refused with an answer that no
order of the calls explains. -/

namespace ArtifactTools.Settings

structure Pending where
  asked : Call
  left : Call

structure Course where
  store : Store
  pending : List Pending
  history : List (Call × Answer)

def Call.IsDirect : Call → Prop
  | .apply _ _ => False
  | _ => True

def Move.IsDirect : Move → Prop
  | .arrive call => call.IsDirect
  | .advance _ => True

def Call.Unexplained (call : Call) (answer : Answer) : Prop :=
  ∀ store next, ¬ call.Alone store next answer

/-- A text has been read as a value that it does not stand for under the declaration by now. -/
def Pending.IsStale (store : Store) : Pending → Prop
  | ⟨.setText key raw, .set _ value⟩ =>
      ∃ descriptor ∈ store.descriptor? key, descriptor.kind.read? raw ≠ some value
  | _ => False

instance (store : Store) (pending : Pending) : Decidable (pending.IsStale store) := by
  unfold Pending.IsStale
  split <;> infer_instance

inductive Serially : Store → List (Call × Answer) → Store → Prop
  | nil {store} : Serially store [] store
  | cons {store middle next call answer rest} : call.Alone store middle answer →
      Serially middle rest next → Serially store ((call, answer) :: rest) next

namespace Course

def opened (store : Store) : Course := ⟨store, [], []⟩

def move (course : Course) : Move → Course
  | .arrive call => { course with pending := course.pending ++ [⟨call, call⟩] }
  | .advance position =>
      match course.pending[position]? with
      | none => course
      | some pending =>
          match pending.left.step course.store with
          | (store, .answered answer) =>
              ⟨store, course.pending.eraseIdx position,
                course.history ++ [(pending.asked, answer)]⟩
          | (store, .goesOn rest) =>
              ⟨store, course.pending.set position ⟨pending.asked, rest⟩, course.history⟩

def run (course : Course) (moves : List Move) : Course := moves.foldl move course

def Serializable (start : Store) (course : Course) : Prop :=
  ∃ order : List (Call × Answer), order.Perm course.history ∧ Serially start order course.store

def IsOvertaken (course : Course) : Move → Prop
  | .arrive _ => False
  | .advance position => ∃ pending ∈ course.pending[position]?, pending.IsStale course.store

instance (course : Course) : (next : Move) → Decidable (course.IsOvertaken next)
  | .arrive _ => inferInstanceAs (Decidable False)
  | .advance position => inferInstanceAs
      (Decidable (∃ pending ∈ course.pending[position]?, pending.IsStale course.store))

def StaysCurrent (course : Course) : List Move → Prop
  | [] => True
  | next :: rest => ¬ course.IsOvertaken next ∧ (course.move next).StaysCurrent rest

instance decidableStaysCurrent :
    (moves : List Move) → (course : Course) → Decidable (course.StaysCurrent moves)
  | [], _ => inferInstanceAs (Decidable True)
  | next :: rest, course =>
      have := decidableStaysCurrent rest (course.move next)
      inferInstanceAs (Decidable (_ ∧ _))

end Course

/-! Texts and the values that they are read as. -/

theorem Kind.read?_cases {kind : Kind} {raw : String} {value : Value}
    (read : kind.read? raw = some value) :
    (kind = .bool ∧ ∃ content, value = .bool content) ∨
    (kind = .integer ∧ ∃ content, value = .integer content) ∨
    ((kind = .text ∨ kind = .path ∨ ∃ options, kind = .choice options) ∧ value = .text raw) := by
  cases kind with
  | bool =>
      refine Or.inl ⟨rfl, ?_⟩
      simp only [Kind.read?] at read
      split at read
      · exact ⟨true, (Option.some.inj read).symm⟩
      · split at read
        · exact ⟨false, (Option.some.inj read).symm⟩
        · cases read
  | integer =>
      obtain ⟨number, -, ranged⟩ := Option.bind_eq_some_iff.mp read
      obtain ⟨content, same, -⟩ := (Value.ofInt?_eq_some_iff number value).mp ranged
      exact Or.inr (Or.inl ⟨rfl, content, same⟩)
  | text => exact Or.inr (Or.inr ⟨by simp, (Option.some.inj read).symm⟩)
  | path => exact Or.inr (Or.inr ⟨by simp, (Option.some.inj read).symm⟩)
  | choice options => exact Or.inr (Or.inr ⟨by simp, (Option.some.inj read).symm⟩)

/-- A kind that accepts what a text was read as reads it as the same. -/
theorem Kind.read?_of_accepts {kind other : Kind} {raw : String} {value : Value}
    (read : kind.read? raw = some value) (accepted : other.accepts value = true) :
    other.read? raw = some value := by
  rcases Kind.read?_cases read with ⟨rfl, content, rfl⟩ | ⟨rfl, content, rfl⟩ | ⟨-, rfl⟩
  · cases other <;> simp_all [Kind.accepts]
  · cases other <;> simp_all [Kind.accepts]
  · cases other <;> simp_all [Kind.accepts, Kind.read?]

/-! Descriptions and names tell sorts of values apart by their first character. -/

theorem Value.head?_describe (value : Value) :
    value.describe.toList.head? =
      some (match value with | .bool _ => 'b' | .integer _ => 'i' | .text _ => 't') := by
  cases value <;> simp [Value.describe, toString]

theorem Value.describe_ne_quoted (value : Value) (raw : String) :
    value.describe ≠ s!"\"{raw}\"" := by
  intro same
  have quoted : (s!"\"{raw}\"").toList.head? = some '"' := by simp [toString]
  rw [← same, value.head?_describe] at quoted
  cases value <;> simp at quoted

theorem Value.exists_text_of_describe {value : Value} {raw : String}
    (same : value.describe = (Value.text raw).describe) : ∃ content, value = .text content := by
  have heads := congrArg (fun text : String => text.toList.head?) same
  simp only [Value.head?_describe] at heads
  cases value with
  | text content => exact ⟨content, rfl⟩
  | bool content => simp at heads
  | integer content => simp at heads

theorem Kind.display_choice_ne (options : List String) :
    (Kind.choice options).display ≠ Kind.bool.display ∧
      (Kind.choice options).display ≠ Kind.integer.display := by
  have head : (Kind.choice options).display.toList.head? = some 'o' := by simp [Kind.display]
  constructor <;> intro same <;> rw [same] at head <;> simp [Kind.display] at head

/-! Answers to a call that sets from a text. -/

theorem Store.setText_eq_mismatch {store : Store} {key raw expected actual : String}
    (refused : store.setText key raw = .error (.kindMismatch key expected actual)) :
    ∃ descriptor, store.descriptor? key = some descriptor ∧
      expected = descriptor.kind.display ∧
      (actual = s!"\"{raw}\"" ∨
        (∃ options, descriptor.kind = .choice options) ∧ actual = (Value.text raw).describe) := by
  unfold Store.setText at refused
  cases declared : store.descriptor? key with
  | none => simp [declared] at refused
  | some descriptor =>
      refine ⟨descriptor, rfl, ?_⟩
      cases read : descriptor.kind.read? raw with
      | none =>
          simp only [declared, Store.readFor, read, Except.error.injEq,
            SettingsError.kindMismatch.injEq, true_and] at refused
          exact ⟨refused.1.symm, Or.inl refused.2.symm⟩
      | some value =>
          simp only [declared, Store.readFor, read] at refused
          rcases store.set_cases key value with ⟨-, unknown⟩ |
            ⟨other, known, ⟨rejected, mismatch⟩ | ⟨-, next, stored⟩⟩
          · rw [unknown] at refused
            cases refused
          · obtain rfl := Option.some.inj (declared.symm.trans known)
            rw [mismatch, Except.error.injEq, SettingsError.kindMismatch.injEq] at refused
            obtain ⟨-, display, describe⟩ := refused
            refine ⟨display.symm, Or.inr ?_⟩
            -- Of the values that a kind reads it rejects those alone that are no option.
            rcases Kind.read?_cases read with ⟨bool, content, rfl⟩ | ⟨integer, content, rfl⟩ |
              ⟨text | path | options, rfl⟩
            · rw [bool] at rejected
              cases rejected
            · rw [integer] at rejected
              cases rejected
            · rw [text] at rejected
              cases rejected
            · rw [path] at rejected
              cases rejected
            · exact ⟨options, describe.symm⟩
          · rw [stored] at refused
            cases refused

/-- A complaint about a value that the text does not stand for has no explanation. -/
theorem Call.unexplained_of_misread {kind : Kind} {descriptor : Descriptor} {key raw : String}
    {value : Value} (read : kind.read? raw = some value)
    (misread : descriptor.kind.read? raw ≠ some value) :
    (Call.setText key raw).Unexplained
      (.changed (.error (.kindMismatch key descriptor.kind.display value.describe))) := by
  intro store next alone
  have answered := alone.answer_eq
  have refused : store.setText key raw =
      .error (.kindMismatch key descriptor.kind.display value.describe) := by
    cases result : store.setText key raw with
    | ok after => simp [Call.outcome, result, Store.after] at answered
    | error error => simpa [Call.outcome, result, Store.after, eq_comm] using answered
  obtain ⟨other, -, display, quoted | ⟨⟨options, choice⟩, described⟩⟩ :=
    Store.setText_eq_mismatch refused
  · exact value.describe_ne_quoted raw quoted
  · obtain ⟨content, rfl⟩ := Value.exists_text_of_describe described
    rcases Kind.read?_cases read with ⟨-, _, same⟩ | ⟨-, _, same⟩ | ⟨-, same⟩
    · cases same
    · cases same
    · rw [same] at misread
      rw [choice] at display
      cases kinds : descriptor.kind with
      | bool => exact (Kind.display_choice_ne options).1 (kinds ▸ display.symm)
      | integer => exact (Kind.display_choice_ne options).2 (kinds ▸ display.symm)
      | text | path | choice _ => exact misread (by rw [kinds]; rfl)

/-! Steps of calls that are under way. -/

inductive Pending.Underway : Pending → Prop
  | begins {call : Call} : call.IsDirect → Underway ⟨call, call⟩
  | stores {kind : Kind} {key raw : String} {value : Value} : kind.read? raw = some value →
      Underway ⟨.setText key raw, .set key value⟩

inductive Pending.Steps (store : Store) (pending : Pending) : Prop
  | reads {rest} : pending.left.step store = (store, .goesOn rest) → ¬ pending.IsStale store →
      Underway ⟨pending.asked, rest⟩ → ¬ IsStale store ⟨pending.asked, rest⟩ → Steps store pending
  | explained {next answer} : pending.left.step store = (next, .answered answer) →
      ¬ pending.IsStale store → pending.asked.Alone store next answer → Steps store pending
  | unexplained {next answer} : pending.left.step store = (next, .answered answer) →
      pending.IsStale store → pending.asked.Unexplained answer → Steps store pending

theorem Pending.steps_begun {call : Call} (direct : call.IsDirect) (store : Store) :
    Pending.Steps store ⟨call, call⟩ := by
  cases call with
  | apply values problems => exact direct.elim
  | register descriptor => exact .explained rfl id (.answered rfl)
  | set key value => exact .explained rfl id (.answered rfl)
  | reset key => exact .explained rfl id (.answered rfl)
  | get key => exact .explained rfl id (.answered rfl)
  | setText key raw =>
      cases declared : store.descriptor? key with
      | none =>
          have step : (Call.setText key raw).step store =
              (store, .answered (.changed (.error (.unknownKey key)))) := by
            simp only [Call.step, declared]
          exact .explained step id (.answered step)
      | some descriptor =>
          cases read : descriptor.kind.read? raw with
          | none =>
              have step : (Call.setText key raw).step store = (store, .answered (.changed (.error
                  (.kindMismatch key descriptor.kind.display s!"\"{raw}\"")))) := by
                simp only [Call.step, declared, Store.readFor, read]
              exact .explained step id (.answered step)
          | some value =>
              have step : (Call.setText key raw).step store =
                  (store, .goesOn (.set key value)) := by
                simp only [Call.step, declared, Store.readFor, read]
              refine .reads step id (.stores read) ?_
              rintro ⟨other, known, changed⟩
              obtain rfl := Option.some.inj (declared.symm.trans known)
              exact changed read

theorem Pending.steps_read {kind : Kind} {key raw : String} {value : Value}
    (read : kind.read? raw = some value) (store : Store) :
    Pending.Steps store ⟨.setText key raw, .set key value⟩ := by
  have second : (Call.set key value).step store =
      ((store.after (store.set key value)).1,
        .answered (.changed (store.after (store.set key value)).2)) := rfl
  cases declared : store.descriptor? key with
  | none =>
      have unknown :=
        Store.set_eq_of_unknown ((store.descriptor?_eq_none_iff key).mp declared) value
      rw [unknown] at second
      refine .explained second ?_ (.answered ?_)
      · rintro ⟨descriptor, known, -⟩
        rw [declared] at known
        cases known
      · simp only [Call.step, declared, Store.after]
  | some descriptor =>
      by_cases current : descriptor.kind.read? raw = some value
      · refine .explained second ?_ (.goesOn ?_ (.answered second))
        · rintro ⟨other, known, changed⟩
          obtain rfl := Option.some.inj (declared.symm.trans known)
          exact changed current
        · simp only [Call.step, declared, Store.readFor, current]
      · have rejected : descriptor.kind.accepts value = false := by
          by_contra accepted
          exact current (Kind.read?_of_accepts read (by simpa using accepted))
        rw [Store.set_eq_of_declared declared rejected] at second
        exact .unexplained second ⟨descriptor, declared, current⟩
          (Call.unexplained_of_misread read current)

theorem Pending.Underway.steps {pending : Pending} (underway : pending.Underway) (store : Store) :
    pending.Steps store := by
  cases underway with
  | begins direct => exact Pending.steps_begun direct store
  | stores read => exact Pending.steps_read read store

/-! Serial courses. -/

theorem Serially.append {store middle next : Store} {order : List (Call × Answer)}
    (serially : Serially store order middle) {call : Call} {answer : Answer}
    (last : call.Alone middle next answer) : Serially store (order ++ [(call, answer)]) next := by
  induction serially with
  | nil => exact .cons last .nil
  | cons first _ ih => exact .cons first (ih last)

theorem Serially.alone_of_mem {store next : Store} {order : List (Call × Answer)}
    (serially : Serially store order next) {call : Call} {answer : Answer}
    (member : (call, answer) ∈ order) : ∃ before after, call.Alone before after answer := by
  induction serially with
  | nil => exact absurd member List.not_mem_nil
  | cons first _ ih =>
      rcases List.mem_cons.mp member with same | later
      · obtain ⟨rfl, rfl⟩ := Prod.mk.inj same
        exact ⟨_, _, first⟩
      · exact ih later

namespace Course

theorem not_serializable_of_mem {start : Store} {course : Course} {call : Call} {answer : Answer}
    (member : (call, answer) ∈ course.history) (unexplained : call.Unexplained answer) :
    ¬ course.Serializable start := by
  rintro ⟨order, same, serially⟩
  obtain ⟨before, after, alone⟩ := serially.alone_of_mem (same.mem_iff.mpr member)
  exact unexplained before after alone

inductive Moves (course : Course) (next : Move) : Prop
  | silent : ¬ course.IsOvertaken next → (course.move next).store = course.store →
      (course.move next).history = course.history → Moves course next
  | explained {call answer} : ¬ course.IsOvertaken next →
      (course.move next).history = course.history ++ [(call, answer)] →
      call.Alone course.store (course.move next).store answer → Moves course next
  | unexplained {call answer} : course.IsOvertaken next →
      (course.move next).history = course.history ++ [(call, answer)] →
      call.Unexplained answer → Moves course next

def Underway (course : Course) : Prop := ∀ pending ∈ course.pending, pending.Underway

theorem Underway.moves {course : Course} (underway : course.Underway) (next : Move) :
    course.Moves next := by
  cases next with
  | arrive call => exact .silent id rfl rfl
  | advance position =>
      cases there : course.pending[position]? with
      | none =>
          refine .silent ?_ (by simp [move, there]) (by simp [move, there])
          rintro ⟨pending, present, -⟩
          rw [there] at present
          cases present
      | some pending =>
          have overtaken : course.IsOvertaken (.advance position) ↔
              pending.IsStale course.store := by
            simp [IsOvertaken, there]
          cases (underway pending (List.mem_of_getElem? there)).steps course.store with
          | reads step current _ _ =>
              exact .silent (mt overtaken.mp current) (by simp [move, there, step])
                (by simp [move, there, step])
          | @explained store answer step current alone =>
              have history : (course.move (.advance position)).history =
                  course.history ++ [(pending.asked, answer)] := by simp [move, there, step]
              exact .explained (mt overtaken.mp current) history
                (by simpa [move, there, step] using alone)
          | @unexplained store answer step stale unexplained =>
              have history : (course.move (.advance position)).history =
                  course.history ++ [(pending.asked, answer)] := by simp [move, there, step]
              exact .unexplained (overtaken.mpr stale) history unexplained

theorem Underway.move {course : Course} (underway : course.Underway) {next : Move}
    (direct : next.IsDirect) : (course.move next).Underway := by
  cases next with
  | arrive call =>
      intro pending member
      rcases List.mem_append.mp member with old | new
      · exact underway pending old
      · rw [List.mem_singleton.mp new]
        exact .begins direct
  | advance position =>
      cases there : course.pending[position]? with
      | none => simpa [Course.move, there] using underway
      | some pending =>
          cases (underway pending (List.mem_of_getElem? there)).steps course.store with
          | reads step _ goesOn _ =>
              intro other member
              simp only [Course.move, there, step] at member
              rcases List.mem_or_eq_of_mem_set member with old | rfl
              · exact underway other old
              · exact goesOn
          | explained step _ _ | unexplained step _ _ =>
              intro other member
              simp only [Course.move, there, step] at member
              exact underway other (List.mem_of_mem_eraseIdx member)

theorem underway_opened (store : Store) : (opened store).Underway :=
  fun _ member => absurd member List.not_mem_nil

theorem Underway.history_prefix_move {course : Course} (underway : course.Underway)
    (next : Move) : course.history <+: (course.move next).history := by
  cases underway.moves next with
  | silent _ _ same => exact same ▸ List.prefix_rfl
  | explained _ more _ | unexplained _ more _ =>
      rw [more]
      exact List.prefix_append _ _

section

variable {moves : List Move} (direct : ∀ move ∈ moves, move.IsDirect)

include direct

theorem Underway.history_prefix_run : ∀ {course : Course}, course.Underway →
    course.history <+: (course.run moves).history := by
  induction moves with
  | nil => exact fun _ => List.prefix_rfl
  | cons next rest ih =>
      intro course underway
      obtain ⟨nextDirect, restDirect⟩ := List.forall_mem_cons.mp direct
      exact (underway.history_prefix_move next).trans (ih restDirect (underway.move nextDirect))

/-- The answers so far stand in an order that explains them, and go on doing so. -/
theorem Underway.serially_run {start : Store} : ∀ {course : Course}, course.Underway →
    Serially start course.history course.store → course.StaysCurrent moves →
      Serially start (course.run moves).history (course.run moves).store := by
  induction moves with
  | nil => exact fun _ serially _ => serially
  | cons next rest ih =>
      rintro course underway serially ⟨current, staysCurrent⟩
      obtain ⟨nextDirect, restDirect⟩ := List.forall_mem_cons.mp direct
      refine ih restDirect (underway.move nextDirect) ?_ staysCurrent
      cases underway.moves next with
      | silent _ store history => rwa [store, history]
      | explained _ history alone => exact history ▸ serially.append alone
      | unexplained overtaken _ _ => exact absurd overtaken current

/-- What is stored too late has got an answer without explanation. -/
theorem Underway.exists_unexplained : ∀ {course : Course}, course.Underway →
    ¬ course.StaysCurrent moves → ∃ call answer, (call, answer) ∈ (course.run moves).history ∧
      call.Unexplained answer := by
  induction moves with
  | nil => exact fun _ overtaken => absurd trivial overtaken
  | cons next rest ih =>
      intro course underway overtaken
      obtain ⟨nextDirect, restDirect⟩ := List.forall_mem_cons.mp direct
      have underwayNext := underway.move nextDirect
      by_cases now : course.IsOvertaken next
      · cases underway.moves next with
        | silent current _ _ | explained current _ _ => exact absurd now current
        | @unexplained call answer _ history unexplained =>
            have later := underwayNext.history_prefix_run restDirect
            exact ⟨call, answer, later.subset (by simp [history]), unexplained⟩
      · exact ih restDirect underwayNext fun current => overtaken ⟨now, current⟩

end

structure Follows (course : Course) (traffic : Traffic) : Prop where
  store : course.store = traffic.store
  calls : course.pending.map (·.left) = traffic.calls

theorem Follows.move {course : Course} {traffic : Traffic} (follows : course.Follows traffic)
    (next : Move) : (course.move next).Follows (traffic.move next) := by
  obtain ⟨store, calls⟩ := follows
  cases next with
  | arrive call => exact ⟨store, by simp [Course.move, Traffic.move, calls]⟩
  | advance position =>
      cases there : course.pending[position]? with
      | none =>
          have missing : traffic.calls[position]? = none := by simp [← calls, there]
          simpa only [Course.move, Traffic.move, there, missing] using ⟨store, calls⟩
      | some pending =>
          rcases step : pending.left.step traffic.store with ⟨after, answer | rest⟩
          · have erased := List.eraseIdx_map (·.left) course.pending position
            constructor <;> simp [Course.move, Traffic.move, there, store, step, ← calls, erased]
          · constructor <;>
              simp [Course.move, Traffic.move, there, store, step, ← calls, List.map_set]

theorem Follows.run {course : Course} {traffic : Traffic} (follows : course.Follows traffic)
    (moves : List Move) : (course.run moves).Follows (traffic.run moves) := by
  induction moves generalizing course traffic with
  | nil => exact follows
  | cons next rest ih => exact ih (follows.move next)

/-- Courses are the traffic of their stores, with the answers kept. -/
theorem follows_run_opened (start : Store) (descriptors : List Descriptor) (moves : List Move) :
    ((opened start).run moves).Follows ((Traffic.opened start descriptors).run moves) :=
  Follows.run ⟨rfl, rfl⟩ moves

end Course

/-! Courses in which nothing is declared. -/

theorem Call.sameDescriptors_step {call : Call} (direct : call.IsDirect)
    (quiet : call.declares = []) (store : Store) :
    (call.step store).1.SameDescriptors store := by
  intro key
  cases call with
  | apply values problems => exact direct.elim
  | get other => rfl
  | register descriptor =>
      cases validated : descriptor.validate with
      | ok => simp [declares, validated] at quiet
      | error error => simp [step, Store.register, validated, Store.after]
  | set other value =>
      cases stored : store.set other value with
      | error error => simp [step, stored, Store.after]
      | ok next =>
          have kept := (Store.changed_of_set stored).descriptors key
          simpa [step, stored, Store.after] using kept
  | reset other =>
      cases restored : store.reset other with
      | error error => simp [step, restored, Store.after]
      | ok next =>
          obtain ⟨entry, found, rfl⟩ := (Store.reset_eq_ok_iff store next other).mp restored
          have kept := Store.descriptor?_replace found entry.descriptor.default key
          simpa [step, restored, Store.after, Entry.initial] using kept
  | setText other raw =>
      simp only [step]
      split
      · rfl
      · split <;> rfl

theorem Pending.isStale_congr {first second : Store} (same : first.SameDescriptors second)
    (pending : Pending) : pending.IsStale first ↔ pending.IsStale second := by
  unfold IsStale
  split
  · rw [same]
  · rfl

theorem Pending.not_isStale_begun (call : Call) (store : Store) :
    ¬ Pending.IsStale store ⟨call, call⟩ := by
  cases call <;> exact id

theorem Pending.Underway.declares_left {pending : Pending} (underway : pending.Underway)
    (quiet : pending.asked.declares = []) : pending.left.declares = [] := by
  cases underway with
  | begins _ => exact quiet
  | stores _ => rfl

theorem Pending.Underway.isDirect_left {pending : Pending} (underway : pending.Underway) :
    pending.left.IsDirect := by
  cases underway with
  | begins direct => exact direct
  | stores _ => trivial

namespace Course

def Quiet (course : Course) : Prop :=
  ∀ pending ∈ course.pending, pending.asked.declares = [] ∧ ¬ pending.IsStale course.store

theorem Quiet.move {course : Course} (quiet : course.Quiet) (underway : course.Underway)
    {next : Move} (undeclared : ∀ call, next = .arrive call → call.declares = []) :
    (course.move next).Quiet := by
  cases next with
  | arrive call =>
      intro pending member
      rcases List.mem_append.mp member with old | new
      · exact quiet pending old
      · rw [List.mem_singleton.mp new]
        exact ⟨undeclared call rfl, Pending.not_isStale_begun call course.store⟩
  | advance position =>
      cases there : course.pending[position]? with
      | none => simpa [Course.move, there] using quiet
      | some pending =>
          have present := List.mem_of_getElem? there
          have asked := (quiet pending present).1
          cases (underway pending present).steps course.store with
          | reads step _ _ current =>
              intro other member
              simp only [Course.move, there, step] at member ⊢
              rcases List.mem_or_eq_of_mem_set member with old | rfl
              · exact quiet other old
              · exact ⟨asked, current⟩
          | explained step _ _ | unexplained step _ _ =>
              have same := Call.sameDescriptors_step (underway pending present).isDirect_left
                ((underway pending present).declares_left asked) course.store
              rw [step] at same
              intro other member
              simp only [Course.move, there, step] at member ⊢
              have old := quiet other (List.mem_of_mem_eraseIdx member)
              exact ⟨old.1, mt (Pending.isStale_congr same other).mp old.2⟩

theorem Quiet.not_isOvertaken {course : Course} (quiet : course.Quiet) (next : Move) :
    ¬ course.IsOvertaken next := by
  cases next with
  | arrive call => exact id
  | advance position =>
      rintro ⟨pending, there, stale⟩
      exact (quiet pending (List.mem_of_getElem? there)).2 stale

theorem Quiet.staysCurrent {moves : List Move} (direct : ∀ move ∈ moves, move.IsDirect)
    (undeclared : ∀ call, .arrive call ∈ moves → call.declares = []) : ∀ {course : Course},
      course.Quiet → course.Underway → course.StaysCurrent moves := by
  induction moves with
  | nil => exact fun _ _ => trivial
  | cons next rest ih =>
      intro course quiet underway
      obtain ⟨nextDirect, restDirect⟩ := List.forall_mem_cons.mp direct
      have nextQuiet : (course.move next).Quiet :=
        quiet.move underway fun call same => undeclared call (by simp [same])
      exact ⟨quiet.not_isOvertaken next,
        ih restDirect (fun call later => undeclared call (List.mem_cons_of_mem next later))
          nextQuiet (underway.move nextDirect)⟩

/-- Calls that are under way at once are answered, and leave the store, as if they had come in some
order one after another, if and only if none stores what its text no longer stands for. The order of
their answers is then such an order. It always is one where nobody declares anything. -/
theorem serializable_run_iff (start : Store) {moves : List Move}
    (direct : ∀ move ∈ moves, move.IsDirect) :
    let course := (opened start).run moves
    (course.Serializable start ↔ (opened start).StaysCurrent moves) ∧
      ((opened start).StaysCurrent moves → Serially start course.history course.store) ∧
      ((∀ call, .arrive call ∈ moves → call.declares = []) →
        Serially start course.history course.store) := by
  intro course
  have underway := underway_opened start
  have explained : (opened start).StaysCurrent moves →
      Serially start course.history course.store :=
    underway.serially_run direct .nil
  refine ⟨⟨?_, fun current => ⟨course.history, List.Perm.refl _, explained current⟩⟩, explained,
    ?_⟩
  · intro serializable
    by_contra overtaken
    obtain ⟨call, answer, member, unexplained⟩ := underway.exists_unexplained direct overtaken
    exact not_serializable_of_mem member unexplained serializable
  · intro undeclared
    have quiet : (opened start).Quiet := fun _ member => absurd member List.not_mem_nil
    exact explained (quiet.staysCurrent direct undeclared underway)

/-- A text has become a path between the two steps of a call that sets it, and another call has come
and gone. -/
theorem serializable_run_path :
    let start : Store := ⟨[.initial ⟨"home", "Home", .text, .text "here"⟩]⟩
    let moves : List Move := [.arrive (.setText "home" "there"), .advance 0,
      .arrive (.register ⟨"home", "Home", .path, .text "/"⟩), .arrive (.get "home"),
      .advance 2, .advance 1, .advance 0]
    (∀ move ∈ moves, move.IsDirect) ∧ (opened start).StaysCurrent moves ∧
      ((opened start).run moves).Serializable start ∧
      ((opened start).run moves).store.get? "home" = some (.text "there") := by
  intro start moves
  have direct : ∀ move ∈ moves, move.IsDirect := by simp [moves, Move.IsDirect, Call.IsDirect]
  have current : (opened start).StaysCurrent moves := by decide
  exact ⟨direct, current, (serializable_run_iff start direct).1.mpr current, by rfl⟩

/-- A text setting becomes an integer between the two steps of a call that sets it to five. The call
is refused for a text that is no integer, though either order of the calls lets it set the five. -/
theorem not_serializable_redeclared :
    let start : Store := ⟨[.initial ⟨"level", "Level", .text, .text "low"⟩]⟩
    let moves : List Move := [.arrive (.setText "level" "5"),
      .arrive (.register (.integer "level" "Level" 3)), .advance 0, .advance 1, .advance 0]
    let course := (opened start).run moves
    Store.ofDescriptors start.descriptors = .ok start ∧ (∀ move ∈ moves, move.IsDirect) ∧
      course.pending = [] ∧ ¬ course.Serializable start := by
  intro start moves course
  have refused : (Call.setText "level" "5",
      Answer.changed (.error (.kindMismatch "level" "integer" "text \"5\""))) ∈ course.history :=
    List.mem_of_getElem? (i := 1) rfl
  have read : Kind.text.read? "5" = some (.text "5") := rfl
  refine ⟨by rfl, by simp [moves, Move.IsDirect, Call.IsDirect], by rfl, ?_⟩
  have misread : (Descriptor.integer "level" "Level" 3).kind.read? "5" ≠ some (.text "5") := by
    decide
  exact not_serializable_of_mem refused (Call.unexplained_of_misread read misread)

end Course

end ArtifactTools.Settings
