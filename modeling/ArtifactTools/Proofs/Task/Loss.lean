import ArtifactTools.Proofs.Task.Delivery
import ArtifactTools.Viewer

/-! What it means that a task is lost. As long as the result has not been handed out, it means that
the worker went away without sending one. Once it has been, every further call is told the same as
soon as the worker is gone, though nothing was lost. -/

namespace ArtifactTools.Delivery

/-- What has become of a task that is said to be lost after these answers. -/
def Lost (worker : Worker) (earlier : List (Poll TaskResult)) : Prop :=
  worker = .gone none ∨ ∃ result, worker = .gone (some result) ∧ .ready result ∈ earlier

section

variable {worker : Worker} {channel : Channel TaskResult} {told : List (Poll TaskResult)}
  (tells : Tells worker channel told)

include tells

theorem Tells.poll_eq_lost_iff : channel.poll.1 = .lost ↔ Lost worker told := by
  cases tells <;> simp [Channel.poll, Lost]

theorem Tells.lost_of_append {before after : List (Poll TaskResult)}
    (divided : told = before ++ .lost :: after) : Lost worker before := by
  cases tells with
  | lost count => exact .inl rfl
  | emptied result count =>
      -- The result is what was told first, so that it stands before any loss.
      cases before with
      | nil => cases divided
      | cons first rest =>
          obtain ⟨rfl, -⟩ := List.cons.inj divided
          exact .inr ⟨result, rfl, List.mem_cons_self⟩
  | taken result =>
      cases before with
      | nil => cases divided
      | cons first rest => simp at divided
  | _ => simp at divided

end

theorem lost_told_iff (delivery : Delivery) :
    Lost delivery.worker delivery.told ↔ Lost delivery.worker delivery.answers := by
  simp [Lost, told, Poll.isConclusive]

theorem answers_step_call_iff {delivery : Delivery} (held : delivery.isHeld = true) (call : Call) :
    (delivery.step (.call call)).answers = delivery.answers ++ [.lost] ↔
      delivery.channel.poll.1 = .lost := by
  constructor
  · intro answers
    rcases step_cases delivery (.call call) with same | steps
    · rw [same] at answers
      simp at answers
    · generalize delivery.step (.call call) = next at answers steps
      cases steps with
      | call _ looked =>
          obtain rfl := List.singleton_inj.mp (List.append_cancel_left answers)
          rw [show delivery.channel.poll = _ from looked]
  · intro lost
    have conclusive : delivery.task.channel.poll.1.isConclusive = true := by
      rw [show delivery.task.channel.poll.1 = .lost from lost]
      rfl
    obtain ⟨isHeld, answered⟩ := exists_answer? conclusive call
    rw [show delivery.task.channel.poll.1 = .lost from lost] at answered
    simp [step, step?, held, answered]

structure LossTold (delivery : Delivery) : Prop where
  means : ∀ before after, delivery.answers = before ++ .lost :: after →
    Lost delivery.worker before
  next : delivery.isHeld = true → ∀ call,
    (delivery.step (.call call)).answers = delivery.answers ++ [.lost] ↔
      Lost delivery.worker delivery.answers
  honest : (∀ result, .ready result ∉ delivery.answers) → .lost ∈ delivery.answers →
    delivery.worker = .gone none

theorem Sound.lossTold {delivery : Delivery} (sound : delivery.Sound) : delivery.LossTold := by
  have means : ∀ before after, delivery.answers = before ++ .lost :: after →
      Lost delivery.worker before := by
    intro before after divided
    have conclusive : delivery.told = before.filter Poll.isConclusive ++
        .lost :: after.filter Poll.isConclusive := by
      rw [told, divided, List.filter_append, List.filter_cons_of_pos rfl]
    rcases sound.lost_of_append conclusive with gone | ⟨result, gone, handed⟩
    · exact .inl gone
    · exact .inr ⟨result, gone, (List.mem_filter.mp handed).1⟩
  constructor
  · exact means
  · intro held call
    rw [answers_step_call_iff held call, ← lost_told_iff]
    exact sound.poll_eq_lost_iff
  · intro unread lost
    obtain ⟨before, after, divided⟩ := List.append_of_mem lost
    rcases means before after divided with gone | ⟨result, -, handed⟩
    · exact gone
    · refine absurd ?_ (unread result)
      rw [divided]
      exact List.mem_append_left _ handed

/-- A task that a submitter takes is under way, and whatever happens to it in whatever order, it is
said to be lost when its worker left without a result, or when the result has been handed out and
the worker is gone. -/
theorem lossTold_run_opened (work : Work) :
    (∀ submitter services submitted, (Task.submit submitter work services).1 = .ok submitted ↔
      ∃ moves, movesBefore? work services submitter = some moves ∧
        ((opened work).run moves).task = submitted) ∧
    ∀ moves, ((opened work).run moves).LossTold :=
  ⟨fun submitter services => submit_eq_ok_iff submitter work services,
    fun moves => (sound_run_of_opened work moves).lossTold⟩

/-- A view that has come to its end and has been read is then said to be lost. -/
theorem lost_after_ready :
    ∃ text, Viewer.text.build 0 = .ok text ∧
      let host : Host := ⟨⟨[], [], 0⟩, [], []⟩
      let delivery := (opened ⟨text, .view [104, 105]⟩).run [.finish text.store (.ofHost host),
        .send, .leave, .call .poll, .call .poll, .call .wait]
      delivery.worker = .gone (some (.ok (.text "hi"))) ∧
        delivery.answers = [.ready (.ok (.text "hi")), .lost, .lost] :=
  ⟨_, rfl, rfl, rfl⟩

end ArtifactTools.Delivery
