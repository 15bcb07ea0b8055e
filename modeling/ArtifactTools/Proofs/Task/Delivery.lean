import ArtifactTools.Task
import Mathlib.Data.List.Induction

/-! The course of a task between its worker and those who ask for the result. The worker's steps and
the calls follow one another in any order. Whatever the order, the result is handed out once at
most, and the first call that learns anything learns what has become of it. -/

namespace ArtifactTools

namespace Poll

variable {α : Type}

def isReady : Poll α → Bool
  | .ready _ => true
  | _ => false

def isConclusive : Poll α → Bool
  | .pending => false
  | _ => true

def ofReceived : Option α → Poll α
  | some result => .ready result
  | none => .lost

end Poll

/-- How far a worker has come. It may lose its work before the transformation has come to an end,
and not between that and the sending. When it is gone it has sent a result or not. -/
inductive Worker where
  | working (work : Work)
  | finished (result : TaskResult)
  | sent (result : TaskResult)
  | gone (result : Option TaskResult)

namespace Worker

def work? : Worker → Option Work
  | .working work => some work
  | _ => none

def returned? : Worker → Option TaskResult
  | .working _ => none
  | .finished result => some result
  | .sent result => some result
  | .gone result => result

end Worker

structure Delivery where
  transformerId : String
  worker : Worker
  channel : Channel TaskResult
  isHeld : Bool
  answers : List (Poll TaskResult)

namespace Delivery

inductive Call where
  | poll
  | wait
  | waitTimeout

def Call.answer? (task : Task) : Call → Option (Poll TaskResult × Channel TaskResult × Bool)
  | .poll => some (task.poll.1, task.poll.2.channel, true)
  | .wait => task.wait?.map fun received => (.ofReceived received, task.channel.poll.2, false)
  | .waitTimeout =>
      match task.waitTimeout with
      | .ok received => some (.ofReceived received, task.channel.poll.2, false)
      | .error task => some (.pending, task.channel, true)

/-- The transformation ends with whatever settings and services there are by then. -/
inductive Move where
  | finish (store : Settings.Store) (services : Services)
  | abandon
  | send
  | leave
  | call (call : Call)
  | forget

def opened (work : Work) : Delivery :=
  ⟨work.transformer.id, .working work, .fresh, true, []⟩

def task (delivery : Delivery) : Task :=
  ⟨delivery.transformerId, delivery.channel, delivery.worker.work?⟩

/-- The delivery after a move, unless that is not possible. The channel has one place, and sending
waits until it is free. -/
def step? (delivery : Delivery) : Move → Option Delivery
  | .finish store services =>
      match delivery.worker with
      | .working work =>
          let result := ({ work.transformer with store }.run work.operation services).1
          some { delivery with worker := .finished result }
      | _ => none
  | .abandon =>
      match delivery.worker with
      | .working _ => some { delivery with worker := .gone none, channel := delivery.channel.leave }
      | _ => none
  | .send =>
      match delivery.worker with
      | .finished result =>
          if delivery.channel.result.isNone then
            some { delivery with worker := .sent result, channel := delivery.channel.send result }
          else none
      | _ => none
  | .leave =>
      match delivery.worker with
      | .sent result =>
          some { delivery with worker := .gone (some result), channel := delivery.channel.leave }
      | _ => none
  | .call call =>
      if delivery.isHeld then
        (call.answer? delivery.task).map fun (answer, channel, isHeld) =>
          { delivery with channel, isHeld, answers := delivery.answers ++ [answer] }
      else none
  | .forget => some { delivery with isHeld := false }

def step (delivery : Delivery) (move : Move) : Delivery := (delivery.step? move).getD delivery

def run (delivery : Delivery) (moves : List Move) : Delivery := moves.foldl step delivery

/-! The operations of a task are such courses. -/

/-- A worker that nothing comes between does all its steps at once. -/
theorem run_complete {delivery : Delivery} {work : Work} (working : delivery.worker = .working work)
    (free : delivery.channel.result = none) (services : Services) :
    (delivery.run [.finish work.transformer.store services, .send, .leave]).task =
      ⟨delivery.transformerId, (Task.complete delivery.channel work services).1, none⟩ := by
  simp [run, step, step?, working, free, task, Worker.work?, Task.complete]

/-- What the worker has done by the time that a submitter hands over a task, if it does so. -/
def movesBefore? (work : Work) (services : Services) : Submitter → Option (List Move)
  | .running => some [.finish work.transformer.store services, .send, .leave]
  | .holding => some []
  | .losing => some [.abandon]
  | .refusing _ => none

theorem submit_eq_ok_iff (submitter : Submitter) (work : Work) (services : Services)
    (submitted : Task) :
    (Task.submit submitter work services).1 = .ok submitted ↔
      ∃ moves, movesBefore? work services submitter = some moves ∧
        ((opened work).run moves).task = submitted := by
  cases submitter with
  | running =>
      have course : ((opened work).run _).task = ⟨work.transformer.id,
          (Task.complete .fresh work services).1, none⟩ := run_complete rfl rfl services
      simp [movesBefore?, course, Task.submit]
  | holding => simp [movesBefore?, Task.submit, run, task, opened, Worker.work?]
  | losing => simp [movesBefore?, Task.submit, run, step, step?, task, opened, Worker.work?]
  | refusing reason => simp [movesBefore?, Task.submit]

/-! What calls are told. -/

theorem received?_eq_some_iff (channel : Channel TaskResult) (received : Option TaskResult) :
    channel.received? = some received ↔ channel.poll.1 = .ofReceived received := by
  obtain ⟨result, hasWorker⟩ := channel
  cases result with
  | some result => cases received <;> simp [Channel.received?, Channel.poll, Poll.ofReceived]
  | none => cases hasWorker <;> cases received <;>
      simp [Channel.received?, Channel.poll, Poll.ofReceived]

theorem poll_of_received?_eq_none {channel : Channel TaskResult}
    (unanswered : channel.received? = none) : channel.poll = (.pending, channel) := by
  obtain ⟨result, hasWorker⟩ := channel
  cases result <;> cases hasWorker <;> simp_all [Channel.received?, Channel.poll]

/-- Whoever is answered is told what a look into the channel shows at that moment. -/
theorem poll_of_answer? {task : Task} {call : Call} {answer : Poll TaskResult}
    {channel : Channel TaskResult} {isHeld : Bool}
    (answered : call.answer? task = some (answer, channel, isHeld)) :
    task.channel.poll = (answer, channel) := by
  cases call with
  | poll =>
      simp only [Call.answer?, Task.poll, Option.some.injEq, Prod.mk.injEq] at answered
      exact Prod.ext answered.1 answered.2.1
  | wait =>
      obtain ⟨received, ended, same⟩ := Option.map_eq_some_iff.mp answered
      simp only [Prod.mk.injEq] at same
      exact Prod.ext (((received?_eq_some_iff _ _).mp ended).trans same.1) same.2.1
  | waitTimeout =>
      simp only [Call.answer?, Task.waitTimeout, Task.wait?] at answered
      cases ended : task.channel.received? with
      | some received =>
          simp only [ended, Option.some.injEq, Prod.mk.injEq] at answered
          exact Prod.ext (((received?_eq_some_iff _ _).mp ended).trans answered.1) answered.2.1
      | none =>
          simp only [ended, Option.some.injEq, Prod.mk.injEq] at answered
          rw [poll_of_received?_eq_none ended]
          exact Prod.ext answered.1 answered.2.1

theorem exists_answer? {task : Task} (told : task.channel.poll.1.isConclusive = true)
    (call : Call) :
    ∃ isHeld, call.answer? task = some (task.channel.poll.1, task.channel.poll.2, isHeld) := by
  cases ended : task.channel.received? with
  | none =>
      rw [poll_of_received?_eq_none ended] at told
      cases told
  | some received =>
      have same := (received?_eq_some_iff _ _).mp ended
      cases call with
      | poll => exact ⟨true, rfl⟩
      | wait =>
          refine ⟨false, ?_⟩
          simp only [Call.answer?, Task.wait?, ended, same, Option.map_some]
      | waitTimeout =>
          refine ⟨false, ?_⟩
          simp only [Call.answer?, Task.waitTimeout, Task.wait?, ended, same]

/-- What a worker and the conclusive answers so far have to do with each other. A result is in the
channel or has been handed out, and only then does anyone hear that it is lost. -/
inductive Tells : Worker → Channel TaskResult → List (Poll TaskResult) → Prop
  | working (work) : Tells (.working work) ⟨none, true⟩ []
  | finished (result) : Tells (.finished result) ⟨none, true⟩ []
  | sent (result) : Tells (.sent result) ⟨some result, true⟩ []
  | taken (result) : Tells (.sent result) ⟨none, true⟩ [.ready result]
  | left (result) : Tells (.gone (some result)) ⟨some result, false⟩ []
  | emptied (result count) :
      Tells (.gone (some result)) ⟨none, false⟩ (.ready result :: List.replicate count .lost)
  | lost (count) : Tells (.gone none) ⟨none, false⟩ (List.replicate count .lost)

theorem Tells.poll {worker : Worker} {channel : Channel TaskResult}
    {told : List (Poll TaskResult)} (tells : Tells worker channel told) :
    Tells worker channel.poll.2 (told ++ [channel.poll.1].filter Poll.isConclusive) := by
  cases tells with
  | working work => exact .working work
  | finished result => exact .finished result
  | sent result => exact .taken result
  | taken result => exact .taken result
  | left result => exact .emptied result 0
  | emptied result count =>
      have more := Tells.emptied result (count + 1)
      rwa [List.replicate_succ'] at more
  | lost count =>
      have more := Tells.lost (count + 1)
      rwa [List.replicate_succ'] at more

section

variable {channel : Channel TaskResult} {told : List (Poll TaskResult)}

theorem Tells.finish {work : Work} (tells : Tells (.working work) channel told)
    (result : TaskResult) : Tells (.finished result) channel told := by
  cases tells
  exact .finished result

theorem Tells.abandon {work : Work} (tells : Tells (.working work) channel told) :
    Tells (.gone none) channel.leave told := by
  cases tells
  exact .lost 0

theorem Tells.send {result : TaskResult} (tells : Tells (.finished result) channel told) :
    Tells (.sent result) (channel.send result) told := by
  cases tells
  exact .sent result

theorem Tells.leave {result : TaskResult} (tells : Tells (.sent result) channel told) :
    Tells (.gone (some result)) channel.leave told := by
  cases tells with
  | sent => exact .left result
  | taken => exact .emptied result 0

end

def told (delivery : Delivery) : List (Poll TaskResult) :=
  delivery.answers.filter Poll.isConclusive

def Sound (delivery : Delivery) : Prop := Tells delivery.worker delivery.channel delivery.told

theorem sound_opened (work : Work) : (opened work).Sound := .working work

inductive Steps (delivery : Delivery) : Move → Delivery → Prop
  | finish {work} (store services) : delivery.worker = .working work →
      Steps delivery (.finish store services) { delivery with
        worker := .finished ({ work.transformer with store }.run work.operation services).1 }
  | abandon {work} : delivery.worker = .working work →
      Steps delivery .abandon { delivery with
        worker := .gone none, channel := delivery.channel.leave }
  | send {result} : delivery.worker = .finished result →
      Steps delivery .send { delivery with
        worker := .sent result, channel := delivery.channel.send result }
  | leave {result} : delivery.worker = .sent result →
      Steps delivery .leave { delivery with
        worker := .gone (some result), channel := delivery.channel.leave }
  | call {call answer channel isHeld} : delivery.isHeld = true →
      delivery.channel.poll = (answer, channel) →
      Steps delivery (.call call) { delivery with
        channel, isHeld, answers := delivery.answers ++ [answer] }
  | forget : Steps delivery .forget { delivery with isHeld := false }

theorem steps_of_step? {delivery next : Delivery} {move : Move}
    (stepped : delivery.step? move = some next) : Steps delivery move next := by
  cases move with
  | finish store services =>
      simp only [step?] at stepped
      split at stepped
      · next work atWork =>
          obtain rfl := Option.some.inj stepped
          exact .finish store services atWork
      · cases stepped
  | abandon =>
      simp only [step?] at stepped
      split at stepped
      · next work atWork =>
          obtain rfl := Option.some.inj stepped
          exact .abandon atWork
      · cases stepped
  | send =>
      simp only [step?] at stepped
      split at stepped
      · next result atWork =>
          split at stepped
          · obtain rfl := Option.some.inj stepped
            exact .send atWork
          · cases stepped
      · cases stepped
  | leave =>
      simp only [step?] at stepped
      split at stepped
      · next result atWork =>
          obtain rfl := Option.some.inj stepped
          exact .leave atWork
      · cases stepped
  | call call =>
      simp only [step?] at stepped
      split at stepped
      · next held =>
          obtain ⟨⟨answer, channel, isHeld⟩, answered, rfl⟩ := Option.map_eq_some_iff.mp stepped
          exact .call held (poll_of_answer? answered)
      · cases stepped
  | forget =>
      obtain rfl := Option.some.inj stepped
      exact .forget

theorem step_cases (delivery : Delivery) (move : Move) :
    delivery.step move = delivery ∨ Steps delivery move (delivery.step move) := by
  unfold step
  cases stepped : delivery.step? move with
  | none => exact Or.inl rfl
  | some next => exact Or.inr (steps_of_step? stepped)

theorem run_keeps (Holds : Delivery → Prop)
    (keeps : ∀ {delivery next move}, Holds delivery → Steps delivery move next → Holds next)
    (moves : List Move) : ∀ {delivery : Delivery}, Holds delivery → Holds (delivery.run moves) := by
  induction moves with
  | nil => exact fun holds => holds
  | cons move rest ih =>
      intro delivery holds
      refine ih ?_
      rcases step_cases delivery move with same | steps
      · rw [same]
        exact holds
      · exact keeps holds steps

theorem Sound.steps {delivery next : Delivery} (sound : delivery.Sound) {move : Move}
    (steps : Steps delivery move next) : next.Sound := by
  unfold Sound at sound
  cases steps with
  | finish store services atWork =>
      rw [atWork] at sound
      exact sound.finish _
  | abandon atWork =>
      rw [atWork] at sound
      exact sound.abandon
  | send atWork =>
      rw [atWork] at sound
      exact sound.send
  | leave atWork =>
      rw [atWork] at sound
      exact sound.leave
  | call held looked =>
      have polled := sound.poll
      simp only [looked] at polled
      simpa only [Sound, told, List.filter_append] using polled
  | forget => exact sound

theorem sound_run_of_opened (work : Work) (moves : List Move) : ((opened work).run moves).Sound :=
  run_keeps Sound (fun sound steps => sound.steps steps) moves (sound_opened work)

/-! Where the result comes from. -/

def Returns (work : Work) (moves : List Move) (result : TaskResult) : Prop :=
  ∃ before store services after, moves = before ++ .finish store services :: after ∧
    ((opened work).run before).worker = .working work ∧
    result = ({ work.transformer with store }.run work.operation services).1

theorem Steps.returned? {delivery next : Delivery} {move : Move} {result : TaskResult}
    (steps : Steps delivery move next) (returned : delivery.worker.returned? = some result) :
    next.worker.returned? = some result := by
  cases steps with
  | finish store services atWork => simp [atWork, Worker.returned?] at returned
  | abandon atWork => simp [atWork, Worker.returned?] at returned
  | send atWork => simpa [atWork, Worker.returned?] using returned
  | leave atWork => simpa [atWork, Worker.returned?] using returned
  | call => exact returned
  | forget => exact returned

theorem Steps.working {delivery next : Delivery} {move : Move} {work : Work}
    (steps : Steps delivery move next) (working : next.worker = .working work) :
    delivery.worker = .working work := by
  cases steps with
  | call => exact working
  | forget => exact working
  | _ => cases working

theorem Steps.returns {delivery next : Delivery} {move : Move} {result : TaskResult}
    (steps : Steps delivery move next) (returned : next.worker.returned? = some result) :
    delivery.worker.returned? = some result ∨
      ∃ work store services, move = .finish store services ∧ delivery.worker = .working work ∧
        result = ({ work.transformer with store }.run work.operation services).1 := by
  cases steps with
  | finish store services atWork =>
      exact Or.inr ⟨_, store, services, rfl, atWork, (Option.some.inj returned).symm⟩
  | abandon => cases returned
  | send atWork => exact Or.inl (by simpa [atWork, Worker.returned?] using returned)
  | leave atWork => exact Or.inl (by simpa [atWork, Worker.returned?] using returned)
  | call => exact Or.inl returned
  | forget => exact Or.inl returned

theorem run_append (delivery : Delivery) (moves later : List Move) :
    delivery.run (moves ++ later) = (delivery.run moves).run later :=
  List.foldl_append

theorem working_run_opened {work other : Work} {moves : List Move}
    (working : ((opened work).run moves).worker = .working other) : other = work := by
  have same : ∀ other, ((opened work).run moves).worker = .working other → other = work := by
    refine run_keeps (fun delivery => ∀ other, delivery.worker = .working other → other = work)
      ?_ moves ?_
    · exact fun holds steps other working => holds other (steps.working working)
    · exact fun other same => (Worker.working.inj same).symm
  exact same other working

theorem returned?_run_opened_iff (work : Work) (moves : List Move) (result : TaskResult) :
    ((opened work).run moves).worker.returned? = some result ↔ Returns work moves result := by
  constructor
  · -- From the end of the moves: the last one has returned the result, or it was there before.
    induction moves using List.reverseRecOn with
    | nil => intro returned; cases returned
    | append_singleton before move ih =>
        intro returned
        have earlier (there : ((opened work).run before).worker.returned? = some result) :
            Returns work (before ++ [move]) result := by
          obtain ⟨first, store, services, after, rfl, atWork, same⟩ := ih there
          exact ⟨first, store, services, after ++ [move], by simp, atWork, same⟩
        rw [run_append] at returned
        rcases step_cases ((opened work).run before) move with same | steps
        · exact earlier (same ▸ returned)
        · rcases steps.returns returned with there | ⟨other, store, services, rfl, atWork, same⟩
          · exact earlier there
          · obtain rfl := working_run_opened atWork
            exact ⟨before, store, services, [], rfl, atWork, same⟩
  · rintro ⟨before, store, services, after, rfl, atWork, rfl⟩
    rw [run_append]
    refine run_keeps (fun delivery => delivery.worker.returned? = some _)
      (fun returned steps => steps.returned? returned) after ?_
    simp [step, step?, atWork, Worker.returned?]

/-! What can be relied on. -/

def IsSettled (delivery : Delivery) : Prop :=
  (∃ result, delivery.worker = .sent result) ∨ ∃ result, delivery.worker = .gone result

structure Dependable (work : Work) (moves : List Move) (delivery : Delivery) : Prop where
  once : delivery.answers.countP Poll.isReady ≤ 1
  exact : ∀ result, .ready result ∈ delivery.answers → Returns work moves result
  first : ∀ result, Returns work moves result →
    ∀ answer ∈ delivery.told.head?, answer = .ready result
  lost : delivery.worker = .gone none → (∀ result, .ready result ∉ delivery.answers) ∧
    ∀ answer ∈ delivery.told.head?, answer = .lost
  answered : delivery.isHeld = true → delivery.IsSettled → delivery.told = [] → ∀ call,
    ∃ answer, (delivery.step (.call call)).told = [answer]
  sends : ∀ result, delivery.worker = .finished result → ∃ next, delivery.step? .send = some next ∧
    next.worker = .sent result ∧ next.isHeld = delivery.isHeld ∧ next.answers = delivery.answers
  dropped : delivery.isHeld = false → ∀ later, (delivery.run later).answers = delivery.answers

section

variable {worker : Worker} {channel : Channel TaskResult} {told : List (Poll TaskResult)}
  (tells : Tells worker channel told)

include tells

theorem Tells.once : told.countP Poll.isReady ≤ 1 := by
  cases tells with
  | emptied result count =>
      rw [List.countP_cons, List.countP_replicate]
      simp [Poll.isReady]
  | lost count =>
      rw [List.countP_replicate]
      simp [Poll.isReady]
  | _ => simp [Poll.isReady]

theorem Tells.exact {result : TaskResult} (handed : .ready result ∈ told) :
    worker.returned? = some result := by
  cases tells with
  | taken other =>
      obtain rfl := Poll.ready.inj (List.mem_singleton.mp handed)
      rfl
  | emptied other count =>
      rcases List.mem_cons.mp handed with same | later
      · obtain rfl := Poll.ready.inj same
        rfl
      · cases List.eq_of_mem_replicate later
  | lost count => cases List.eq_of_mem_replicate handed
  | _ => cases handed

theorem Tells.first {result : TaskResult} (returned : worker.returned? = some result) :
    ∀ answer ∈ told.head?, answer = .ready result := by
  intro answer isFirst
  cases tells with
  | taken other =>
      obtain rfl := Option.some.inj returned
      exact (Option.some.inj isFirst).symm
  | emptied other count =>
      obtain rfl := Option.some.inj returned
      exact (Option.some.inj isFirst).symm
  | lost count => cases returned
  | _ => cases isFirst

/-- If the first that anyone could learn is still to be told, a look into the channel tells it. -/
theorem Tells.poll_of_nil (untold : told = [])
    (settled : (∃ result, worker = .sent result) ∨ ∃ result, worker = .gone result) :
    channel.poll.1.isConclusive = true := by
  cases tells with
  | working => simp at settled
  | finished => simp at settled
  | taken => cases untold
  | emptied => cases untold
  | _ => rfl

end

theorem Tells.lost_of_gone {channel : Channel TaskResult} {told : List (Poll TaskResult)}
    (tells : Tells (.gone none) channel told) : ∀ answer ∈ told, answer = .lost := by
  cases tells with
  | lost count => exact fun answer member => List.eq_of_mem_replicate member

theorem Tells.free {result : TaskResult} {channel : Channel TaskResult}
    {told : List (Poll TaskResult)} (tells : Tells (.finished result) channel told) :
    channel.result = none := by
  cases tells with
  | finished => rfl

theorem mem_told {delivery : Delivery} {result : TaskResult}
    (handed : .ready result ∈ delivery.answers) : .ready result ∈ delivery.told :=
  List.mem_filter.mpr ⟨handed, rfl⟩

theorem countP_told (delivery : Delivery) :
    delivery.told.countP Poll.isReady = delivery.answers.countP Poll.isReady := by
  rw [told, List.countP_filter]
  refine List.countP_congr ?_
  intro answer _
  cases answer <;> simp [Poll.isReady, Poll.isConclusive]

theorem Sound.sends {delivery : Delivery} (sound : delivery.Sound) {result : TaskResult}
    (atWork : delivery.worker = .finished result) : ∃ next, delivery.step? .send = some next ∧
      next.worker = .sent result ∧ next.isHeld = delivery.isHeld ∧
      next.answers = delivery.answers := by
  rw [Sound, atWork] at sound
  have free := sound.free
  exact ⟨{ delivery with worker := .sent result, channel := delivery.channel.send result },
    by simp [step?, atWork, free], rfl, rfl, rfl⟩

theorem Sound.answered {delivery : Delivery} (sound : delivery.Sound)
    (held : delivery.isHeld = true) (settled : delivery.IsSettled) (untold : delivery.told = [])
    (call : Call) : ∃ answer, (delivery.step (.call call)).told = [answer] := by
  have conclusive : delivery.task.channel.poll.1.isConclusive = true :=
    sound.poll_of_nil untold settled
  obtain ⟨isHeld, answered⟩ := exists_answer? conclusive call
  refine ⟨delivery.task.channel.poll.1, ?_⟩
  simp only [step, step?, held, if_true, answered, Option.map_some, Option.getD_some, told,
    List.filter_append, List.filter_cons, conclusive, List.filter_nil]
  exact congrArg (· ++ [_]) untold

theorem answers_run_of_dropped {delivery : Delivery} (dropped : delivery.isHeld = false)
    (later : List Move) : (delivery.run later).answers = delivery.answers := by
  have still : (delivery.run later).isHeld = false ∧
      (delivery.run later).answers = delivery.answers := by
    refine run_keeps (fun next => next.isHeld = false ∧ next.answers = delivery.answers)
      ?_ later ⟨dropped, rfl⟩
    rintro current next move ⟨notHeld, same⟩ steps
    cases steps with
    | call held => simp [notHeld] at held
    | forget => exact ⟨rfl, same⟩
    | _ => exact ⟨notHeld, same⟩
  exact still.2

/-- A task that a submitter takes is under way, and dependable whatever its worker and its callers
do and in whatever order. -/
theorem task_dependable (work : Work) :
    (∀ submitter services submitted, (Task.submit submitter work services).1 = .ok submitted ↔
      ∃ moves, movesBefore? work services submitter = some moves ∧
        ((opened work).run moves).task = submitted) ∧
    ∀ moves, Dependable work moves ((opened work).run moves) := by
  refine ⟨fun submitter services => submit_eq_ok_iff submitter work services, ?_⟩
  intro moves
  have sound := sound_run_of_opened work moves
  constructor
  · rw [← countP_told]
    exact Tells.once sound
  · intro result handed
    exact (returned?_run_opened_iff work moves result).mp (Tells.exact sound (mem_told handed))
  · intro result returns
    exact Tells.first sound ((returned?_run_opened_iff work moves result).mpr returns)
  · intro gone
    have lost := sound
    rw [Sound, gone] at lost
    refine ⟨?_, ?_⟩
    · intro result handed
      cases lost.lost_of_gone _ (mem_told handed)
    · intro answer isFirst
      exact lost.lost_of_gone answer (List.mem_of_mem_head? isFirst)
  · exact fun held settled untold call => sound.answered held settled untold call
  · exact fun result atWork => sound.sends atWork
  · exact fun dropped later => answers_run_of_dropped dropped later

end Delivery

end ArtifactTools
