import ArtifactTools.Transformer

/-! Transformations that run in the background. A task waits at one end of a channel for the one
result that its worker may send from the other. A worker that goes away without sending leaves the
task lost, and so does a result that has been handed out already. -/

namespace ArtifactTools

/-- A channel holds at most the one result, which is sent by the worker before it goes away. -/
structure Channel (α : Type) where
  result : Option α
  hasWorker : Bool
  deriving DecidableEq, Repr

inductive Poll (α : Type) where
  | pending
  | ready (result : α)
  | lost
  deriving DecidableEq, Repr

namespace Channel

variable {α : Type}

def fresh : Channel α := ⟨none, true⟩

/-- Sending neither waits nor fails; whoever had the other end may have dropped it. -/
def send (channel : Channel α) (result : α) : Channel α := { channel with result := some result }

def leave (channel : Channel α) : Channel α := { channel with hasWorker := false }

def poll (channel : Channel α) : Poll α × Channel α :=
  match channel.result with
  | some result => (.ready result, { channel with result := none })
  | none => (if channel.hasWorker then .pending else .lost, channel)

/-- How a wait ends: with the result, or without one if the worker is gone. As long as neither is
so, it does not end. -/
def received? (channel : Channel α) : Option (Option α) :=
  match channel.poll.1 with
  | .ready result => some (some result)
  | .lost => some none
  | .pending => none

end Channel

structure Work where
  transformer : Transformer
  operation : Operation

abbrev TaskResult := Except TransformerError Outcome

structure Task where
  transformerId : String
  channel : Channel TaskResult
  held : Option Work

inductive Submitter where
  | running
  | holding
  | losing
  | refusing (reason : String)
  deriving DecidableEq, Repr

namespace Task

def complete (channel : Channel TaskResult) (work : Work) (services : Services) :
    Channel TaskResult × Services :=
  let (result, services) := work.transformer.run work.operation services
  ((channel.send result).leave, services)

def submit (submitter : Submitter) (work : Work) (services : Services) :
    Except HostError Task × Services :=
  let id := work.transformer.id
  match submitter with
  | .running =>
      let (channel, services) := complete .fresh work services
      (.ok ⟨id, channel, none⟩, services)
  | .holding => (.ok ⟨id, .fresh, some work⟩, services)
  | .losing => (.ok ⟨id, Channel.fresh.leave, none⟩, services)
  | .refusing reason => (.error (.other reason), services)

def runHeld (task : Task) (services : Services) : Option (Task × Services) :=
  task.held.map fun work =>
    let (channel, services) := complete task.channel work services
    ({ task with channel, held := none }, services)

def discardHeld (task : Task) : Task :=
  match task.held with
  | none => task
  | some _ => { task with channel := task.channel.leave, held := none }

def poll (task : Task) : Poll TaskResult × Task :=
  let (answer, channel) := task.channel.poll
  (answer, { task with channel })

def wait? (task : Task) : Option (Option TaskResult) := task.channel.received?

def waitTimeout (task : Task) : Except Task (Option TaskResult) :=
  match task.wait? with
  | some answer => .ok answer
  | none => .error task

end Task

def workerName (beginning : String) (number : Nat) : String :=
  s!"{beginning}-{Decimal.ofNat number}"

def defaultWorkerName : String := "helios-worker"

end ArtifactTools
