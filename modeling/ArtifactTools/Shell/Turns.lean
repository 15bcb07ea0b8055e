import ArtifactTools.Shell.Running

/-! Processes that take turns. All of them have one clock; the next turn goes to the one that can go
on first, and it is at work until another one could be, or until it waits for something. A signal
that is sent takes effect between two turns. -/

namespace ArtifactTools.Shell.Turns

/-- A process between two turns: its machine but for the world, what it waits for, the time from
which it can go on if that has come about, and how it goes on. -/
structure Parked where
  machine : Machine
  waiting : Waiting
  ready : Option Nat
  goOn : Running Unit

namespace Parked

def number (parked : Parked) : Nat := parked.machine.process

def time? (parked : Parked) : Option Nat :=
  match parked.ready, parked.waiting.limit with
  | some ready, some limit => some (min ready limit)
  | ready, none => ready
  | none, limit => limit

end Parked

structure Schedule where
  world : World
  parked : List Parked
  main : Nat
  outcome : Option (Ending × Nat)

def nowhere : World := World.still ⟨[], [], 0⟩ 0

def forkTime : Nat := 150

def startTime : Nat := 300

def endless : Nat := 2000000

def longest : Nat := 10000

/-! What processes wait for. -/

def isWritten (world : World) (pipe : Nat) : Bool := world.isHeld none (World.writes pipe)

def isRead (world : World) (pipe : Nat) : Bool := world.isHeld none (World.reads pipe)

def wantsMore (world : World) (parked : List Parked) (pipe : Nat) : Bool :=
  parked.any fun other =>
    match other.waiting.event with
    | .ending number => number = pipe
    | .growth number size => number = pipe && world.pipeSize pipe ≤ size
    | _ => false

def hasCome (world : World) (parked : List Parked) (process : Nat) : Event → Bool
  | .turn => true
  | .growth pipe size => size < world.pipeSize pipe || !isWritten world pipe
  | .ending pipe => endless < world.pipeSize pipe || !isWritten world pipe
  | .room pipe =>
      world.pipeSize pipe + World.portion ≤ Pipe.capacity || !isRead world pipe ||
        wantsMore world parked pipe
  | .child number => world.ended.any fun entry => entry.number = number
  | .anyChild => world.ended.any fun entry => entry.parent = process
  | .reader pipe count => (world.pipes[pipe]?).any fun found => count < found.readings
  | .writer pipe count => (world.pipes[pipe]?).any fun found => count < found.writings
  | .nothing => false

def Schedule.noticed (schedule : Schedule) : Schedule :=
  let world := schedule.world
  let notice (parked : Parked) : Parked :=
    if parked.ready.isSome then parked
    else if hasCome world schedule.parked parked.number parked.waiting.event ||
        (parked.waiting.isInterruptible && !parked.machine.pending.isEmpty) then
      { parked with ready := some (world.clock + World.noticeTime) }
    else parked
  { schedule with parked := schedule.parked.map notice }

/-! Beginning and ending. -/

def Schedule.park (schedule : Schedule) (machine : Machine) (waiting : Waiting)
    (goOn : Running Unit) : Schedule :=
  let world := machine.world
  let holdings := machine.holdings
  let note (process : Process) : Process :=
    if process.number = machine.process then
      { process with descriptors := holdings, group := machine.group }
    else process
  let ready := if waiting.event = .turn then some world.clock else none
  let parked : Parked := ⟨{ machine with world := nowhere }, waiting, ready, goOn⟩
  { schedule with
    world := { world with processes := world.processes.map note }
    parked := schedule.parked ++ [parked] }

def Schedule.add (schedule : Schedule) (machine : Machine) (ready : Nat) (goOn : Running Unit) :
    Schedule :=
  let process : Process :=
    ⟨machine.process, machine.parent, machine.group, machine.holdings, false⟩
  let parked : Parked :=
    ⟨{ machine with world := nowhere }, ⟨.turn, none, false⟩, some ready, goOn⟩
  { schedule with
    world := { schedule.world with processes := schedule.world.processes ++ [process] }
    parked := schedule.parked ++ [parked] }

/-- A process is there no more. Its parent can ask how it has ended; its children have none from now
on. -/
def Schedule.finish (schedule : Schedule) (number : Nat) (ending : Ending) : Schedule :=
  let world := schedule.world
  let parent := ((world.processOf? number).map (·.parent)).getD 0
  let others := world.processes.filter fun process => process.number ≠ number
  let processes : List Process := others.map fun process =>
    if process.parent = number then { process with parent := 1 } else process
  let isAsked := processes.any fun process => process.number = parent
  let ended := world.ended.filter fun entry => entry.parent ≠ number
  let sent := if isAsked then world.sent ++ [⟨parent, Signal.child⟩] else world.sent
  { schedule with
    world := { world with
      processes
      sent
      ended := if isAsked then ended ++ [⟨number, parent, ending⟩] else ended }
    parked := schedule.parked.filter fun parked => parked.number ≠ number
    outcome := if number = schedule.main then some (ending, world.clock) else schedule.outcome }

/-! Signals. -/

def Schedule.modifyProcess (schedule : Schedule) (number : Nat) (change : Process → Process) :
    Schedule :=
  { schedule with
    world := { schedule.world with
      processes := schedule.world.processes.map fun process =>
        if process.number = number then change process else process } }

def Schedule.note (schedule : Schedule) (message : Message) : Schedule :=
  let add (parked : Parked) : Parked :=
    if parked.number = message.process then
      { parked with machine :=
          { parked.machine with
            pending := message.signal ::
              parked.machine.pending.filter fun signal => signal ≠ message.signal } }
    else parked
  { schedule with parked := schedule.parked.map add }

def Schedule.deliver (schedule : Schedule) (message : Message) : Schedule :=
  let { process, signal } := message
  match schedule.parked.find? fun parked => parked.number = process with
  | none => schedule
  | some parked =>
      let isStopped := (schedule.world.processOf? process).any (·.isStopped)
      let isTrapped := (parked.machine.traps.lookup signal).any fun action => !action.isEmpty
      if signal = 0 then schedule
      else if signal = Signal.kill then schedule.finish process (.killed signal)
      else if signal = Signal.goOn then
        let schedule := schedule.modifyProcess process fun process =>
          { process with isStopped := false }
        if isTrapped then schedule.note message else schedule
      else if isStopped then
        { schedule with world.sent := schedule.world.sent ++ [message] }
      else if signal = Signal.stop then
        schedule.modifyProcess process fun process => { process with isStopped := true }
      else if parked.machine.ignores signal then schedule
      else if isTrapped then schedule.note message
      else if Signal.stops signal then
        schedule.modifyProcess process fun process => { process with isStopped := true }
      else if Signal.isHarmless signal then schedule
      else schedule.finish process (.killed signal)

def Schedule.delivered (schedule : Schedule) : Schedule :=
  match schedule.world.sent with
  | [] => schedule
  | messages => messages.foldl Schedule.deliver { schedule with world.sent := [] }

/-! Turns. -/

def Schedule.next? (schedule : Schedule) : Option (Parked × Nat) :=
  let stopped := (schedule.world.processes.filter (·.isStopped)).map (·.number)
  schedule.parked.foldl (fun best parked =>
    match parked.time?, best with
    | none, best => best
    | some time, best =>
        if stopped.contains parked.number then best
        else
          match best with
          | none => some (parked, time)
          | some (_, least) => if time < least then some (parked, time) else best) none

def awaitedIn (parked : List Parked) : List Nat :=
  parked.filterMap fun other =>
    match other.waiting.event with
    | .growth pipe _ => some pipe
    | _ => none

def horizonAmong (world : World) (parked : List Parked) (time : Nat) : Nat :=
  let span := Running.pace world.steps
  parked.foldl (fun least other =>
    match other.time? with
    | some ready => min least (max ready (time + span * 3))
    | none => least) (min (time + longest) (time + span * 500))

def Schedule.turn (start : Task → Running Unit) (schedule : Schedule) (chosen : Parked)
    (time : Nat) : Schedule :=
  let { world, parked, main, outcome } := schedule
  let others := parked.filter fun other => other.number ≠ chosen.number
  let horizon := horizonAmong world others time
  let now := (FileTree.startTime + time) / 4000 * 4000
  let world := { world.tidy with clock := time, horizon, awaited := awaitedIn others }
  let schedule : Schedule := ⟨nowhere, others, main, outcome⟩
  match chosen.goOn { chosen.machine with world := { world with tree.now := now } } with
  | .asks (.wait waiting) machine goOn => schedule.park machine waiting goOn
  | .asks (.fork task child) machine goOn =>
      let time := machine.world.clock
      let delay := if task matches .program _ then startTime else forkTime
      (schedule.park machine ⟨.turn, none, false⟩ goOn).add child (time + delay) (start task)
  | .done result machine =>
      let stays : Running Unit := fun machine => .done (.error .stopped) machine
      let schedule := schedule.park machine ⟨.nothing, none, false⟩ stays
      match result with
      | .error .stopped => schedule
      | .error (.killed signal) => schedule.finish machine.process (.killed signal)
      | _ => schedule.finish machine.process (.exited machine.status)

/-- Goes from turn to turn until something holds, nothing can go on, or the next turn comes after a
time. -/
def Schedule.run (start : Task → Running Unit) (isOver : Schedule → Bool) (limit : Option Nat) :
    Nat → Schedule → Schedule
  | 0, schedule => schedule
  | fuel + 1, schedule =>
      let schedule := schedule.delivered.noticed
      if isOver schedule then schedule
      else
        match schedule.next? with
        | none => schedule
        | some (parked, time) =>
            if limit.any (· ≤ time) then schedule
            else (schedule.turn start parked time).run start isOver limit fuel

end ArtifactTools.Shell.Turns
