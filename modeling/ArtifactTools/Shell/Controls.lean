import ArtifactTools.Shell.Calls

/-! The shell's own commands that leave loops, wait for processes or send signals to them. -/

namespace ArtifactTools.Shell.Run

open Running

def argument? (arguments : List Text) : Running (Option Nat) := do
  match arguments with
  | [] => return none
  | text :: _ =>
      match Machine.readNumber? text with
      | some number => return some number
      | none => abandon (Machine.illegalNumber text)

def leaveLoops (leave : Nat → Leave) (arguments : List Text) : Running Unit := do
  let count := (← argument? arguments).getD 1
  if count = 0 then abandon (Machine.illegalNumber (arguments.head?.getD []))
  setStatus 0
  let loops := (← get).loops
  if 0 < loops then throw (leave (min count loops))

def wait (arguments : List Text) : Running Unit := do
  let (_, names) ← perform (Doing.options [] arguments)
  if names.isEmpty then
    match ← waitUntil (fun machine => machine.jobs.all (·.hasEnded)) patience with
    | some signal => setStatus (128 + signal)
    | none => setStatus 0
  else
    for name in names do
      let machine ← get
      let job? ←
        if name.head? = some '%' then some <$> perform (Builtin.job name)
        else do
          let number := (← argument? [name]).getD 0
          pure (machine.jobs.find? fun job => job.number = number)
      match job? with
      | none => setStatus 127
      | some job => do
          if let some job ← waitForJob job then
            if let some (.killed signal) := job.ending? then
              modify fun machine => machine.reportSignal signal
            setStatus job.status

def sendAll (signal : Nat) : List Text → Running Unit
  | [] => return ()
  | target :: rest => do
      let found ←
        match target with
        | '%' :: _ => do
            discard (perform (Builtin.job target))
            pure false
        | '-' :: digits => do
            discard (argument? [digits])
            pure false
        | _ => send signal ((← argument? [target]).getD 0)
      if !found then
        modify fun machine => machine.refuse 1 (words "No such process\n")
      sendAll signal rest

def kill (arguments : List Text) : Running Unit := do
  let usage : Text := words
    ("Usage: kill [-s sigspec | -signum | -sigspec] [pid | job]... or\nkill -l [exitstatus]")
  let signalOf? (text : Text) : Option Nat :=
    (Signal.number? text).filter fun signal => signal ≠ 0 || text.all isDigit
  let direct : Option (Nat × List Text) :=
    match arguments with
    | ('-' :: name) :: rest => (signalOf? name).map fun signal => (signal, rest)
    | _ => none
  let (found, targets) ←
    match direct with
    | some (signal, rest) => pure ([('s', Signal.name signal)], rest)
    | none => perform (Doing.options [('l', false), ('s', true)] arguments)
  for (letter, name) in found do
    if letter = 's' && (signalOf? name).isNone && direct.isNone then
      abandon (words "invalid signal number or name: " ++ name)
  let signal? := direct.map (·.1) |>.or
    ((found.filter (·.1 = 's')).getLast?.bind fun entry => signalOf? entry.2)
  setStatus 0
  if (found.lookup 'l').isSome then
    if signal?.isSome then abandon usage
    match targets with
    | [] =>
        perform (do
          Doing.sayLine ['0']
          ((List.range Signal.limit).drop 1).forM fun signal => Doing.sayLine (Signal.name signal))
    | text :: _ => do
        let number := (← argument? [text]).getD 0
        let signal := if 128 < number then number - 128 else number
        if signal = 0 || Signal.limit ≤ signal then
          abandon (words "invalid signal number or exit status: " ++ text)
        perform (Doing.sayLine (Signal.name signal))
  else if targets.isEmpty then abandon usage
  else sendAll (signal?.getD Signal.terminate) targets

end ArtifactTools.Shell.Run
