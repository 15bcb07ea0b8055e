import ArtifactTools.Shell.Builtin.Basic
import ArtifactTools.Shell.Signal

/-! The shell's own commands for traps, jobs, and the limits and times of processes. -/

namespace ArtifactTools.Shell.Builtin

def putTrap (signal : Nat) (action : Option Text) (machine : Machine) : Machine :=
  let others := machine.traps.filter fun entry => entry.1 ≠ signal
  { machine with traps := (action.map fun action => (signal, action)).toList ++ others }

def setTraps (action : Option Text) : List Text → Doing Nat
  | [] => return 0
  | condition :: rest => do
      match Signal.number? condition with
      | none =>
          Doing.remark (words "trap: " ++ condition ++ words ": bad trap")
          return 1
      | some signal =>
          modify (putTrap signal action)
          setTraps action rest

def trap (arguments : List Text) : Doing Nat := do
  let (_, arguments) ← Doing.options [] arguments
  match arguments with
  | [] => do
      let machine ← get
      for signal in List.range Signal.limit do
        match machine.traps.lookup signal with
        | some action =>
            Doing.sayLine (words "trap -- " ++ quoted action ++ ' ' :: Signal.name signal)
        | none => pure ()
      return 0
  | [condition] => setTraps none [condition]
  | action :: conditions =>
      if !action.isEmpty && action.all isDigit && (Signal.number? action).isSome then
        setTraps none arguments
      else setTraps (if action = ['-'] then none else some action) conditions

/-! Jobs; the latest is the current one. -/

def noSuchJob (name : Text) : Text := words "No such job: " ++ name

def job (name : Text) : Doing Job := do
  let jobs := (← get).jobs
  let find (test : Job → Bool) : Doing Job :=
    match jobs.find? test with
    | some job => return job
    | none => Doing.misuse (noSuchJob name)
  match name with
  | ['%'] | ['%', '%'] | ['%', '+'] =>
      match jobs.getLast? with
      | some job => return job
      | none => Doing.misuse (words "No current job")
  | ['%', '-'] =>
      match jobs.dropLast.getLast? with
      | some job => return job
      | none => Doing.misuse (words "No previous job")
  | '%' :: digits => find fun job => Decimal.digits job.place = digits
  | _ => Doing.misuse (noSuchJob name)

def stateOf (job : Job) : Text :=
  if !job.hasEnded then words "Running"
  else if job.status = 0 then words "Done"
  else if job.status ≤ 128 then words "Done(" ++ Decimal.digits job.status ++ [')']
  else Signal.description (job.status - 128)

def jobLine (machine : Machine) (withNumber : Bool) (job : Job) : Text :=
  let latest := machine.jobs.reverse.map (·.place)
  let mark : Char :=
    if latest.head? = some job.place then '+' else if latest[1]? = some job.place then '-' else ' '
  let number := if withNumber then Decimal.digits job.number ++ [' '] else []
  let text := ('[' :: Decimal.digits job.place) ++ [']', ' ', mark, ' '] ++ number ++
    stateOf job
  text ++ List.replicate (33 - text.length) ' ' ++
    (job.processes.drop 1).flatMap fun _ => words " | "

def listJobs (arguments : List Text) : Doing Nat := do
  let (found, names) ← Doing.options [('l', false), ('p', false)] arguments
  modify Machine.reap
  let machine ← get
  let listed ← if names.isEmpty then pure machine.jobs.reverse else names.mapM job
  for job in listed do
    match found.getLast?.map (·.1) with
    | some 'p' => Doing.sayLine (Decimal.digits job.number)
    | letter => Doing.sayLine (jobLine machine (letter = some 'l') job)
  let stays (job : Job) : Bool :=
    !(job.hasEnded && listed.any fun other => other.place = job.place)
  set { machine with jobs := machine.jobs.filter stays, output := (← get).output }
  return 0

def resume (arguments : List Text) : Doing Nat := do
  let (_, names) ← Doing.options [] arguments
  discard (job (names.head?.getD ['%']))
  Doing.misuse (words "job (null) not created under job control")

/-! Times and limits. -/

def times (_ : List Text) : Doing Nat := do
  let line := words "0m0.000000s 0m0.000000s"
  Doing.sayLine line
  Doing.sayLine line
  return 0

def limit (arguments : List Text) : Doing Nat := do
  let letters : List Char := "HSatfdscmlpnvwr".toList
  let (_, values) ← Doing.options (letters.map fun letter => (letter, false)) arguments
  match values with
  | [] => Doing.sayLine (words "unlimited")
  | [value] =>
      if value ≠ words "unlimited" && !value.all isDigit then Doing.misuse (words "bad number")
  | _ => Doing.misuse (words "too many arguments")
  return 0

end ArtifactTools.Shell.Builtin
