import ArtifactTools.Shell.Builtin.Jobs
import ArtifactTools.Shell.Extended.Doing
import ArtifactTools.Shell.Quoting

/-! The commands of the extended dialect for traps, jobs, and the limits and times of processes. -/

namespace ArtifactTools.Shell.Extended

/-! Signals. -/

def hooks : List (String × Nat) :=
  [("DEBUG", Signal.debugging), ("ERR", Signal.failure), ("RETURN", Signal.returning)]

/-- The signal that a text names, with or without a mark before the name; it may be a point of a
script. -/
def signal? (text : Text) : Option Nat :=
  if !text.isEmpty && text.all isDigit then Signal.number? text
  else
    let name := text.map Char.toUpper
    match hooks.find? fun entry => entry.1.toList = name with
    | some entry => some entry.2
    | none =>
        let bare :=
          match name with
          | 'S' :: 'I' :: 'G' :: rest => rest
          | name => name
        if bare.all isDigit then none else Signal.number? bare

def signalName? (number : Nat) : Option Text :=
  match hooks.find? fun entry => entry.2 = number with
  | some entry => some (words entry.1)
  | none =>
      if number = 0 then some (words "EXIT")
      else if number = 16 then some (words "SIGSTKFLT")
      else if number = 32 || number = 33 || Signal.limit ≤ number then none
      else some (words "SIG" ++ Signal.name number)

def signalTable : Text :=
  let numbers := (List.range Signal.limit).filter fun number =>
    0 < number && (signalName? number).isSome
  let cells := ((List.range numbers.length).zip numbers).map fun (index, number) =>
    let digits := Decimal.digits number
    List.replicate (2 - digits.length) ' ' ++ digits ++ [')', ' '] ++
      (signalName? number).getD [] ++ [if index % 5 = 4 then '\n' else '\t']
  cells.flatten ++ (if numbers.length % 5 = 0 then [] else ['\n'])

def invalidSignal (text : Text) : Text := text ++ words ": invalid signal specification"

/-! Traps. -/

def trapSynopsis : String := "[-lp] [[arg] signal_spec ...]"

def listTraps (signals : List Nat) : Doing Unit := do
  let machine ← get
  for signal in signals do
    match machine.traps.lookup signal, signalName? signal with
    | some action, some name =>
        Doing.sayLine (words "trap -- " ++ Quoting.single action ++ ' ' :: name)
    | _, _ => pure ()

def trap (arguments : List Text) : Doing Nat := do
  match ← options [('l', false), ('p', false)] trapSynopsis arguments with
  | none => return 2
  | some (found, rest) => do
      if has found 'l' then
        Doing.say signalTable
        return 0
      if has found 'p' || rest.isEmpty then
        if rest.isEmpty then
          listTraps (List.range (Signal.returning + 1))
          return 0
        return ← forEach rest fun text => do
          match signal? text with
          | some signal => do
              listTraps [signal]
              return 0
          | none => refuse 1 (invalidSignal text)
      let put (action : Option Text) (conditions : List Text) : Doing Nat :=
        forEach conditions fun text => do
          match signal? text with
          | some signal => do
              modify (Builtin.putTrap signal action)
              return 0
          | none => refuse 1 (invalidSignal text)
      match rest with
      | [] => return 0
      | [text] =>
          if (signal? text).isSome then put none rest
          else usage trapSynopsis
      | action :: conditions =>
          if action = ['-'] then put none conditions
          else if !action.isEmpty && action.all isDigit && (signal? action).isSome then
            put none rest
          else put (some action) conditions

/-! Jobs. -/

def job? (machine : Machine) (text : Text) : Option Job :=
  let jobs := machine.jobs.filter fun job => !job.isGone
  match text with
  | ['%'] | ['%', '%'] | ['%', '+'] => jobs.getLast?
  | ['%', '-'] => jobs.dropLast.getLast?.or jobs.getLast?
  | '%' :: digits | digits =>
      if digits.isEmpty || !digits.all isDigit then none
      else jobs.find? fun job => job.place = Decimal.value digits

def noSuchJob (text : Text) : Text := text ++ words ": no such job"

def stateOf (job : Job) : Text :=
  if !job.hasEnded then words "Running"
  else if job.status = 0 then words "Done"
  else if job.status ≤ 128 then words "Exit " ++ Decimal.digits job.status
  else Signal.description (job.status - 128)

def jobLine (machine : Machine) (withNumber : Bool) (job : Job) : Text :=
  let latest := machine.jobs.reverse.map (·.place)
  let mark : Char :=
    if latest.head? = some job.place then '+' else if latest[1]? = some job.place then '-' else ' '
  let number := if withNumber then Decimal.digits job.number ++ [' '] else [' ']
  let state := stateOf job
  ('[' :: Decimal.digits job.place) ++ [']', mark, ' '] ++ number ++ state ++
    List.replicate (24 - state.length) ' '

def jobsSynopsis : String := "[-lnprs] [jobspec ...] or jobs -x command [args]"

def listJobs (arguments : List Text) : Doing Nat := do
  let allowed := [('l', false), ('p', false), ('n', false), ('x', false), ('r', false), ('s', false)]
  match ← options allowed jobsSynopsis arguments with
  | none => return 2
  | some (found, names) => do
      modify Machine.reap
      let machine ← get
      let tell (job : Job) : Doing Unit := do
        if has found 'p' then Doing.sayLine (Decimal.digits job.number)
        else Doing.sayLine (jobLine machine (has found 'l') job)
        if job.hasEnded then
          modify fun machine =>
            { machine with jobs := machine.jobs.filter fun other => other.place ≠ job.place }
      if names.isEmpty then
        for job in machine.jobs do
          let isMeant :=
            if has found 'r' then !job.hasEnded else if has found 's' then false else true
          if isMeant then tell job
        return 0
      forEach names fun name => do
        match job? machine name with
        | some job => do
            tell job
            return 0
        | none => refuse 1 (noSuchJob name)

def resume (_ : List Text) : Doing Nat := refuse 1 (words "no job control")

def disownSynopsis : String := "[-h] [-ar] [jobspec ... | pid ...]"

def disown (arguments : List Text) : Doing Nat := do
  match ← options [('a', false), ('h', false), ('r', false)] disownSynopsis arguments with
  | none => return 2
  | some (found, names) => do
      let drop (place : Nat) : Doing Unit :=
        if has found 'h' then return ()
        else modify fun machine =>
          { machine with jobs := machine.jobs.filter fun job => job.place ≠ place }
      let machine ← get
      if names.isEmpty then
        if has found 'a' || has found 'r' then
          for job in machine.jobs do drop job.place
          return 0
        match machine.jobs.getLast? with
        | some job => do
            drop job.place
            return 0
        | none => refuse 1 (noSuchJob (words "current"))
      else
        forEach names fun name => do
          let byNumber := machine.jobs.find? fun job => Decimal.digits job.number = name
          match byNumber.or (job? machine name) with
          | some job => do
              drop job.place
              return 0
          | none => refuse 1 (noSuchJob name)

/-! Times and limits. -/

def times (_ : List Text) : Doing Nat := do
  let line := words "0m0.000s 0m0.000s"
  Doing.sayLine line
  Doing.sayLine line
  return 0

def limitSynopsis : String := "[-SHabcdefiklmnpqrstuvxPRT] [limit]"

def limit (arguments : List Text) : Doing Nat := do
  let letters : List Char := "SHabcdefiklmnpqrstuvxPRT".toList
  match ← options (letters.map fun letter => (letter, false)) limitSynopsis arguments with
  | none => return 2
  | some (_, values) =>
      match values with
      | [] => do
          Doing.sayLine (words "unlimited")
          return 0
      | value :: _ =>
          let isWord := ["unlimited", "hard", "soft"].contains (String.ofList value)
          if isWord || (!value.isEmpty && value.all isDigit) then return 0
          else refuse 1 (value ++ words ": invalid number")

end ArtifactTools.Shell.Extended
