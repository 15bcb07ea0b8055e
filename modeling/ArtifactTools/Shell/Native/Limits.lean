import ArtifactTools.Binary
import ArtifactTools.Shell.Lookup
import ArtifactTools.Shell.Native.Basic

/-! Programs that wait, and the spans of time that they are told. Programs that run others: for a
limited time, with less of a claim to be served, or without regard to the end of a connection. And
one that never comes to an end. -/

namespace ArtifactTools.Shell.Native

/-- How long a text tells a program to wait, in millionths of a second: seconds with a fraction and a unit, or
without end. -/
def span? (text : Text) : Option (Option Nat) :=
  match Binary.Numeral.read? text with
  | none => none
  | some numeral =>
      let factor? : Option Nat :=
        match numeral.rest with
        | [] | ['s'] => some 1
        | ['m'] => some 60
        | ['h'] => some 3600
        | ['d'] => some 86400
        | _ => none
      factor?.bind fun factor =>
        match numeral.amount with
        | .notANumber => none
        | .infinite => if numeral.isNegative then none else some none
        | .fraction numerator denominator =>
            if numeral.isNegative && numerator ≠ 0 then none
            else some (some (factor * numerator * 1000000 / denominator))

def invalidSpan (text : Text) : Text := words "invalid time interval " ++ cited text

def sleep (name : Text) (arguments : List Text) : Running Unit :=
  withOptions 1 [] name arguments fun _ operands => do
    let faulty := operands.filter fun operand => (span? operand).isNone
    if operands.isEmpty then misuse 1 name [words "missing operand"]
    else if !faulty.isEmpty then misuse 1 name (faulty.map invalidSpan)
    else
      succeed
      match (operands.filterMap span?).mapM fun span => span with
      | some spans => Running.pause (spans.foldl (· + ·) 0)
      | none => Running.wait .nothing

/-! Programs that run others. -/

def findProgram (command : Text) (arguments : List Text) :
    Running (Except HostError Invocation) := do
  let machine ← get
  let path := (machine.valueOf? (words "PATH")).getD (words "/bin:/usr/bin")
  return (startProgram machine (some path) command arguments).mapError (·.error)

def unfoundStatus (error : HostError) : Nat := if error = .missing then 127 else 126

def cannotRun (name : Text) (what : String) (command : Text) (error : HostError) : Running Unit :=
  blame (unfoundStatus error) name (words what ++ cited command ++ words ": " ++
    Machine.plainWording error)

/-! Time. -/

def signalNamed? (text : Text) : Option Nat :=
  let upper := text.map Char.toUpper
  Signal.number? (if (words "SIG").isPrefixOf upper then upper.drop 3 else upper)

/-- What becomes of a command whose time is over: the signal that it gets, the time after which it is
killed, whether it alone gets the signal, and whether that is told. -/
structure TimeLimit where
  signal : Nat
  killAfter : Option Nat
  isForeground : Bool
  isTold : Bool
  keepsStatus : Bool

def TimeLimit.send (limit : TimeLimit) (name command : Text) (process signal : Nat) :
    Running Unit := do
  if limit.isTold then
    let status := (← get).status
    blame status name (words "sending signal " ++ Signal.name signal ++ words " to command " ++
      cited command)
  discard (Running.send signal process)
  if !limit.isForeground then
    modify fun machine => { machine with ignored := signal :: machine.ignored }
    discard (Running.send signal 0)
    if signal ≠ Signal.kill && signal ≠ Signal.goOn then
      discard (Running.send Signal.goOn process)

def awaitUntil (process time : Nat) : Running (Option Ending) := do
  Running.ask (.wait ⟨.child process, some time, false⟩)
  let hasEnded := (← get).world.ended.any fun entry => entry.number = process
  if hasEnded then return some (← Running.awaitChild process) else return none

def runLimited (limit : TimeLimit) (name command : Text) (span : Option Nat)
    (invocation : Invocation) : Running Unit := do
  if !limit.isForeground then
    modify fun machine => { machine with group := machine.process }
  let process ← Running.fork Machine.newProgram (.program invocation)
  let settle (isLate : Bool) (ending : Ending) : Running Unit := do
    match ending with
    | .exited status =>
        modify fun machine =>
          machine.fail (if isLate && !limit.keepsStatus then 124 else status)
    | .killed signal =>
        if !isLate then Running.die signal
        modify fun machine =>
          machine.fail (if limit.keepsStatus || signal = Signal.kill then 128 + signal else 124)
  let some span := span | settle false (← Running.awaitChild process)
  match ← awaitUntil process ((← get).clock + span) with
  | some ending => settle false ending
  | none => do
      limit.send name command process limit.signal
      let some more := limit.killAfter | settle true (← Running.awaitChild process)
      match ← awaitUntil process ((← get).clock + more) with
      | some ending => settle true ending
      | none => do
          limit.send name command process Signal.kill
          settle true (← Running.awaitChild process)

def limitTime (name : Text) (arguments : List Text) : Running Unit :=
  withLeadingOptions 125 [textual 'k' "kill-after", textual 's' "signal", flag 'v' "verbose",
    longOnly 'f' "foreground" .nothing, longOnly 'p' "preserve-status" .nothing] name arguments
    fun options operands => do
      let signal? := (optionText? options 's').map fun text => (text, signalNamed? text)
      let kill? := (optionText? options 'k').map fun text => (text, span? text)
      match signal?, kill?, operands with
      | some (text, none), _, _ => misuse 125 name [cited text ++ words ": invalid signal"]
      | _, some (text, none), _ => misuse 125 name [invalidSpan text]
      | _, _, [] | _, _, [_] => complain 125 [usageHint name]
      | _, _, text :: command :: arguments =>
          match span? text with
          | none => misuse 125 name [invalidSpan text]
          | some span => do
              let positive (span : Option Nat) : Option Nat := span.filter (0 < ·)
              let limit : TimeLimit :=
                { signal := (signal?.bind (·.2)).getD Signal.terminate
                  killAfter := (kill?.bind (·.2)).bind positive
                  isForeground := hasOption options 'f'
                  isTold := hasOption options 'v'
                  keepsStatus := hasOption options 'p' }
              match ← findProgram command arguments with
              | .error error => cannotRun name "failed to run command " command error
              | .ok invocation => runLimited limit name command (positive span) invocation

/-! Other ways to run a command. -/

def newAdjustments : List Text → List Text
  | ('-' :: digits) :: rest =>
      let body := if digits.head?.any fun sign => sign = '-' || sign = '+' then digits.drop 1
        else digits
      if !body.isEmpty && body.all isDigit then ['-', 'n'] :: digits :: newAdjustments rest
      else if digits = ['n'] then
        match rest with
        | text :: rest => ['-', 'n'] :: text :: newAdjustments rest
        | [] => [['-', 'n']]
      else ('-' :: digits) :: rest
  | arguments => arguments

def runNicely (start : Invocation → Running Unit) (name : Text) (arguments : List Text) :
    Running Unit :=
  withLeadingOptions 125 [textual 'n' "adjustment"] name (newAdjustments arguments)
    fun options operands => do
      let isNumber (text : Text) : Bool :=
        let digits := if text.head?.any fun sign => sign = '-' || sign = '+' then text.drop 1
          else text
        !digits.isEmpty && digits.all isDigit
      match optionText? options 'n', operands with
      | some _, [] => misuse 125 name [words "a command must be given with an adjustment"]
      | none, [] => do
          succeed
          say (words "0\n")
      | adjustment, command :: arguments =>
          match adjustment.filter fun text => !isNumber text with
          | some text => blame 125 name (words "invalid adjustment " ++ cited text)
          | none => do
              match ← findProgram command arguments with
              | .error error => cannotRun name "" command error
              | .ok invocation => start invocation

def runDetached (start : Invocation → Running Unit) (name : Text) (arguments : List Text) :
    Running Unit :=
  withLeadingOptions 125 [] name arguments fun _ operands => do
    match operands with
    | [] => misuse 125 name [words "missing operand"]
    | command :: arguments => do
        modify fun machine => { machine with ignored := 1 :: machine.ignored }
        match ← findProgram command arguments with
        | .error error => cannotRun name "failed to run command " command error
        | .ok invocation => start invocation

def runInGroup (start : Invocation → Running Unit) (name : Text) (arguments : List Text) :
    Running Unit :=
  withLeadingOptions 1 [flag 'c' "ctty", flag 'f' "fork", flag 'w' "wait"] name arguments
    fun options operands => do
      match operands with
      | [] => complain 1 [name ++ words ": no command specified", usageHint name]
      | command :: arguments => do
          match ← findProgram command arguments with
          | .error error =>
              blame (unfoundStatus error) name (words "failed to execute " ++ command ++
                words ": " ++ Machine.plainWording error)
          | .ok invocation => do
              if hasOption options 'f' then
                let process ← Running.fork (fun child =>
                  { child.newProgram with group := child.process }) (.program invocation)
                succeed
                if hasOption options 'w' then
                  let ending ← Running.awaitChild process
                  modify fun machine => machine.fail ending.status
              else do
                modify fun machine => { machine with group := machine.process }
                start invocation

def runBuffered (start : Invocation → Running Unit) (name : Text) (arguments : List Text) :
    Running Unit :=
  withLeadingOptions 125 [textual 'i' "input", textual 'o' "output", textual 'e' "error"] name
    arguments fun options operands => do
      match operands with
      | [] => misuse 125 name [words "missing operand"]
      | command :: arguments => do
          if options.isEmpty then
            misuse 125 name [words "you must specify a buffering mode option"]
          else
            match ← findProgram command arguments with
            | .error error => cannotRun name "failed to run command " command error
            | .ok invocation => start invocation

/-! Repeating. -/

def sayForever (text : Text) : Nat → Running Unit
  | 0 => return ()
  | fuel + 1 => do
      Running.tick
      say text
      if (← get).unwritten.isNone then sayForever text fuel

def repeatLine (name : Text) (arguments : List Text) : Running Unit :=
  withOptions 1 [] name arguments fun _ operands => do
    let operands : List Text := if operands.isEmpty then [['y']] else operands
    let line := Format.joinWords operands ++ ['\n']
    let count := World.portion / line.length + 1
    succeed
    sayForever ((List.replicate count line).flatten) Running.patience

end ArtifactTools.Shell.Native
