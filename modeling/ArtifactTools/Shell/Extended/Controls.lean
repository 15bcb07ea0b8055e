import ArtifactTools.Shell.Controls
import ArtifactTools.Shell.Extended.Jobs
import ArtifactTools.Shell.Lookup
import ArtifactTools.Shell.Start

/-! The commands of the extended dialect that leave what is around them, run other scripts and
programs, wait for processes or send signals to them. -/

namespace ArtifactTools.Shell.Extended

open Running Run

def blame (status : Nat) (message : Text) : Running Unit :=
  modify fun machine => machine.refuse status message

/-- Tells that there are too many arguments. That ends a script that is an argument, and of other
ones the line. -/
def refuseRest {α : Type} : Running α := do
  blame 1 (words "too many arguments")
  let machine ← get
  throw (if machine.isGiven || 0 < machine.depth then .shell else .line)

def withoutMark : List Text → List Text
  | ['-', '-'] :: rest => rest
  | arguments => arguments

def statusOf (arguments : List Text) : Running Nat := do
  match withoutMark arguments with
  | [] => do
      let machine ← get
      return machine.saved.getD machine.status
  | text :: rest =>
      match integer? text with
      | none => do
          blame 2 (text ++ words ": numeric argument required")
          return 2
      | some number => do
          if !rest.isEmpty then refuseRest
          return (number % 256).toNat

def exit (arguments : List Text) : Running Unit := do
  setStatus (← statusOf arguments)
  throw .shell

def logout : Running Unit := blame 1 (words "not login shell: use \x60exit'")

def «return» (arguments : List Text) : Running Unit := do
  let arguments := withoutMark arguments
  let status ←
    match arguments with
    | [] => do pure (← get).status
    | arguments => statusOf arguments
  if (← get).frames.isEmpty then
    blame 2 (words "can only \x60return' from a function or sourced script")
  else do
    setStatus status
    throw .function

def leaveLoops (leave : Nat → Leave) (arguments : List Text) : Running Unit := do
  let loops := (← get).loops
  if loops = 0 then
    blame 0 (words "only meaningful in a \x60for', \x60while', or \x60until' loop")
  else
    match withoutMark arguments with
    | [] => do
        setStatus 0
        throw (leave 1)
    | text :: rest =>
        match integer? text with
        | none => do
            blame 128 (text ++ words ": numeric argument required")
            throw .shell
        | some number => do
            if !rest.isEmpty then refuseRest
            if number ≤ 0 then do
              blame 1 (text ++ words ": loop count out of range")
              throw (.loops loops)
            setStatus 0
            throw (leave (min loops number.toNat))

def shift (arguments : List Text) : Running Unit := do
  let drop (count : Nat) : Running Unit := do
    let machine ← get
    let list := machine.arguments.list
    if count ≤ list.length then
      set { (machine.fail 0) with arguments := machine.arguments.replaced (list.drop count) }
    else if machine.hasFeature "shift_verbose" then
      blame 1 ((arguments.head?.map (· ++ words ": ")).getD [] ++
        words "shift count out of range")
    else setStatus 1
  match withoutMark arguments with
  | [] => drop 1
  | text :: rest =>
      match integer? text with
      | none => blame 1 (text ++ words ": numeric argument required")
      | some number => do
          if !rest.isEmpty then refuseRest
          if number < 0 then blame 1 (text ++ words ": shift count out of range")
          else drop number.toNat

def evaluated (arguments : List Text) : Running (Option Text) := do
  match ← perform (options [] "[arg ...]" arguments) with
  | none => do
      setStatus 2
      return none
  | some (_, rest) => return some (Format.joinWords rest)

def isBinary (content : Text) : Bool := (content.takeWhile (· ≠ '\n')).contains '\x00'

/-- The path and the content of a script that is to be run in place. A bare name is looked for where
programs are, and then in the working directory. -/
def sourced (arguments : List Text) : Running (Option (Text × Text)) := do
  let misused : Running (Option (Text × Text)) := do
    setStatus 2
    return none
  match ← perform (options [] "filename [arguments]" arguments) with
  | none => misused
  | some (_, rest) =>
      match rest with
      | [] => do
          modify fun machine => machine.complain (words "filename argument required")
          discard (perform (usage "filename [arguments]"))
          misused
      | file :: _ => do
          let machine ← get
          let isFile (path : Text) : Bool := Test.testFile machine 'f' path
          let places :=
            if file.contains '/' || !machine.hasFeature "sourcepath" then []
            else (searchedIn machine.searchPath?).map fun place => pathIn place file
          let path := (places.find? isFile).getD file
          match ← wholeFile path with
          | .ok content =>
              if isBinary content && (content.take 2 ≠ ['#', '!']) then
                blame 126 (path ++ words ": cannot execute binary file")
                return none
              return some (path, content)
          | .error .isDirectory => do
              blame 1 (path ++ words ": is a directory")
              return none
          | .error error => do
              let command := machine.command
              modify fun machine => { machine with command := none }
              blame 1 (path ++ words ": " ++ Machine.plainWording error)
              modify fun machine => { machine with command }
              return none

/-! Programs. -/

def pathOf (machine : Machine) (path : Option Text) (name : Text) : Text :=
  if name.contains '/' then name
  else
    match (machine.trackOf? name).filter fun _ => path = machine.searchPath? with
    | some known => known.path
    | none =>
        match placesOf machine name .missing (searchedIn path) with
        | .ok (place :: _) => pathIn place name
        | _ => name

def wholePath (machine : Machine) (path : Text) : Text :=
  if path.head? = some '/' then path
  else
    let path : Text :=
      match path with
      | '.' :: '/' :: rest => rest
      | path => path
    machine.shown ++ '/' :: path

def startFault (machine : Machine) (path : Text) (error : HostError) : Text :=
  let isDirectory := Test.testFile machine 'd' path
  if isDirectory then path ++ words ": Is a directory"
  else
    match error with
    | .notExecutableFormat =>
        path ++ words ": cannot execute binary file: Exec format error"
    | error =>
        let isThere := machine.tree.holds machine.directory ⟨path.toOctets⟩
        if isThere && error = .missing then path ++ words ": cannot execute: required file not found"
        else path ++ words ": " ++ Machine.plainWording error

def refuseStart (machine : Machine) (path : Option Text) (name : Text) (failure : StartFailure) :
    Machine :=
  let isTracked := path = machine.searchPath? && (machine.trackOf? name).isSome
  if name.contains '/' || isTracked || failure.error ≠ .missing then
    let found := pathOf machine path name
    let isThere := machine.tree.holds machine.directory ⟨found.toOctets⟩
    if !name.contains '/' && !isTracked && !isThere then
      machine.refuse 127 (name ++ words ": command not found")
    else
      let status := if Test.testFile machine 'd' found then 126 else failure.status
      machine.refuse status (startFault machine found failure.error)
  else machine.refuse 127 (name ++ words ": command not found")

def replacementSynopsis : String :=
  "[-cl] [-a name] [command [argument ...]] [redirection ...]"

/-- The program that is to take the place of the shell, with what it starts from; none if there is
none, which may end the shell. -/
def replacement (arguments : List Text) : Running (Option (Invocation × Machine)) := do
  let allowed := [('c', false), ('l', false), ('a', true)]
  match ← perform (options allowed replacementSynopsis arguments) with
  | none => do
      setStatus 2
      return none
  | some (_, []) => do
      setStatus 0
      return none
  | some (found, name :: rest) => do
      let machine ← get
      let fail (status : Nat) (message : Text) : Running (Option (Invocation × Machine)) := do
        blame status message
        if (← get).hasFeature "execfail" then return none
        throw .shell
      let path := machine.searchPath?
      let program := if name.contains '/' then wholePath machine name else name
      match startProgram machine path program rest with
      | .ok invocation =>
          let shown : Text := (found.lookup 'a').getD name
          let shown : Text := if has found 'l' then '-' :: shown else shown
          let start :=
            if has found 'c' then
              { machine with
                bindings := machine.bindings.map fun (name, entry) =>
                  (name, { entry with exported := false }) }
            else machine
          return some
            ({ invocation with arguments :=
                if invocation.arguments.head? = some program.toOctets then
                  shown.toOctets :: invocation.arguments.drop 1
                else invocation.arguments }, start)
      | .error failure =>
          if !name.contains '/' then
            if Test.testFile machine 'd' name then
              fail 126 (name ++ words ": cannot execute: Is a directory")
            else fail 127 (name ++ words ": not found")
          else
            let message := startFault machine program failure.error
            modify fun machine =>
              { { machine with command := none }.complain message with command := machine.command }
            let isDirectory := Test.testFile machine 'd' program
            if failure.error = .missing then
              setStatus 127
              if (← get).hasFeature "execfail" then return none
              throw .shell
            else if isDirectory then
              fail 126 (program ++ words ": cannot execute: Is a directory")
            else if failure.error = .denied then
              fail 126 (program ++ words ": cannot execute: Permission denied")
            else do
              setStatus 126
              if (← get).hasFeature "execfail" then return none
              throw .shell

/-! Processes. -/

def waitFor (job : Job) : Running Unit := do
  if let some job ← waitForJob job then
    modify fun machine =>
      { machine.fail job.status with jobs := machine.jobs.map fun other =>
          if other.place = job.place then { other with isGone := true } else other }

def waitSynopsis : String := "[-fn] [-p var] [id ...]"

def waitForNext (jobs : List Job) : Running (Option Job) := do
  if jobs.isEmpty then
    setStatus 127
    return none
  let isOver (machine : Machine) : Bool := jobs.any fun job => hasEnded job.place machine
  match ← waitUntil isOver patience with
  | some signal => do
      setStatus (128 + signal)
      return none
  | none => do
      let machine ← get
      match jobs.find? fun job => hasEnded job.place machine with
      | none => return none
      | some job => do
          let found := machine.jobs.find? fun other => other.place = job.place
          set { machine.fail ((found.getD job).status) with
            jobs := machine.jobs.filter fun other => other.place ≠ job.place }
          return found

def wait (arguments : List Text) : Running Unit := do
  match ← perform (options [('f', false), ('n', false), ('p', true)] waitSynopsis arguments) with
  | none => setStatus 2
  | some (found, names) => do
      let target? := (found.filter (·.1 = 'p')).getLast?.map (·.2)
      if let some target := target? then
        if !isName (Machine.splitSubscript target).1 then
          blame 1 (Assigning.invalidName target)
          return ()
        modify fun machine => machine.forget target
      let note (job : Job) : Running Unit := do
        if let some target := target? then
          discard (perform (assignTo target (Decimal.digits job.number)))
      let machine ← get
      let byNumber (text : Text) : Option Job :=
        machine.jobs.find? fun job => Decimal.digits job.number = text
      if has found 'n' then
        let wanted : List Job :=
          if names.isEmpty then machine.jobs.filter fun job => !job.isGone
          else names.filterMap fun name => (byNumber name).or (job? machine name)
        for name in names do
          if ((byNumber name).or (job? machine name)).isNone then
            modify fun machine => machine.complain (noSuchJob name)
        match ← waitForNext wanted with
        | some job => note job
        | none => return ()
      else if names.isEmpty then
        match ← waitUntil (fun machine => machine.jobs.all (·.hasEnded)) patience with
        | some signal => setStatus (128 + signal)
        | none => modify fun machine => { machine.fail 0 with jobs := [] }
      else
        for name in names do
          let isNumber := !name.isEmpty && name.all isDigit
          if isNumber then
            match byNumber name with
            | some job => do
                waitFor job
                note job
            | none => blame 127 (words "pid " ++ name ++ words " is not a child of this shell")
          else if name.head? = some '%' then
            match job? machine name with
            | some job => do
                waitFor job
                note job
                modify fun machine =>
                  { machine with jobs := machine.jobs.filter fun other => other.place ≠ job.place }
            | none => blame 127 (noSuchJob name)
          else
            blame 1 (('\x60' :: name) ++ words "': not a pid or valid job spec")

def killSynopsis : String :=
  "[-s sigspec | -n signum | -sigspec] pid | jobspec ... or kill -l [sigspec]"

/-- What a command that sends signals is asked: whether to tell their names, which signal is meant,
and to whom it goes. -/
structure KillRequest where
  lists : Bool
  signal : Option Text
  targets : List Text

def KillRequest.read : Nat → Bool → Option Text → List Text → Except (Option Text) KillRequest
  | 0, lists, signal, targets => .ok ⟨lists, signal, targets⟩
  | _ + 1, lists, signal, [] => .ok ⟨lists, signal, []⟩
  | fuel + 1, lists, signal, word :: rest =>
      match word with
      | ['-', 'l'] | ['-', 'L'] => read fuel true signal rest
      | ['-', 's'] | ['-', 'n'] =>
          match rest with
          | [] => .error (some (word ++ words ": option requires an argument"))
          | name :: rest => read fuel lists (some name) rest
      | ['-', '-'] => .ok ⟨lists, signal, rest⟩
      | ['-', '?'] => .error none
      | '-' :: 's' :: letter :: name =>
          if letter.isAlpha then read fuel lists (some (letter :: name)) rest
          else if signal.isNone then read fuel lists (some ('s' :: letter :: name)) rest
          else .ok ⟨lists, signal, word :: rest⟩
      | '-' :: 'n' :: digit :: name =>
          if isDigit digit then read fuel lists (some (digit :: name)) rest
          else if signal.isNone then read fuel lists (some ('n' :: digit :: name)) rest
          else .ok ⟨lists, signal, word :: rest⟩
      | '-' :: name =>
          if signal.isNone then read fuel lists (some name) rest
          else .ok ⟨lists, signal, word :: rest⟩
      | _ => .ok ⟨lists, signal, word :: rest⟩

def tellSignals (texts : List Text) : Running Unit := do
  if texts.isEmpty then
    perform (Doing.say signalTable)
    setStatus 0
  else
    let status ← perform (forEach texts fun text => do
      match integer? text with
      | some number =>
          let number := if 128 < number then number - 128 else number
          if number < 0 || Signal.limit ≤ number.toNat then refuse 1 (invalidSignal text)
          else do
            if let some name := signalName? number.toNat then
              Doing.sayLine (if (words "SIG").isPrefixOf name then name.drop 3 else name)
            return 0
      | none =>
          match signal? text with
          | some number => do
              let place? := (hooks.map (·.2)).idxOf? number
              Doing.sayLine (Decimal.digits ((place?.map (· + Signal.limit)).getD number))
              return 0
          | none => refuse 1 (invalidSignal text))
    setStatus status

def sendAll (signal : Nat) : List Text → Bool → Running Bool
  | [], found => return found
  | target :: rest, found => do
      let digits := if target.head? = some '-' then target.drop 1 else target
      match integer? target with
      | some number => do
          if digits.isEmpty then return ← sendAll signal rest found
          let isThere ←
            if number < 0 then
              send signal (← get).number
            else send signal number.toNat
          if !isThere then
            blame 1 ('(' :: Decimal.intDigits number ++ words ") - No such process")
          sendAll signal rest (found || isThere)
      | none =>
          match target with
          | '%' :: _ =>
              match job? (← get) target with
              | some job => do
                  job.processes.forM fun entry => discard (send signal entry.1)
                  sendAll signal rest true
              | none => do
                  blame 1 (noSuchJob target)
                  sendAll signal rest found
          | [] => do
              blame 1 (words "\x60': not a pid or valid job spec")
              sendAll signal rest found
          | _ => do
              blame 1 (target ++ words ": arguments must be process or job IDs")
              sendAll signal rest found

def kill (arguments : List Text) : Running Unit := do
  let misused : Running Unit := do setStatus (← perform (usage killSynopsis))
  if arguments.isEmpty then misused
  else
    match KillRequest.read (arguments.length + 1) false none arguments with
    | .error (some message) => blame 1 message
    | .error none => misused
    | .ok request =>
        if request.lists then tellSignals request.targets
        else
          let name := request.signal.getD (words "TERM")
          match (signal? name).filter (· < Signal.limit) with
          | none => blame 1 (invalidSignal name)
          | some signal => do
              if request.targets.isEmpty then misused
              else do
                let found ← sendAll signal request.targets false
                setStatus (if found then 0 else 1)

end ArtifactTools.Shell.Extended
