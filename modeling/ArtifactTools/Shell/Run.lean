import ArtifactTools.Shell.Controls
import ArtifactTools.Shell.Extended.Builtins
import ArtifactTools.Shell.Extended.Controls
import ArtifactTools.Shell.Extended.Start
import ArtifactTools.Shell.Menu
import ArtifactTools.Shell.Native
import ArtifactTools.Shell.Native.Environment
import ArtifactTools.Shell.Start
import ArtifactTools.Shell.Words

/-! Running scripts. Fuel bounds how deep running goes and how often a loop turns; a script that
uses it up counts as one that never ends. The manner of running a command says whether something
looks at its failure, and whether nothing comes after it in its process. -/

namespace ArtifactTools.Shell.Run

open Expansion Running

def awaitInput (isExtended : Bool) (name : String) (arguments : List Text) : Running Unit := do
  let awaitAll (awaited : Extended.Awaited) : Running Unit := do
    let start := (← get).clock
    let limit := awaited.limit.map fun span => start + span * 1000
    awaitText awaited.descriptor limit awaited.isEnough patience
  match name with
  | "read" =>
      if isExtended then awaitAll (Extended.awaitedLine arguments)
      else awaitText 0 none (Builtin.holdsLine arguments) patience
  | "mapfile" | "readarray" => if isExtended then awaitAll (Extended.awaitedLines arguments)
  | _ => return ()

def passContent (line : Nat) (redirection : Redirection Word) : Running Unit := do
  modify fun machine => { machine with line }
  match ← Redirections.applyAll (← targets [redirection]) with
  | some message => modify fun machine => machine.refuse 1 message
  | none => do
      let content ← readAll 0
      modify fun machine => ((machine.write 1 content).getD machine).fail 0
      settleOutput

mutual

/-- Runs the commands of a text line by line, and tells whether there were any. What is read from a
file may be shown. Where a line is left, the next one follows. -/
def runLines : Nat → Manner → Bool → Option Text → Source → Running Bool
  | 0, _, _, _, _ => throw .stopped
  | fuel + 1, manner, isShown, label, source => do
      let machine ← get
      let replaces := !machine.isExtended || machine.hasFeature "expand_aliases"
      let source :=
        { source with
          aliases := if replaces then machine.aliases else []
          hasGroups := machine.hasFeature "extglob"
          openDocuments := [] }
      let display (text : Text) : Running Unit := do
        if (isShown || machine.isExtended) && (← get).has .verbose then
          modify fun machine => (machine.write 2 text).getD machine
      match Grammar.nextLine.run source with
      | .error fault => do
          display source.rest
          reportFault label fault
          let passed := source.rest.take (source.rest.length - fault.left.length)
          let rest :=
            { source with rest := fault.left, line := source.line + passed.count '\n' }
          discard (runLines fuel manner isShown label rest)
          return true
      | .ok (none, _) => do
          display source.rest
          return false
      | .ok (some command, rest) => do
          display (source.rest.take (source.rest.length - rest.rest.length))
          warnOfDocuments rest
          modify fun machine => { machine with reached := rest.line }
          let isLast := manner.isLast && rest.rest.isEmpty && source.rest.getLast? ≠ some '\n'
          match ← attempt (run fuel { manner with isLast } command) with
          | .ok () | .error .line => pure ()
          | .error leave => throw leave
          let others ← runLines fuel manner isShown label rest
          return others || !command.isNothing
termination_by structural fuel => fuel

/-- Runs the commands of a text that is no file, whose first line has a number; without any the
status is that of success. -/
def runText : Nat → Manner → Option Text → Nat → Text → Running Unit
  | 0, _, _, _, _ => throw .stopped
  | fuel + 1, manner, label, line, text => do
      let dialect := (← get).dialect
      if !(← runLines fuel manner false label (.ofText dialect text line [])) then setStatus 0
termination_by structural fuel => fuel

def runToEnd : Nat → Running Unit → Running Unit
  | 0, _ => throw .stopped
  | fuel + 1, action => do
      match ← attempt action with
      | .error (.killed signal) => throw (.killed signal)
      | .error .stopped => throw .stopped
      | _ => atExit fuel
termination_by structural fuel => fuel

def atExit : Nat → Running Unit
  | 0 => throw .stopped
  | fuel + 1 => do
      let machine ← get
      match machine.traps.lookup 0 with
      | none => return ()
      | some action => do
          let status := machine.status
          set { Builtin.putTrap 0 none machine with saved := some status, command := none }
          match ← attempt (runText fuel .plain (some (words "trap")) 1 action) with
          | .error .shell => return ()
          | .error .fault => if machine.isExtended then setStatus status else return ()
          | .error (.killed signal) => throw (.killed signal)
          | .error .stopped => throw .stopped
          | _ => setStatus status
termination_by structural fuel => fuel

/-- Runs the traps for signals that have come. The status is that from before, unless a trap leaves
a function. -/
def runTraps : Nat → Running Unit
  | 0 => throw .stopped
  | fuel + 1 => do
      let machine ← get
      match machine.pending.mergeSort.head? with
      | none => return ()
      | some signal => do
          let status := machine.saved.getD machine.status
          set { machine with
            pending := machine.pending.filter (· ≠ signal)
            saved := some status }
          let action := (machine.traps.lookup signal).getD []
          let result ← attempt (runText fuel .plain (some (words "trap")) 1 action)
          modify fun after => { after with saved := machine.saved }
          match result with
          | .ok () => do
              setStatus status
              runTraps fuel
          | .error leave => throw leave
termination_by structural fuel => fuel

def runHook : Nat → Nat → Running Unit
  | 0, _ => throw .stopped
  | fuel + 1, hook => do
      let machine ← get
      let action := (machine.traps.lookup hook).getD []
      if !machine.isExtended || action.isEmpty || machine.isTracing then return ()
      let status := machine.status
      set (Builtin.putTrap hook none machine)
      let result ← attempt (runText fuel .plain (some (words "trap")) machine.line action)
      modify fun after =>
        { after with
          traps := if (after.traps.lookup hook).isSome then after.traps
            else (hook, action) :: after.traps
          line := machine.line }
      match result with
      | .ok () | .error .fault => setStatus status
      | .error leave => throw leave
termination_by structural fuel => fuel

def run : Nat → Manner → Command → Running Unit
  | 0, _, _ => throw .stopped
  | fuel + 1, manner, command => do
      let before ← get
      if before.has .noexec then return ()
      if !before.pending.isEmpty then runTraps fuel
      runInside fuel manner command
      let after ← get
      if before.channels.length < after.channels.length then
        modify (closeChannels before.channels.length)
      if !after.pending.isEmpty then runTraps fuel
      if command.isChecked then
        let machine ← get
        if machine.isExtended && machine.status ≠ 0 && !manner.isTested then
          runHook fuel Signal.failure
        checkStatus manner.isTested
termination_by structural fuel => fuel

def runInside : Nat → Manner → Command → Running Unit
  | 0, _, _ => throw .stopped
  | fuel + 1, manner, command => do
      match command with
      | .nothing => return ()
      | .simple line assignments words redirections => do
          tick
          modify fun machine => { machine with line, captured := none }
          runHook fuel Signal.debugging
          runSimple fuel manner assignments words redirections
          noteStatus
      | .negated command => do
          run fuel .tested command
          setStatus (if (← get).status = 0 then 1 else 0)
      | .pipeline stages => runPipeline fuel manner stages
      | .both first second => do
          run fuel .tested first
          if (← get).status = 0 then run fuel manner second
      | .either first second => do
          run fuel .tested first
          if (← get).status ≠ 0 then run fuel manner second
      | .sequence first second => do
          run fuel manner.inside first
          run fuel manner second
      | .background line command => do
          modify fun machine => { machine with line }
          runBackground fuel command
      | .subshell line command redirections => do
          modify fun machine => { machine with line }
          let goals ← targets redirections
          let machine ← get
          let task : Task := .command { manner with isLast := true } goals command
          if manner.isLast && !machine.hasTraps then
            set { outsideLoops (machine.subshell machine.process) with parent := machine.parent }
            doTask fuel task
            throw .shell
          inProcess outsideLoops task
          noteStatus
      | .redirected line command redirections => do
          modify fun machine => { machine with line }
          let goals ← targets redirections
          let refused (message : Text) : Running Unit := do
            modify fun machine => machine.refuse (if machine.isExtended then 1 else 2) message
            checkStatus manner.isTested
          Redirections.within goals refused (run fuel manner.inside command)
      | .conditional test yes no => do
          run fuel .tested test
          let machine ← get
          let manner := manner.ofBranch machine.isExtended
          if machine.status = 0 then run fuel manner yes
          else
            setStatus 0
            run fuel manner no
      | .loop untilTrue test body =>
          inLoop (runLoop fuel manner.inside untilTrue test body 0)
      | .each line name words body => do
          modify fun machine => { machine with line }
          let isExtended := (← get).isExtended
          let items ← fields (if isExtended then words.flatMap Braces.expand else words)
          setStatus 0
          if isExtended && !isName name then
            abandon (Assigning.invalidName name)
          inLoop (runEach fuel manner.inside line name words body items)
      | .select line subject arms => do
          modify fun machine => { machine with line }
          traceParts [subject] "case " " in"
          let subject ← textOf false subject
          runArms fuel (manner.ofBranch (← get).isExtended) subject arms
      | .define line name body => do
          if (← get).isExtended && name.any fun mark => "'\"\\$\x60".contains mark then
            modify fun machine => { machine with line }
            abandon (Assigning.invalidName name)
          modify fun machine =>
            let origin :=
              (machine.frames.head?.map (·.origin)).getD
                (if machine.isGiven then Shell.words "environment" else machine.name)
            { (if machine.isExtended then machine else machine.forgetTrack name) with
              functions := (name, ⟨body, origin, false⟩) ::
                machine.functions.filter fun entry => entry.1 ≠ name }
          setStatus 0
      | .check line condition => do
          tick
          modify fun machine => { machine with line }
          runHook fuel Signal.debugging
          setStatus (← holds condition)
          noteStatus
      | .compute line expression => do
          tick
          modify fun machine => { machine with line }
          runHook fuel Signal.debugging
          let value ← computed expression
          setStatus (if value.any (· ≠ 0) then 0 else 1)
          noteStatus
      | .count line start test step body => do
          modify fun machine => { machine with line }
          if (← computed start).isSome then
            setStatus 0
            inLoop (runCount fuel manner.inside line test step body)
          else setStatus 1
      | .choose line name words body => do
          modify fun machine => { machine with line }
          let items ← fields (words.flatMap Braces.expand)
          setStatus 0
          if !items.isEmpty then inLoop (runChoices fuel manner.inside name body items true)
      | .timed isShort command => do
          let start := (← get).clock
          run fuel manner.inside command
          modify fun machine =>
            let text := Menu.times isShort ((machine.clock - start) / 1000)
            (machine.write 2 text).getD machine
termination_by structural fuel => fuel

def runLoop : Nat → Manner → Bool → Command → Command → Nat → Running Unit
  | 0, _, _, _, _, _ => throw .stopped
  | fuel + 1, manner, untilTrue, test, body, status => do
      tick
      let result ← attempt (run fuel .tested test)
      let leaves : Bool :=
        match result with
        | .error (.loops _) => true
        | _ => false
      if leaves then setStatus status
      afterRound result fun goesOn? => do
        let holds := ((← get).status = 0) != untilTrue
        match goesOn? with
        | none => runLoop fuel manner untilTrue test body status
        | some () =>
            if !holds then setStatus status
            else
              let result ← attempt (run fuel manner body)
              afterRound result fun _ => do
                runLoop fuel manner untilTrue test body (← get).status
termination_by structural fuel => fuel

def runEach : Nat → Manner → Nat → Text → List Word → Command → List Text → Running Unit
  | 0, _, _, _, _, _, _ => throw .stopped
  | _ + 1, _, _, _, _, _, [] => return ()
  | fuel + 1, manner, line, name, words, body, item :: rest => do
      tick
      traceParts words ("for " ++ String.ofList name ++ " in ") ""
      if (← get).isExtended then
        modify fun machine => { machine with line }
        runHook fuel Signal.debugging
      if (← get).isExtended && ((← get).variableOf name).isReadOnly then
        modify fun machine => machine.refuse 1 (Machine.readOnlyMessage name)
        return ()
      assign name item
      let result ← attempt (run fuel manner body)
      afterRound result fun _ => runEach fuel manner line name words body rest
termination_by structural fuel => fuel

def runCount : Nat → Manner → Nat → Word → Word → Command → Running Unit
  | 0, _, _, _, _, _ => throw .stopped
  | fuel + 1, manner, line, test, step, body => do
      tick
      modify fun machine => { machine with line }
      let value ← if test.isEmpty then pure (some 1) else computed test
      match value with
      | none => setStatus 1
      | some 0 => return ()
      | some _ => do
          let result ← attempt (run fuel manner body)
          afterRound result fun _ => do
            let status := (← get).status
            modify fun machine => { machine with line }
            let value ← if step.isEmpty then pure (some 0) else computed step
            match value with
            | none => setStatus 1
            | some _ => do
                setStatus status
                runCount fuel manner line test step body
termination_by structural fuel => fuel

def runChoices : Nat → Manner → Text → Command → List Text → Bool → Running Unit
  | 0, _, _, _, _, _ => throw .stopped
  | fuel + 1, manner, name, body, items, isShown => do
      let machine ← get
      let prompt := (machine.valueOf? (words "PS3")).getD ['#', '?', ' ']
      let menu := if isShown then Menu.text items else []
      set ((machine.write 2 (menu ++ prompt)).getD machine)
      let (line, isEnded) ← readLine 0
      if !isEnded && line.isEmpty then
        modify fun machine => ((machine.write 1 ['\n']).getD machine).fail 1
      else
        assign (words "REPLY") line
        if line.isEmpty then runChoices fuel manner name body items true
        else
          let number := if line.all isDigit then Decimal.value line else 0
          assign name (if number = 0 then [] else items.getD (number - 1) [])
          let result ← attempt (run fuel manner body)
          afterRound result fun _ => runChoices fuel manner name body items false
termination_by structural fuel => fuel

def runArms : Nat → Manner → Text → List (List Word × Command × ArmEnd) → Running Unit
  | 0, _, _, _ => throw .stopped
  | _ + 1, _, _, [] => setStatus 0
  | fuel + 1, manner, subject, (patterns, body, ending) :: rest => do
      if ← fitsAny subject patterns then runArm fuel manner subject body ending rest
      else runArms fuel manner subject rest
termination_by structural fuel => fuel

def runArm : Nat → Manner → Text → Command → ArmEnd → List (List Word × Command × ArmEnd) →
    Running Unit
  | 0, _, _, _, _, _ => throw .stopped
  | fuel + 1, manner, subject, body, ending, rest => do
      let isOver : Bool :=
        match ending, rest with
        | .leave, _ | _, [] => true
        | _, _ => false
      if body.isNothing then setStatus 0
      else run fuel (if isOver then manner else manner.inside) body
      match ending, rest with
      | .leave, _ | _, [] => return ()
      | .enterNext, (_, body, ending) :: rest => runArm fuel manner subject body ending rest
      | .tryNext, rest => do
          let status := (← get).status
          runArms fuel manner subject rest
          if !(← fitsSome subject rest) then setStatus status
termination_by structural fuel => fuel

/-- Runs the stages of a pipeline, each of which reads what the one before it writes. The last one
gives the status, or the last one that fails where that is asked for. -/
def runPipeline : Nat → Manner → List Command → Running Unit
  | 0, _, _ => throw .stopped
  | fuel + 1, manner, stages => do
      let isStrict := (← get).has .pipefail
      let children ← startStages fuel manner false stages none
      let endings ← awaitStages children
      modify Machine.reap
      let statuses := endings.map (·.status)
      if let some ending := endings.getLast? then conclude ending
      modify fun machine =>
        let failed := (statuses.reverse.find? (· ≠ 0)).getD 0
        { machine with statuses, status := if isStrict then failed else machine.status }
termination_by structural fuel => fuel

/-- Starts the stages of a pipeline and gives their numbers; `input` is the descriptor of the pipe
that the next one reads. In the background the first one has nothing to read. -/
def startStages : Nat → Manner → Bool → List Command → Option Nat → Running (List Nat)
  | 0, _, _, _, _ => throw .stopped
  | _ + 1, _, _, [], _ => return []
  | fuel + 1, manner, isAside, stage :: rest, input => do
      if let .simple line _ _ _ := stage then
        if (← get).isExtended && !isAside then
          modify fun machine => { machine with line }
          runHook fuel Signal.debugging
      let before ← get
      let isLast := !before.isExtended || (stage matches .simple .. | .subshell ..)
      let reader := before.freeFrom hidden
      let (pipe, machine) := before.newPipe []
      set (if rest.isEmpty then before else machine.attach reader (.reading (.pipe pipe)))
      let start (machine : Machine) : Machine :=
        let child := processFor stage machine
        let child :=
          match input with
          | some input => ((child.duplicate 0 input).getD child).detach input
          | none => if isAside then child.attach 0 (.reading (.device .sink)) else child
        let child :=
          if isAside then { child with ignored := [Signal.interrupt, Signal.quit] ++ child.ignored }
          else child
        if rest.isEmpty then child
        else (child.attach 1 (.writing (.pipe pipe) false)).detach reader
      let child ← fork start (.command { manner with isLast } [] stage)
      if let some input := input then modify fun machine => machine.detach input
      let others ← startStages fuel manner isAside rest (some reader)
      return child :: others
termination_by structural fuel => fuel

def runBackground : Nat → Command → Running Unit
  | 0, _ => throw .stopped
  | fuel + 1, command => do
      let stages : List Command :=
        match command with
        | .pipeline stages => stages
        | command => [command]
      let children ← startStages fuel .plain true stages none
      modify fun machine =>
        let places := machine.jobs.map (·.place)
        let place := ((List.range (places.length + 1)).map (· + 1)).find? fun place =>
          !places.contains place
        let job : Job := ⟨place.getD 1, children.map fun child => (child, none), false⟩
        { machine.fail 0 with jobs := machine.jobs ++ [job], latestJob := children.getLast? }
termination_by structural fuel => fuel

def runSimple : Nat → Manner → List Assignment → List Word → List (Redirection Word) →
    Running Unit
  | 0, _, _, _, _ => throw .stopped
  | fuel + 1, manner, assignments, words, redirections => do
      let machine ← get
      let isExtended := machine.isExtended
      let spreads := isExtended && machine.has .braceexpand
      let words := if spreads then words.flatMap Braces.expand else words
      let call ← callOf words
      let targets ← targets redirections
      let before ← get
      let refused (message : Text) : Running Unit := do
        if isExtended then
          if call.words.isEmpty then discard (assignAll false false assignments)
          modify fun machine => machine.refuse 1 message
        else
          modify fun machine => machine.refuse 2 message
          if call.isSpecial then throw .fault
      if targets.isEmpty then runAssigned fuel manner assignments call before
      else if call.name = "exec".toList then
        match ← Redirections.applyAll targets with
        | none => runAssigned fuel manner assignments call before
        | some message => do
            refused message
            modify fun machine => { machine with descriptors := before.descriptors }
      else
        Redirections.within targets refused (runAssigned fuel manner assignments call before)
      if isExtended then
        modify fun machine =>
          machine.putVariable ['_'] (.ofText (call.words.getLast?.getD []))
termination_by structural fuel => fuel

def runAssigned : Nat → Manner → List Assignment → Call → Machine → Running Unit
  | 0, _, _, _, _ => throw .stopped
  | fuel + 1, manner, assignments, call, before => do
      let isExtended := before.isExtended
      let isLasting := call.words.isEmpty || (call.isSpecial && !isExtended)
      let isExported := !isLasting || (call.name = "exec".toList && 1 < call.words.length)
      let names := assignments.map fun (.to name _ _ _) => name
      let restore (machine : Machine) : Machine :=
        if isLasting then machine else unassign before names machine
      restoring (do
        let assigned ← assignAll isExported (isExtended && !call.words.isEmpty) assignments
        if isExtended then
          for text in assigned do traceText text
          if !call.printed.isEmpty then
            traceText ((call.printed.map Quoting.traced).intersperse [' ']).flatten
        else trace (Format.joinWords (assigned ++ call.printed)) before
        if call.words.isEmpty then setStatus ((← get).captured.getD 0)
        else runCall fuel manner call) restore
termination_by structural fuel => fuel

def runCall : Nat → Manner → Call → Running Unit
  | 0, _, _ => throw .stopped
  | fuel + 1, manner, call => do
      let machine ← get
      let arguments := call.words.drop 1
      let function? := if call.isPlain then none else machine.functions.lookup call.name
      if machine.isExtended then
        match function? with
        | some definition => runFunction fuel manner call.name definition arguments
        | none =>
            if isExtendedCommand call.name then runOwn fuel manner true call.name arguments
            else if call.isOwn then
              modify fun machine => machine.refuse 1
                (words "builtin: " ++ call.name ++ words ": not a shell builtin")
            else runFile fuel manner call
      else if isSpecial call.name then runOwn fuel manner call.isPlain call.name arguments
      else
        match function? with
        | some definition => runFunction fuel manner call.name definition arguments
        | none =>
            if isOrdinary call.name then runOwn fuel manner true call.name arguments
            else runFile fuel manner call
termination_by structural fuel => fuel

def runFile : Nat → Manner → Call → Running Unit
  | 0, _, _ => throw .stopped
  | fuel + 1, manner, call => do
      let machine ← get
      let arguments := call.words.drop 1
      let path := if call.isUsual then some (usualPath machine.dialect) else machine.searchPath?
      let (answer, machine) :=
        if call.isUsual then (startProgram machine path call.name arguments, machine)
        else startTracked machine call.name arguments
      set machine
      match answer with
      | .ok invocation =>
          let prepare (child : Machine) : Machine :=
            let child :=
              if child.isExtended then
                child.putVariable ['_']
                  { Variable.ofText (Extended.pathOf machine path call.name) with exported := true }
              else child
            child.newProgram
          if manner.isLast && !machine.hasTraps then
            modify prepare
            runProgram fuel invocation
            throw .shell
          inProcess prepare (.program invocation)
      | .error failure =>
          if machine.isExtended then
            match machine.functions.lookup (words "command_not_found_handle") with
            | some definition =>
                if failure.status = 127 && !call.name.contains '/' then
                  runFunction fuel manner (words "command_not_found_handle") definition call.words
                else set (Extended.refuseStart machine path call.name failure)
            | none => set (Extended.refuseStart machine path call.name failure)
          else
            set (machine.refuse failure.status
              (call.name ++ words ": " ++ Machine.wording "not found" failure.error))
termination_by structural fuel => fuel

def runFunction : Nat → Manner → Text → Function → List Text → Running Unit
  | 0, _, _, _, _ => throw .stopped
  | fuel + 1, manner, name, definition, arguments => do
      let before ← get
      let isHeld (hook : Nat) : Bool :=
        before.isExtended &&
          ((hook = Signal.failure && !before.has .errtrace) ||
            ((hook = Signal.debugging || hook = Signal.returning) && !before.has .functrace))
      let held := before.traps.filter fun entry => isHeld entry.1
      let frame : Frame := ⟨name, definition.origin, before.line⟩
      if deepest < before.frames.length then die Signal.segmentation
      set { before with
        arguments :=
          if before.isExtended then before.arguments.replaced arguments else .ofList arguments
        locals := some []
        loops := 0
        traps := before.traps.filter fun entry => !isHeld entry.1
        frames := frame :: before.frames }
      let restore (machine : Machine) : Machine :=
        let own := machine.locals.getD []
        let machine := own.foldl (fun machine (name, entry) =>
          machine.restoreVariable name entry) machine
        let searchesOwn := own.any fun entry => entry.1 = words "PATH"
        let known := machine.traps.map (·.1)
        let readsOwn := own.any fun entry => entry.1 = words "OPTIND"
        { machine with
          arguments :=
            if readsOwn || !before.isExtended then before.arguments
            else machine.arguments.replaced before.arguments.list
          locals := before.locals
          loops := before.loops
          traps := machine.traps ++ held.filter fun entry => !known.contains entry.1
          tracked := if searchesOwn then [] else machine.tracked
          frames := before.frames }
      match ← attempt (restoring (do
          match ← attempt (run fuel manner.inside definition.body) with
          | .ok () | .error .function => runHook fuel Signal.returning
          | .error leave => throw leave) restore) with
      | .ok () => return ()
      | .error leave => throw leave
termination_by structural fuel => fuel

/-- Runs a command of the shell's own. What it says is written at its end. One that is misused ends
the shell, unless the shell `survives` it. -/
def runOwn : Nat → Manner → Bool → Text → List Text → Running Unit
  | 0, _, _, _, _ => throw .stopped
  | fuel + 1, manner, survives, name, arguments => do
      let before ← get
      set { before with command := some name, output := [] }
      let builtin? :=
        if before.isExtended then Extended.find? (String.ofList name)
        else Builtin.find? (String.ofList name)
      let result ← attempt (do
        match builtin? with
        | some builtin => do
            awaitInput before.isExtended (String.ofList name) arguments
            setStatus (← perform (builtin arguments))
        | none =>
            if before.isExtended then
              runExtendedControl fuel manner (String.ofList name) arguments
            else runControl fuel manner (String.ofList name) arguments)
      modify fun machine =>
        match machine.writeTo 1 machine.output with
        | .ok machine => machine
        | .error fault =>
            if machine.isExtended then
              machine.refuse 1 (words "write error: " ++ words fault.message)
            else machine.refuse (machine.status ||| 1) (name ++ words ": I/O error")
      modify fun machine =>
        { machine with command := before.command, output := before.output, lists := [] }
      settleOutput
      match result with
      | .ok () => return ()
      | .error leave => if leave = .fault && survives then return () else throw leave
termination_by structural fuel => fuel

def runControl : Nat → Manner → String → List Text → Running Unit
  | 0, _, _, _ => throw .stopped
  | fuel + 1, manner, name, arguments => do
      match name with
      | "exit" => do
          let number ← argument? arguments
          let machine ← get
          setStatus (number.getD (machine.saved.getD machine.status))
          throw .shell
      | "return" => do
          let number ← argument? arguments
          setStatus (number.getD (← get).status)
          throw .function
      | "break" => leaveLoops .loops arguments
      | "continue" => leaveLoops .round arguments
      | "eval" => runText fuel manner.inside none 1 (Format.joinWords arguments)
      | "." => do
          let (_, arguments) ← perform (Doing.options [] arguments)
          match arguments with
          | [] => setStatus 0
          | file :: _ => do
              let path ← ofExcept (findSourced (← get) file)
              let content ← readScript path
              modify fun machine => { machine with command := some path }
              match ← attempt (runLines fuel .plain true none (.ofText .plain content 1 [])) with
              | .ok true | .error .function => return ()
              | .ok false => setStatus 0
              | .error leave => throw leave
      | "exec" =>
          match arguments with
          | [] => setStatus 0
          | program :: arguments => do
              let machine ← get
              match startProgram machine machine.searchPath? program arguments with
              | .error failure => do
                  let status := statusOf failure.error
                  modify fun machine => machine.refuse status
                    (program ++ words ": " ++ Machine.wording "not found" failure.error)
                  throw .shell
              | .ok invocation => do
                  modify fun machine => machine.newProgram
                  runProgram fuel invocation
                  throw .shell
      | "wait" => wait arguments
      | "kill" => kill arguments
      | _ => setStatus 0
termination_by structural fuel => fuel

def runExtendedControl : Nat → Manner → String → List Text → Running Unit
  | 0, _, _, _ => throw .stopped
  | fuel + 1, manner, name, arguments => do
      match name with
      | "exit" => Extended.exit arguments
      | "logout" => Extended.logout
      | "return" => Extended.return arguments
      | "break" => Extended.leaveLoops .loops arguments
      | "continue" => Extended.leaveLoops .round arguments
      | "shift" => Extended.shift arguments
      | "eval" => do
          match ← Extended.evaluated arguments with
          | none => return ()
          | some text => do
              let before ← get
              set { before with nesting := before.nesting + 1, command := none }
              let result ← attempt
                (restoring (runText fuel manner.inside (some (words "eval")) before.line text)
                  fun machine => { machine with nesting := before.nesting })
              match result with
              | .ok () | .error .fault => return ()
              | .error leave => throw leave
      | "." | "source" => do
          match ← Extended.sourced arguments with
          | none => return ()
          | some (path, content) => do
              let before ← get
              let frame : Frame := ⟨words "source", path, before.line⟩
              let own := arguments.drop 1
              set { before with
                command := none
                nesting := before.nesting + 1
                frames := frame :: before.frames
                arguments :=
                  if own.isEmpty then before.arguments else before.arguments.replaced own }
              let restore (machine : Machine) : Machine :=
                { machine with
                  nesting := before.nesting
                  frames := before.frames
                  arguments :=
                    if own.isEmpty then machine.arguments
                    else machine.arguments.replaced before.arguments.list }
              let source := Source.ofText .extended content 1 []
              match ← attempt (restoring (runLines fuel .plain true none source) restore) with
              | .ok true | .error .function | .error .fault => return ()
              | .ok false => setStatus 0
              | .error leave => throw leave
      | "exec" => do
          match ← Extended.replacement arguments with
          | none => return ()
          | some (invocation, machine) => do
              set machine.newProgram
              runProgram fuel invocation
              throw .shell
      | "wait" => Extended.wait arguments
      | "kill" => Extended.kill arguments
      | _ => setStatus 0
termination_by structural fuel => fuel

def doTask : Nat → Task → Running Unit
  | 0, _ => throw .stopped
  | fuel + 1, .program invocation => runProgram fuel invocation
  | fuel + 1, .content line redirection => runToEnd fuel (passContent line redirection)
  | fuel + 1, .command manner goals body =>
      runToEnd fuel (do
        match ← Redirections.applyAll goals with
        | none => run fuel manner body
        | some message => abandon message)
termination_by structural fuel => fuel

def runProgram : Nat → Invocation → Running Unit
  | 0, _ => throw .stopped
  | fuel + 1, invocation => do
      beginProgram
      let name := Text.ofOctets (invocation.arguments.head?.getD [])
      let arguments := (invocation.arguments.drop 1).map Text.ofOctets
      match invocation.program with
      | .shell isExtended => do
          modify (if isExtended then Extended.startShell name else startShell name)
          let action := if isExtended then runExtendedShell fuel arguments else runShell fuel arguments
          match ← attempt action with
          | .error .fault => atExit fuel
          | .error leave => throw leave
          | .ok () => return ()
      | program => Native.run (fun invocation => runProgram fuel invocation) program name arguments
termination_by structural fuel => fuel

def runShell : Nat → List Text → Running Unit
  | 0, _ => throw .stopped
  | fuel + 1, arguments => do
      let (isGiven, rest) ←
        perform (Builtin.readStart (arguments.length + 1) false arguments)
      modify fun machine => { (machine.write 1 machine.output).getD machine with output := [] }
      let fromInput := (← get).has .stdin || rest.isEmpty
      let take (name : Option Text) (list : List Text) : Running Unit :=
        modify fun machine =>
          { machine with name := name.getD machine.name, arguments := .ofList list }
      let source (text : Text) : Source := .ofText .plain text 1 []
      if isGiven then
        match rest with
        | [] => abandon (words "-c requires an argument")
        | script :: rest => do
            take rest.head? (rest.drop 1)
            runToEnd fuel (runText fuel .last none 1 script)
      else if fromInput then
        modify fun machine => machine.turn .stdin true
        take none rest
        let script ← readAll 0
        runToEnd fuel (discard (runLines fuel .plain true none (source script)))
      else
        let content ← readScript (rest.head?.getD [])
        take rest.head? (rest.drop 1)
        runToEnd fuel (discard (runLines fuel .plain true none (source content)))
termination_by structural fuel => fuel

def runExtendedShell : Nat → List Text → Running Unit
  | 0, _ => throw .stopped
  | fuel + 1, arguments => do
      let (label, text) ← Extended.readStart arguments
      let source := Source.ofText .extended text 1 []
      let manner : Manner := if label.isSome then .last else .plain
      runToEnd fuel (discard (runLines fuel manner true label source))
termination_by structural fuel => fuel

end

def plenty : Nat := Nat.pow 2 60

def begin (task : Task) : Running Unit := doTask plenty task

end ArtifactTools.Shell.Run
