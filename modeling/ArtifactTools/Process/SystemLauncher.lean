import ArtifactTools.Process.Supervision
import ArtifactTools.Shell.Run
import ArtifactTools.Shell.Turns

/-! The launcher that runs tools on the host. The tool has nothing to read and its output is thrown
away; what it writes to the error output is kept. It is looked at every so often until it has ended,
or until it is to be stopped. -/

namespace ArtifactTools.SystemLauncher

open Shell Supervision

def pollMilliseconds : Nat := 50

/-- How long the error output is waited for after the tool has ended. Another process may hold it
open. -/
def graceMilliseconds : Nat := 500

/-- Runs of so many steps count as endless. -/
def steps : Nat := 1200000

def fuel : Nat := Nat.pow 2 60

def mainProcess : Nat := 1000

def startDirectory (host : Host) (template : Template) : Except HostError Location :=
  match template.workingDirectory with
  | none => .ok host.directory
  | some path =>
      match host.files.find host.directory path with
      | .error error => .error error
      | .ok (location, .directory _) => .ok location
      | .ok _ => .error .notDirectory

def hasNul (template : Template) : Bool :=
  (template.program.octets :: template.arguments ++
    (template.workingDirectory.map (·.octets)).toList).any (·.contains 0)

def resolve (host : Host) (template : Template) : Except HostError (Invocation × Location) :=
  if hasNul template then .error .nulInArgument
  else
    match startDirectory host template with
    | .error error => .error error
    | .ok directory =>
        (Invocation.find host.files directory host.searchedDirectories template.program.octets
          template.arguments).map fun invocation => (invocation, directory)

/-- What is there at the start of a tool, which has nothing to read. Its error output goes to the
first pipe. -/
def world (host : Host) : World :=
  { World.still host.files steps with
    pipes := #[.empty]
    openFiles := #[.reading (.device .sink), .writing (.device .sink) false,
      .writing (.pipe 0) false]
    nextProcess := mainProcess + 1 }

/-- The machine at the start of a tool. Variables whose names are no names stay outside. -/
def machine (host : Host) (directory : Location) : Machine :=
  let bindings := host.environment.filterMap fun (name, value) =>
    let name := Text.ofString name
    let entry : Variable := { Variable.ofText (Text.ofOctets value) with exported := true }
    if isName name then some (name, entry) else none
  { dialect := .plain
    world := Turns.nowhere
    directory
    shown := []
    descriptors := [(0, 0), (1, 1), (2, 2)]
    kept := []
    isBroken := false
    overfull := []
    isCut := false
    unwritten := none
    number := mainProcess
    process := mainProcess
    parent := mainProcess - 1
    group := mainProcess - 1
    jobs := []
    latestJob := none
    pending := []
    name := []
    line := 0
    reached := 1
    command := none
    output := []
    arguments := .ofList []
    bindings
    functions := []
    aliases := []
    tracked := []
    traps := []
    ignored := []
    locals := none
    loops := 0
    status := 0
    saved := none
    captured := none
    mask := 0o022
    switches := []
    isTracing := false
    isGiven := false
    frames := []
    statuses := []
    features := []
    stack := []
    channels := []
    lists := []
    depth := 0
    nesting := 0
    seed := 0 }

def lookAt (nanoseconds : Nat) : Nat :=
  let interval := pollMilliseconds * 1000000
  (nanoseconds + interval - 1) / interval

def least (first second : Option Nat) : Option Nat :=
  match first, second with
  | some first, some second => some (min first second)
  | some first, none => some first
  | none, second => second

def cutoff (deadline : Option Instant) (limits : Limits) : Option Nat :=
  least (deadline.map fun point => lookAt point.nanoseconds)
    (limits.cancellation.map fun span => lookAt span.totalNanoseconds)

def ending? (schedule : Turns.Schedule) : Option (ExitStatus × Nat) :=
  schedule.outcome.map fun (ending, time) =>
    let status :=
      match ending with
      | .exited status => ExitStatus.code (status % 256)
      | .killed _ => ExitStatus.signalled
    (status, max 1 ((time + 999) / 1000))

def isCancelledAt (limits : Limits) (nanoseconds : Nat) : Bool :=
  limits.cancellation.any fun span => span.totalNanoseconds ≤ nanoseconds

def observe (ending : Option (ExitStatus × Nat)) (limits : Limits) (number : Nat) : Observation :=
  let milliseconds := number * pollMilliseconds
  let now := Instant.ofMilliseconds milliseconds
  let child :=
    match ending with
    | some (status, time) => if time ≤ milliseconds then .exited status else .running
    | none => .running
  ⟨child, isCancelledAt limits now.nanoseconds, now⟩

/-- The looks that may settle the matter: at the beginning, at the end of the tool, and where it is
stopped. -/
def looks (ending : Option (ExitStatus × Nat)) (stop : Option Nat) : List Nat :=
  let ends := ending.map fun found => lookAt (found.2 * 1000000)
  (0 :: ends.toList ++ stop.toList).mergeSort

def goOn (isOver : Turns.Schedule → Bool) (limit : Option Nat) (schedule : Turns.Schedule) :
    Turns.Schedule :=
  schedule.run Run.begin isOver limit fuel

def runUntil (stop : Option Nat) (host : Host) (directory : Location) (invocation : Invocation) :
    Turns.Schedule :=
  let start : Turns.Schedule := ⟨world host, [], mainProcess, none⟩
  if stop = some 0 then start
  else
    goOn (·.outcome.isSome) (stop.map (· * pollMilliseconds * 1000))
      (start.add (machine host directory) Turns.startTime (Run.begin (.program invocation)))

/-- What the tool wrote to the error output, if the output is closed soon after the last look, and
what is there by then. -/
def settled (schedule : Turns.Schedule) (lastLook : Nat) : String × FileTree :=
  let isClosed (schedule : Turns.Schedule) : Bool := !Turns.isWritten schedule.world 0
  let look := lastLook * pollMilliseconds
  let schedule := goOn isClosed (some ((look + graceMilliseconds) * 1000)) schedule
  if isClosed schedule then
    let schedule := goOn (fun _ => false) (some (look * 1000)) schedule
    (Utf8.decodeLossy (schedule.world.pipeText 0).toOctets, schedule.world.tree)
  else ("", schedule.world.tree)

def remains (ended : Turns.Schedule) : String × Duration × FileTree :=
  match ending? ended with
  | none => ("", Duration.ofMilliseconds 0, ended.world.tree)
  | some (_, time) =>
      let last := lookAt (time * 1000000)
      let (text, files) := settled ended last
      (text, Duration.ofMilliseconds (last * pollMilliseconds), files)

/-- What comes of a launch once the tool has run so far. One that neither ends nor is to be stopped
is never waited for to the end. -/
def conclude (default : Duration) (host : Host) (limits : Limits) (stop : Option Nat)
    (ended : Turns.Schedule) : Except ProcessError Output × Host :=
  let ending := ending? ended
  let (errorText, duration, files) := remains ended
  match supervise default limits (.ofMilliseconds 0) errorText duration
      ((looks ending stop).map (observe ending limits)) with
  | none => (.error (.waitFailed (.other "the tool does not end")), { host with files })
  | some (result, _) => (result, { host with files })

def launch (default : Duration) (host : Host) (request : Launch) :
    Except ProcessError Output × Host :=
  match resolve host request.template with
  | .error cause => (.error (.spawnFailed request.template.program cause), host)
  | .ok (invocation, directory) =>
      let deadline := (Instant.ofMilliseconds 0).after? (effectiveTimeout default request.limits)
      let stop := cutoff deadline request.limits
      conclude default host request.limits stop (runUntil stop host directory invocation)

def launcher (default : Duration) : Launcher := fun _ host request => launch default host request

end ArtifactTools.SystemLauncher
