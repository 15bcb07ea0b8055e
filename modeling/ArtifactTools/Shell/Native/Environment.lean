import ArtifactTools.Shell.Lookup
import ArtifactTools.Shell.Native.Basic

/-! The program that starts another one with other variables. -/

namespace ArtifactTools.Shell.Native

/-- What is asked of the environment: that it begin empty, which variables are taken away and which
are set, and the command with its arguments. -/
structure EnvironmentChange where
  isEmpty : Bool
  removed : List Text
  added : List (Text × Text)
  command : List Text

def splitBlanks (text : Text) : List Text :=
  let step (words : List Text) (character : Char) : List Text :=
    if Binary.Numeral.isSpace character then [] :: words
    else
      match words with
      | [] => [[character]]
      | word :: rest => (word ++ [character]) :: rest
  (text.foldl step []).reverse.filter fun word => !word.isEmpty

def shebangHint : Text := words "use -[v]S to pass options in shebang lines"

def splitVariables : List Text → List (Text × Text) × List Text
  | [] => ([], [])
  | operand :: rest =>
      let name := operand.takeWhile (· ≠ '=')
      if name.length = operand.length then ([], operand :: rest)
      else
        let (others, command) := splitVariables rest
        ((name, operand.drop (name.length + 1)) :: others, command)

/-- Reads the arguments. A text to be split stands for its words, among which are no more such
texts; faults are what is to be told. -/
def readEnvironment : Nat → List Text → Except (List Text) EnvironmentChange
  | 0, _ => .error []
  | fuel + 1, arguments =>
      let kinds : List OptionKind :=
        [flag 'i' "ignore-environment", textual 'u' "", textual 'S' ""]
      match readOptions true kinds arguments with
      | .error fault =>
          let isBlank := [' ', '\t'].any fun letter => fault = invalidLetter letter
          .error (fault :: if isBlank then [shebangHint] else [])
      | .ok (found, operands) =>
          match found.find? fun entry => entry.1 = 'S' with
          | some (_, text) =>
              let earlier := found.takeWhile fun entry => entry.1 ≠ 'S'
              (readEnvironment fuel (splitBlanks text ++ operands)).map fun change =>
                { change with
                  isEmpty := change.isEmpty || earlier.any (·.1 = 'i')
                  removed := (earlier.filter (·.1 = 'u')).map (·.2) ++ change.removed }
          | none =>
              let isMarked := operands.head? = some ['-']
              let operands := if isMarked then operands.drop 1 else operands
              let (added, command) := splitVariables operands
              .ok ⟨isMarked || found.any (·.1 = 'i'), (found.filter (·.1 = 'u')).map (·.2), added,
                command⟩

def EnvironmentChange.apply (change : EnvironmentChange) (machine : Machine) : Machine :=
  let start : Machine := if change.isEmpty then { machine with bindings := [] } else machine
  change.added.foldl
    (fun machine (name, value) =>
      machine.putVariable name { Variable.ofText value with exported := true })
    (change.removed.foldl Machine.forget start)

def environmentText (machine : Machine) : Text :=
  machine.bindings.reverse.flatMap fun (name, entry) =>
    match entry.text? with
    | some value => name ++ '=' :: value ++ ['\n']
    | none => []

def startFault (name command : Text) (error : HostError) : Nat × List Text :=
  let line := name ++ words ": " ++ cited command ++ words ": " ++ Machine.plainWording error
  if error = .missing then
    (127, line ::
      if command.any Binary.Numeral.isSpace then [name ++ words ": " ++ shebangHint] else [])
  else (126, [line])

def environment (name : Text) (arguments : List Text) : Running (Option Invocation) := do
  match readEnvironment 3 arguments with
  | .error faults => do
      misuse 125 name faults
      return none
  | .ok change =>
      match change.removed.find? fun removed => removed.isEmpty || removed.contains '=' with
      | some removed => do
          complain 125
            [name ++ words ": cannot unset " ++ cited removed ++ words ": Invalid argument"]
          return none
      | none => do
          modify change.apply
          let machine ← get
          match change.command with
          | [] => do
              say (environmentText machine)
              succeed
              return none
          | command :: arguments => do
              let path := (machine.valueOf? (words "PATH")).getD (words "/bin:/usr/bin")
              match startProgram machine (some path) command arguments with
              | .ok invocation => return some invocation
              | .error failure => do
                  let (status, lines) := startFault name command failure.error
                  complain status lines
                  return none

end ArtifactTools.Shell.Native
