import ArtifactTools.Shell.Assigning
import ArtifactTools.Shell.Builtin.Basic
import ArtifactTools.Shell.Test

/-! What the shell's own commands of the extended dialect have in common. They tell what is wrong
themselves and give a status; none of them ends the shell. -/

namespace ArtifactTools.Shell.Extended

def refuse (status : Nat) (message : Text) : Doing Nat := do
  Doing.complain message
  return status

def usage (synopsis : String) : Doing Nat := do
  let name := (← get).command.getD []
  let synopsis := if synopsis.isEmpty then [] else ' ' :: words synopsis
  Doing.remark (name ++ words ": usage: " ++ name ++ synopsis)
  return 2

def readLetters (allowed : List (Char × Bool)) :
    Nat → Text → List Text → Except Text (List (Char × Text) × List Text)
  | 0, _, rest => .ok ([], rest)
  | _ + 1, [], ['-', '-'] :: rest => .ok ([], rest)
  | fuel + 1, [], ('-' :: letter :: letters) :: rest =>
      readLetters allowed fuel (letter :: letters) rest
  | _ + 1, [], rest => .ok ([], rest)
  | fuel + 1, letter :: letters, rest =>
      let add (text letters : Text) (rest : List Text) :
          Except Text (List (Char × Text) × List Text) :=
        (readLetters allowed fuel letters rest).map fun (others, rest) =>
          ((letter, text) :: others, rest)
      match allowed.lookup letter with
      | none => .error (['-', letter] ++ words ": invalid option")
      | some false => add [] letters rest
      | some true =>
          match letters, rest with
          | [], [] => .error (['-', letter] ++ words ": option requires an argument")
          | [], text :: rest => add text [] rest
          | text, rest => add text [] rest

def options (allowed : List (Char × Bool)) (synopsis : String) (arguments : List Text) :
    Doing (Option (List (Char × Text) × List Text)) := do
  let fuel := arguments.foldl (fun sum argument => sum + argument.length + 1) 1
  match readLetters allowed fuel [] arguments with
  | .ok found => return some found
  | .error message => do
      Doing.complain message
      discard (usage synopsis)
      return none

def has (found : List (Char × Text)) (letter : Char) : Bool := (found.lookup letter).isSome

def integer? (text : Text) : Option Int := Test.integer? text

def settle (answer : Bool × Machine) : Doing Bool := do
  set answer.2
  return answer.1

def unnamed (action : Doing Bool) : Doing Bool := do
  let command := (← get).command
  modify fun machine => { machine with command := none }
  let isDone ← action
  modify fun machine => { machine with command }
  return isDone

def assignTo (target value : Text) : Doing Bool := do
  let (name, _) := Machine.splitSubscript target
  if !isName name then
    Doing.complain (Assigning.invalidName target)
    return false
  unnamed do settle (Assigning.assignTo (← get) target value)

def forEach {α : Type} (items : List α) (act : α → Doing Nat) : Doing Nat := do
  let statuses ← items.mapM act
  return statuses.foldl max 0

end ArtifactTools.Shell.Extended
