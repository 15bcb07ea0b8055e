import ArtifactTools.Shell.Checks
import ArtifactTools.Shell.Extended.Doing

/-! The command that tests files, texts and numbers, in the extended dialect. What up to four words
mean hangs on their number; more of them are joined by operators. -/

namespace ArtifactTools.Shell.Extended.Test

abbrev Result := Except Text (Bool × List Text)

def isBinary (word : Text) : Bool :=
  ["=", "==", "!=", "<", ">", "-eq", "-ne", "-lt", "-le", "-gt", "-ge", "-nt", "-ot",
    "-ef"].contains (String.ofList word)

def isUnary (word : Text) : Bool :=
  match word with
  | ['-', letter] => "abcdefghknoprstuvwxzGLNORS".contains letter
  | _ => false

def argumentExpected : Text := words "argument expected"

def compare (machine : Machine) (first operator second : Text) : Except Text Bool :=
  let name := String.ofList operator
  match Checks.comparison? name with
  | some test => do
      let number (text : Text) : Except Text Int :=
        match Shell.Test.integer? text with
        | some number => .ok number
        | none => .error (text ++ words ": integer expression expected")
      return test (← number first) (← number second)
  | none =>
      match name with
      | "=" | "==" => .ok (first = second)
      | "!=" => .ok (first ≠ second)
      | _ => .ok (Checks.binary machine first name second)

def two (machine : Machine) (first second : Text) : Except Text Bool :=
  if first = ['!'] then .ok second.isEmpty
  else if isUnary first then .ok (Checks.unary machine first second)
  else .error (first ++ words ": unary operator expected")

def three (machine : Machine) (first second third : Text) : Except Text Bool :=
  if isBinary second then compare machine first second third
  else if second = ['-', 'a'] then .ok (!first.isEmpty && !third.isEmpty)
  else if second = ['-', 'o'] then .ok (!first.isEmpty || !third.isEmpty)
  else if first = ['!'] then (two machine second third).map (!·)
  else if first = ['('] && third = [')'] then .ok !second.isEmpty
  else .error (second ++ words ": binary operator expected")

mutual

def either (machine : Machine) : Nat → List Text → Result
  | 0, rest => .ok (false, rest)
  | fuel + 1, rest => do
      let (first, rest) ← both machine fuel rest
      match rest with
      | ['-', 'o'] :: rest =>
          let (second, rest) ← either machine fuel rest
          return (first || second, rest)
      | rest => return (first, rest)

def both (machine : Machine) : Nat → List Text → Result
  | 0, rest => .ok (false, rest)
  | fuel + 1, rest => do
      let (first, rest) ← term machine fuel rest
      match rest with
      | ['-', 'a'] :: rest =>
          let (second, rest) ← both machine fuel rest
          return (first && second, rest)
      | rest => return (first, rest)

def term (machine : Machine) : Nat → List Text → Result
  | 0, rest => .ok (false, rest)
  | fuel + 1, rest => do
      match rest with
      | [] => throw argumentExpected
      | ['!'] :: rest =>
          if rest.isEmpty then throw argumentExpected
          let (value, rest) ← term machine fuel rest
          return (!value, rest)
      | ['('] :: rest =>
          if rest.isEmpty then throw argumentExpected
          let (value, rest) ← either machine fuel rest
          match rest with
          | [] => throw (words "\x60)' expected")
          | [')'] :: rest => return (value, rest)
          | word :: _ => throw (words "\x60)' expected, found " ++ word)
      | first :: second :: third :: rest =>
          if isBinary second then
            return (← compare machine first second third, rest)
          else if isUnary first then return (Checks.unary machine first second, third :: rest)
          else return (!first.isEmpty, second :: third :: rest)
      | [first, second] =>
          if isUnary first then return (Checks.unary machine first second, [])
          else return (!first.isEmpty, [second])
      | [first] => return (!first.isEmpty, [])

termination_by structural fuel => fuel
end

def evaluate (machine : Machine) (arguments : List Text) : Except Text Bool :=
  let whole : Except Text Bool := do
    let (value, rest) ← either machine (8 * arguments.length + 8) arguments
    match rest with
    | [] => return value
    | word :: _ =>
        if word.head? = some '-' then
          throw (words "syntax error: \x60" ++ word ++ words "' unexpected")
        else throw (words "too many arguments")
  match arguments with
  | [] => .ok false
  | [word] => .ok !word.isEmpty
  | [first, second] => two machine first second
  | [first, second, third] => three machine first second third
  | [first, second, third, fourth] =>
      if first = ['!'] then (three machine second third fourth).map (!·)
      else if first = ['('] && fourth = [')'] then two machine second third
      else whole
  | _ => whole

end Test

def test (arguments : List Text) : Doing Nat := do
  match Test.evaluate (← get) arguments with
  | .ok value => return if value then 0 else 1
  | .error message => refuse 2 message

def bracketTest (arguments : List Text) : Doing Nat := do
  if arguments.getLast? = some [']'] then test arguments.dropLast
  else refuse 2 (words "missing \x60]'")

end ArtifactTools.Shell.Extended
