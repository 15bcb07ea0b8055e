import ArtifactTools.Shell.Native.Basic
import ArtifactTools.Shell.Test

/-! The programs that test a condition. How the words are read hangs on their number where they are
at most four; more are read by precedence. -/

namespace ArtifactTools.Shell.Native.Condition

abbrev Reader := StateT Nat (Except Text)

structure Question where
  machine : Machine
  words : List Text

namespace Question

def word (question : Question) (place : Nat) : Text := question.words.getD place []

def count (question : Question) : Nat := question.words.length

end Question

def fail {α : Type} (fault : Text) : Reader α := throw fault

def beyond {α : Type} (question : Question) : Reader α :=
  fail (words "missing argument after " ++ cited (question.words.getLast?.getD []))

def advance (question : Question) (isNeeded : Bool) : Reader Unit := do
  modify (· + 1)
  if isNeeded && question.count ≤ (← get) then beyond question

def binaryOperators : List String :=
  ["=", "!=", "==", "-nt", "-ot", "-ef", "-eq", "-ne", "-lt", "-le", "-gt", "-ge"]

def isBinary (word : Text) : Bool := binaryOperators.contains (String.ofList word)

def integer (text : Text) : Reader Int := do
  let body := text.dropWhile Test.isSpace
  let (isNegative, body) :=
    match body with
    | '-' :: rest => (true, rest)
    | '+' :: rest => (false, rest)
    | rest => (false, rest)
  let digits := body.takeWhile isDigit
  if digits.isEmpty || !(body.drop digits.length).all Test.isSpace then
    fail (words "invalid integer " ++ cited text)
  else
    let size : Int := Decimal.value digits
    return if isNegative then -size else size

def compare (operator : String) (first second : Int) : Bool :=
  match operator with
  | "-eq" => first = second
  | "-ne" => first ≠ second
  | "-lt" => first < second
  | "-le" => first ≤ second
  | "-gt" => second < first
  | _ => second ≤ first

def isNewer (machine : Machine) (first second : Text) : Bool :=
  match Test.changeOf? machine first, Test.changeOf? machine second with
  | some first, some second => second < first
  | first?, second? => first?.isSome && second?.isNone

def binary (question : Question) (isLength : Bool) : Reader Bool := do
  if isLength then advance question false
  let start ← get
  let operator := String.ofList (question.word (start + 1))
  let isLengthToo :=
    start + 1 < question.count - 2 && question.word (start + 2) = ['-', 'l']
  if isLengthToo then advance question false
  let first := question.word start
  let second := question.word (start + 2)
  let number (isLength : Bool) (text after : Text) : Reader Int :=
    if isLength then return after.length else integer text
  let value ←
    match operator with
    | "=" | "==" => pure (decide (first = second))
    | "!=" => pure (decide (first ≠ second))
    | "-nt" | "-ot" | "-ef" => do
        if isLength || isLengthToo then fail (words (operator ++ " does not accept -l"))
        pure (match operator with
          | "-nt" => isNewer question.machine first second
          | "-ot" => isNewer question.machine second first
          | _ => Test.sameFile question.machine first second)
    | operator => do
        let left ← number isLength first first
        let right ← number isLengthToo second (question.word (start + 3))
        pure (compare operator left right)
  modify (· + 3)
  return value

def unary (question : Question) : Reader Bool := do
  let word := question.word (← get)
  let letter := word.getD 1 ' '
  if !("erwxOGfdsScbpLhgkuNtnz".contains letter) then
    fail (cited word ++ words ": unary operator expected")
  advance question true
  modify (· + 1)
  let operand := question.word ((← get) - 1)
  match letter with
  | 'n' => return !operand.isEmpty
  | 'z' => return operand.isEmpty
  | 't' => do
      discard (integer operand)
      return false
  | 'N' => return false
  | letter => return Test.testFile question.machine letter operand

def one (question : Question) : Reader Bool := do
  let word := question.word (← get)
  modify (· + 1)
  return !word.isEmpty

def isUnary (word : Text) : Bool :=
  match word with
  | ['-', _] => true
  | _ => false

def two (question : Question) : Reader Bool := do
  let word := question.word (← get)
  if word = ['!'] then
    advance question false
    return !(← one question)
  else if isUnary word then unary question
  else beyond question

mutual

def either (question : Question) : Nat → Reader Bool
  | 0 => return false
  | fuel + 1 => do
      let first ← both question fuel
      if question.words[← get]? = some ['-', 'o'] then
        advance question false
        let second ← either question fuel
        return first || second
      return first

def both (question : Question) : Nat → Reader Bool
  | 0 => return false
  | fuel + 1 => do
      let first ← term question fuel false
      if question.words[← get]? = some ['-', 'a'] then
        advance question false
        let second ← both question fuel
        return first && second
      return first

def term (question : Question) : Nat → Bool → Reader Bool
  | 0, _ => return false
  | fuel + 1, isNegated => do
      let start ← get
      let rest := question.words.drop start
      match rest with
      | [] => beyond question
      | ['!'] :: _ => do
          advance question true
          term question fuel !isNegated
      | ['('] :: _ => do
          advance question true
          let inside := question.words.drop (start + 1)
          let before := (inside.drop 1).takeWhile (· ≠ [')'])
          let isShort := before.length < 4 && before.length + 1 ≤ inside.length
          let value ← posix question fuel (if isShort then before.length + 1 else inside.length)
          match question.words[← get]? with
          | none => fail (cited [')'] ++ words " expected")
          | some [')'] => do
              advance question false
              return isNegated != value
          | some found => fail (cited [')'] ++ words " expected, found " ++ cited found)
      | first :: others => do
          let value ←
            if 4 ≤ rest.length && first = ['-', 'l'] && isBinary (rest.getD 2 []) then
              binary question true
            else if 3 ≤ rest.length && isBinary (others.getD 0 []) then binary question false
            else if isUnary first then unary question
            else one question
          return isNegated != value

def posix (question : Question) : Nat → Nat → Reader Bool
  | 0, _ => return false
  | fuel + 1, count => do
      let start ← get
      let whole : Reader Bool := do
        if question.count ≤ start then beyond question
        either question fuel
      match count with
      | 1 => one question
      | 2 => two question
      | 3 => three question fuel
      | 4 =>
          if question.word start = ['!'] then
            advance question true
            return !(← three question fuel)
          else if question.word start = ['('] && question.word (start + 3) = [')'] then
            advance question false
            let value ← two question
            advance question false
            return value
          else whole
      | _ => whole

def three (question : Question) : Nat → Reader Bool
  | 0 => return false
  | fuel + 1 => do
      let start ← get
      let middle := question.word (start + 1)
      if isBinary middle then binary question false
      else if question.word start = ['!'] then
        advance question true
        return !(← two question)
      else if question.word start = ['('] && question.word (start + 2) = [')'] then
        advance question false
        let value ← one question
        advance question false
        return value
      else if middle = ['-', 'a'] || middle = ['-', 'o'] then
        if question.count ≤ start then beyond question
        either question fuel
      else fail (cited middle ++ words ": binary operator expected")

end

def evaluate (machine : Machine) (arguments : List Text) : Except Text Bool :=
  if arguments.isEmpty then .ok false
  else
    let question : Question := ⟨machine, arguments⟩
    match (posix question (8 * arguments.length + 8) arguments.length).run 0 with
    | .error fault => .error fault
    | .ok (value, place) =>
        if place < arguments.length then
          .error (words "extra argument " ++ cited (question.word place))
        else .ok value

end ArtifactTools.Shell.Native.Condition

namespace ArtifactTools.Shell.Native

def test (isBracketed : Bool) (name : Text) (arguments : List Text) : Running Unit := do
  let options : List Text := [words "--help", words "--version"]
  if isBracketed && arguments.length = 1 && arguments.all options.contains then succeed
  else if isBracketed && arguments.getLast? ≠ some [']'] then
    blame 2 name (words "missing " ++ cited [']'])
  else
    match Condition.evaluate (← get) (if isBracketed then arguments.dropLast else arguments) with
    | .ok value => modify fun machine => machine.fail (if value then 0 else 1)
    | .error fault => blame 2 name fault

end ArtifactTools.Shell.Native
