import ArtifactTools.Regex.Reader
import ArtifactTools.Shell.Native.Basic

/-! The program that evaluates an expression whose parts are its arguments: numbers of any size,
texts, comparisons, and the match of a text with a regular expression. -/

namespace ArtifactTools.Shell.Native.Expression

inductive Value where
  | number (value : Int)
  | text (text : Text)
  deriving DecidableEq, Repr

def Value.toText : Value → Text
  | .number value => Decimal.intDigits value
  | .text content => content

def integer? (text : Text) : Option Int :=
  let (isNegative, digits) :=
    match text with
    | '-' :: rest => (true, rest)
    | rest => (false, rest)
  if digits.isEmpty || !digits.all isDigit then none
  else
    let size : Int := Decimal.value digits
    some (if isNegative then -size else size)

def Value.toInteger? : Value → Option Int
  | .number value => some value
  | .text content => integer? content

def Value.isNull : Value → Bool
  | .number value => value = 0
  | .text [] => true
  | .text content =>
      match content with
      | ['-'] => false
      | '-' :: rest | rest => rest.all (· = '0')

abbrev Reader := StateT (List Text) (Except Text)

def former (all rest : List Text) : Text := all.getD (all.length - rest.length - 1) []

def accept (word : String) : Reader Bool := do
  match ← get with
  | next :: rest =>
      if next = word.toList then
        set rest
        return true
      return false
  | [] => return false

def syntaxFault {α : Type} (fault : Text) : Reader α := throw (words "syntax error: " ++ fault)

def next (all : List Text) : Reader Text := do
  match ← get with
  | [] => syntaxFault (words "missing argument after " ++ cited (former all []))
  | word :: rest => do
      set rest
      return word

/-- The match of a text with an expression: what its first group has matched, or how many characters
it takes. -/
def colon (subject pattern : Text) : Except Text Value :=
  match Regex.read .comparison pattern with
  | .error fault => .error (words fault.message)
  | .ok regex =>
      let hasGroup := 0 < regex.groupCount
      match regex.matchStart? subject with
      | none => .ok (if hasGroup then .text [] else .number 0)
      | some found =>
          .ok (if hasGroup then .text ((found.group? subject 1).getD [])
            else .number found.stop)

def integers (first second : Value) : Except Text (Int × Int) :=
  match first.toInteger?, second.toInteger? with
  | some first, some second => .ok (first, second)
  | _, _ => .error (words "non-integer argument")

def calculate (operator : String) (first second : Value) : Except Text Value := do
  let (first, second) ← integers first second
  match operator with
  | "+" => return .number (first + second)
  | "-" => return .number (first - second)
  | "*" => return .number (first * second)
  | operator =>
      if second = 0 then throw (words "division by zero")
      return .number (if operator = "/" then Int.tdiv first second else Int.tmod first second)

def compare (operator : String) (first second : Value) : Value :=
  let order : Ordering :=
    match integer? first.toText, integer? second.toText with
    | some first, some second => compareOfLessAndEq first second
    | _, _ => compareOfLessAndEq first.toText.toOctets second.toText.toOctets
  let holds : Bool :=
    match operator with
    | "<" => order = .lt
    | "<=" => order ≠ .gt
    | "=" | "==" => order = .eq
    | "!=" => order ≠ .eq
    | ">=" => order ≠ .lt
    | _ => order = .gt
  .number (if holds then 1 else 0)

def acceptAny : List String → Reader (Option String)
  | [] => return none
  | word :: rest => do if ← accept word then return some word else acceptAny rest

def operators : Nat → List String
  | 0 => ["|"]
  | 1 => ["&"]
  | 2 => ["<=", "<", "==", "=", "!=", ">=", ">"]
  | 3 => ["+", "-"]
  | 4 => ["*", "/", "%"]
  | _ => [":"]

def apply (operator : String) (level : Nat) (first second : Value) : Except Text Value :=
  match level with
  | 0 =>
      .ok (if !first.isNull then first else if second.isNull then .number 0 else second)
  | 1 => .ok (if first.isNull || second.isNull then .number 0 else first)
  | 2 => .ok (compare operator first second)
  | 3 | 4 => calculate operator first second
  | _ => colon first.toText second.toText

mutual

def atLevel (all : List Text) : Nat → Nat → Bool → Reader Value
  | 0, _, _ => syntaxFault (words "unexpected end")
  | fuel + 1, level, idle => do
      if 5 < level then keyword all fuel idle
      else after all fuel level idle (← atLevel all fuel (level + 1) idle)

def after (all : List Text) : Nat → Nat → Bool → Value → Reader Value
  | 0, _, _, value => return value
  | fuel + 1, level, idle, first => do
      match ← acceptAny (operators level) with
      | none => return first
      | some operator => do
          let isSettled :=
            (level = 0 && !first.isNull) || (level = 1 && first.isNull)
          let second ← atLevel all fuel (level + 1) (idle || isSettled)
          if idle && 1 < level then after all fuel level idle first
          else
            match apply operator level first second with
            | .error fault => throw fault
            | .ok value => after all fuel level idle value

def keyword (all : List Text) : Nat → Bool → Reader Value
  | 0, _ => syntaxFault (words "unexpected end")
  | fuel + 1, idle => do
      if ← accept "+" then return .text (← next all)
      else if ← accept "length" then
        let value ← keyword all fuel idle
        return .number value.toText.length
      else if ← accept "match" then
        let first ← keyword all fuel idle
        let second ← keyword all fuel idle
        if idle then return first
        match colon first.toText second.toText with
        | .error fault => throw fault
        | .ok value => return value
      else if ← accept "index" then
        let text := (← keyword all fuel idle).toText
        let sought := (← keyword all fuel idle).toText
        let place := text.findIdx? fun character => sought.contains character
        return .number (((place.map (· + 1)).getD 0 : Nat) : Int)
      else if ← accept "substr" then
        let text := (← keyword all fuel idle).toText
        let start := (← keyword all fuel idle).toInteger?
        let count := (← keyword all fuel idle).toInteger?
        match start, count with
        | some start, some count =>
            if start ≤ 0 || count ≤ 0 then return .text []
            else return .text ((text.drop (start.toNat - 1)).take count.toNat)
        | _, _ => return .text []
      else
        if (← get).isEmpty then
          syntaxFault (words "missing argument after " ++ cited (former all []))
        if ← accept "(" then
          let value ← atLevel all fuel 0 idle
          match ← get with
          | [] => syntaxFault (words "expecting ')' after " ++ cited (former all []))
          | found :: rest =>
              if found ≠ [')'] then
                syntaxFault (words "expecting ')' instead of " ++ cited found)
              set rest
              return value
        else if ← accept ")" then syntaxFault (words "unexpected ')'")
        else return .text (← next all)

end

def evaluate (arguments : List Text) : Except Text Value :=
  match (atLevel arguments (16 * arguments.length + 32) 0 false).run arguments with
  | .error fault => .error fault
  | .ok (value, []) => .ok value
  | .ok (_, extra :: _) =>
      .error (words "syntax error: unexpected argument " ++ cited extra)

end ArtifactTools.Shell.Native.Expression

namespace ArtifactTools.Shell.Native

def calculate (name : Text) (arguments : List Text) : Running Unit := do
  let arguments := if arguments.head? = some ['-', '-'] then arguments.drop 1 else arguments
  let options : List Text := [words "--help", words "--version"]
  match arguments with
  | [] => misuse 2 name [words "missing operand"]
  | arguments =>
      if arguments.length = 1 && arguments.all options.contains then succeed
      else
        match Expression.evaluate arguments with
        | .error fault => blame 2 name fault
        | .ok value => do
            modify fun machine => machine.fail (if value.isNull then 1 else 0)
            say (value.toText ++ ['\n'])

end ArtifactTools.Shell.Native
