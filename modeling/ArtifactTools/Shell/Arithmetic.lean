import ArtifactTools.Shell.Command
import ArtifactTools.Text.Hexadecimal
import ArtifactTools.Text.Decimal

/-! Arithmetic of the shell: whole numbers of sixty-four bits, operators by precedence, and names
that stand for the numbers in their variables. What an operator does not need is read but not
evaluated. -/

namespace ArtifactTools.Shell.Arithmetic

structure Scope where
  lookup : Text → Text
  assigned : List (Text × Int)

def range : Nat := Nat.pow 2 64

def greatest : Int := Nat.pow 2 63 - 1

def least : Int := -Nat.pow 2 63

def wrap (number : Int) : Int :=
  if least ≤ number && number ≤ greatest then number else Int.bmod number range

inductive Fault where
  | expecting (what : String)
  | divisionByZero
  | quotientTooLarge
  | illegalNumber (text : Text)
  deriving DecidableEq, Repr

def isBlank (character : Char) : Bool := " \t\n".contains character

def digitsInBase (base : Nat) (characters : Text) : Text :=
  characters.takeWhile fun character =>
    (Hexadecimal.value? character).any fun digit => digit < base

def valueInBase (base : Nat) (digits : Text) : Nat :=
  digits.foldl (fun sum digit => sum * base + (Hexadecimal.value? digit).getD 0) 0

def markedBase? (first mark : Char) : Option Nat :=
  if first ≠ '0' then none
  else if mark = 'x' || mark = 'X' then some 16
  else if mark = 'b' || mark = 'B' then some 2
  else none

/-- The numeral at the beginning, and what follows it: hexadecimal after `0x`, binary after `0b`,
octal after `0`. -/
def leadingNumeral (characters : Text) : Nat × Text :=
  let inBase (base : Nat) (characters : Text) : Nat × Text :=
    let digits := digitsInBase base characters
    (valueInBase base digits, characters.drop digits.length)
  match characters with
  | first :: mark :: rest =>
      let marked := (markedBase? first mark).filter fun base => !(digitsInBase base rest).isEmpty
      match marked with
      | some base => inBase base rest
      | none => inBase (if first = '0' then 8 else 10) characters
  | characters => inBase 10 characters

def isSpace (character : Char) : Bool := " \t\n\x0b\x0c\r".contains character

def leadingSign : Text → Bool × Text
  | '-' :: rest => (true, rest)
  | '+' :: rest => (false, rest)
  | rest => (false, rest)

/-- The number in a text, with blanks around it; a text of blanks alone is zero. Numbers beyond
sixty-four bits are illegal. -/
def numberOf? (text : Text) : Option Int :=
  let (negative, body) := leadingSign (text.dropWhile isSpace)
  if body.head?.any isDigit then
    let (size, rest) := leadingNumeral body
    let number : Int := if negative then -size else size
    if rest.all isSpace && least ≤ number && number ≤ greatest then some number else none
  else if text.all isSpace then some 0
  else none

def Scope.get (scope : Scope) (name : Text) : Except Fault Int :=
  match scope.assigned.lookup name with
  | some number => .ok number
  | none =>
      match numberOf? (scope.lookup name) with
      | some number => .ok number
      | none => .error (.illegalNumber (scope.lookup name))

def ofBool (value : Bool) : Int := if value then 1 else 0

def bitwise (operation : UInt64 → UInt64 → UInt64) (first second : Int) : Int :=
  (operation (Int64.ofInt first).toUInt64 (Int64.ofInt second).toUInt64).toInt64.toInt

inductive Symbol where
  | number (value : Int)
  | name (text : Text)
  | operator (text : String)
  | strange
  deriving DecidableEq, Repr

def operators : List String :=
  ["<<=", ">>=", "||", "&&", "==", "!=", "<=", ">=", "<<", ">>", "+=", "-=", "*=", "/=", "%=",
    "&=", "|=", "^=", "=", "<", ">", "+", "-", "*", "/", "%", "&", "|", "^", "~", "!", "?", ":",
    "(", ")"]

def operatorTable : List (Text × String) := operators.map fun text => (text.toList, text)

def symbols : Nat → Text → List Symbol
  | 0, _ => []
  | _ + 1, [] => []
  | fuel + 1, character :: rest =>
      if isBlank character then symbols fuel rest
      else if isDigit character then
        let (value, after) := leadingNumeral (character :: rest)
        .number (min value greatest) :: symbols fuel after
      else if isNameStart character then
        let name := (character :: rest).takeWhile isNameCharacter
        .name name :: symbols fuel ((character :: rest).drop name.length)
      else
        match operatorTable.find? fun row => row.1.isPrefixOf (character :: rest) with
        | some (text, operator) =>
            .operator operator :: symbols fuel ((character :: rest).drop text.length)
        | none => [.strange]

def precedence? : String → Option Nat
  | "*" | "/" | "%" => some 0
  | "+" | "-" => some 1
  | "<<" | ">>" => some 2
  | "<" | "<=" | ">" | ">=" => some 3
  | "==" | "!=" => some 4
  | "&" => some 5
  | "^" => some 6
  | "|" => some 7
  | _ => none

def apply (operator : String) (first second : Int) : Except Fault Int :=
  match operator with
  | "==" => .ok (ofBool (first = second))
  | "!=" => .ok (ofBool (first ≠ second))
  | "<=" => .ok (ofBool (first ≤ second))
  | ">=" => .ok (ofBool (second ≤ first))
  | "<" => .ok (ofBool (first < second))
  | ">" => .ok (ofBool (second < first))
  | "|" => .ok (bitwise (· ||| ·) first second)
  | "^" => .ok (bitwise (· ^^^ ·) first second)
  | "&" => .ok (bitwise (· &&& ·) first second)
  | "<<" => .ok (wrap (first * Nat.pow 2 (second % 64).toNat))
  | ">>" => .ok (first / Nat.pow 2 (second % 64).toNat)
  | "+" => .ok (wrap (first + second))
  | "-" => .ok (wrap (first - second))
  | "*" => .ok (wrap (first * second))
  | _ =>
      if second = 0 then .error .divisionByZero
      else if first = least && second = -1 then .error .quotientTooLarge
      else .ok (if operator = "/" then Int.tdiv first second else Int.tmod first second)

def assignment? : String → Option (Option String)
  | "=" => some none
  | text =>
      if ["==", "!=", "<=", ">="].contains text then none
      else
        match text.toList.reverse with
        | '=' :: reversed => some (some (String.ofList reversed.reverse))
        | _ => none

abbrev Result := Except Fault (Int × Scope × List Symbol)

mutual

def expression : Nat → Bool → Scope → List Symbol → Result
  | 0, _, _, _ => .error (.expecting "primary")
  | fuel + 1, idle, scope, symbols =>
      match symbols with
      | .name name :: .operator text :: rest =>
          match assignment? text with
          | none => choice fuel idle scope symbols
          | some operator => do
              let (value, scope, rest) ← expression fuel idle scope rest
              if idle then return (value, scope, rest)
              let value ←
                match operator with
                | none => pure value
                | some operator => do
                    let old ← scope.get name
                    apply operator old value
              return (value, { scope with assigned := (name, value) :: scope.assigned }, rest)
      | symbols => choice fuel idle scope symbols

def choice : Nat → Bool → Scope → List Symbol → Result
  | 0, _, _, _ => .error (.expecting "primary")
  | fuel + 1, idle, scope, symbols => do
      let (test, scope, rest) ← disjunction fuel idle scope symbols
      match rest with
      | .operator "?" :: rest =>
          let (yes, scope, rest) ← expression fuel (idle || test = 0) scope rest
          match rest with
          | .operator ":" :: rest =>
              let (no, scope, rest) ← choice fuel (idle || test ≠ 0) scope rest
              return (if test ≠ 0 then yes else no, scope, rest)
          | _ => throw (.expecting "':'")
      | rest => return (test, scope, rest)

def disjunction : Nat → Bool → Scope → List Symbol → Result
  | 0, _, _, _ => .error (.expecting "primary")
  | fuel + 1, idle, scope, symbols => do
      let (first, scope, rest) ← conjunction fuel idle scope symbols
      match rest with
      | .operator "||" :: rest =>
          let (second, scope, rest) ← disjunction fuel (idle || first ≠ 0) scope rest
          return (ofBool (first ≠ 0 || second ≠ 0), scope, rest)
      | rest => return (first, scope, rest)

def conjunction : Nat → Bool → Scope → List Symbol → Result
  | 0, _, _, _ => .error (.expecting "primary")
  | fuel + 1, idle, scope, symbols => do
      let (first, scope, rest) ← binary fuel idle 8 scope symbols
      match rest with
      | .operator "&&" :: rest =>
          let (second, scope, rest) ← conjunction fuel (idle || first = 0) scope rest
          return (ofBool (first ≠ 0 && second ≠ 0), scope, rest)
      | rest => return (first, scope, rest)

def binary : Nat → Bool → Nat → Scope → List Symbol → Result
  | 0, _, _, _, _ => .error (.expecting "primary")
  | fuel + 1, idle, limit, scope, symbols => do
      let (first, scope, rest) ← operand fuel idle scope symbols
      binaryAfter fuel idle limit first scope rest

def binaryAfter : Nat → Bool → Nat → Int → Scope → List Symbol → Result
  | 0, _, _, _, _, _ => .error (.expecting "primary")
  | fuel + 1, idle, limit, first, scope, symbols =>
      match symbols with
      | .operator text :: rest =>
          match precedence? text with
          | none => .ok (first, scope, symbols)
          | some precedence =>
              if limit ≤ precedence then .ok (first, scope, symbols)
              else do
                let (second, scope, rest) ← binary fuel idle precedence scope rest
                let value ← if idle then pure second else apply text first second
                binaryAfter fuel idle limit value scope rest
      | symbols => .ok (first, scope, symbols)

def operand : Nat → Bool → Scope → List Symbol → Result
  | 0, _, _, _ => .error (.expecting "primary")
  | fuel + 1, idle, scope, symbols =>
      match symbols with
      | .number value :: rest => .ok (value, scope, rest)
      | .name name :: rest =>
          if idle then .ok (0, scope, rest)
          else (scope.get name).map fun value => (value, scope, rest)
      | .operator "(" :: rest => do
          let (value, scope, rest) ← expression fuel idle scope rest
          match rest with
          | .operator ")" :: rest => return (value, scope, rest)
          | _ => throw (.expecting "')'")
      | .operator "+" :: rest => operand fuel idle scope rest
      | .operator "-" :: rest => do
          let (value, scope, rest) ← operand fuel idle scope rest
          return (wrap (-value), scope, rest)
      | .operator "!" :: rest => do
          let (value, scope, rest) ← operand fuel idle scope rest
          return (ofBool (value = 0), scope, rest)
      | .operator "~" :: rest => do
          let (value, scope, rest) ← operand fuel idle scope rest
          return (-value - 1, scope, rest)
      | _ => .error (.expecting "primary")

end

def evaluate (scope : Scope) (characters : Text) : Except Fault (Int × Scope) :=
  let symbols := symbols (characters.length + 1) characters
  match expression (8 * symbols.length + 16) false scope symbols with
  | .error fault => .error fault
  | .ok (value, scope, []) => .ok (value, scope)
  | .ok _ => .error (.expecting "EOF")

end ArtifactTools.Shell.Arithmetic
