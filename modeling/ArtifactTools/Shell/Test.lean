import ArtifactTools.Shell.Machine

/-! Tests of files, texts and numbers, joined by operators. How a word is read hangs on the words
after it: an operator that has nothing to work on is an operand. -/

namespace ArtifactTools.Shell.Test

inductive Arity where
  | unary
  | binary
  | other
  deriving DecidableEq, Repr

def operators : List (String × Arity) :=
  ["-r", "-w", "-x", "-e", "-f", "-d", "-c", "-b", "-p", "-u", "-g", "-k", "-s", "-t", "-z", "-n",
      "-h", "-O", "-G", "-L", "-S"].map (·, .unary) ++
    ["=", "!=", "<", ">", "-eq", "-ne", "-ge", "-gt", "-le", "-lt", "-nt", "-ot", "-ef"].map
      (·, .binary) ++
    ["!", "-a", "-o", "(", ")"].map (·, .other)

def operatorTable : List (Text × String × Arity) :=
  operators.map fun row => (row.1.toList, row)

def operator? (word : Text) : Option (String × Arity) := operatorTable.lookup word

def isBinary (word : Text) : Bool := (operator? word).any fun row => row.2 = .binary

def standsAlone : List Text → Bool
  | [] => true
  | [_] => false
  | next :: _ => isBinary next

inductive Lexeme where
  | ending
  | operand
  | operator (text : String) (arity : Arity)
  deriving DecidableEq, Repr

def lexeme : List Text → Lexeme
  | [] => .ending
  | word :: rest =>
      match operator? word with
      | none => .operand
      | some (text, arity) =>
          if (arity = .unary && standsAlone rest) || (text = "(" && rest.isEmpty) then .operand
          else .operator text arity

def Lexeme.is (lexeme : Lexeme) (text : String) : Bool :=
  match lexeme with
  | .operator other _ => other = text
  | _ => false

def testFile (machine : Machine) (test : Char) (name : Text) : Bool :=
  let path : Path := ⟨name.toOctets⟩
  let found :=
    if test = 'h' || test = 'L' then machine.tree.findName machine.directory path
    else machine.tree.find machine.directory path
  match found with
  | .error _ => false
  | .ok (_, .link _) => test ≠ 'd' && "ehLOGrw".contains test
  | .ok (_, node) =>
      match machine.targetOf? node with
      | none => false
      | some target =>
          match test, target with
          | 'e', _ | 'O', _ | 'G', _ => true
          | 'r', _ => machine.tree.permits node FileTree.readBit
          | 'w', _ => machine.tree.permits node FileTree.writeBit
          | 'x', _ => machine.tree.permits node FileTree.passBit
          | 'd', .directory => true
          | 'f', .file _ | 'f', .program => true
          | 's', .file number => (machine.tree.files[number]?).any fun file => file.size ≠ 0
          | 's', .directory | 's', .program => true
          | 'c', .device _ => true
          | 'p', .pipe _ => true
          | _, _ => false

def sameFile (machine : Machine) (first second : Text) : Bool :=
  match machine.tree.find machine.directory ⟨first.toOctets⟩,
      machine.tree.find machine.directory ⟨second.toOctets⟩ with
  | .ok (_, .file first), .ok (_, .file second) => first = second
  | .ok (first, _), .ok (second, _) => first = second
  | _, _ => false

def changeOf? (machine : Machine) (name : Text) : Option Nat :=
  match machine.tree.find machine.directory ⟨name.toOctets⟩ with
  | .ok (_, node) => some (((machine.tree.fileOf? node).map (·.modified)).getD 0)
  | .error _ => none

/-- Whether the first of two files has been changed after the second. In the extended dialect one
that is there counts as newer than one that is not. -/
def isNewer (machine : Machine) (first second : Text) : Bool :=
  match changeOf? machine first, changeOf? machine second with
  | some first, some second => second < first
  | some _, none => machine.isExtended
  | none, _ => false

def isSpace (character : Char) : Bool := " \t\n\x0b\x0c\r".contains character

def integerRange : Nat := Nat.pow 2 63

def integer? (text : Text) : Option Int :=
  let body := text.dropWhile isSpace
  let (negative, body) :=
    match body with
    | '-' :: rest => (true, rest)
    | '+' :: rest => (false, rest)
    | rest => (false, rest)
  let digits := body.takeWhile isDigit
  let size := Decimal.value digits
  if digits.isEmpty || !(body.drop digits.length).all isSpace ||
      integerRange + (if negative then 1 else 0) ≤ size then none
  else some (if negative then -size else size)

def integer (text : Text) : Except Text Int :=
  match integer? text with
  | some value => .ok value
  | none => .error (Machine.illegalNumber text)

def unary (machine : Machine) (operator : String) (operand : Text) : Except Text Bool :=
  match operator with
  | "-n" => .ok !operand.isEmpty
  | "-z" => .ok operand.isEmpty
  | "-t" => (integer operand).map fun _ => false
  | text => .ok (testFile machine (text.toList.getLast?.getD 'e') operand)

def binary (machine : Machine) (first : Text) (operator : String) (second : Text) :
    Except Text Bool :=
  let compare (test : Int → Int → Bool) : Except Text Bool := do
    return test (← integer first) (← integer second)
  match operator with
  | "=" => .ok (first = second)
  | "!=" => .ok (first ≠ second)
  | "<" => .ok (decide (first < second))
  | ">" => .ok (decide (second < first))
  | "-eq" => compare fun first second => first = second
  | "-ne" => compare fun first second => first ≠ second
  | "-ge" => compare fun first second => second ≤ first
  | "-gt" => compare fun first second => second < first
  | "-le" => compare fun first second => first ≤ second
  | "-lt" => compare fun first second => first < second
  | "-ef" => .ok (sameFile machine first second)
  | "-nt" => .ok (isNewer machine first second)
  | "-ot" => .ok (isNewer machine second first)
  | _ => .ok false

abbrev Result := Except Text (Bool × List Text)

mutual

def either (machine : Machine) : Nat → Lexeme → List Text → Result
  | 0, _, rest => .ok (false, rest)
  | fuel + 1, found, rest => do
      let (first, rest) ← both machine fuel found rest
      if (lexeme (rest.drop 1)).is "-o" then
        let rest := rest.drop 2
        let (second, rest) ← either machine fuel (lexeme rest) rest
        return (first || second, rest)
      return (first, rest)

def both (machine : Machine) : Nat → Lexeme → List Text → Result
  | 0, _, rest => .ok (false, rest)
  | fuel + 1, found, rest => do
      let (first, rest) ← negation machine fuel found rest
      if (lexeme (rest.drop 1)).is "-a" then
        let rest := rest.drop 2
        let (second, rest) ← both machine fuel (lexeme rest) rest
        return (first && second, rest)
      return (first, rest)

def negation (machine : Machine) : Nat → Lexeme → List Text → Result
  | 0, _, rest => .ok (false, rest)
  | fuel + 1, found, rest =>
      if found.is "!" then do
        let following := lexeme (rest.drop 1)
        let (value, rest) ←
          negation machine fuel following (if following = .ending then rest else rest.drop 1)
        return (!value, rest)
      else single machine fuel found rest

def single (machine : Machine) : Nat → Lexeme → List Text → Result
  | 0, _, rest => .ok (false, rest)
  | fuel + 1, found, rest => do
      if found = .ending then return (false, rest)
      if found.is "(" then
        let inside := rest.drop 1
        if (lexeme inside).is ")" then return (false, inside)
        let (value, rest) ← either machine fuel (lexeme inside) inside
        if (lexeme (rest.drop 1)).is ")" then return (value, rest.drop 1)
        throw (words "closing paren expected")
      match found, rest with
      | .operator text .unary, _ :: operand :: rest =>
          return (← unary machine text operand, operand :: rest)
      | .operator text .unary, _ => throw (words (text ++ ": argument expected"))
      | _, first :: rest =>
          match lexeme rest, rest with
          | .operator text .binary, _ :: second :: rest =>
              return (← binary machine first text second, second :: rest)
          | .operator text .binary, _ => throw (words (text ++ ": argument expected"))
          | _, _ => return (!first.isEmpty, first :: rest)
      | _, [] => return (false, [])

end

/-- Three or four words may be put between parentheses or after an exclamation mark, unless the
second of three is a binary operator. A second exclamation mark before them says nothing more. -/
def unwrap (negated : Bool) : List Text → Bool × Option Lexeme × List Text
  | [] => (negated, none, [])
  | first :: rest =>
      let count := rest.length + 1
      if count = 3 && (rest.head?).any isBinary then (negated, some .operand, first :: rest)
      else if count = 3 || count = 4 then
        if first = ['('] && rest.getLast? = some [')'] then (negated, none, rest.dropLast)
        else if first = ['!'] then unwrap true rest
        else (negated, none, first :: rest)
      else (negated, none, first :: rest)

def evaluate (machine : Machine) (arguments : List Text) : Except Text Bool :=
  let (negated, found, rest) := unwrap false arguments
  match either machine (8 * arguments.length + 8) (found.getD (lexeme rest)) rest with
  | .error message => .error message
  | .ok (_, word :: _ :: _) =>
      .error ((if word.isEmpty then [] else word ++ words ": ") ++ words "unexpected operator")
  | .ok (value, _) => .ok (value != negated)

end ArtifactTools.Shell.Test
