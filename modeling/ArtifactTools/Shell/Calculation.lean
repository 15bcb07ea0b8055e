import ArtifactTools.Shell.Arithmetic
import ArtifactTools.Shell.Values

/-! Arithmetic of the extended dialect. An expression is evaluated while it is read, one symbol at a
time. A name stands for the value of the expression that its variable holds, and may have a
subscript. What an operator does not need is read but not evaluated. -/

namespace ArtifactTools.Shell.Calculation

inductive Mark where
  | ending
  | number
  | name
  | before (isUp : Bool)
  | after (isUp : Bool)
  | assignment (operator : Option String)
  | operator (text : String)
  deriving DecidableEq, Repr

/-- Why an expression has no value: its text up to some point, what is wrong and where; or something
that has been told already; or a name without a value, where that is a fault. -/
inductive Fault where
  | wrong (expression : Text) (message : String) (place : Text)
  | told
  | unbound (name : Text)
  deriving DecidableEq, Repr

/-- How far reading an expression has come: the text that is left, the text from the latest symbol
on, this symbol and the one before it, the name and the subscript that were read last, and the value
of the symbol. Nothing is looked up or set while reading is `idle`. Expressions in the values of
names stand at some `depth`. -/
structure Reader where
  machine : Machine
  whole : Text
  rest : Text
  latest : Text
  current : Mark
  former : Mark
  target : Option (Text × Option Text)
  value : Int
  idle : Bool
  depth : Nat

abbrev Calculating := ExceptT Fault (StateM Reader)

def isBlank (character : Char) : Bool := " \t\n".contains character

def fail {α : Type} (message : String) : Calculating α := do
  let reader ← get
  throw (.wrong reader.whole message reader.latest)

def looking {α : Type} (action : Calculating α) : Calculating α := do
  let before ← get
  set { before with idle := true }
  let value ← action
  modify fun after => { before with machine := after.machine }
  return value

def subscript? (text : Text) : Option (Text × Text) :=
  let rec close : Nat → Text → Option (Text × Text)
    | _, [] => none
    | 0, ']' :: rest => some ([], rest)
    | depth + 1, ']' :: rest => (close depth rest).map fun (inside, rest) => (']' :: inside, rest)
    | depth, '[' :: rest =>
        (close (depth + 1) rest).map fun (inside, rest) => ('[' :: inside, rest)
    | depth, character :: rest =>
        (close depth rest).map fun (inside, rest) => (character :: inside, rest)
  close 0 text

def digitValue (base : Nat) (digit : Char) : Nat :=
  if isDigit digit then Decimal.digitValue digit
  else if 'a' ≤ digit && digit ≤ 'z' then digit.toNat - 'a'.toNat + 10
  else if 'A' ≤ digit && digit ≤ 'Z' then
    digit.toNat - 'A'.toNat + (if base ≤ 36 then 10 else 36)
  else if digit = '@' then 62
  else 63

def isNumeralCharacter (character : Char) : Bool :=
  isNameCharacter character || character = '@'

def digits (isKnown : Bool) : Nat → Nat → Text → Except String Nat
  | _, value, [] => .ok value
  | _, value, '#' :: rest =>
      if isKnown then .error "invalid number"
      else if value < 2 || 64 < value then .error "invalid arithmetic base"
      else if !rest.head?.any isNumeralCharacter then .error "invalid integer constant"
      else
        rest.foldlM (fun sum digit =>
          if digit = '#' then .error "invalid number"
          else if value ≤ digitValue value digit then .error "value too great for base"
          else .ok (sum * value + digitValue value digit)) 0
  | base, value, digit :: rest =>
      if base ≤ digitValue base digit then .error "value too great for base"
      else digits isKnown base (value * base + digitValue base digit) rest

def numeral (text : Text) : Except String Int :=
  let value : Except String Nat :=
    match text with
    | ['0'] => .ok 0
    | '0' :: mark :: rest =>
        if mark = 'x' || mark = 'X' then digits true 16 0 rest else digits true 8 0 (mark :: rest)
    | text => digits false 10 0 text
  value.map fun value => Arithmetic.wrap (Int.ofNat value)

def isOperator (character : Char) : Bool := "=><+-*/%!()&|^~?:,".contains character

/-- What the character at the start and the one after it make, and how many characters that takes,
where neither increments nor unknown characters are concerned. -/
def operatorAt (text : Text) : Mark × Nat :=
  let pairs := ["==", "!=", ">=", "<=", "&&", "||", "**"]
  let shifts := ["<<", ">>"]
  let starts (operator : String) : Bool := operator.toList.isPrefixOf text
  match shifts.find? starts with
  | some shift =>
      if text[2]? = some '=' then (.assignment (some shift), 3) else (.operator shift, 2)
  | none =>
      match pairs.find? starts with
      | some pair => (.operator pair, 2)
      | none =>
          match text with
          | '=' :: _ => (.assignment none, 1)
          | first :: '=' :: _ =>
              if "*/%+-&^|".contains first then (.assignment (some (String.singleton first)), 2)
              else (.operator (String.singleton first), 1)
          | first :: _ => (.operator (String.singleton first), 1)
          | [] => (.ending, 0)

def isIncrement : Mark → Bool
  | .before _ => true
  | _ => false

def advance (mark : Mark) (rest : Text) : Calculating Unit :=
  modify fun reader => { reader with former := reader.current, current := mark, rest }

def apply (operator : String) (first second : Int) : Int :=
  match operator with
  | "**" => Arithmetic.wrap (power (second.toNat + 1) first second.toNat)
  | "/" =>
      if first = Arithmetic.least && second = -1 then first else Int.tdiv first second
  | "%" => if second = -1 then 0 else Int.tmod first second
  | operator => (Arithmetic.apply operator first second).toOption.getD 0
where
  power : Nat → Int → Nat → Int
    | 0, _, _ => 1
    | _ + 1, _, 0 => 1
    | fuel + 1, base, exponent =>
        let half := power fuel (Arithmetic.wrap (base * base)) (exponent / 2)
        if exponent % 2 = 1 then Arithmetic.wrap (base * half) else half

def depthLimit : Nat := 1024

def levels : List (List String) :=
  [["|"], ["^"], ["&"], ["==", "!="], ["<=", ">=", "<", ">"], ["<<", ">>"], ["+", "-"],
    ["*", "/", "%"]]

mutual

def evaluateText : Nat → Text → Calculating Int
  | 0, _ => throw .told
  | fuel + 1, text => do
      let text := text.dropWhile isBlank
      if text.isEmpty then return 0
      let before ← get
      if depthLimit ≤ before.depth then
        throw (.wrong text "expression recursion level exceeded" text)
      set { before with
        whole := text
        rest := text
        latest := text
        current := .ending
        former := .ending
        target := none
        value := 0
        idle := false
        depth := before.depth + 1 }
      next fuel
      let value ← sequence fuel
      if (← get).current ≠ .ending then fail "syntax error in expression"
      modify fun after => { before with machine := after.machine }
      return value

def next : Nat → Calculating Unit
  | 0 => throw .told
  | fuel + 1 => do
      let reader ← get
      let rest := reader.rest.dropWhile isBlank
      match rest with
      | [] => advance .ending []
      | first :: others =>
          set { reader with rest, latest := rest }
          if isNameStart first then nextName fuel rest
          else if isDigit first then
            let numeralText := rest.takeWhile fun character =>
              isNumeralCharacter character || character = '#'
            let after := rest.drop numeralText.length
            match numeral numeralText with
            | .error message =>
                let read := reader.whole.take (reader.whole.length - after.length)
                throw (.wrong read message numeralText)
            | .ok value => do
                advance .number after
                modify fun reader => { reader with value }
          else if (first = '+' || first = '-') && others.head? = some first then
            let isUp := first = '+'
            let after := others.drop 1
            if reader.current = .name then advance (.after isUp) after
            else if reader.current = .number && isIncrement reader.former then
              fail (if isUp then "++: assignment requires lvalue"
                else "--: assignment requires lvalue")
            else if (after.dropWhile isBlank).head?.any isNameStart then
              advance (.before isUp) after
            else advance (.operator (String.singleton first)) others
          else if isOperator first then
            let (mark, count) := operatorAt rest
            advance mark (rest.drop count)
          else
            let isExpected : Bool :=
              match reader.current with
              | .ending | .operator _ | .assignment _ | .before _ | .after _ => true
              | _ => false
            fail (if isExpected then "syntax error: operand expected"
              else "syntax error: invalid arithmetic operator")

def nextName : Nat → Text → Calculating Unit
  | 0, _ => throw .told
  | fuel + 1, rest => do
      let name := rest.takeWhile isNameCharacter
      let after := rest.drop name.length
      let found? : Option (Option Text × Text) :=
        match after with
        | '[' :: inside => (subscript? inside).map fun (text, rest) => (some text, rest)
        | after => some (none, after)
      match found? with
      | none => fail "bad array subscript"
      | some (subscript, after) => do
          let following ← looking do
            modify fun reader => { reader with rest := after, current := .name }
            next fuel
            return (← get).current
          let former := (← get).current
          let isSet := following = .assignment none && !isIncrement former
          let value ← if isSet then pure 0 else lookUp fuel name subscript
          advance .name after
          modify fun reader => { reader with target := some (name, subscript), value }

def keyOf : Nat → Text → Text → Calculating (Option Key)
  | 0, _, _ => throw .told
  | fuel + 1, name, subscript => do
      let machine := (← get).machine
      let elements := (((machine.lookup? name).getD .unset).toElements false)
      if elements.isNamed then return some (.name subscript)
      let number ← evaluateText fuel subscript
      return Machine.numberedKey? elements number

def lookUp : Nat → Text → Option Text → Calculating Int
  | 0, _, _ => throw .told
  | fuel + 1, name, subscript => do
      if (← get).idle then return 0
      if name = "RANDOM".toList then
        let (number, machine) := (← get).machine.random
        modify fun reader => { reader with machine }
        return number
      let refersTo := (← get).machine.referent name
      let (name, subscript) :=
        match subscript, Machine.splitSubscript refersTo with
        | none, (name, some inside) => (name, some inside)
        | subscript, _ => (name, subscript)
      let text? ←
        match subscript with
        | none => do pure (((← get).machine.lookup? name).bind (·.text?))
        | some inside => do
            match ← keyOf fuel name inside with
            | none => do
                modify fun reader =>
                  { reader with
                    machine := reader.machine.complain (name ++ ": bad array subscript".toList) }
                pure none
            | some key => do
                let entry := ((← get).machine.lookup? name).getD .unset
                pure ((entry.toElements false).get? key)
      if text?.isNone && (← get).machine.has .nounset then throw (.unbound name)
      evaluateText fuel (text?.getD [])

def store : Nat → Option (Text × Option Text) → Int → Calculating Unit
  | 0, _, _ => throw .told
  | fuel + 1, target, value => do
      if (← get).idle then return ()
      match target with
      | none => fail "syntax error in variable assignment"
      | some (name, subscript) => do
          let refersTo := (← get).machine.referent name
          let (name, subscript) :=
            match subscript, Machine.splitSubscript refersTo with
            | none, (name, inside) => (name, inside)
            | some inside, _ => (refersTo, some inside)
          let key ←
            match subscript with
            | none => pure none
            | some inside => do
                match ← keyOf fuel name inside with
                | some key => pure (some key)
                | none => do
                    modify fun reader =>
                      { reader with
                        machine := reader.machine.complain
                          (name ++ '[' :: inside ++ "]: bad array subscript".toList) }
                    throw .told
          let machine := (← get).machine
          match machine.put name key (Decimal.intDigits value) with
          | .ok machine => modify fun reader => { reader with machine }
          | .error message => do
              modify fun reader => { reader with machine := reader.machine.complain message }
              throw .told

def sequence : Nat → Calculating Int
  | 0 => throw .told
  | fuel + 1 => do
      let value ← assignment fuel
      if (← get).current = .operator "," then
        next fuel
        sequence fuel
      else return value

def assignment : Nat → Calculating Int
  | 0 => throw .told
  | fuel + 1 => do
      let value ← choice fuel
      let reader ← get
      match reader.current with
      | .assignment operator? => do
          if reader.former ≠ .name then fail "attempted assignment to non-variable"
          let target := reader.target
          next fuel
          let second ← assignment fuel
          let result ←
            match operator? with
            | none => pure second
            | some operator => do
                if (operator = "/" || operator = "%") && second = 0 then
                  if (← get).idle then pure 0 else fail "division by 0"
                else pure (apply operator value second)
          store fuel target result
          return result
      | _ => return value

def idly : Nat → Bool → Nat → Calculating Int
  | 0, _, _ => throw .told
  | fuel + 1, isIdle, level => do
      let before := (← get).idle
      modify fun reader => { reader with idle := before || isIdle }
      let value ←
        match level with
        | 0 => do
            next fuel
            if (← get).current = .ending then fail "expression expected"
            sequence fuel
        | 1 => do
            next fuel
            if (← get).current = .ending then fail "expression expected"
            choice fuel
        | 2 => do
            next fuel
            conjunction fuel
        | _ => do
            next fuel
            binary fuel levels
      modify fun reader => { reader with idle := before }
      return value

def choice : Nat → Calculating Int
  | 0 => throw .told
  | fuel + 1 => do
      let test ← disjunction fuel
      if (← get).current ≠ .operator "?" then return test
      let yes ← idly fuel (test = 0) 0
      if (← get).current ≠ .operator ":" then
        fail "\x60:' expected for conditional expression"
      let no ← idly fuel (test ≠ 0) 1
      modify fun reader => { reader with former := .operator "?" }
      return if test ≠ 0 then yes else no

def disjunction : Nat → Calculating Int
  | 0 => throw .told
  | fuel + 1 => do disjunctionAfter fuel (← conjunction fuel)

def disjunctionAfter : Nat → Int → Calculating Int
  | 0, _ => throw .told
  | fuel + 1, first => do
      if (← get).current ≠ .operator "||" then return first
      let second ← idly fuel (first ≠ 0) 2
      modify fun reader => { reader with former := .operator "||" }
      disjunctionAfter fuel (Arithmetic.ofBool (first ≠ 0 || second ≠ 0))

def conjunction : Nat → Calculating Int
  | 0 => throw .told
  | fuel + 1 => do conjunctionAfter fuel (← binary fuel levels)

def conjunctionAfter : Nat → Int → Calculating Int
  | 0, _ => throw .told
  | fuel + 1, first => do
      if (← get).current ≠ .operator "&&" then return first
      let second ← idly fuel (first = 0) 3
      modify fun reader => { reader with former := .operator "&&" }
      conjunctionAfter fuel (Arithmetic.ofBool (first ≠ 0 && second ≠ 0))

def binary : Nat → List (List String) → Calculating Int
  | 0, _ => throw .told
  | fuel + 1, [] => power fuel
  | fuel + 1, operators :: others => do
      binaryAfter fuel operators others (← binary fuel others)

def binaryAfter : Nat → List String → List (List String) → Int → Calculating Int
  | 0, _, _, _ => throw .told
  | fuel + 1, operators, others, first => do
      match (← get).current with
      | .operator text =>
          if !operators.contains text then return first
          let place := (← get).rest.dropWhile isBlank
          next fuel
          let second ← binary fuel others
          let value ←
            if (text = "/" || text = "%") && second = 0 then do
              let reader ← get
              if reader.idle then pure first
              else throw (.wrong reader.whole "division by 0" place)
            else pure (apply text first second)
          modify fun reader => { reader with former := .operator text }
          binaryAfter fuel operators others value
      | _ => return first

def power : Nat → Calculating Int
  | 0 => throw .told
  | fuel + 1 => do
      let first ← unary fuel
      if (← get).current ≠ .operator "**" then return first
      next fuel
      let second ← power fuel
      modify fun reader => { reader with former := .operator "**" }
      if second < 0 then fail "exponent less than 0"
      return apply "**" first second

def unary : Nat → Calculating Int
  | 0 => throw .told
  | fuel + 1 => do
      match (← get).current with
      | .operator text =>
          if !(["!", "~", "-", "+"].contains text) then operand fuel
          else
            next fuel
            let value ← unary fuel
            modify fun reader => { reader with former := .number }
            return match text with
              | "!" => Arithmetic.ofBool (value = 0)
              | "~" => -value - 1
              | "-" => Arithmetic.wrap (-value)
              | _ => value
      | _ => operand fuel

def operand : Nat → Calculating Int
  | 0 => throw .told
  | fuel + 1 => do
      let reader ← get
      match reader.current with
      | .before isUp => do
          set { reader with former := reader.current }
          next fuel
          let reader ← get
          if reader.current ≠ .name then
            fail "identifier expected after pre-increment or pre-decrement"
          let value := Arithmetic.wrap (reader.value + (if isUp then 1 else -1))
          store fuel reader.target value
          modify fun reader => { reader with current := .number }
          next fuel
          return value
      | .operator "(" => do
          next fuel
          let value ← sequence fuel
          if (← get).current ≠ .operator ")" then fail "missing \x60)'"
          next fuel
          return value
      | .number => do
          next fuel
          return reader.value
      | .name => do
          let (following, after) ← looking do
            next fuel
            return ((← get).current, (← get).rest)
          match following with
          | .after isUp => do
              let value := Arithmetic.wrap (reader.value + (if isUp then 1 else -1))
              store fuel reader.target value
              modify fun reader =>
                { reader with rest := after, current := .number, former := .name }
              next fuel
              return reader.value
          | _ => do
              next fuel
              modify fun after => { after with target := reader.target.or after.target }
              return reader.value
      | _ => fail "syntax error: operand expected"

termination_by structural fuel => fuel
end

def evaluate (machine : Machine) (text : Text) : Except Fault Int × Machine :=
  let start : Reader := ⟨machine, [], [], [], .ending, .ending, none, 0, false, 0⟩
  let (result, reader) := (evaluateText (64 * text.length + 200000) text).run.run start
  (result, reader.machine)

def Fault.message? : Fault → Option Text
  | .wrong expression message place =>
      some (expression ++ (": " ++ message ++ " (error token is \"").toList ++ place ++
        "\")".toList)
  | .told => none
  | .unbound name => some (name ++ ": unbound variable".toList)

end ArtifactTools.Shell.Calculation
