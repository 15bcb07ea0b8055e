import ArtifactTools.Regex.Basic

/-! Regular expressions as they are written. There are two notations: in the basic one groups, bounds
and alternatives are marked by backslashes, in the extended one they are not. -/

namespace ArtifactTools.Regex

inductive Fault where
  | emptyBracket
  | unknownCollation
  | unknownKind
  | trailingBackslash
  | noSuchGroup
  | openBracket
  | openGroup
  | openBounds
  | malformedBounds
  | malformedRange
  | nothingToRepeat
  | tooLarge
  | closedGroup
  deriving DecidableEq, Repr

def Fault.message : Fault → String
  | .emptyBracket => "Invalid regular expression"
  | .unknownCollation => "Invalid collation character"
  | .unknownKind => "Invalid character class name"
  | .trailingBackslash => "Trailing backslash"
  | .noSuchGroup => "Invalid back reference"
  | .openBracket => "Unmatched [, [^, [:, [., or [="
  | .openGroup => "Unmatched ( or \\("
  | .openBounds => "Unmatched \\\x7b"
  | .malformedBounds => "Invalid content of \\\x7b\\\x7d"
  | .malformedRange => "Invalid range end"
  | .nothingToRepeat => "Invalid preceding regular expression"
  | .tooLarge => "Regular expression too big"
  | .closedGroup => "Unmatched ) or \\)"

/-- A way of writing: whether it is the extended one, whether a repetition of nothing is a fault, whether
two repetitions in a row or bounds at the beginning are, whether a closing parenthesis may stand for
itself, whether ranges must not be empty, and whether malformed bounds stand for themselves. -/
structure Form where
  isExtended : Bool
  refusesEmptyRepetition : Bool
  refusesDoubleRepetition : Bool
  keepsClosing : Bool
  refusesEmptyRanges : Bool
  keepsBounds : Bool
  deriving DecidableEq, Repr

namespace Form

def search (isExtended : Bool) : Form := ⟨isExtended, false, false, isExtended, true, isExtended⟩

def comparison : Form := ⟨false, false, false, false, false, false⟩

def condition : Form := ⟨true, true, false, true, true, false⟩

end Form

inductive Token where
  | ending
  | exactly (character : Char)
  | any
  | bracket
  | place (place : RegexPlace)
  | kind (negated : Bool) (members : List RegexMember)
  | openGroup
  | closeGroup
  | alternative
  | back (number : Nat)
  | star
  | plus
  | question
  | openBounds
  | closeBounds
  | backslash
  deriving DecidableEq, Repr

def wordMembers : List RegexMember := [.kind "alnum", .range '_' '_']

def escapedToken (form : Form) (character : Char) : Token :=
  if '1' ≤ character && character ≤ '9' then .back (character.toNat - '0'.toNat)
  else
    match character with
    | '<' => .place .wordStart
    | '>' => .place .wordEnd
    | 'b' => .place .wordEdge
    | 'B' => .place .noWordEdge
    | '\x60' => .place .textStart
    | '\'' => .place .textEnd
    | 'w' => .kind false wordMembers
    | 'W' => .kind true wordMembers
    | 's' => .kind false [.kind "space"]
    | 'S' => .kind true [.kind "space"]
    | character =>
        if form.isExtended then .exactly character
        else
          match character with
          | '|' => .alternative
          | '(' => .openGroup
          | ')' => .closeGroup
          | '+' => .plus
          | '?' => .question
          | '\x7b' => .openBounds
          | '\x7d' => .closeBounds
          | character => .exactly character

def endsExpression : List Char → Bool
  | [] => true
  | '\\' :: mark :: _ => mark = ')' || mark = '|'
  | _ => false

def token (form : Form) (expected : Bool) : List Char → Token × List Char
  | [] => (.ending, [])
  | ['\\'] => (.backslash, [])
  | '\\' :: character :: rest => (escapedToken form character, rest)
  | '*' :: rest => (.star, rest)
  | '[' :: rest => (.bracket, rest)
  | '.' :: rest => (.any, rest)
  | '^' :: rest =>
      (if form.isExtended || expected then .place .lineStart else .exactly '^', rest)
  | '$' :: rest =>
      (if form.isExtended || endsExpression rest then .place .lineEnd else .exactly '$', rest)
  | character :: rest =>
      let found : Token :=
        if !form.isExtended then .exactly character
        else
          match character with
          | '|' => .alternative
          | '(' => .openGroup
          | ')' => .closeGroup
          | '+' => .plus
          | '?' => .question
          | '\x7b' => .openBounds
          | '\x7d' => .closeBounds
          | character => .exactly character
      (found, rest)

/-! Brackets. -/

def markedName? (mark : Char) (rest : List Char) : Option (List Char × List Char) :=
  let rec go : List Char → List Char → Option (List Char × List Char)
    | _, [] => none
    | name, [_] => let _ := name; none
    | name, first :: second :: rest =>
        if first = mark && second = ']' then some (name.reverse, rest)
        else go (first :: name) (second :: rest)
  go [] rest

inductive Element where
  | single (character : Char)
  | kind (name : String)

/-- One element of a bracket. A hyphen is one only at the beginning or at the end. -/
def element (acceptsHyphen : Bool) : List Char → Except Fault (Element × List Char)
  | '[' :: mark :: rest =>
      if mark = '.' || mark = '=' then
        match markedName? mark rest with
        | none => .error .openBracket
        | some ([character], rest) => .ok (.single character, rest)
        | some _ => .error .unknownCollation
      else if mark = ':' then
        match markedName? ':' rest with
        | none => .error .openBracket
        | some (name, rest) =>
            if (RegexMember.kinds.lookup (String.ofList name)).isSome then
              .ok (.kind (String.ofList name), rest)
            else .error .unknownKind
      else .ok (.single '[', mark :: rest)
  | '-' :: rest =>
      if acceptsHyphen || rest.head? = some ']' then .ok (.single '-', rest)
      else .error .malformedRange
  | character :: rest => .ok (.single character, rest)
  | [] => .error .openBracket

def members (form : Form) : Nat → Bool → List Char →
    Except Fault (List RegexMember × List Char)
  | 0, _, _ => .error .openBracket
  | fuel + 1, isFirst, characters => do
      match characters, isFirst with
      | ']' :: rest, false => return ([], rest)
      | characters, isFirst => do
          let (first, rest) ← element isFirst characters
          let add (member : List RegexMember) (rest : List Char) :
              Except Fault (List RegexMember × List Char) := do
            let (others, rest) ← members form fuel false rest
            return (member ++ others, rest)
          let alone : List RegexMember :=
            match first with
            | .single character => [.range character character]
            | .kind name => [.kind name]
          match rest with
          | ['-'] => throw .openBracket
          | '-' :: ']' :: _ => add alone rest
          | '-' :: after => do
              let (last, rest) ← element true after
              match first, last with
              | .single low, .single high =>
                  if low ≤ high then add [.range low high] rest
                  else if form.refusesEmptyRanges then throw .malformedRange
                  else add [] rest
              | _, _ => throw .malformedRange
          | rest => add alone rest

def bracket (form : Form) (characters : List Char) : Except Fault (Regex × List Char) := do
  let (negated, inside) :=
    match characters with
    | '^' :: rest => (true, rest)
    | rest => (false, rest)
  if inside.isEmpty then throw .emptyBracket
  let (found, rest) ← members form (inside.length + 1) true inside
  return (.oneOf negated found, rest)

/-! Bounds. -/

def repetitionLimit : Nat := 32767

inductive Count where
  | absent
  | number (value : Nat)
  | malformed
  deriving DecidableEq, Repr

/-- Reads a number up to a comma or the end of the bounds; gives it, the token that ends it, and what
follows. -/
def count (form : Form) : Nat → Count → List Char → Count × Token × List Char
  | 0, _, rest => (.malformed, .ending, rest)
  | fuel + 1, sofar, characters =>
      match token form false characters with
      | (.ending, rest) => (.malformed, .ending, rest)
      | (.closeBounds, rest) => (sofar, .closeBounds, rest)
      | (.exactly ',', rest) => (sofar, .exactly ',', rest)
      | (.exactly digit, rest) =>
          let next : Count :=
            if !RegexMember.isDigit digit then .malformed
            else
              let value := digit.toNat - '0'.toNat
              match sofar with
              | .absent => .number value
              | .number before => .number (min (repetitionLimit + 1) (before * 10 + value))
              | .malformed => .malformed
          count form fuel next rest
      | (_, rest) => count form fuel .malformed rest

def bounds (form : Form) (characters : List Char) :
    Except Fault (Option (Nat × Option Nat × List Char)) := do
  let fuel := characters.length + 1
  let (least, stop, rest) := count form fuel .absent characters
  if least = .absent && stop ≠ .exactly ',' then throw .malformedBounds
  let least := if least = .absent then .number 0 else least
  let (most, stop, rest) :=
    if stop = .exactly ',' then count form fuel .absent rest else (least, stop, rest)
  match least, most with
  | .number least, .number most =>
      if most < least || stop ≠ .closeBounds then throw .malformedBounds
      if repetitionLimit < most then throw .tooLarge
      return some (least, some most, rest)
  | .number least, .absent =>
      if stop ≠ .closeBounds then throw .malformedBounds
      if repetitionLimit < least then throw .tooLarge
      return some (least, none, rest)
  | _, _ =>
      if form.keepsBounds then return none
      else if stop = .ending then throw .openBounds
      else throw .malformedBounds

/-! Expressions. -/

structure Reading where
  rest : List Char
  begun : Nat
  ended : List Nat

abbrev Reader := StateT Reading (Except Fault)

def take (form : Form) (expected : Bool) : Reader Token := do
  let state ← get
  let (found, rest) := token form expected state.rest
  set { state with rest }
  return found

def look (form : Form) (expected : Bool) : Reader Token := do
  return (token form expected (← get).rest).1

def isRepetition : Token → Bool
  | .star | .plus | .question | .openBounds => true
  | _ => false

def ownCharacter : Token → Char
  | .star => '*'
  | .plus => '+'
  | .question => '?'
  | .openBounds => '\x7b'
  | .closeBounds => '\x7d'
  | _ => ')'

mutual

def alternatives (form : Form) : Nat → Nat → Bool → Reader Regex
  | 0, _, _ => throw .tooLarge
  | fuel + 1, depth, expected => do
      let first ← branch form fuel depth expected
      if (← look form false) = .alternative then
        discard (take form false)
        let second ← alternatives form fuel depth true
        return .either first second
      return first
termination_by structural fuel => fuel

def branch (form : Form) : Nat → Nat → Bool → Reader Regex
  | 0, _, _ => throw .tooLarge
  | fuel + 1, depth, expected => do
      match ← look form expected with
      | .ending | .alternative => return .empty
      | .closeGroup =>
          if 0 < depth then return .empty
          single form fuel depth expected
      | _ => single form fuel depth expected
termination_by structural fuel => fuel

def single (form : Form) : Nat → Nat → Bool → Reader Regex
  | 0, _, _ => throw .tooLarge
  | fuel + 1, depth, expected => do
      let found ← take form expected
      match found with
      | .place kind => do
          let others ← branch form fuel depth true
          return .sequence (.place kind) others
      | .exactly character => followed form fuel depth (.exactly character)
      | .any => followed form fuel depth .any
      | .kind negated found => followed form fuel depth (.oneOf negated found)
      | .bracket => do
          let state ← get
          match bracket form state.rest with
          | .error fault => throw fault
          | .ok (regex, rest) => do
              set { state with rest }
              followed form fuel depth regex
      | .back number => do
          if !(← get).ended.contains number then throw .noSuchGroup
          followed form fuel depth (.back number)
      | .openGroup => do
          let number := (← get).begun + 1
          modify fun state => { state with begun := number }
          let inside ← alternatives form fuel (depth + 1) true
          if (← take form false) ≠ .closeGroup then throw .openGroup
          modify fun state => { state with ended := number :: state.ended }
          followed form fuel depth (.group number inside)
      | .backslash => throw .trailingBackslash
      | .closeGroup =>
          if !form.keepsClosing then throw .closedGroup
          followed form fuel depth (.exactly ')')
      | .closeBounds => followed form fuel depth (.exactly '\x7d')
      | .ending | .alternative => return .empty
      | found => do
          if found = .openBounds && form.refusesDoubleRepetition then throw .nothingToRepeat
          if form.refusesEmptyRepetition then throw .nothingToRepeat
          if form.isExtended then branch form fuel depth expected
          else followed form fuel depth (.exactly (ownCharacter found))
termination_by structural fuel => fuel

def followed (form : Form) : Nat → Nat → Regex → Reader Regex
  | 0, _, _ => throw .tooLarge
  | fuel + 1, depth, regex => do
      let found ← look form false
      if !isRepetition found then
        let others ← branch form fuel depth false
        return match others with
          | .empty => regex
          | others => .sequence regex others
      discard (take form false)
      let again (least : Nat) (most : Option Nat) : Reader Regex := do
        let next ← look form false
        if form.refusesDoubleRepetition && (next = .star || next = .openBounds) then
          throw .nothingToRepeat
        followed form fuel depth (.many regex least most)
      match found with
      | .star => again 0 none
      | .plus => again 1 none
      | .question => again 0 (some 1)
      | _ => do
          let state ← get
          match bounds form state.rest with
          | .error fault => throw fault
          | .ok (some (least, most, rest)) => do
              set { state with rest }
              again least most
          | .ok none => do
              let others ← followed form fuel depth (.exactly '\x7b')
              return .sequence regex others
termination_by structural fuel => fuel

end

def read (form : Form) (text : List Char) : Except Fault Regex :=
  match (alternatives form (8 * text.length + 16) 0 true).run ⟨text, 0, []⟩ with
  | .ok (regex, _) => .ok regex
  | .error fault => .error fault

end ArtifactTools.Regex
