import ArtifactTools.Text.Utf8

/-! The command language of the host's shell. Scripts are octets, and each octet is one character
here, so that text in any encoding passes through unchanged. -/

namespace ArtifactTools.Shell

abbrev Text := List Char

def Text.ofOctets (octets : Octets) : Text := octets.map fun octet => Char.ofNat octet.toNat

def Text.toOctets (text : Text) : Octets := text.map fun character => UInt8.ofNat character.toNat

def Text.ofString (text : String) : Text := Text.ofOctets (Utf8.encode text)

inductive Dialect where
  | plain
  | extended
  deriving DecidableEq, Repr

/-- What `${name…}` does with the value: other text in its place where it is unset, or empty too if
`orEmpty`; or the value less a beginning or an end that fits a pattern. A `malformed` one is a fault
where it is reached. -/
inductive Modifier where
  | length
  | default (orEmpty : Bool)
  | assign (orEmpty : Bool)
  | alternative (orEmpty : Bool)
  | demand (orEmpty : Bool)
  | cutEnd (longest : Bool)
  | cutStart (longest : Bool)
  | malformed
  deriving DecidableEq, Repr

inductive Place where
  | first
  | everywhere
  | start
  | finish
  deriving DecidableEq, Repr

inductive Recasing where
  | upper
  | lower
  | other
  deriving DecidableEq, Repr

inductive RedirectionKind where
  | read
  | write
  | overwrite
  | append
  | readWrite
  | duplicate
  | document
  | writeBoth
  | appendBoth
  | duplicateOrBoth
  | textLine
  deriving DecidableEq, Repr

inductive Descriptor where
  | number (value : Nat)
  | variable (name : Text)
  deriving DecidableEq, Repr

structure Redirection (α : Type) where
  descriptor : Descriptor
  kind : RedirectionKind
  target : α

structure Goal where
  text : Option Text
  written : Text

/-- How a command is run: whether something looks at its failure, and whether its process has nothing
to do after it. -/
structure Manner where
  isTested : Bool
  isLast : Bool

inductive ArmEnd where
  | leave
  | enterNext
  | tryNext
  deriving DecidableEq, Repr

mutual

/-- A part of a word. Quoted parts are neither split nor read as patterns. A tilde stands for the
home directory. A reference keeps the text that it is written by; a list is what an array gets, and
a channel is a file that a command writes or reads. -/
inductive Part where
  | text (characters : Text) (quoted : Bool)
  | parameter (name : Text) (quoted : Bool)
  | modified (name : Text) (modifier : Modifier) (word : List Part) (quoted : Bool)
  | command (body : Command) (quoted : Bool)
  | arithmetic (expression : List Part) (quoted : Bool)
  | reference (written name : Text) (isIndirect : Bool) (selection : Selection) (use : Use)
      (quoted : Bool)
  | list (items : List ListItem)
  | channel (isRead : Bool) (body : Command)

inductive Selection where
  | whole
  | element (subscript : List Part)
  | every (isJoined : Bool)

inductive Use where
  | value
  | length
  | subscripts
  | namesFrom (isJoined : Bool)
  | modified (modifier : Modifier) (word : List Part)
  | slice (offset : List Part) (count : Option (List Part))
  | substitute (place : Place) (pattern replacement : List Part)
  | recase (recasing : Recasing) (isEverywhere : Bool) (pattern : List Part)
  | transform (letter : Char)
  | malformed

inductive ListItem where
  | plain (word : List Part)
  | placed (subscript : List Part) (appends : Bool) (word : List Part)

inductive Condition where
  | word (operand : List Part)
  | unary (operator : Text) (operand : List Part)
  | binary (operator : Text) (first second : List Part)
  | negation (condition : Condition)
  | both (first second : Condition)
  | either (first second : Condition)

inductive Assignment where
  | to (name : Text) (subscript : Option (List Part)) (appends : Bool) (value : List Part)

inductive Command where
  | nothing
  | simple (line : Nat) (assignments : List Assignment) (words : List (List Part))
      (redirections : List (Redirection (List Part)))
  | negated (command : Command)
  | pipeline (stages : List Command)
  | both (first second : Command)
  | either (first second : Command)
  | sequence (first second : Command)
  | background (line : Nat) (command : Command)
  | subshell (line : Nat) (command : Command) (redirections : List (Redirection (List Part)))
  | redirected (line : Nat) (command : Command) (redirections : List (Redirection (List Part)))
  | conditional (test yes no : Command)
  | loop (untilTrue : Bool) (test body : Command)
  | each (line : Nat) (name : Text) (words : List (List Part)) (body : Command)
  | select (line : Nat) (subject : List Part) (arms : List (List (List Part) × Command × ArmEnd))
  | define (line : Nat) (name : Text) (body : Command)
  | check (line : Nat) (condition : Condition)
  | compute (line : Nat) (expression : List Part)
  | count (line : Nat) (start test step : List Part) (body : Command)
  | choose (line : Nat) (name : Text) (words : List (List Part)) (body : Command)
  | timed (isShort : Bool) (command : Command)

end

abbrev Word := List Part

namespace Manner

def plain : Manner := ⟨false, false⟩

def tested : Manner := ⟨true, false⟩

def last : Manner := ⟨false, true⟩

def inside (manner : Manner) : Manner := { manner with isLast := false }

def ofBranch (manner : Manner) (isExtended : Bool) : Manner :=
  { manner with isLast := manner.isLast && !isExtended }

end Manner

def Command.isNothing : Command → Bool
  | .nothing => true
  | _ => false

def Command.isChecked : Command → Bool
  | .simple .. | .pipeline .. | .subshell .. | .background .. | .check .. | .compute .. => true
  | _ => false

def isNameStart (character : Char) : Bool :=
  ('a' ≤ character && character ≤ 'z') || ('A' ≤ character && character ≤ 'Z') || character = '_'

def isDigit (character : Char) : Bool := '0' ≤ character && character ≤ '9'

def isNameCharacter (character : Char) : Bool := isNameStart character || isDigit character

def isName : Text → Bool
  | [] => false
  | first :: rest => isNameStart first && rest.all isNameCharacter

def isJoined (line : Text) : Bool := (line.reverse.takeWhile (· = '\\')).length % 2 = 1

def isSpecialParameter (character : Char) : Bool := "@*#?$!-".contains character

def joinText : Word → Word
  | .text first isQuoted :: rest =>
      match joinText rest with
      | .text second alike :: others =>
          if isQuoted = alike then .text (first ++ second) isQuoted :: others
          else .text first isQuoted :: .text second alike :: others
      | others => .text first isQuoted :: others
  | part :: rest => part :: joinText rest
  | [] => []

def splitAssignment? : Word → Option (Text × Word)
  | .text characters false :: rest =>
      let name := characters.takeWhile (· ≠ '=')
      match characters.drop name.length with
      | '=' :: value =>
          if isName name then
            some (name, if value.isEmpty then rest else .text value false :: rest)
          else none
      | _ => none
  | _ => none

def spread (word : Word) : Word :=
  word.flatMap fun part =>
    match part with
    | .text characters false => characters.map fun character => .text [character] false
    | part => [part]

def untilBracket : Nat → Word → Option (Word × Word)
  | _, [] => none
  | depth, part :: rest =>
      let goOn (depth : Nat) : Option (Word × Word) :=
        (untilBracket depth rest).map fun (inside, rest) => (part :: inside, rest)
      match part, depth with
      | .text ['['] false, depth => goOn (depth + 1)
      | .text [']'] false, 0 => some ([], rest)
      | .text [']'] false, depth + 1 => goOn depth
      | _, depth => goOn depth

def Assignment.ofWord? (word : Word) : Option Assignment :=
  match word with
  | .text characters false :: rest =>
      let name := characters.takeWhile isNameCharacter
      let after := characters.drop name.length
      let value (parts : Word) (subscript : Option Word) : Option Assignment :=
        match parts with
        | .text ['='] false :: value => some (.to name subscript false (joinText value))
        | .text ['+'] false :: .text ['='] false :: value =>
            some (.to name subscript true (joinText value))
        | _ => none
      if !isName name then none
      else
        match after.head? with
        | some '=' | some '+' => value (spread (.text after false :: rest)) none
        | some '[' =>
            (untilBracket 0 (spread (.text (after.drop 1) false :: rest))).bind
              fun (subscript, rest) => value rest (some (joinText subscript))
        | _ => none
  | _ => none

end ArtifactTools.Shell
