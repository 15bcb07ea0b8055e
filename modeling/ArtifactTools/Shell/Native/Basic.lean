import ArtifactTools.Shell.Format
import ArtifactTools.Shell.Opening

/-! What the programs of the host have in common: how they read their options, and how they tell
what is wrong, under the name that they were started by. -/

namespace ArtifactTools.Shell.Native

def say (text : Text) : Running Unit := do
  modify fun machine =>
    match machine.writeTo 1 text with
    | .ok machine => machine
    | .error fault => { machine with unwritten := some fault }
  Running.settleOutput

def succeed : Running Unit := modify fun machine => machine.fail 0

def complain (status : Nat) (lines : List Text) : Running Unit :=
  modify fun machine =>
    ((machine.write 2 (lines.flatMap (· ++ ['\n']))).getD machine).fail status

def quit {α : Type} : Running α := throw .shell

def blame (status : Nat) (name fault : Text) : Running Unit :=
  complain status [name ++ words ": " ++ fault]

def confirm (question : Text) : Running Bool := do
  modify fun machine => (machine.write 2 question).getD machine
  let (answer, _) ← Running.readLine 0
  return answer.head?.any fun letter => letter = 'y' || letter = 'Y'

def usageHint (name : Text) : Text := words "Try '" ++ name ++ words " --help' for more information."

def misuse (status : Nat) (name : Text) (faults : List Text) : Running Unit :=
  complain status (faults.map (name ++ words ": " ++ ·) ++ [usageHint name])

def isPrintable (character : Char) : Bool := ' ' ≤ character && character ≤ '~'

def controlLetter? (character : Char) : Option Char :=
  match character with
  | '\x07' => some 'a'
  | '\x08' => some 'b'
  | '\t' => some 't'
  | '\n' => some 'n'
  | '\x0b' => some 'v'
  | '\x0c' => some 'f'
  | '\r' => some 'r'
  | _ => none

def escaped (character : Char) : Text :=
  match controlLetter? character with
  | some letter => ['\\', letter]
  | none => '\\' :: Decimal.padZeros 3 (Format.digitsInBase 8 false 3 character.toNat)

def cited (text : Text) : Text :=
  let inside := text.flatMap fun character =>
    if character = '\'' || character = '\\' then ['\\', character]
    else if isPrintable character then [character]
    else escaped character
  '\'' :: inside ++ ['\'']

/-- The inside of a quoted name; what cannot be printed stands in quotes of its own kind, which are
open or not. -/
def quotedInside : Bool → Text → Text
  | _, [] => []
  | isOpen, character :: rest =>
      if character = '\'' then words "'\\''" ++ quotedInside false rest
      else if isPrintable character then
        (if isOpen then ['\'', '\''] else []) ++ character :: quotedInside false rest
      else
        (if isOpen then [] else words "'$'") ++ escaped character ++ quotedInside true rest

def isHarmless (character : Char) : Bool :=
  isNameCharacter character || "%+,-./:]@ '".contains character

def quotedName (text : Text) : Text :=
  if text.contains '\'' && text.all isHarmless then '"' :: text ++ ['"']
  else '\'' :: quotedInside false text ++ ['\'']

def isPlainName (text : Text) : Bool :=
  !text.isEmpty && text ≠ ['\x7b'] && text ≠ ['\x7d'] &&
    text.head? ≠ some '#' && text.head? ≠ some '~' &&
    text.all fun character =>
      isPrintable character && !(" !\"$&()*;<=>?[^\x60|\\'".contains character)

def scriptName (text : Text) : Text := if isPlainName text then text else quotedName text

def named (text : Text) : Text :=
  if isPlainName text && !text.contains ':' then text else quotedName text

/-! Options. -/

inductive Need where
  | nothing
  | text
  | ownText
  deriving DecidableEq, Repr

structure OptionKind where
  key : Char
  long : String
  need : Need
  isLetter : Bool
  deriving DecidableEq, Repr

def flag (key : Char) (long : String) : OptionKind := ⟨key, long, .nothing, true⟩

def textual (key : Char) (long : String) : OptionKind := ⟨key, long, .text, true⟩

def longOnly (key : Char) (long : String) (need : Need) : OptionKind := ⟨key, long, need, false⟩

def commonKinds : List OptionKind :=
  [longOnly '\x01' "help" .nothing, longOnly '\x02' "version" .nothing]

def invalidLetter (letter : Char) : Text :=
  words "invalid option -- '" ++ [letter, '\'']

def missingText (letter : Char) : Text :=
  words "option requires an argument -- '" ++ [letter, '\'']

def longKind (kinds : List OptionKind) (name : Text) : Except Text OptionKind :=
  let named := kinds.filter fun kind => !kind.long.isEmpty
  let isAlike (kind other : OptionKind) : Bool := kind.key = other.key && kind.need = other.need
  match named.find? fun kind => kind.long.toList = name with
  | some kind => .ok kind
  | none =>
      match named.filter fun kind => name.isPrefixOf kind.long.toList with
      | [] => .error (words "unrecognized option '--" ++ name ++ ['\''])
      | kind :: others =>
          if others.all (isAlike kind) then .ok kind
          else
            .error (words "option '--" ++ name ++ words "' is ambiguous; possibilities:" ++
              (kind :: others).flatMap fun kind => words (" '--" ++ kind.long ++ "'"))

/-- The options with their texts, and the operands. Options stand anywhere before a double dash, or
only before the operands. -/
def readOptions (isStrict : Bool) (kinds : List OptionKind) :
    List Text → Except Text (List (Char × Text) × List Text)
  | [] => .ok ([], [])
  | ['-', '-'] :: rest => .ok ([], rest)
  | ('-' :: '-' :: long) :: rest =>
      let name := long.takeWhile (· ≠ '=')
      let value? : Option Text :=
        if name.length < long.length then some (long.drop (name.length + 1)) else none
      let add (kind : OptionKind) (text : Text)
          (others : Except Text (List (Char × Text) × List Text)) :
          Except Text (List (Char × Text) × List Text) :=
        others.map fun (others, operands) => ((kind.key, text) :: others, operands)
      match longKind kinds name with
      | .error fault => .error fault
      | .ok kind =>
          let told := words ("option '--" ++ kind.long ++ "'")
          match kind.need, value?, rest with
          | .nothing, some _, _ => .error (told ++ words " doesn't allow an argument")
          | .text, none, [] => .error (told ++ words " requires an argument")
          | .text, none, text :: rest => add kind text (readOptions isStrict kinds rest)
          | _, value?, rest => add kind (value?.getD []) (readOptions isStrict kinds rest)
  | ('-' :: letter :: letters) :: rest => readLetters (letter :: letters) rest
  | operand :: rest =>
      if isStrict then .ok ([], operand :: rest)
      else
        (readOptions isStrict kinds rest).map fun (found, operands) => (found, operand :: operands)
where
  readLetters : Text → List Text → Except Text (List (Char × Text) × List Text)
    | [], rest => readOptions isStrict kinds rest
    | letter :: letters, rest =>
        let need? : Option Need :=
          (kinds.find? fun kind => kind.key = letter && kind.isLetter).map (·.need)
        match need?, letters, rest with
        | none, _, _ => .error (invalidLetter letter)
        | some .nothing, letters, rest =>
            (readLetters letters rest).map fun (others, rest) => ((letter, []) :: others, rest)
        | some .text, [], [] => .error (missingText letter)
        | some .text, [], text :: rest =>
            (readOptions isStrict kinds rest).map fun (others, rest) =>
              ((letter, text) :: others, rest)
        | some _, text, rest =>
            (readOptions isStrict kinds rest).map fun (others, rest) =>
              ((letter, text) :: others, rest)

def hasOption (found : List (Char × Text)) (key : Char) : Bool := found.any fun entry => entry.1 = key

def optionText? (found : List (Char × Text)) (key : Char) : Option Text :=
  ((found.filter fun entry => entry.1 = key).getLast?).map (·.2)

/-- Runs a program with its options and operands, or tells how it is misused. A program that is only
asked for help does nothing. -/
def withOptionsRead (isStrict : Bool) (status : Nat) (kinds : List OptionKind) (name : Text)
    (arguments : List Text) (action : List (Char × Text) → List Text → Running Unit) :
    Running Unit :=
  match readOptions isStrict (kinds ++ commonKinds) arguments with
  | .error fault => misuse status name [fault]
  | .ok (found, operands) =>
      if found.any fun entry => entry.1 < '\x03' then succeed else action found operands

def withOptions : Nat → List OptionKind → Text → List Text →
    (List (Char × Text) → List Text → Running Unit) → Running Unit :=
  withOptionsRead false

def withLeadingOptions : Nat → List OptionKind → Text → List Text →
    (List (Char × Text) → List Text → Running Unit) → Running Unit :=
  withOptionsRead true

def lineEnd (options : List (Char × Text)) : Text :=
  if hasOption options 'z' then ['\x00'] else ['\n']

def missingOperand (name : Text) : Running Unit := misuse 1 name [words "missing operand"]

def missingOperandAfter (name operand : Text) : Running Unit :=
  misuse 1 name [words "missing operand after " ++ cited operand]

def extraOperand (name operand : Text) : Running Unit :=
  misuse 1 name [words "extra operand " ++ cited operand]

/-! Operands that name files: what is told of them, and how a program goes through them. What is
wrong with one is told, and the program goes on with the next. -/

def pathOf (text : Text) : Path := ⟨text.toOctets⟩

def faultWith (what : String) (name : Text) (error : HostError) : Text :=
  words what ++ ' ' :: quotedName name ++ words ": " ++ Machine.plainWording error

def settle (name : Text) (result : Except Text FileTree) : Running Unit :=
  match result with
  | .ok tree => modify fun machine => machine.withTree tree
  | .error fault => blame 1 name fault

def forEach (operands : List Text) (act : Text → Running Unit) : Running Unit := do
  succeed
  operands.forM act

def lastName (text : Text) : Text :=
  let trimmed := (text.reverse.dropWhile (· = '/')).reverse
  (trimmed.reverse.takeWhile (· ≠ '/')).reverse

def endsInSlash (text : Text) : Bool := text.getLast? = some '/'

def linkAt? (machine : Machine) (text : Text) : Option Octets :=
  match machine.tree.nodeAt (machine.tree.locate machine.directory (pathOf text)) with
  | .ok (_, .link target) => some target
  | _ => none

/-! What files hold. -/

def openOperand (operand : Text) : Running (Except HostError Nat) := do
  let machine ← get
  if operand = ['-'] then
    return if machine.holdsDirectory 0 then .error .isDirectory else .ok 0
  else
    let descriptor := machine.freeFrom 3
    match ← Running.openToRead descriptor operand with
    | .error error => return .error error
    | .ok () =>
        let machine ← get
        if machine.holdsDirectory descriptor then
          set (machine.detach descriptor)
          return .error .isDirectory
        else return .ok descriptor

def closeOperand (descriptor : Nat) : Running Unit :=
  if descriptor = 0 then return () else modify fun machine => machine.detach descriptor

def contentOf (operand : Text) : Running (Except HostError Text) := do
  if operand ≠ ['-'] then Running.wholeFile operand
  else if (← get).holdsDirectory 0 then return .error .isDirectory
  else return .ok (← Running.readAll 0)

def withContent (operand : Text) (action : Text → Running Unit)
    (refused : HostError → Running Unit) : Running Unit := do
  match ← contentOf operand with
  | .ok content => action content
  | .error error => refused error

def blameFile (status : Nat) (name operand : Text) (error : HostError) : Running Unit :=
  blame status name (named operand ++ words ": " ++ Machine.plainWording error)

/-- What all the operands hold, in turn, or the standard input without one. Those that cannot be read
are told of. -/
def contentsOf (name : Text) (operands : List Text) : Running (List Text) := do
  let operands : List Text := if operands.isEmpty then [['-']] else operands
  let mut contents : List Text := []
  for operand in operands do
    match ← contentOf operand with
    | .ok content => contents := content :: contents
    | .error error => blameFile 1 name operand error
  return contents.reverse

def splitLines (ending : Char) (text : Text) : List Text :=
  let parts := text.splitOn ending
  if parts.getLast? = some [] then parts.dropLast else parts

def lineMark (options : List (Char × Text)) : Char := if hasOption options 'z' then '\x00' else '\n'

end ArtifactTools.Shell.Native
