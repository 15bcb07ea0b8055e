import ArtifactTools.Binary
import ArtifactTools.Shell.Extended.Doing
import ArtifactTools.Shell.Fields

/-! The commands of the extended dialect that read lines into variables. -/

namespace ArtifactTools.Shell.Extended

/-- How a line is read: whether backslashes have no meaning, what ends it, how many characters it
has at most, and whether nothing but their number ends it. -/
structure LineShape where
  isRaw : Bool
  ending : Char
  limit : Option Nat
  isExact : Bool

structure ReadLine where
  glyphs : List Glyph
  taken : Nat
  isEnded : Bool

/-- Takes a line from the start of a text, after so many glyphs, the last one first, and so many
characters that these took. -/
def LineShape.take (shape : LineShape) (sofar : List Glyph) (count taken : Nat) : Text → ReadLine
  | [] => ⟨sofar.reverse, taken, shape.limit.any (· ≤ count)⟩
  | character :: rest =>
      if shape.limit.any (· ≤ count) then ⟨sofar.reverse, taken, true⟩
      else if character = shape.ending && !shape.isExact then ⟨sofar.reverse, taken + 1, true⟩
      else if character = '\\' && !shape.isRaw then
        match rest with
        | [] => ⟨sofar.reverse, taken + 1, false⟩
        | escaped :: rest =>
            if escaped = '\n' then shape.take sofar count (taken + 2) rest
            else shape.take (.exact escaped :: sofar) (count + 1) (taken + 2) rest
      else if character = '\x00' then shape.take sofar count (taken + 1) rest
      else shape.take (.loose character :: sofar) (count + 1) (taken + 1) rest

def milliseconds? (text : Text) : Option Nat :=
  let whole := text.takeWhile isDigit
  let after := text.drop whole.length
  let fraction : Text :=
    match after with
    | '.' :: digits => digits
    | _ => []
  if text.isEmpty || !fraction.all isDigit || (after ≠ [] && after.head? ≠ some '.') then none
  else some (Decimal.value whole * 1000 + Decimal.value ((fraction ++ ['0', '0', '0']).take 3))

def number? (text : Text) : Option Nat :=
  if !text.isEmpty && text.all isDigit then some (Decimal.value text) else none

def assignAll : List (Text × Text) → Doing Nat
  | [] => return 0
  | (name, value) :: rest => do
      if ← assignTo name value then assignAll rest else return 1

def readSynopsis : String :=
  "[-ers] [-a array] [-d delim] [-i text] [-n nchars] [-N nchars] [-p prompt] [-t timeout] " ++
    "[-u fd] [name ...]"

def readLetterKinds : List (Char × Bool) :=
  [('a', true), ('d', true), ('e', false), ('i', true), ('n', true), ('N', true), ('p', true),
    ('r', false), ('s', false), ('t', true), ('u', true)]

def lastText? (found : List (Char × Text)) (letter : Char) : Option Text :=
  (found.filter (·.1 = letter)).getLast?.map (·.2)

def endingOf (found : List (Char × Text)) : Char :=
  ((lastText? found 'd').map fun text => text.head?.getD '\x00').getD '\n'

def descriptorOf (found : List (Char × Text)) : Nat :=
  ((lastText? found 'u').bind number?).getD 0

def shapeOf (found : List (Char × Text)) : LineShape :=
  { isRaw := has found 'r'
    ending := endingOf found
    limit := ((lastText? found 'N').or (lastText? found 'n')).bind number?
    isExact := (lastText? found 'N').isSome }

/-- What a command that reads has to wait for: the descriptor, which texts are enough, and how many
milliseconds are waited at most. -/
structure Awaited where
  descriptor : Nat
  isEnough : Text → Bool
  limit : Option Nat

def awaitedLine (arguments : List Text) : Awaited :=
  let fuel := arguments.foldl (fun sum argument => sum + argument.length + 1) 1
  match readLetters readLetterKinds fuel [] arguments with
  | .error _ => ⟨0, fun _ => true, none⟩
  | .ok (found, _) =>
      let shape := shapeOf found
      ⟨descriptorOf found,
        fun text => shape.limit = some 0 || (shape.take [] 0 0 text).isEnded,
        (lastText? found 't').bind milliseconds?⟩

def readLine (arguments : List Text) : Doing Nat := do
  match ← options readLetterKinds readSynopsis arguments with
  | none => return 2
  | some (found, names) => do
      let last (letter : Char) : Option Text := lastText? found letter
      let countText := (last 'N').or (last 'n')
      if let some text := last 't' then
        if (milliseconds? text).isNone then
          return ← refuse 1 (text ++ words ": invalid timeout specification")
      if let some text := countText then
        if (number? text).isNone then
          return ← refuse 1 (text ++ words ": invalid number")
      if let some text := last 'u' then
        if (number? text).isNone then
          return ← refuse 1 (text ++ words ": invalid file descriptor specification")
      let descriptor := descriptorOf found
      let machine ← get
      if descriptor ≠ 0 && (machine.openFile? descriptor).isNone then
        return ← refuse 1
          (Decimal.digits descriptor ++ words ": invalid file descriptor: Bad file descriptor")
      let targets := (last 'a').toList ++ names
      if let some name := targets.head? then
        if !isName (Machine.splitSubscript name).1 then
          return ← refuse 1 (Assigning.invalidName name)
      if countText = some ['0'] then return 0
      let shape := shapeOf found
      match machine.remaining descriptor with
      | none => refuse 1 (words "read error: 0: Bad file descriptor")
      | some (index, file, rest) => do
          if machine.holdsDirectory descriptor then
            return ← refuse 1 (words "read error: 0: Is a directory")
          let line := shape.take [] 0 0 rest
          let isLate := (last 't').isSome && !line.isEnded &&
            ((machine.pipeOf? descriptor).any machine.isWritten)
          if isLate && last 't' = some ['0'] then return if rest.isEmpty then 1 else 0
          set (machine.advance index file rest line.taken)
          let status := if line.isEnded then 0 else if isLate then 142 else 1
          let separators := Fields.separators machine
          let text := Glyph.text line.glyphs
          match last 'a' with
          | some name => do
              let fields := (Fields.split separators line.glyphs).map Glyph.text
              let isDone ← unnamed do settle (Assigning.setList (← get) name fields)
              return if isDone then status else 1
          | none => do
              let values : List (Text × Text) :=
                match names with
                | [] => [(words "REPLY", text)]
                | first :: others =>
                    if shape.isExact then (first, text) :: others.map fun name => (name, [])
                    else names.zip (Fields.ofRead separators names.length line.glyphs)
              return max (← assignAll values) status

def cutLines (ending : Char) (dropsEnds : Bool) : Nat → Text → List Text
  | 0, _ | _, [] => []
  | fuel + 1, text =>
      let line := text.takeWhile (· ≠ ending)
      match text.drop line.length with
      | [] => [line]
      | mark :: rest =>
          (if dropsEnds then line else line ++ [mark]) :: cutLines ending dropsEnds fuel rest

def lineLetterKinds : List (Char × Bool) :=
  [('d', true), ('n', true), ('O', true), ('s', true), ('t', false), ('u', true), ('C', true),
    ('c', true)]

def awaitedLines (arguments : List Text) : Awaited :=
  let fuel := arguments.foldl (fun sum argument => sum + argument.length + 1) 1
  match readLetters lineLetterKinds fuel [] arguments with
  | .error _ => ⟨0, fun _ => true, none⟩
  | .ok (found, _) =>
      let value (letter : Char) : Nat := ((lastText? found letter).bind number?).getD 0
      let wanted := value 's' + value 'n'
      ⟨descriptorOf found,
        fun text => value 'n' ≠ 0 && wanted ≤ text.count (endingOf found), none⟩

def linesSynopsis : String :=
  "[-d delim] [-n count] [-O origin] [-s count] [-t] [-u fd] [-C callback] [-c quantum] [array]"

def readLines (arguments : List Text) : Doing Nat := do
  match ← options lineLetterKinds linesSynopsis arguments with
  | none => return 2
  | some (found, names) => do
      let last (letter : Char) : Option Text := lastText? found letter
      let wrong : List (Char × String) :=
        [('n', ": invalid line count"), ('O', ": invalid array origin"),
          ('s', ": invalid line count"), ('u', ": invalid file descriptor specification"),
          ('c', ": invalid callback quantum")]
      for (letter, message) in wrong do
        if let some text := last letter then
          if (number? text).isNone then
            return ← refuse 1 (text ++ words message)
      let name := names.head?.getD (words "MAPFILE")
      if !isName name then
        return ← refuse 1 (Assigning.invalidName name)
      let value (letter : Char) : Option Nat := (last letter).bind number?
      let descriptor := (value 'u').getD 0
      let machine ← get
      match machine.remaining descriptor with
      | none =>
          refuse 1 (Decimal.digits descriptor ++
            words ": invalid file descriptor: Bad file descriptor")
      | some (index, file, rest) => do
          let ending := endingOf found
          let whole := cutLines ending false (rest.length + 1) rest
          let skipped := (value 's').getD 0
          let count := ((value 'n').filter (· ≠ 0)).getD whole.length
          let read := whole.take (skipped + count)
          let taken := (read.map (·.length)).foldl (· + ·) 0
          set (machine.advance index file rest taken)
          let trimmed (line : Text) : Text :=
            if has found 't' && line.getLast? = some ending then line.dropLast else line
          let kept := (read.drop skipped).map fun line => (trimmed line).filter (· ≠ '\x00')
          let start := (value 'O').getD 0
          let entries : List Entry := ((List.range kept.length).zip kept).map fun entry =>
            ⟨some (Decimal.digits (entry.1 + start)), false, entry.2⟩
          let isDone ← unnamed do
            settle (Assigning.assignList (← get) name (last 'O').isSome entries)
          return if isDone then 0 else 1

end ArtifactTools.Shell.Extended
