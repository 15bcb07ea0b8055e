import ArtifactTools.Shell.Command
import ArtifactTools.Text.Decimal

/-! The text of a script as it is read: what is left of it, the line that reading has come to, and
a token that has been put back. A backslash at the end of a line takes the end away; the lines of a
document are taken out of the text where the document is asked for. -/

namespace ArtifactTools.Shell

inductive Token where
  | ending
  | newline
  | mark (text : String)
  | word (parts : Word)
  | redirection (descriptor : Option Descriptor) (kind : RedirectionKind) (stripsTabs : Bool)

/-- A fault of a script: what is told of it, and of the place where it is, each with its line.
Nothing is told yet where the text has come to its end within something that is open. A fault may
have the rest of its line skipped only, so that reading goes on with what is `left`. -/
structure Fault where
  messages : List (Nat × Text)
  place : List (Nat × Text)
  skips : Bool
  left : Text

/-- What is left to read of a `whole` text that goes on to the `lastLine`. The latest token begins
where the text is `marked`. `skipped` lines come after the line that is being read. An alias is not
replaced within its own text. Patterns may have groups where the source `hasGroups`. A document that
the text does not end leaves the line and the word that would end it. -/
structure Source where
  dialect : Dialect
  hasGroups : Bool
  whole : Text
  lastLine : Nat
  rest : Text
  line : Nat
  marked : Text
  markedLine : Nat
  skipped : Nat
  returned : Option Token
  aliases : List (Text × Text)
  expanding : List (Text × Nat)
  openDocuments : List (Nat × Text)

abbrev Reading := StateT Source (Except Fault)

namespace Source

def ofText (dialect : Dialect) (text : Text) (line : Nat) (aliases : List (Text × Text)) :
    Source :=
  { dialect
    hasGroups := false
    whole := text
    lastLine :=
      line + text.count '\n' - if text.getLast?.any (· ≠ '\n') then 0 else 1
    rest := text
    line
    marked := text
    markedLine := line
    skipped := 0
    returned := none
    aliases
    expanding := []
    openDocuments := [] }

def sinceMark (source : Source) : Text :=
  source.marked.take (source.marked.length - source.rest.length)

def markedText (source : Source) : Text :=
  let before := source.whole.take (source.whole.length - source.marked.length)
  (before.reverse.takeWhile (· ≠ '\n')).reverse ++ source.marked.takeWhile (· ≠ '\n')

def nextLines (source : Source) : Text :=
  (source.marked.dropWhile (· ≠ '\n')).drop 1

def lineRead (source : Source) : Text × Nat :=
  let before := (source.whole.take (source.whole.length - source.rest.length)).reverse
  match before with
  | '\n' :: others =>
      let line := (others.takeWhile (· ≠ '\n')).reverse ++ ['\n']
      (line, line.length)
  | before =>
      let start := (before.takeWhile (· ≠ '\n')).reverse
      (start ++ source.rest.takeWhile (· ≠ '\n') ++ ['\n'], start.length)

def near (source : Source) : Text :=
  let isBlank (character : Char) : Bool := " \t\n".contains character
  let ends (character : Char) : Bool := " \n\t;|&".contains character
  let (line, index) := source.lineRead
  let index := min index (line.length - 1)
  let last := ((line.take (index + 1)).reverse.dropWhile isBlank).length - 1
  if last = 0 then line.take 1
  else
    let run := ((line.take (last + 1)).reverse.takeWhile (!ends ·)).length
    let start := last - run
    ((line.take (last + 1)).drop start).dropWhile isBlank

def joinLines (line : Nat) : Text → Text × Nat
  | '\\' :: '\n' :: rest => joinLines (line + 1) rest
  | rest => (rest, line)

def joined (source : Source) : Source :=
  let (rest, line) := joinLines source.line source.rest
  { source with rest, line }

def takeRaw (source : Source) : Option Char × Source :=
  match source.rest with
  | [] => (none, source)
  | '\n' :: rest =>
      (some '\n',
        { source with rest, line := source.line + 1 + source.skipped, skipped := 0 })
  | character :: rest => (some character, { source with rest })

end Source

namespace Reading

def fail {α : Type} (message : String) : Reading α := do
  throw ⟨[((← get).line, message.toList)], [], false, []⟩

def isExtended : Reading Bool := do return (← get).dialect = .extended

def ranOut {α : Type} (message : String) : Reading α := do
  if ← isExtended then throw ⟨[], [], false, []⟩ else fail message

def unclosed (closing : Char) (line : Nat) : Fault :=
  ⟨[(line, "unexpected EOF while looking for matching \x60".toList ++ [closing, '\''])], [], false,
    []⟩

def enclosed {α : Type} (closing : Char) (reading : Reading α) : Reading α := do
  let source ← get
  match reading.run source with
  | .ok (value, source) => do
      set source
      return value
  | .error fault => throw (if fault.messages.isEmpty then unclosed closing source.line else fault)

def nextRaw : Reading (Option Char) := do
  let (character, source) := (← get).takeRaw
  set source
  return character

def next : Reading (Option Char) := do
  let (character, source) := (← get).joined.takeRaw
  set source
  return character

def peek : Reading (Option Char) := do
  let source := (← get).joined
  set source
  return source.rest.head?

def accept (character : Char) : Reading Bool := do
  if (← peek) = some character then
    discard next
    return true
  return false

def nextWhile (test : Char → Bool) : Nat → Reading Text
  | 0 => return []
  | fuel + 1 => do
      match ← peek with
      | some character =>
          if test character then
            discard next
            let rest ← nextWhile test fuel
            return character :: rest
          return []
      | none => return []

def length : Reading Nat := do return (← get).rest.length + 1

def rawUntil (closing : Char) : Nat → Reading (Option Text)
  | 0 => return none
  | fuel + 1 => do
      match ← nextRaw with
      | none => return none
      | some character =>
          if character = closing then return some []
          return (← rawUntil closing fuel).map (character :: ·)

def unterminated : String := "Unterminated quoted string"

def single : Reading Text :=
  enclosed '\'' do
    match ← rawUntil '\'' (← length) with
    | some text => return text
    | none => ranOut unterminated

def rawEscaped : Nat → Reading Text
  | 0 => ranOut unterminated
  | fuel + 1 => do
      match ← nextRaw with
      | none => ranOut unterminated
      | some '\'' => return []
      | some '\\' => do
          let escaped ← nextRaw
          return '\\' :: escaped.toList ++ (← rawEscaped fuel)
      | some character => return character :: (← rawEscaped fuel)

def backtickText (quoted : Bool) : Nat → Reading Text
  | 0 => ranOut "EOF in backquote substitution"
  | fuel + 1 => do
      match ← next with
      | none => ranOut "EOF in backquote substitution"
      | some '\x60' => return []
      | some '\\' =>
          match ← nextRaw with
          | none => ranOut "EOF in backquote substitution"
          | some character =>
              let rest ← backtickText quoted fuel
              if "\\\x60$".contains character || (quoted && character = '"') then
                return character :: rest
              return '\\' :: character :: rest
      | some character =>
          let rest ← backtickText quoted fuel
          return character :: rest

/-! Documents. -/

def documentEnd (endsWord : Char → Bool) : Nat → Reading (Text × Bool)
  | 0 => return ([], false)
  | fuel + 1 => do
      match ← peek with
      | none => return ([], false)
      | some character =>
          if endsWord character then return ([], false)
          discard next
          match character with
          | '\'' =>
              let inside ← single
              let (rest, _) ← documentEnd endsWord fuel
              return (inside ++ rest, true)
          | '"' =>
              match ← rawUntil '"' (← length) with
              | none => ranOut unterminated
              | some inside =>
                  let (rest, _) ← documentEnd endsWord fuel
                  return (inside ++ rest, true)
          | '\\' =>
              let escaped ← nextRaw
              let (rest, _) ← documentEnd endsWord fuel
              return (escaped.toList ++ rest, true)
          | character =>
              let (rest, quoted) ← documentEnd endsWord fuel
              return (character :: rest, quoted)

def firstLine (characters : Text) : Text × Option Text :=
  let line := characters.takeWhile (· ≠ '\n')
  match characters.drop line.length with
  | _ :: rest => (line, some rest)
  | [] => (line, none)

/-- The lines of a document up to the one that ends it, what follows, the number of lines passed, and
whether there is a line that ends it. Where lines may be joined, one that is joined to the line
before it ends nothing. -/
def documentLines (ending : Text) (stripsTabs joins : Bool) :
    Nat → Bool → Text → Text × Text × Nat × Bool
  | 0, _, rest => ([], rest, 0, false)
  | _ + 1, _, [] => ([], [], 0, false)
  | fuel + 1, continued, characters =>
      let (line, after) := firstLine characters
      let line := if stripsTabs && !continued then line.dropWhile (· = '\t') else line
      if line = ending && !continued then ([], after.getD [], 1, true)
      else
        match after with
        | none => (line, [], 0, false)
        | some rest =>
            let (content, rest, count, isEnded) :=
              documentLines ending stripsTabs joins fuel (joins && isJoined line) rest
            (line ++ '\n' :: content, rest, count + 1, isEnded)

def takeDocument (ending : Text) (stripsTabs joins : Bool) : Reading Text := do
  let source ← get
  let line := source.rest.takeWhile (· ≠ '\n')
  let following := source.rest.drop (line.length + 1)
  let (content, after, count, isEnded) :=
    documentLines ending stripsTabs joins (following.length + 1) false following
  let hasEnd := line.length < source.rest.length
  let rest := if hasEnd then line ++ '\n' :: after else line
  let content :=
    if source.dialect = .extended && content.getLast?.any (· ≠ '\n') then content ++ ['\n']
    else content
  set { source with
    rest
    whole := source.whole.take (source.whole.length - source.rest.length) ++ rest
    marked := rest
    skipped := source.skipped + count
    openDocuments :=
      if isEnded then source.openDocuments else source.openDocuments ++ [(source.line, ending)] }
  return content

end Reading

end ArtifactTools.Shell
