import ArtifactTools.Shell.Quoting
import ArtifactTools.Shell.Source

/-! The grammar of commands. Words and commands contain each other, so they are read together. A
script is read one complete line of commands at a time: what stands before a fault is run before the
fault is noticed. Fuel bounds the depth of reading, and the length of the text bounds the fuel. The
extended dialect has more words, more commands and other faults. -/

namespace ArtifactTools.Shell

namespace Grammar

open Reading

def reservedWords : List String :=
  ["!", "case", "do", "done", "elif", "else", "esac", "fi", "for", "if", "in", "then", "until",
    "while", "\x7b", "\x7d"]

def moreReservedWords : List String := ["[[", "function", "select", "time"]

def isReserved (dialect : Dialect) (word : Text) : Bool :=
  reservedWords.contains (String.ofList word) ||
    (dialect = .extended && moreReservedWords.contains (String.ofList word))

/-- Commands that belong to the shell itself: functions do not take their names, their assignments
last, and a fault in one of them ends the shell. -/
def specialCommands : List String :=
  [":", ".", "break", "continue", "eval", "exec", "exit", "export", "local", "readonly", "return",
    "set", "shift", "times", "trap", "unset"]

def closers : List String :=
  [")", ";;", ";&", ";;&", "do", "done", "elif", "else", "esac", "fi", "then", "\x7d"]

def isBlank (character : Char) : Bool := character = ' ' || character = '\t'

def endsWord (character : Char) : Bool := " \t\n;&|<>()".contains character

def bareText? : Word → Option Text
  | [.text characters false] => some characters
  | _ => none

def spelling : Token → String
  | .ending => "end of file"
  | .newline => "newline"
  | .mark text => "\"" ++ text ++ "\""
  | .word _ => "word"
  | .redirection .. => "redirection"

def unexpectedFault (source : Source) (found : Token) : Fault :=
  let near (text : Text) : Fault :=
    ⟨[(source.markedLine, "syntax error near unexpected token \x60".toList ++ text ++ ['\''])],
      [(source.markedLine, ('\x60' :: source.markedText) ++ ['\''])], false, source.nextLines⟩
  match found with
  | .ending =>
      ⟨[(source.lastLine + 1, "syntax error: unexpected end of file".toList)], [], false, []⟩
  | .newline => near "newline".toList
  | _ => near source.sinceMark

def unexpected {α : Type} (found : Token) (expected : Option String) : Reading α := do
  if ← isExtended then throw (unexpectedFault (← get) found)
  match expected with
  | none => fail (spelling found ++ " unexpected")
  | some text => fail (spelling found ++ " unexpected (expecting " ++ text ++ ")")

def unclosedCommand {α : Type} (found : Token) : Reading α := do
  match found, ← isExtended with
  | .ending, true => throw (unclosed ')' ((← get).lastLine + 1))
  | found, _ => unexpected found (some "\")\"")

def quoted (mark : String) : String := "\"" ++ mark ++ "\""

def putBack (token : Token) : Reading Unit :=
  modify fun source => { source with returned := some token }

def follow (first second : Command) : Command :=
  match second with
  | .nothing => first
  | second => .sequence first second

inductive Enclosure where
  | quotes
  | braces
  | document
  deriving DecidableEq, Repr

def modifier : Reading (Option Modifier) := do
  match ← next with
  | some '\x7d' => return none
  | some ':' =>
      match ← next with
      | some '-' => return some (.default true)
      | some '=' => return some (.assign true)
      | some '+' => return some (.alternative true)
      | some '?' => return some (.demand true)
      | _ => return some .malformed
  | some '-' => return some (.default false)
  | some '=' => return some (.assign false)
  | some '+' => return some (.alternative false)
  | some '?' => return some (.demand false)
  | some '%' => return some (.cutEnd (← accept '%'))
  | some '#' => return some (.cutStart (← accept '#'))
  | _ => return some .malformed

def parameterName : Reading (Option Text) := do
  match ← peek with
  | none => return none
  | some first =>
      if isNameStart first then return some (← nextWhile isNameCharacter (← length))
      if isDigit first then return some (← nextWhile isDigit (← length))
      if isSpecialParameter first then
        discard next
        return some [first]
      return none

/-- What a number sign after an opening brace means: with a name that the brace closes after it, the
length of the value, and else a parameter of its own. A single mark that is no parameter means
nothing. -/
def afterNumberSign : Reading (Text × Option Modifier) := do
  let before ← get
  match ← parameterName with
  | none =>
      discard next
      if (← peek) = some '\x7d' then return (['#'], some .malformed)
      set before
      return (['#'], ← modifier)
  | some name =>
      if ← accept '\x7d' then return (name, some .length)
      if name.all isNameCharacter then return (name, some .malformed)
      set before
      return (['#'], ← modifier)

def bracedName : Reading (Text × Option Modifier) := do
  if ← accept '#' then
    if (← peek) = some '\x7d' then
      discard next
      return (['#'], none)
    afterNumberSign
  else
    match ← parameterName with
    | none => return ([], some .malformed)
    | some name => return (name, ← modifier)

def isCut : Modifier → Bool
  | .cutEnd _ | .cutStart _ => true
  | _ => false

def operator (character : Char) : Reading Token := do
  let isExtended ← isExtended
  if character = '&' then
    if ← accept '&' then return .mark "&&"
    if isExtended && (← get).rest.head? = some '>' then
      discard (accept '>')
      return .redirection none (if ← accept '>' then .appendBoth else .writeBoth) false
    return .mark "&"
  if character = '|' then
    if ← accept '|' then return .mark "||"
    if isExtended then
      if ← accept '&' then return .mark "|&"
    return .mark "|"
  if character = ';' then
    if ← accept ';' then
      if isExtended then
        if ← accept '&' then return .mark ";;&"
      return .mark ";;"
    if isExtended then
      if ← accept '&' then return .mark ";&"
    return .mark ";"
  return .mark (String.singleton character)

def redirection (descriptor : Option Descriptor) (character : Char) : Reading Token := do
  let isExtended ← isExtended
  if character = '>' then
    if ← accept '>' then return .redirection descriptor .append false
    if ← accept '|' then return .redirection descriptor .overwrite false
    if ← accept '&' then
      let kind := if isExtended && descriptor.isNone then .duplicateOrBoth else .duplicate
      return .redirection (descriptor.or (some (.number 1))) kind false
    return .redirection descriptor .write false
  if ← accept '<' then
    if isExtended then
      if ← accept '<' then return .redirection descriptor .textLine false
    return .redirection descriptor .document (← accept '-')
  if ← accept '&' then return .redirection (descriptor.or (some (.number 0))) .duplicate false
  if ← accept '>' then return .redirection (descriptor.or (some (.number 0))) .readWrite false
  return .redirection descriptor .read false

/-- The descriptor before a redirection, if it is told: a digit, or in the extended dialect a number
or a variable between braces. -/
def descriptor? (dialect : Dialect) (text : Text) : Option (Descriptor × Text) :=
  let isFollowed (rest : Text) : Bool := rest.head? = some '<' || rest.head? = some '>'
  match dialect, text with
  | .extended, '\x7b' :: rest =>
      let name := rest.takeWhile isNameCharacter
      match rest.drop name.length with
      | '\x7d' :: rest =>
          if isName name && isFollowed rest then some (.variable name, rest) else none
      | _ => none
  | dialect, text =>
      let digits := (text.takeWhile isDigit).take (if dialect = .plain then 1 else 9)
      let rest := text.drop digits.length
      if digits.isEmpty || !isFollowed rest then none
      else some (.number (Decimal.value digits), rest)

def closesTwice : Nat → Text → Bool
  | _, [] => true
  | depth, '\\' :: _ :: rest => closesTwice depth rest
  | depth, '(' :: rest => closesTwice (depth + 1) rest
  | 0, ')' :: rest => rest.head? = some ')'
  | depth + 1, ')' :: rest => closesTwice depth rest
  | depth, _ :: rest => closesTwice depth rest

def isBalanced : Nat → Text → Bool
  | 0, _ => true
  | _ + 1, [] => false
  | depth + 1, '\\' :: _ :: rest => isBalanced (depth + 1) rest
  | depth + 1, '(' :: rest => isBalanced (depth + 2) rest
  | depth + 1, ')' :: rest => isBalanced depth rest
  | depth + 1, _ :: rest => isBalanced (depth + 1) rest

def afterClosing : Nat → Text → Text
  | _, [] => []
  | depth, '\\' :: _ :: rest => afterClosing depth rest
  | depth, '(' :: rest => afterClosing (depth + 1) rest
  | 0, ')' :: rest => rest
  | depth + 1, ')' :: rest => afterClosing depth rest
  | depth, _ :: rest => afterClosing depth rest

/-- Whether a word that begins here is an assignment to an element, in whose subscript blanks may
stand. -/
def startsElement (text : Text) : Bool :=
  let name := text.takeWhile isNameCharacter
  let rec isClosed : Nat → Text → Bool
    | _, [] | _, '\n' :: _ => false
    | depth, '[' :: rest => isClosed (depth + 1) rest
    | 0, ']' :: rest => ['='].isPrefixOf rest || ['+', '='].isPrefixOf rest
    | depth + 1, ']' :: rest => isClosed depth rest
    | depth, _ :: rest => isClosed depth rest
  isName name &&
    match text.drop name.length with
    | '[' :: rest => isClosed 0 rest
    | _ => false

def splitExpressions (parts : Word) : List Word :=
  let rec split : Word → List Word
    | [] => [[]]
    | part :: rest =>
        match part, split rest with
        | .text [';'] true, others => [] :: others
        | part, first :: others => (part :: first) :: others
        | part, [] => [[part]]
  split parts

def declaringCommands : List String := ["declare", "export", "local", "readonly", "typeset"]

def conditionOperators : List String :=
  ["=", "==", "!=", "=~", "-eq", "-ne", "-lt", "-le", "-gt", "-ge", "-nt", "-ot", "-ef"]

def isUnaryCondition (word : Text) : Bool :=
  match word with
  | ['-', letter] => "abcdefghknoprstuvwxzGLNORS".contains letter
  | _ => false

def placeOf (source : Source) : List (Nat × Text) :=
  [(source.markedLine, "syntax error near \x60".toList ++ source.near ++ ['\'']),
    (source.markedLine, ('\x60' :: source.markedText) ++ ['\''])]

def conditionFault {α : Type} (messages : List (Nat × Text)) : Reading α := do
  let source ← get
  throw ⟨messages, placeOf source, false, source.nextLines⟩

def told? (source : Source) : Token → Option Text
  | .ending => some "EOF".toList
  | .newline => some "newline".toList
  | .word _ => none
  | _ => some source.sinceMark

def standsForOutput : RedirectionKind → Bool
  | .write | .overwrite | .append | .writeBoth | .appendBoth => true
  | _ => false

def isExpanding (source : Source) (name : Text) : Bool :=
  source.expanding.any fun entry => entry.1 = name && entry.2 ≤ source.rest.length

mutual

def dollar : Nat → Bool → Bool → Reading Word
  | 0, _, _ => ranOut unterminated
  | fuel + 1, isQuoted, inDocument => do
      let isExtended ← isExtended
      match ← peek with
      | none => return [.text ['$'] isQuoted]
      | some '(' =>
          discard next
          let isDouble := (← peek) = some '('
          if isDouble && (!isExtended || closesTwice 0 ((← get).rest.drop 1)) then
            discard next
            let parts ← enclosed ')' (arithmetic fuel 0 inDocument)
            return [.arithmetic (joinText parts) isQuoted]
          let source ← get
          if isDouble && !isBalanced 1 source.rest then throw (unclosed ')' source.line)
          let body ← list fuel false true
          match ← token fuel false false with
          | .mark ")" => return [.command body isQuoted]
          | found => unclosedCommand found
      | some '[' =>
          if !isExtended then return [.text ['$'] isQuoted]
          discard next
          let parts ← enclosed ']' (untilStop fuel [']'] true)
          return [.arithmetic (joinText parts) isQuoted]
      | some '\x7b' =>
          discard next
          if isExtended then return ← enclosed '\x7d' (reference fuel isQuoted inDocument)
          match ← bracedName with
          | (name, none) => return [.parameter name isQuoted]
          | (name, some .length) => return [.modified name .length [] isQuoted]
          | (name, some modifier) =>
              let word ←
                if isQuoted && !isCut modifier then double fuel .braces inDocument false
                else bare fuel true inDocument
              return [.modified name modifier (joinText word) isQuoted]
      | some character =>
          if isExtended && !isQuoted && !inDocument then
            if character = '\'' then
              discard next
              let inside ← enclosed '\'' do rawEscaped (← length)
              return [.text (Escape.quotedText inside) true]
            if character = '"' then
              discard next
              let inside ← enclosed '"' (double fuel .quotes inDocument false)
              return if inside.isEmpty then [.text [] true] else inside
          if isNameStart character then
            return [.parameter (← nextWhile isNameCharacter (← length)) isQuoted]
          if isDigit character || isSpecialParameter character then
            discard next
            return [.parameter [character] isQuoted]
          return [.text ['$'] isQuoted]

def reference : Nat → Bool → Bool → Reading Word
  | 0, _, _ => ranOut unterminated
  | fuel + 1, isQuoted, inDocument => do
      let start := (← get).rest
      let made (name : Text) (isIndirect : Bool) (selection : Selection) (use : Use) :
          Reading Word := do
        let written := start.take (start.length - (← get).rest.length - 1)
        return [.reference written name isIndirect selection use isQuoted]
      let before ← get
      if ← accept '#' then
        if ← accept '\x7d' then return ← made ['#'] false .whole .value
        match ← parameterName with
        | some name => do
            let selection ← selection fuel name
            if ← accept '\x7d' then return ← made name false selection .length
        | none => pure ()
        set before
      let isIndirect :=
        match (← get).rest with
        | '!' :: next :: _ => isNameCharacter next || next = '@' || next = '*' || next = '#'
        | _ => false
      if isIndirect then discard next
      match ← parameterName with
      | none => do
          discard (bare fuel true inDocument)
          made [] false .whole .malformed
      | some name => do
          let selection ← selection fuel name
          match (← get).rest with
          | mark :: '\x7d' :: _ =>
              if isIndirect && (mark = '@' || mark = '*') then
                discard next
                discard next
                return ← made name false .whole (.namesFrom (mark = '*'))
          | _ => pure ()
          let use ← use fuel isQuoted inDocument
          match isIndirect, selection, use with
          | true, .every _, .value => made name false selection .subscripts
          | isIndirect, selection, use => made name isIndirect selection use

def selection : Nat → Text → Reading Selection
  | 0, _ => ranOut unterminated
  | fuel + 1, name => do
      if !isName name then return .whole
      match (← get).rest with
      | '[' :: mark :: ']' :: rest =>
          if mark = '@' || mark = '*' then
            modify fun source => { source with rest }
            return .every (mark = '*')
          else
            discard next
            return .element (joinText (← untilStop fuel [']'] true))
      | '[' :: _ => do
          discard next
          return .element (joinText (← untilStop fuel [']'] true))
      | _ => return .whole

def use : Nat → Bool → Bool → Reading Use
  | 0, _, _ => ranOut unterminated
  | fuel + 1, isQuoted, inDocument => do
      let modified (modifier : Modifier) : Reading Use := do
        let word ←
          if isQuoted && !isCut modifier then double fuel .braces inDocument false
          else bare fuel true inDocument
        return .modified modifier (joinText word)
      let upTo (stops : List Char) : Reading Word := do
        return joinText (← untilStop fuel stops false)
      let before ← get
      let malformed : Reading Use := do
        set before
        discard (bare fuel true inDocument)
        return .malformed
      match ← next with
      | some '\x7d' => return .value
      | some ':' =>
          match ← peek with
          | some '-' | some '=' | some '+' | some '?' => do
              match ← next with
              | some '-' => modified (.default true)
              | some '=' => modified (.assign true)
              | some '+' => modified (.alternative true)
              | _ => modified (.demand true)
          | _ => do
              let offset ← upTo [':', '\x7d']
              let count ← if ← accept ':' then some <$> upTo ['\x7d'] else pure none
              discard next
              return .slice offset count
      | some '-' => modified (.default false)
      | some '=' => modified (.assign false)
      | some '+' => modified (.alternative false)
      | some '?' => modified (.demand false)
      | some '%' => do modified (.cutEnd (← accept '%'))
      | some '#' => do modified (.cutStart (← accept '#'))
      | some '/' => do
          let place : Place ←
            if ← accept '/' then pure .everywhere
            else if ← accept '#' then pure .start
            else if ← accept '%' then pure .finish
            else pure .first
          let slash : Word := if ← accept '/' then [.text ['/'] true] else []
          let pattern ← upTo ['/', '\x7d']
          let replacement ← if ← accept '/' then upTo ['\x7d'] else pure []
          discard next
          return .substitute place (slash ++ pattern) replacement
      | some '@' =>
          match (← get).rest with
          | letter :: '\x7d' :: _ =>
              if "QEPAKaULuk".contains letter then
                discard next
                discard next
                return .transform letter
              malformed
          | _ => malformed
      | some mark =>
          let recasing? : Option Recasing :=
            match mark with
            | '^' => some .upper
            | ',' => some .lower
            | '~' => some .other
            | _ => none
          match recasing? with
          | none => malformed
          | some recasing => do
              let isEverywhere ← accept mark
              let pattern ← upTo ['\x7d']
              discard next
              return .recase recasing isEverywhere pattern
      | none => ranOut unterminated

/-- Reads a part of a reference up to one of some characters, which is taken where that is asked
for. Brackets within brackets belong together. -/
def untilStop : Nat → List Char → Bool → Reading Word
  | 0, _, _ => ranOut unterminated
  | fuel + 1, stops, takesStop => do
      match ← peek with
      | none => ranOut unterminated
      | some character =>
          if stops.contains character then
            if takesStop then discard next
            return []
          discard next
          let first : Word ←
            match character with
            | '[' =>
                if stops.contains ']' then do
                  let inside ← untilStop fuel stops true
                  pure (.text ['['] false :: inside ++ [.text [']'] false])
                else pure [.text ['['] false]
            | '\'' => do pure [.text (← single) true]
            | '"' => do
                let inside ← enclosed '"' (double fuel .quotes false false)
                pure (if inside.isEmpty then [.text [] true] else inside)
            | '\\' => do pure [.text [(← nextRaw).getD '\\'] true]
            | '$' => dollar fuel false false
            | '\x60' => backtick fuel false
            | character => pure [.text [character] false]
          return first ++ (← untilStop fuel stops takesStop)

/-- Reads a word of a condition that is a regular expression: bars belong to it, and parentheses with
all that stands between them. -/
def regexWord : Nat → Reading Word
  | 0 => ranOut unterminated
  | fuel + 1 => do
      match ← peek with
      | none => return []
      | some character =>
          if " \t\n&;)<>".contains character then return []
          discard next
          let first : Word ←
            match character with
            | '(' => do
                let inside ← enclosed ')' (group fuel)
                pure (.text ['('] false :: inside)
            | '\'' => do pure [.text (← single) true]
            | '"' => do
                let inside ← enclosed '"' (double fuel .quotes false false)
                pure (if inside.isEmpty then [.text [] true] else inside)
            | '\\' => do pure [.text [(← nextRaw).getD '\\'] true]
            | '$' => dollar fuel false false
            | '\x60' => backtick fuel false
            | character => pure [.text [character] false]
          return first ++ (← regexWord fuel)

def backtick : Nat → Bool → Reading Word
  | 0, _ => ranOut unterminated
  | fuel + 1, isQuoted => do
      let text ← enclosed '\x60' do backtickText isQuoted (← length)
      let source ← get
      match (list fuel false true).run (.ofText source.dialect text 1 source.aliases) with
      | .ok (body, _) => return [.command body isQuoted]
      | .error fault => throw fault

/-- Reads a word without quotes around it, up to the character that ends it or to the brace that
closes it. -/
def bare : Nat → Bool → Bool → Reading Word
  | 0, _, _ => ranOut unterminated
  | fuel + 1, isBraced, inDocument => do
      match ← peek with
      | none => if isBraced then ranOut "Missing '\x7d'" else return []
      | some character =>
          if !isBraced && endsWord character then return []
          discard next
          if isBraced && character = '\x7d' then return []
          let source ← get
          if source.hasGroups && "?*+@!".contains character && source.rest.head? = some '(' then
            discard next
            let inside ← group fuel
            return .text [character, '('] false :: inside ++ (← bare fuel isBraced inDocument)
          let first : Word ←
            match character with
            | '\'' => pure [.text (← single) true]
            | '"' => do
                let inside ← enclosed '"' (double fuel .quotes inDocument false)
                pure (if inside.isEmpty then [.text [] true] else inside)
            | '\\' => do pure [.text [(← nextRaw).getD '\\'] true]
            | '$' => dollar fuel false inDocument
            | '\x60' => backtick fuel false
            | character => pure [.text [character] false]
          return first ++ (← bare fuel isBraced inDocument)

def group : Nat → Reading Word
  | 0 => ranOut unterminated
  | fuel + 1 => do
      match ← peek with
      | none => ranOut unterminated
      | some character =>
          discard next
          if character = ')' then return [.text [')'] false]
          let first : Word ←
            match character with
            | '(' => do pure (.text ['('] false :: (← group fuel))
            | '\'' => do pure [.text (← single) true]
            | '"' => enclosed '"' (double fuel .quotes false false)
            | '\\' => do pure [.text [(← nextRaw).getD '\\'] true]
            | '$' => dollar fuel false false
            | '\x60' => backtick fuel false
            | character => pure [.text [character] false]
          return first ++ (← group fuel)

/-- Reads text in which parameters, commands and expressions are replaced, up to the end of what
encloses it. Within braces quotes may be open again. -/
def double : Nat → Enclosure → Bool → Bool → Reading Word
  | 0, _, _, _ => ranOut unterminated
  | fuel + 1, enclosure, inDocument, isInner => do
      match ← next with
      | none =>
          if enclosure = .document then return []
          else ranOut (if inDocument then "Missing '\x7d'" else unterminated)
      | some character =>
          if character = '"' && enclosure = .quotes then return []
          if character = '\x7d' && enclosure = .braces && !isInner then return []
          if character = '"' && enclosure = .braces then
            return .text [] true :: (← double fuel enclosure inDocument !isInner)
          let first : Word ←
            match character with
            | '\\' => do
                match ← nextRaw with
                | none => pure [.text ['\\'] true]
                | some escaped =>
                    if "\\\x60$".contains escaped || (escaped = '"' && enclosure ≠ .document) ||
                        (escaped = '\x7d' && enclosure = .braces) then
                      pure [.text [escaped] true]
                    else pure [.text ['\\', escaped] true]
            | '$' => dollar fuel true inDocument
            | '\x60' => backtick fuel true
            | character => pure [.text [character] true]
          return first ++ (← double fuel enclosure inDocument isInner)

def arithmetic : Nat → Nat → Bool → Reading Word
  | 0, _, _ => ranOut unterminated
  | fuel + 1, depth, inDocument => do
      match ← next with
      | none => ranOut "Missing '))'"
      | some '(' => return .text ['('] true :: (← arithmetic fuel (depth + 1) inDocument)
      | some ')' =>
          if 0 < depth then return .text [')'] true :: (← arithmetic fuel (depth - 1) inDocument)
          if ← accept ')' then return []
          return .text [')'] true :: (← arithmetic fuel depth inDocument)
      | some '\\' =>
          let escaped ← nextRaw
          let characters : Text :=
            match escaped with
            | none => ['\\']
            | some escaped => if "\\\x60$\"".contains escaped then [escaped] else ['\\', escaped]
          return .text characters true :: (← arithmetic fuel depth inDocument)
      | some '$' => return (← dollar fuel true inDocument) ++ (← arithmetic fuel depth inDocument)
      | some '\x60' => return (← backtick fuel true) ++ (← arithmetic fuel depth inDocument)
      | some character =>
          return .text [character] true :: (← arithmetic fuel depth inDocument)
termination_by structural fuel => fuel

/-- Reads the next token as it comes. Where a command may begin, a name with a bracket begins an
element. -/
def scan : Nat → Bool → Reading Token
  | 0, _ => return .ending
  | fuel + 1, atCommand => do
      let found ← peek
      modify fun source => { source with marked := source.rest, markedLine := source.line }
      match found with
      | none => return .ending
      | some character =>
          let source ← get
          let isExtended := source.dialect = .extended
          if isBlank character then
            discard next
            scan fuel atCommand
          else if character = '#' then
            modify fun source => { source with rest := source.rest.dropWhile (· ≠ '\n') }
            scan fuel atCommand
          else if character = '\n' then
            discard next
            return .newline
          else if "&|;()".contains character then
            discard next
            operator character
          else if isExtended && "<>".contains character && source.rest[1]? = some '(' then
            discard next
            discard next
            let body ← list fuel false true
            match ← token fuel false false with
            | .mark ")" =>
                let rest ← bare fuel false false
                return .word (.channel (character = '<') body :: joinText rest)
            | found => unclosedCommand found
          else if "<>".contains character then
            discard next
            redirection none character
          else
            match descriptor? source.dialect source.rest with
            | some (descriptor, rest) => do
                set { source with rest }
                let sign ← next
                redirection (some descriptor) (sign.getD '<')
            | none =>
                let name := source.rest.takeWhile isNameCharacter
                let isPlaced := atCommand && isName name &&
                  source.rest[name.length]? = some '['
                if isExtended && (isPlaced || startsElement source.rest) then
                  let name ← nextWhile isNameCharacter (← length)
                  discard next
                  let inside ← enclosed ']' (untilStop fuel [']'] true)
                  let rest ← bare fuel false false
                  return .word (joinText
                    (.text (name ++ ['[']) false :: inside ++ .text [']'] false :: rest))
                return .word (joinText (← bare fuel false false))

/-- Reads the next token: with reserved words and aliases where a command may begin, and over ends
of lines where they say nothing. -/
def token : Nat → Bool → Bool → Reading Token
  | 0, _, _ => return .ending
  | fuel + 1, atCommand, overNewlines => do
      let source ← get
      set { source with returned := none }
      let found ←
        match source.returned with
        | some found => pure found
        | none => scan fuel atCommand
      match found with
      | .newline => if overNewlines then token fuel atCommand overNewlines else return .newline
      | .word parts =>
          match bareText? parts with
          | some text =>
              if !atCommand then return found
              let source ← get
              if isReserved source.dialect text then return .mark (String.ofList text)
              match source.aliases.lookup text with
              | some value =>
                  if isExpanding source text then return found
                  set { source with
                    rest := value ++ source.rest
                    expanding := (text, source.rest.length) :: source.expanding }
                  token fuel atCommand overNewlines
              | none => return found
          | none => return found
      | found => return found

def expect : Nat → String → Bool → Bool → Reading Unit
  | 0, _, _, _ => ranOut unterminated
  | fuel + 1, mark, atCommand, overNewlines => do
      let found ← token fuel atCommand overNewlines
      match found with
      | .mark text => if text = mark then return () else unexpected found (some (quoted mark))
      | found => unexpected found (some (quoted mark))

/-- Reads commands up to the end of the line, or else to the mark that closes them. Only where it
`mayBeEmpty` may a list have no command. -/
def list : Nat → Bool → Bool → Reading Command
  | 0, _, _ => ranOut unterminated
  | fuel + 1, isLine, mayBeEmpty => do
      match ← token fuel true !isLine with
      | .newline => return .nothing
      | .ending =>
          putBack .ending
          return .nothing
      | found =>
          putBack found
          let closes :=
            match found with
            | .mark text => closers.contains text
            | _ => false
          if closes && mayBeEmpty && !isLine then return .nothing
          let command ← andOr fuel
          let line := (← get).line
          match ← token fuel false false with
          | .mark "&" => return follow (.background line command) (← list fuel isLine true)
          | .mark ";" => return follow command (← list fuel isLine true)
          | .newline =>
              putBack .newline
              return follow command (← list fuel isLine true)
          | .ending =>
              putBack .ending
              return command
          | found =>
              if isLine then unexpected found none
              else
                putBack found
                return command

def andOr : Nat → Reading Command
  | 0 => ranOut unterminated
  | fuel + 1 => do andOrAfter fuel (← pipeline fuel false)

def andOrAfter : Nat → Command → Reading Command
  | 0, _ => ranOut unterminated
  | fuel + 1, first => do
      match ← token fuel false false with
      | .mark "&&" => andOrAfter fuel (.both first (← pipeline fuel true))
      | .mark "||" => andOrAfter fuel (.either first (← pipeline fuel true))
      | found =>
          putBack found
          return first

def pipeline : Nat → Bool → Reading Command
  | 0, _ => ranOut unterminated
  | fuel + 1, isFresh => do
      match ← token fuel isFresh isFresh with
      | .mark "!" => do
          if !(← isExtended) then return .negated (← stages fuel true false)
          return .negated (← pipelineAfter fuel)
      | .mark "time" => do
          let found ← token fuel true false
          let isShort :=
            match found with
            | .word parts => bareText? parts = some ['-', 'p']
            | _ => false
          if !isShort then putBack found
          return .timed isShort (← pipelineAfter fuel)
      | found =>
          putBack found
          stages fuel false false

def pipelineAfter : Nat → Reading Command
  | 0 => ranOut unterminated
  | fuel + 1 => do
      let found ← token fuel true false
      putBack found
      match found with
      | .newline | .ending | .mark ";" | .mark "&" => return .nothing
      | _ => pipeline fuel false

def stages : Nat → Bool → Bool → Reading Command
  | 0, _, _ => ranOut unterminated
  | fuel + 1, atCommand, overNewlines => do
      let first ← command fuel atCommand overNewlines
      match ← token fuel false false with
      | .mark "|" =>
          match ← stages fuel true true with
          | .pipeline others => return .pipeline (first :: others)
          | other => return .pipeline [first, other]
      | .mark "|&" =>
          let line := (← get).line
          let joined := Command.redirected line first
            [⟨.number 2, .duplicate, [.text ['1'] false]⟩]
          match ← stages fuel true true with
          | .pipeline others => return .pipeline (joined :: others)
          | other => return .pipeline [joined, other]
      | found =>
          putBack found
          return first

def command : Nat → Bool → Bool → Reading Command
  | 0, _, _ => ranOut unterminated
  | fuel + 1, atCommand, overNewlines => do
      let found ← token fuel atCommand overNewlines
      let line := (← get).line
      match found with
      | .mark "if" =>
          let inside ← conditional fuel
          expect fuel "fi" false false
          redirected fuel line inside
      | .mark "while" => redirected fuel line (← loop fuel false)
      | .mark "until" => redirected fuel line (← loop fuel true)
      | .mark "for" => redirected fuel line (← each fuel line)
      | .mark "case" => redirected fuel line (← select fuel line)
      | .mark "select" => redirected fuel line (← choose fuel line)
      | .mark "[[" => redirected fuel line (← check fuel line)
      | .mark "function" =>
          match ← token fuel false false with
          | .word parts => do
              let name := (bareText? parts).getD (← get).sinceMark
              match ← token fuel true true with
              | .mark "(" => do
                  discard (nextWhile isBlank (← length))
                  if !(← accept ')') then putBack (.mark "(")
              | found => putBack found
              let line := (← get).line
              return .define line name (← functionBody fuel)
          | found => unexpected found none
      | .mark "(" =>
          let source ← get
          if source.dialect = .extended && source.rest.head? = some '(' &&
              closesTwice 0 (source.rest.drop 1) then
            discard next
            let parts ← enclosed ')' (arithmetic fuel 0 false)
            return ← redirected fuel line (.compute line (joinText parts))
          if source.dialect = .extended && source.rest.head? = some '(' then
            let inside := source.rest.drop 1
            if !isBalanced 1 inside then throw (unclosed ')' source.line)
            let after := afterClosing 0 inside
            if after.isEmpty || after.head? = some '\n' then
              modify fun source => { source with rest := after.drop 1 }
              let line := { (← get) with marked := source.marked }
              throw ⟨[], placeOf line, false, []⟩
          let inside ← list fuel false false
          expect fuel ")" false false
          match ← redirections fuel true with
          | found => return .subshell line inside found
      | .mark "\x7b" =>
          let inside ← list fuel false false
          expect fuel "\x7d" false false
          redirected fuel line inside
      | .word _ | .redirection .. =>
          putBack found
          simple fuel line [] [] []
      | found => unexpected found none

def conditional : Nat → Reading Command
  | 0 => ranOut unterminated
  | fuel + 1 => do
      let test ← list fuel false false
      expect fuel "then" false false
      let yes ← list fuel false false
      match ← token fuel false false with
      | .mark "elif" => return .conditional test yes (← conditional fuel)
      | .mark "else" => return .conditional test yes (← list fuel false false)
      | found =>
          putBack found
          return .conditional test yes .nothing

def loop : Nat → Bool → Reading Command
  | 0, _ => ranOut unterminated
  | fuel + 1, untilTrue => do
      let test ← list fuel false false
      expect fuel "do" false false
      let body ← list fuel false false
      expect fuel "done" false false
      return .loop untilTrue test body

def loopBody : Nat → Reading Command
  | 0 => ranOut unterminated
  | fuel + 1 => do
      if ← isExtended then
        match ← token fuel true true with
        | .mark "\x7b" => do
            let body ← list fuel false false
            expect fuel "\x7d" false false
            return body
        | found => putBack found
      expect fuel "do" true true
      let body ← list fuel false false
      expect fuel "done" false false
      return body

def itemWords : Nat → Reading (List Word)
  | 0 => ranOut unterminated
  | fuel + 1 => do
      match ← token fuel true true with
      | .mark "in" => forWords fuel
      | .mark ";" => return [[.parameter ['@'] true]]
      | found => do
          putBack found
          return [[.parameter ['@'] true]]

def loopName : Nat → Reading Text
  | 0 => ranOut unterminated
  | fuel + 1 => do
      let found ← token fuel false false
      let name? : Option Text :=
        match found with
        | .word parts => bareText? parts
        | _ => none
      if ← isExtended then
        match found with
        | .word _ => return (← get).sinceMark
        | found => unexpected found none
      if !(name?.any isName) then fail "Bad for loop variable"
      return name?.getD []

/-- Reads a loop over words; without words it goes over the arguments. In the extended dialect it may
be a loop with three expressions. -/
def each : Nat → Nat → Reading Command
  | 0, _ => ranOut unterminated
  | fuel + 1, line => do
      if ← isExtended then
        discard (nextWhile isBlank (← length))
        let source ← get
        if ['(', '('].isPrefixOf source.rest then
          discard next
          discard next
          let inside := (← get).rest
          let isClosed := isBalanced 1 inside
          if isClosed && (afterClosing 0 inside).head? ≠ some ')' then
            let after := (afterClosing 0 inside).drop 1
            throw ⟨[], placeOf { (← get) with rest := after }, false, []⟩
          let parts ← enclosed ')' (arithmetic fuel 0 false)
          match splitExpressions parts with
          | [start, test, step] => do
              match ← token fuel true true with
              | .mark ";" => pure ()
              | found => putBack found
              return .count line (joinText start) (joinText test) (joinText step)
                (← loopBody fuel)
          | _ =>
              let written := source.rest.take (source.rest.length - (← get).rest.length)
              throw ⟨[(source.line, "syntax error: arithmetic expression required".toList),
                (source.line, "syntax error: \x60".toList ++ written ++ ['\''])], [], false, []⟩
      let name ← loopName fuel
      let words ← itemWords fuel
      return .each line name words (← loopBody fuel)
termination_by structural fuel => fuel

def choose : Nat → Nat → Reading Command
  | 0, _ => ranOut unterminated
  | fuel + 1, line => do
      let name ← loopName fuel
      let words ← itemWords fuel
      return .choose line name words (← loopBody fuel)
termination_by structural fuel => fuel

def functionBody : Nat → Reading Command
  | 0 => ranOut unterminated
  | fuel + 1 => do
      let found ← token fuel true true
      putBack found
      let isCompound :=
        match found with
        | .mark text =>
            ["\x7b", "(", "[[", "if", "for", "while", "until", "case", "select"].contains text
        | _ => false
      if !isCompound then unexpected found none
      else command fuel true true

def check : Nat → Nat → Reading Command
  | 0, _ => ranOut unterminated
  | fuel + 1, line => do
      let before := (← get).hasGroups
      modify fun source => { source with hasGroups := true }
      let condition ← conditionEither fuel
      modify fun source => { source with hasGroups := before }
      let found ← token fuel false true
      let source ← get
      let wrong : Text := "syntax error in conditional expression".toList
      match found with
      | .ending =>
          throw ⟨[(line, "unexpected EOF while looking for \x60]]'".toList),
            (source.lastLine + 1, "syntax error: unexpected end of file".toList)], [], false, []⟩
      | .word parts =>
          if bareText? parts = some [']', ']'] then return .check line condition
          else conditionFault [(line, wrong)]
      | found =>
          let token := ((told? source found).map fun text =>
            ": unexpected token \x60".toList ++ text ++ ['\'']).getD []
          conditionFault [(line, wrong ++ token)]
termination_by structural fuel => fuel

def conditionToken : Nat → Bool → String → Reading Token
  | 0, _, _ => ranOut unterminated
  | fuel + 1, overNewlines, sequel => do
      let source ← get
      match (token fuel false overNewlines).run source with
      | .ok (found, source) => do
          set source
          return found
      | .error fault =>
          if fault.place.isEmpty && !fault.messages.isEmpty then
            throw { fault with
              messages := fault.messages ++ [(source.lastLine + 1, sequel.toList)] }
          else throw fault

def conditionEither : Nat → Reading Condition
  | 0 => ranOut unterminated
  | fuel + 1 => do
      let first ← conditionBoth fuel
      match ← token fuel false true with
      | .mark "||" => return .either first (← conditionEither fuel)
      | found =>
          putBack found
          return first

def conditionBoth : Nat → Reading Condition
  | 0 => ranOut unterminated
  | fuel + 1 => do
      let first ← conditionTerm fuel
      match ← token fuel false true with
      | .mark "&&" => return .both first (← conditionBoth fuel)
      | found =>
          putBack found
          return first

def conditionTerm : Nat → Reading Condition
  | 0 => ranOut unterminated
  | fuel + 1 => do
      let found ← conditionToken fuel true "unexpected token \x60\xff' in conditional command"
      let source ← get
      match found with
      | .ending =>
          throw ⟨[(source.lastLine + 1, "unexpected token \x60EOF' in conditional command".toList),
            (source.lastLine + 1, "syntax error: unexpected end of file".toList)], [], false, []⟩
      | .mark "(" => do
          let expected : Text := "expected \x60)'".toList
          match (conditionEither fuel).run source with
          | .error fault =>
              throw { fault with messages := fault.messages ++ [(source.markedLine, expected)] }
          | .ok (inside, after) => do
              set after
              match ← token fuel false true with
              | .mark ")" => return inside
              | found => do
                  let after ← get
                  let told : Option Text :=
                    match found with
                    | .word parts => (bareText? parts).filter (· = [']', ']'])
                    | found => told? after found
                  let start := (told.map fun text =>
                    "unexpected token \x60".toList ++ text ++ "', ".toList).getD []
                  conditionFault [(source.markedLine, start ++ expected)]
      | .word parts =>
          match bareText? parts with
          | some ['!'] => return .negation (← conditionTerm fuel)
          | some [']', ']'] => conditionFault []
          | text? =>
              match text?.filter isUnaryCondition with
              | some operator => return .unary operator (← conditionOperand fuel "unary")
              | none => conditionAfter fuel parts
      | found =>
          let text := (told? source found).getD []
          conditionFault [(source.markedLine,
            "unexpected token \x60".toList ++ text ++ "' in conditional command".toList)]

def conditionOperand : Nat → String → Reading Word
  | 0, _ => ranOut unterminated
  | fuel + 1, kind => do
      let ending := " to conditional " ++ kind ++ " operator"
      let found ← conditionToken fuel false ("unexpected argument" ++ ending)
      let source ← get
      let refused (text : Text) : Reading Word :=
        conditionFault [(source.markedLine,
          "unexpected argument \x60".toList ++ text ++ ('\'' :: ending.toList))]
      match found with
      | .word parts =>
          if bareText? parts = some [']', ']'] then refused [']', ']'] else return parts
      | found => refused ((told? source found).getD [])

def conditionAfter : Nat → Word → Reading Condition
  | 0, _ => ranOut unterminated
  | fuel + 1, first => do
      let found ← conditionToken fuel false "conditional binary operator expected"
      let source ← get
      let second (operator : Text) : Reading Condition := do
        return .binary operator first (← conditionOperand fuel "binary")
      match found with
      | .word parts =>
          let text := (bareText? parts).getD []
          if text = [']', ']'] then
            putBack found
            return .word first
          else if text = ['=', '~'] then
            discard (nextWhile isBlank (← length))
            let before ← get
            match (regexWord fuel).run before with
            | .ok (found, after) =>
                let text := bareText? (joinText found)
                if found.isEmpty || text = some [']', ']'] then second text.toList.flatten
                else do
                  set after
                  return .binary ['=', '~'] first (joinText found)
            | .error fault =>
                if fault.place.isEmpty && !fault.messages.isEmpty then
                  throw { fault with
                    messages := fault.messages ++
                      [(before.lastLine + 1,
                        "unexpected argument to conditional binary operator".toList)] }
                else throw fault
          else if conditionOperators.contains (String.ofList text) then second text
          else
            conditionFault [(source.markedLine, "conditional binary operator expected".toList)]
      | .redirection none .read _ => second ['<']
      | .redirection none .write _ => second ['>']
      | .mark "&&" | .mark "||" | .mark ")" =>
          putBack found
          return .word first
      | found =>
          let text := (told? source found).getD []
          conditionFault [(source.markedLine, "unexpected token \x60".toList ++ text ++
            "', conditional binary operator expected".toList)]

def forWords : Nat → Reading (List Word)
  | 0 => ranOut unterminated
  | fuel + 1 => do
      match ← token fuel false false with
      | .word parts => return parts :: (← forWords fuel)
      | .newline => return []
      | .mark ";" => return []
      | found => unexpected found none

def select : Nat → Nat → Reading Command
  | 0, _ => ranOut unterminated
  | fuel + 1, line => do
      match ← token fuel false false with
      | .word subject =>
          expect fuel "in" true true
          return .select line subject (← arms fuel)
      | found => unexpected found (some "word")
termination_by structural fuel => fuel

def arms : Nat → Reading (List (List Word × Command × ArmEnd))
  | 0 => ranOut unterminated
  | fuel + 1 => do
      match ← token fuel true true with
      | .mark "esac" => return []
      | found =>
          let first ←
            match found with
            | .mark "(" => token fuel false false
            | found => pure found
          let patterns ← patterns fuel first
          let body ← list fuel false true
          match ← token fuel true true with
          | .mark "esac" => return [(patterns, body, .leave)]
          | .mark ";;" => return (patterns, body, .leave) :: (← arms fuel)
          | .mark ";&" => return (patterns, body, .enterNext) :: (← arms fuel)
          | .mark ";;&" => return (patterns, body, .tryNext) :: (← arms fuel)
          | found => unexpected found (some (quoted ";;"))

def patterns : Nat → Token → Reading (List Word)
  | 0, _ => ranOut unterminated
  | fuel + 1, first => do
      let pattern : Word ←
        match first, ← isExtended with
        | .word parts, _ => pure parts
        | .mark text, false => pure [.text text.toList false]
        | .mark text, true =>
            if isReserved .extended text.toList then pure [.text text.toList false]
            else unexpected first none
        | _, false => pure []
        | _, true => unexpected first none
      match ← token fuel false false with
      | .mark ")" => return [pattern]
      | .mark "|" =>
          let following ← token fuel false false
          return pattern :: (← patterns fuel following)
      | found => unexpected found (some (quoted ")"))

def target : Nat → Option Descriptor → RedirectionKind → Bool → Reading (Redirection Word)
  | 0, _, _, _ => ranOut unterminated
  | fuel + 1, descriptor, kind, stripsTabs => do
      let descriptor := descriptor.getD (.number (if standsForOutput kind then 1 else 0))
      if kind = .document then
        discard (nextWhile isBlank (← length))
        match ← peek with
        | none => unexpected .ending none
        | some character =>
            if endsWord character then unexpected (← token fuel false false) none
            else
              let (ending, isQuoted) ← documentEnd endsWord (← length)
              let before ← get
              let content ← takeDocument ending stripsTabs !isQuoted
              if isQuoted then return ⟨descriptor, kind, [.text content true]⟩
              else
                let start := before.line + before.skipped + 1
                match (double fuel .document true false).run
                    (.ofText before.dialect content start before.aliases) with
                | .ok (word, _) => return ⟨descriptor, kind, joinText word⟩
                | .error fault => throw fault
      else
        match ← token fuel false false with
        | .word parts =>
            return if kind = .textLine then ⟨descriptor, .document, parts ++ [.text ['\n'] true]⟩
              else ⟨descriptor, kind, parts⟩
        | found => unexpected found none

def redirections : Nat → Bool → Reading (List (Redirection Word))
  | 0, _ => ranOut unterminated
  | fuel + 1, atCommand => do
      match ← token fuel atCommand false with
      | .redirection descriptor kind stripsTabs =>
          let first ← target fuel descriptor kind stripsTabs
          return first :: (← redirections fuel false)
      | found =>
          putBack found
          return []

def redirected : Nat → Nat → Command → Reading Command
  | 0, _, _ => ranOut unterminated
  | fuel + 1, line, command => do
      let found ← redirections fuel true
      return if found.isEmpty then command else .redirected line command found
termination_by structural fuel => fuel

def items : Nat → Reading (List ListItem)
  | 0 => ranOut unterminated
  | fuel + 1 => do
      match ← token fuel false true with
      | .mark ")" => return []
      | .ending => ranOut unterminated
      | .word parts =>
          let placed? : Option ListItem :=
            match spread parts with
            | .text ['['] false :: rest =>
                match untilBracket 0 rest with
                | some (subscript, .text ['='] false :: value) =>
                    some (.placed (joinText subscript) false (joinText value))
                | some (subscript, .text ['+'] false :: .text ['='] false :: value) =>
                    some (.placed (joinText subscript) true (joinText value))
                | _ => none
            | _ => none
          return placed?.getD (.plain parts) :: (← items fuel)
      | found => unexpected found none

/-- Reads a simple command, whose assignments, words and redirections so far are given from the
last to the first; or a definition, which begins like one. In the extended dialect the line of a
command is the one where the token after its first word ends, since only that one tells the two
apart, or where an assignment or a redirection ends that it begins with. -/
def simple : Nat → Nat → List Assignment → List Word → List (Redirection Word) →
    Reading Command
  | 0, _, _, _, _ => ranOut unterminated
  | fuel + 1, line, assignments, words, found => do
      let isExtended ← isExtended
      let token ← token fuel false false
      let isFirst := words.isEmpty && assignments.isEmpty && found.isEmpty
      let isSecond := words.length = 1 && assignments.isEmpty && found.isEmpty
      let reached := (← get).line
      let line :=
        if !isExtended || !isSecond then line
        else
          match token with
          | .newline => reached - 1
          | _ => reached
      match token with
      | .word parts => do
          let assignment? :=
            if isExtended then Assignment.ofWord? parts
            else
              (splitAssignment? parts).map fun (name, value) =>
                Assignment.to name none false value
          let isDeclaring := isExtended && words.getLast?.any fun word =>
            (bareText? word).any fun name => declaringCommands.contains (String.ofList name)
          let list? ←
            match isExtended && (words.isEmpty || isDeclaring), assignment? with
            | true, some (.to _ _ _ []) => do
                if (← get).rest.head? = some '(' then
                  discard next
                  let source ← get
                  match (enclosed ')' (items fuel)).run source with
                  | .ok (items, source) => do
                      set source
                      pure (some (Part.list items))
                  | .error fault => throw { fault with skips := true }
                else pure none
            | _, _ => pure none
          let value (parts : Word) : Word := parts ++ list?.toList
          let reached := (← get).line
          let line := if isExtended && isFirst && assignment?.isSome then reached else line
          if isExtended && isFirst && (bareText? parts).isNone then
            let written := (← get).sinceMark
            discard (nextWhile isBlank (← length))
            if ← accept '(' then
              expect fuel ")" false false
              let line := (← get).line
              return .define line written (← functionBody fuel)
          match assignment?, words.isEmpty with
          | some (.to name subscript appends word), true =>
              simple fuel line (.to name subscript appends (value word) :: assignments) words found
          | _, _ => simple fuel line assignments (value parts :: words) found
      | .redirection descriptor kind stripsTabs =>
          let redirection ← target fuel descriptor kind stripsTabs
          let reached := (← get).line
          let line := if isExtended && isFirst then reached else line
          simple fuel line assignments words (redirection :: found)
      | .mark "(" =>
          match words, assignments, found with
          | [parts], [], [] =>
              expect fuel ")" false false
              let name := (bareText? parts).getD []
              if isExtended then
                let line := (← get).line
                return .define line name (← functionBody fuel)
              if !isName name || specialCommands.contains (String.ofList name) then
                fail "Bad function name"
              else
                let line := (← get).line
                return .define line name (← command fuel true true)
          | _, _, _ =>
              putBack (.mark "(")
              return .simple line assignments.reverse words.reverse found.reverse
      | other =>
          putBack other
          return .simple line assignments.reverse words.reverse found.reverse
termination_by structural fuel => fuel

end

def nextLine : Reading (Option Command) := do
  let source ← get
  set { source with returned := none }
  let fuel := 16 * source.rest.length + 64
  match ← token fuel true false with
  | .ending => return none
  | found =>
      putBack found
      return some (← list fuel true true)

end Grammar

end ArtifactTools.Shell
