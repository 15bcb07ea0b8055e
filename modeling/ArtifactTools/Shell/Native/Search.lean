import ArtifactTools.Regex.Reader
import ArtifactTools.Shell.Native.Lines

/-! The program that looks for lines which match patterns. -/

namespace ArtifactTools.Shell.Native

namespace Search

inductive Telling where
  | lines
  | matched
  | counts
  | namesWith
  | namesWithout
  | nothing
  deriving DecidableEq, Repr

structure Request where
  regexes : List Regex
  manner : Regex.Manner
  isInverted : Bool
  telling : Telling
  showsNames : Bool
  showsNumbers : Bool
  showsPlaces : Bool
  limit : Option Nat
  before : Nat
  after : Nat
  ending : Char
  nameEnd : Option Char
  isQuietOnFaults : Bool
  isText : Bool

def Request.holds (request : Request) (line : Text) : Bool :=
  (Regex.searchAny? request.regexes request.manner line 0).isSome != request.isInverted

def matchesIn (request : Request) (line : Text) : Nat → Nat → List (Nat × Text)
  | 0, _ => []
  | fuel + 1, position =>
      match Regex.searchAny? request.regexes request.manner line position with
      | none => []
      | some found =>
          if found.stop = found.start then
            if line.length ≤ found.stop then [] else matchesIn request line fuel (found.stop + 1)
          else
            (found.start, Regex.slice line found.start found.stop) ::
              matchesIn request line fuel found.stop

structure Placed where
  number : Nat
  offset : Nat
  line : Text

def placed (lines : List Text) : List Placed :=
  let step (state : List Placed × Nat × Nat) (line : Text) : List Placed × Nat × Nat :=
    (⟨state.2.1, state.2.2, line⟩ :: state.1, state.2.1 + 1, state.2.2 + line.length + 1)
  (lines.foldl step ([], 1, 0)).1.reverse

def Request.heading (request : Request) (shown : Text) (mark : Char) (number offset : Nat) : Text :=
  let name := if request.showsNames then shown ++ [request.nameEnd.getD mark] else []
  let number := if request.showsNumbers then Decimal.digits number ++ [mark] else []
  let place := if request.showsPlaces then Decimal.digits offset ++ [mark] else []
  name ++ number ++ place

def Request.chosen (request : Request) (lines : List Placed) : List Placed :=
  let found := lines.filter fun placed => request.holds placed.line
  match request.limit with
  | some limit => found.take limit
  | none => found

def Request.lineText (request : Request) (shown : Text) (lines chosen : List Placed) : Text :=
  let hasContext := 0 < request.before + request.after
  let last := (chosen.getLast?.map (·.number)).getD 0
  let isChosen (number : Nat) : Bool := chosen.any fun placed => placed.number = number
  let isNear (number : Nat) : Bool := chosen.any fun placed =>
    placed.number ≤ number + request.before && number ≤ placed.number + request.after
  let isPast (number : Nat) : Bool :=
    request.limit.isSome && last < number &&
      (lines.any fun placed =>
        last < placed.number && placed.number ≤ number && request.holds placed.line)
  let kept := lines.filter fun placed =>
    if hasContext then isNear placed.number && !isPast placed.number else isChosen placed.number
  let step (state : Text × Option Nat) (placed : Placed) : Text × Option Nat :=
    let isApart := hasContext && state.2.any fun number => number + 1 < placed.number
    let mark := if isChosen placed.number then ':' else '-'
    let line := request.heading shown mark placed.number placed.offset ++ placed.line ++
      [request.ending]
    (state.1 ++ (if isApart then ['-', '-', '\n'] else []) ++ line, some placed.number)
  (kept.foldl step ([], none)).1

def Request.tell (request : Request) (shown content : Text) : Text × Bool :=
  let lines := placed (splitLines request.ending content)
  let chosen := request.chosen lines
  let isFound := !chosen.isEmpty
  let nameLine := shown ++ [request.nameEnd.getD '\n']
  let isBinary := !request.isText && content.contains '\x00' && request.ending = '\n'
  let text :=
    match request.telling with
    | .nothing => []
    | .namesWith => if isFound then nameLine else []
    | .namesWithout => if isFound then [] else nameLine
    | .counts =>
        (if request.showsNames then shown ++ [request.nameEnd.getD ':'] else []) ++
          Decimal.digits chosen.length ++ ['\n']
    | .matched =>
        if isBinary && isFound then words "grep: " ++ shown ++ words ": binary file matches\n"
        else if request.isInverted then []
        else
          chosen.flatMap fun placed =>
            (matchesIn request placed.line (placed.line.length + 1) 0).flatMap
              fun (start, found) =>
                request.heading shown ':' placed.number (placed.offset + start) ++ found ++
                  [request.ending]
    | .lines =>
        if isBinary && isFound then words "grep: " ++ shown ++ words ": binary file matches\n"
        else request.lineText shown lines chosen
  (text, if request.telling = .namesWithout then !isFound else isFound)

def fitsPattern (pattern : Text) (name : Octets) : Bool :=
  Pattern.fits (Pattern.ofGlyphs (pattern.map Glyph.bare)) (Text.ofOctets name)

def filesBelow (tree : FileTree) (takes : Octets → Bool) :
    Nat → Text → Location → List (Text × Location)
  | 0, _, _ => []
  | depth + 1, shown, location =>
      let start := if shown.isEmpty || endsInSlash shown then shown else shown ++ ['/']
      (Fields.namesIn tree location).flatMap fun name =>
        let place := location ++ [name]
        let path := start ++ Text.ofOctets name
        match tree.node? place with
        | some (.directory _) => filesBelow tree takes depth path place
        | some (.file _) | some (.native _) => if takes name then [(path, place)] else []
        | _ => []

def readPatterns (kind : Char) (isWord isLine : Bool) (patterns : List Text) :
    Except Regex.Fault (List Regex) :=
  patterns.mapM fun pattern => do
    let regex ←
      if kind = 'F' then pure (Regex.ofText pattern)
      else Regex.read (.search (kind = 'E' || kind = 'P')) pattern
    let bounded (first last : RegexPlace) (regex : Regex) : Regex :=
      .sequence (.place first) (.sequence regex (.place last))
    if isLine then return bounded .lineStart .lineEnd regex
    else if isWord then return bounded .notAfterWord .notBeforeWord regex
    else return regex

end Search

open Search in
def search (kind : Option Char) (name : Text) (arguments : List Text) : Running Unit :=
  let usage (faults : List Text) : Running Unit :=
    complain 2 (faults ++ [words "Usage: grep [OPTION]... PATTERNS [FILE]...",
      words "Try 'grep --help' for more information."])
  let kinds : List OptionKind :=
    "EFGPivwxclLqsnHhobrRzZyaUTI".toList.map (flag · "") ++
      "efmABCdDX".toList.map (textual · "") ++
      [longOnly 'E' "extended-regexp" .nothing, longOnly 'F' "fixed-strings" .nothing,
        longOnly 'G' "basic-regexp" .nothing, longOnly 'P' "perl-regexp" .nothing,
        longOnly 'e' "regexp" .text, longOnly 'f' "file" .text,
        longOnly 'i' "ignore-case" .nothing, longOnly '\x0b' "no-ignore-case" .nothing,
        longOnly 'v' "invert-match" .nothing,
        longOnly 'w' "word-regexp" .nothing, longOnly 'x' "line-regexp" .nothing,
        longOnly 'c' "count" .nothing, longOnly 'l' "files-with-matches" .nothing,
        longOnly 'L' "files-without-match" .nothing, longOnly 'q' "quiet" .nothing,
        longOnly 'q' "silent" .nothing, longOnly 's' "no-messages" .nothing,
        longOnly 'n' "line-number" .nothing, longOnly 'H' "with-filename" .nothing,
        longOnly 'h' "no-filename" .nothing, longOnly 'o' "only-matching" .nothing,
        longOnly 'b' "byte-offset" .nothing, longOnly 'r' "recursive" .nothing,
        longOnly 'R' "dereference-recursive" .nothing, longOnly 'z' "null-data" .nothing,
        longOnly 'Z' "null" .nothing, longOnly 'a' "text" .nothing,
        longOnly 'm' "max-count" .text, longOnly 'A' "after-context" .text,
        longOnly 'B' "before-context" .text, longOnly 'C' "context" .text,
        longOnly 'd' "directories" .text, longOnly '\x03' "color" .ownText,
        longOnly '\x03' "colour" .ownText, longOnly '\x04' "include" .text,
        longOnly '\x05' "exclude" .text, longOnly '\x06' "exclude-dir" .text,
        longOnly '\x07' "label" .text, longOnly '\x08' "line-buffered" .nothing]
  let arguments : List Text := arguments.flatMap fun argument =>
    match argument with
    | '-' :: digit :: digits =>
        if (digit :: digits).all isDigit then [['-', 'C'], digit :: digits] else [argument]
    | argument => [argument]
  match readOptions false (kinds ++ commonKinds) arguments with
  | .error fault => usage [name ++ words ": " ++ fault]
  | .ok (options, operands) => do
      let has := hasOption options
      let matchers := (options.map (·.1)).filter fun letter => "EFGP".contains letter
      let matcher := (matchers.getLast?.or kind).getD 'G'
      let mut given : List (Except (Text × HostError) (List Text)) := []
      for (key, text) in options do
        if key = 'e' then given := given ++ [.ok (text.splitOn '\n')]
        else if key = 'f' then
          match ← contentOf text with
          | .ok content => given := given ++ [.ok (splitLines '\n' content)]
          | .error error => given := given ++ [.error (text, error)]
      let fault? := given.findSome? fun item =>
        match item with
        | .error fault => some fault
        | .ok _ => none
      let count? (key : Char) : Option (Option Nat) :=
        (optionText? options key).map fun text =>
          if !text.isEmpty && text.all isDigit then some (Decimal.value text) else none
      let wrongContext := ['A', 'B', 'C'].findSome? fun key =>
        if count? key = some none then optionText? options key else none
      if options.any fun entry => entry.1 < '\x03' then succeed
      else if 1 < matchers.eraseDups.length then
        blame 2 name (words "conflicting matchers specified")
      else if let some text := wrongContext then
        blame 2 name (text ++ words ": invalid context length argument")
      else if count? 'm' = some none && optionText? options 'm' ≠ some ['-', '1'] then
        blame 2 name (words "invalid max count")
      else if let some (text, error) := fault? then blameFile 2 name text error
      else if given.isEmpty && operands.isEmpty then usage []
      else
        let patterns : List Text :=
          if given.isEmpty then (operands.headD []).splitOn '\n'
          else given.flatMap fun item => item.toOption.getD []
        let operands := if given.isEmpty then operands.drop 1 else operands
        match readPatterns matcher (has 'w') (has 'x') patterns with
        | .error fault => blame 2 name (words fault.message)
        | .ok regexes => do
            let latest := (options.filter fun entry => "clLqo".contains entry.1).map (·.1)
            let telling : Telling :=
              if latest.contains 'q' then .nothing
              else
                match (latest.filter fun letter => "lL".contains letter).getLast? with
                | some 'l' => .namesWith
                | some _ => .namesWithout
                | none =>
                    if latest.contains 'c' then .counts
                    else if latest.contains 'o' then .matched
                    else .lines
            let isRecursive := has 'r' || has 'R'
            let inputs : List Text :=
              if operands.isEmpty then [if isRecursive then [] else ['-']] else operands
            let naming := (options.filter fun entry => "Hh".contains entry.1).getLast?.map (·.1)
            let showsNames :=
              match naming with
              | some 'H' => true
              | some _ => false
              | none => 1 < inputs.length || isRecursive
            let number (key : Char) : Nat :=
              (((count? key).or (count? 'C')).bind id).getD 0
            let request : Request :=
              { regexes
                manner := ⟨has 'i' || has 'y', false, true, true⟩
                isInverted := has 'v'
                telling
                showsNames
                showsNumbers := has 'n'
                showsPlaces := has 'b'
                limit := (count? 'm').bind id
                before := number 'B'
                after := number 'A'
                ending := lineMark options
                nameEnd := if has 'Z' then some '\x00' else none
                isQuietOnFaults := has 's'
                isText := has 'a' }
            let taken (name : Octets) : Bool :=
              let texts (key : Char) : List Text :=
                (options.filter (·.1 = key)).map (·.2)
              let included := texts '\x04'
              (included.isEmpty || included.any fun pattern => fitsPattern pattern name) &&
                !(texts '\x05').any fun pattern => fitsPattern pattern name
            let mut isFound := false
            let mut hasFault := false
            for operand in inputs do
              let machine ← get
              let place : Text := if operand.isEmpty && isRecursive then ['.'] else operand
              let found := machine.tree.find machine.directory (pathOf place)
              let read (shown path : Text) : Running (Except HostError (List (Text × Text))) := do
                match ← contentOf path with
                | .error error => return .error error
                | .ok content => return .ok [(shown, content)]
              let result : Except HostError (List (Text × Text)) ←
                if operand = ['-'] then
                  let label := (optionText? options '\x07').getD (words "(standard input)")
                  read label operand
                else
                  match found with
                  | .error error => pure (.error error)
                  | .ok (location, .directory _) =>
                      if isRecursive then
                        let depth := machine.tree.nodes.length + 1
                        pure (.ok ((filesBelow machine.tree taken depth operand location).map
                          fun (shown, place) =>
                            (shown, Text.ofOctets
                              (((machine.tree.fileAt? place).map (·.content)).getD []))))
                      else if optionText? options 'd' = some (words "skip") then pure (.ok [])
                      else pure (.error .isDirectory)
                  | .ok _ => read operand operand
              match result with
              | .error error =>
                  hasFault := true
                  if !request.isQuietOnFaults then
                    complain 2 [name ++ words ": " ++ operand ++ words ": " ++
                      Machine.plainWording error]
              | .ok files =>
                  for (shown, content) in files do
                    let (text, holds) := request.tell shown content
                    say text
                    isFound := isFound || holds
            let status :=
              if isFound && (telling = .nothing || !hasFault) then 0
              else if hasFault then 2
              else 1
            modify fun machine => machine.fail status

end ArtifactTools.Shell.Native
