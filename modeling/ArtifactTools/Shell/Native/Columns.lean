import ArtifactTools.Shell.Native.Lines

/-! Programs that work on each line by its columns: they take fields out, put lines side by side,
fold long lines, and number or turn lines round. -/

namespace ArtifactTools.Shell.Native

/-! Fields and places of a line. -/

structure Span where
  first : Nat
  last : Option Nat
  deriving DecidableEq, Repr

def Span.contains (span : Span) (place : Nat) : Bool :=
  span.first ≤ place && span.last.all fun last => place ≤ last

structure SpanWords where
  fromOne : String
  strange : String
  tooLarge : String

def fieldWords : SpanWords :=
  ⟨"fields are numbered from 1", "invalid field value ", "field number "⟩

def octetWords : SpanWords :=
  ⟨"byte/character positions are numbered from 1", "invalid byte/character position ",
    "byte/character offset "⟩

def readSpan (told : SpanWords) (item : Text) : Except Text Span :=
  let number (digits : Text) : Except Text Nat :=
    if Nat.pow 2 64 - 1 ≤ Decimal.value digits then
      .error (words told.tooLarge ++ cited digits ++ words " is too large")
    else .ok (Decimal.value digits)
  let first := item.takeWhile isDigit
  match item.drop first.length with
  | [] =>
      if first.isEmpty then .error (words told.fromOne)
      else (number first).bind fun place =>
        if place = 0 then .error (words told.fromOne) else .ok ⟨place, some place⟩
  | '-' :: rest =>
      let last := rest.takeWhile isDigit
      let after := rest.drop last.length
      if !after.isEmpty then .error (words told.strange ++ cited after)
      else if first.isEmpty && last.isEmpty then
        .error (words "invalid range with no endpoint: -")
      else do
        let start ← if first.isEmpty then pure 1 else number first
        if start = 0 then throw (words told.fromOne)
        if last.isEmpty then return ⟨start, none⟩
        let stop ← number last
        if stop < start then throw (words "invalid decreasing range")
        return ⟨start, some stop⟩
  | rest => .error (words told.strange ++ cited rest)

def readSpans (told : SpanWords) (text : Text) : Except Text (List Span) :=
  let items := (text.splitOn ',').flatMap fun item => item.splitOn ' '
  items.mapM (readSpan told)

structure Cut where
  spans : List Span
  isReversed : Bool
  delimiter : Option Char
  skipsOthers : Bool
  between : Option Text

def Cut.takes (cut : Cut) (place : Nat) : Bool :=
  (cut.spans.any fun span => span.contains place) != cut.isReversed

def Cut.line? (cut : Cut) (line : Text) : Option Text :=
  match cut.delimiter with
  | some delimiter =>
      let fields := line.splitOn delimiter
      if fields.length ≤ 1 then if cut.skipsOthers then none else some line
      else
        let kept := (fields.zipIdx 1).filterMap fun (field, place) =>
          if cut.takes place then some field else none
        some ((kept.intersperse (cut.between.getD [delimiter])).flatten)
  | none =>
      let marked := (line.zipIdx 1).map fun (character, place) =>
        if cut.takes place then some character else none
      match cut.between with
      | none => some (marked.filterMap id)
      | some between =>
          let startsSpan (place : Nat) : Bool := cut.isReversed && !cut.takes (place - 1) ||
            !cut.isReversed && cut.spans.any fun span => span.first = place &&
              !cut.spans.any fun other => other.first < place && other.contains place
          some ((marked.zipIdx 1).flatMap fun (character?, place) =>
            match character? with
            | none => []
            | some character =>
                let isFirst := ((marked.take (place - 1)).all (·.isNone))
                if startsSpan place && !isFirst then between ++ [character] else [character])

def cut (name : Text) (arguments : List Text) : Running Unit :=
  withOptions 1 [textual 'b' "bytes", textual 'c' "characters", textual 'f' "fields",
    textual 'd' "delimiter", flag 'n' "", flag 's' "only-delimited", flag 'z' "zero-terminated",
    longOnly '\x03' "complement" .nothing, longOnly '\x04' "output-delimiter" .text] name arguments
    fun options operands => do
      let lists := options.filter fun entry => "bcf".contains entry.1
      let delimiter := optionText? options 'd'
      match lists with
      | [] => misuse 1 name [words "you must specify a list of bytes, characters, or fields"]
      | [(letter, list)] =>
          let isFields := letter = 'f'
          if (delimiter.map (·.length)).any (1 < ·) then
            misuse 1 name [words "the delimiter must be a single character"]
          else if !isFields && delimiter.isSome then
            misuse 1 name
              [words "an input delimiter may be specified only when operating on fields"]
          else if !isFields && hasOption options 's' then
            misuse 1 name
              [words "suppressing non-delimited lines makes sense\n\tonly when operating on fields"]
          else
            match readSpans (if isFields then fieldWords else octetWords) list with
            | .error fault => misuse 1 name [fault]
            | .ok spans => do
                let mark := (delimiter.map fun text => text.head?.getD '\x00').getD '\t'
                let cut : Cut :=
                  ⟨spans, hasOption options '\x03', if isFields then some mark else none,
                    hasOption options 's', optionText? options '\x04'⟩
                succeed
                let operands : List Text := if operands.isEmpty then [['-']] else operands
                for operand in operands do
                  withContent operand (fun content =>
                    say (((splitLines (lineMark options) content).filterMap cut.line?).flatMap
                      (· ++ lineEnd options))) (blameFile 1 name operand)
      | _ => misuse 1 name [words "only one list may be specified"]

/-! Lines side by side. -/

def readMarks : Text → List Text
  | [] => []
  | '\\' :: letter :: rest =>
      let mark : Text :=
        match letter with
        | '0' => []
        | 'n' => ['\n']
        | 't' => ['\t']
        | 'b' => ['\x08']
        | 'f' => ['\x0c']
        | 'r' => ['\r']
        | 'v' => ['\x0b']
        | letter => [letter]
      mark :: readMarks rest
  | character :: rest => [character] :: readMarks rest

def joinMarked (marks : List Text) : Nat → List Text → Text
  | _, [] => []
  | _, [text] => text
  | index, text :: rest =>
      text ++ marks.getD (index % max marks.length 1) [] ++ joinMarked marks (index + 1) rest

def sideBySide (marks : List Text) (ending : Text) : Nat → List (List Text) → Text
  | 0, _ => []
  | fuel + 1, files =>
      if files.all (·.isEmpty) then []
      else
        joinMarked marks 0 (files.map fun lines => lines.headD []) ++ ending ++
          sideBySide marks ending fuel (files.map (·.drop 1))

def everyLine (start step : Nat) (lines : List Text) : List Text :=
  (lines.zipIdx.filter fun (_, index) => index % step = start).map (·.1)

/-- Puts the lines of files side by side, or all lines of a file on one. The standard input may be
named more than once; its lines are dealt out in turn. -/
def paste (name : Text) (arguments : List Text) : Running Unit :=
  withOptions 1 [textual 'd' "delimiters", flag 's' "serial", flag 'z' "zero-terminated"] name
    arguments fun options operands => do
      let operands : List Text := if operands.isEmpty then [['-']] else operands
      let marks := readMarks ((optionText? options 'd').getD ['\t'])
      let ending := lineEnd options
      succeed
      let machine ← get
      let faulty := operands.filterMap fun operand =>
        if operand = ['-'] then none
        else
          (machine.unreadable? operand).map fun error => (operand, error)
      let refused := if hasOption options 's' then faulty else faulty.take 1
      for (operand, error) in refused do blameFile 1 name operand error
      if faulty.isEmpty || hasOption options 's' then
        let input ← if operands.contains ['-'] then Running.readAll 0 else pure []
        let inputLines := splitLines (lineMark options) input
        let inputs := operands.countP (· = ['-'])
        let mut files : List (List Text) := []
        for (operand, index) in operands.zipIdx do
          if operand = ['-'] then
            let earlier := (operands.take index).countP (· = ['-'])
            let lines : List Text :=
              if !hasOption options 's' then everyLine earlier inputs inputLines
              else if earlier = 0 then inputLines
              else []
            files := files ++ [lines]
          else if let .ok content ← contentOf operand then
            files := files ++ [splitLines (lineMark options) content]
        if hasOption options 's' then
          say (files.flatMap fun lines => joinMarked marks 0 lines ++ ending)
        else
          let longest := (files.map (·.length)).foldl max 0
          say (sideBySide marks ending (longest + 1) files)

/-! Long lines. -/

def columnAfter (countsOctets : Bool) (column : Nat) (character : Char) : Nat :=
  if countsOctets then column + 1
  else
    match character with
    | '\x08' => column - 1
    | '\r' => 0
    | '\t' => column + 8 - column % 8
    | _ => column + 1

def foldText (width : Nat) (atBlanks countsOctets : Bool) : Nat → Text → Nat → Text → Text
  | 0, line, _, rest => line.reverse ++ rest
  | _ + 1, line, _, [] => line.reverse
  | fuel + 1, line, column, character :: rest =>
      if character = '\n' then
        line.reverse ++ '\n' :: foldText width atBlanks countsOctets fuel [] 0 rest
      else
        let next := columnAfter countsOctets column character
        if next ≤ width || line.isEmpty then
          foldText width atBlanks countsOctets fuel (character :: line) next rest
        else
          let tail := line.takeWhile fun character => !(" \t".contains character)
          if atBlanks && tail.length < line.length then
            let kept := line.drop tail.length
            kept.reverse ++ '\n' ::
              foldText width atBlanks countsOctets fuel [] 0 (tail.reverse ++ character :: rest)
          else
            line.reverse ++ '\n' ::
              foldText width atBlanks countsOctets fuel [] 0 (character :: rest)

def fold (name : Text) (arguments : List Text) : Running Unit :=
  let arguments : List Text :=
    match arguments with
    | ('-' :: digit :: digits) :: rest =>
        if (digit :: digits).all isDigit then ['-', 'w'] :: (digit :: digits) :: rest
        else arguments
    | arguments => arguments
  withOptions 1 [flag 'b' "bytes", flag 's' "spaces", textual 'w' "width"] name arguments
    fun options operands => do
      let width := (optionText? options 'w').getD ['8', '0']
      if width.isEmpty || !width.all isDigit then
        blame 1 name (words "invalid number of columns: " ++ cited width)
      else if Decimal.value width = 0 then
        blame 1 name (words "invalid number of columns: " ++ cited width ++
          words ": Numerical result out of range")
      else
        succeed
        let operands : List Text := if operands.isEmpty then [['-']] else operands
        for operand in operands do
          withContent operand (fun content =>
            say (foldText (Decimal.value width) (hasOption options 's') (hasOption options 'b')
              (3 * content.length + 2) [] 0 content)) (blameFile 1 name operand)

/-! Tabs. -/

def expandTabs (stop : Nat) (onlyInitial : Bool) : Nat → Bool → Text → Text
  | _, _, [] => []
  | column, atStart, character :: rest =>
      match character with
      | '\n' => '\n' :: expandTabs stop onlyInitial 0 true rest
      | '\t' =>
          if onlyInitial && !atStart then '\t' :: expandTabs stop onlyInitial (column + 1) false rest
          else
            let count := stop - column % stop
            List.replicate count ' ' ++ expandTabs stop onlyInitial (column + count) atStart rest
      | character =>
          character ::
            expandTabs stop onlyInitial (column + 1) (atStart && character = ' ') rest

def expand (name : Text) (arguments : List Text) : Running Unit :=
  withOptions 1 [textual 't' "tabs", flag 'i' "initial"] name arguments fun options operands => do
    let stop := (optionText? options 't').getD ['8']
    if stop.isEmpty || !stop.all isDigit then
      blame 1 name (words "tab size contains invalid character(s): " ++ cited stop)
    else if Decimal.value stop = 0 then blame 1 name (words "tab size cannot be 0")
    else
      succeed
      let contents ← contentsOf name operands
      say (expandTabs (Decimal.value stop) (hasOption options 'i') 0 true contents.flatten)

/-! Numbers, and lines turned round. -/

def numberLines (name : Text) (arguments : List Text) : Running Unit :=
  withOptions 1 [textual 'b' "body-numbering", textual 'w' "number-width",
    textual 's' "number-separator", textual 'v' "starting-line-number",
    textual 'i' "line-increment", textual 'n' "number-format", textual 'f' "footer-numbering",
    textual 'h' "header-numbering", textual 'd' "section-delimiter", textual 'l' "",
    flag 'p' "no-renumber"] name arguments fun options operands => do
      let style := (optionText? options 'b').getD ['t']
      let number (key : Char) (usual : Nat) : Nat :=
        ((optionText? options key).map Decimal.value).getD usual
      let width := number 'w' 6
      let separator := (optionText? options 's').getD ['\t']
      let layout := (optionText? options 'n').getD ['r', 'n']
      succeed
      let contents ← contentsOf name operands
      let lines := contents.flatMap (splitLines '\n')
      let shown (value : Nat) : Text :=
        let digits := Decimal.digits value
        if layout = ['l', 'n'] then digits ++ List.replicate (width - digits.length) ' '
        else if layout = ['r', 'z'] then Decimal.padZeros width digits
        else rightAligned width digits
      let step (state : Nat × Text) (line : Text) : Nat × Text :=
        if style = ['a'] || (style = ['t'] && !line.isEmpty) then
          (state.1 + number 'i' 1, state.2 ++ shown state.1 ++ separator ++ line ++ ['\n'])
        else
          (state.1, state.2 ++ List.replicate (width + separator.length) ' ' ++ line ++ ['\n'])
      say (lines.foldl step (number 'v' 1, [])).2

def reverse (name : Text) (arguments : List Text) : Running Unit :=
  withOptions 1 [flag 'z' "zero"] name arguments fun _ operands => do
    let operands : List Text := if operands.isEmpty then [['-']] else operands
    let turn (line : Text) : Text :=
      if line.getLast? = some '\n' then line.dropLast.reverse ++ ['\n'] else line.reverse
    succeed
    for operand in operands do
      withContent operand (fun content => say ((wholeLines content).flatMap turn)) fun error =>
        blame 1 name (words "cannot open " ++ operand ++ words ": " ++ Machine.plainWording error)

end ArtifactTools.Shell.Native
