import ArtifactTools.Binary
import ArtifactTools.Shell.Native.Lines

/-! Programs that put lines in order, and those that work on lines in order: neighbours that are
alike, and lines that two files have in common. -/

namespace ArtifactTools.Shell.Native

namespace Order

inductive Sense where
  | octets
  | numbers
  | reals
  | sizes
  | months
  | versions
  deriving DecidableEq, Repr

/-- A key of a line: from where to where, and how its text is compared. Places count from zero, and
an end without a place within its field is the end of the field. -/
structure Key where
  startField : Nat
  startPlace : Nat
  endField : Option Nat
  endPlace : Nat
  skipsStart : Bool
  skipsEnd : Bool
  senses : List Sense
  foldsCase : Bool
  onlyWords : Bool
  onlyPrintable : Bool
  isReversed : Bool
  deriving Repr

def Key.whole : Key := ⟨0, 0, none, 0, false, false, [], false, false, false, false⟩

def Key.hasNoManner (key : Key) : Bool :=
  key.senses.isEmpty && !key.foldsCase && !key.onlyWords && !key.onlyPrintable &&
    !key.isReversed && !key.skipsStart && !key.skipsEnd

def isBlank (character : Char) : Bool := " \t\n".contains character

def fieldLength (mark : Option Char) (takesMark : Bool) : Nat → Text → Nat
  | 0, _ => 0
  | count + 1, text =>
      match mark with
      | some mark =>
          let field := text.takeWhile (· ≠ mark)
          let isLast := count = 0 && !takesMark
          let length := field.length + if field.length < text.length && !isLast then 1 else 0
          length + fieldLength (some mark) takesMark count (text.drop length)
      | none =>
          let blanks := (text.takeWhile isBlank).length
          let length := blanks + ((text.drop blanks).takeWhile fun next => !isBlank next).length
          length + fieldLength none takesMark count (text.drop length)

def Key.text (key : Key) (mark : Option Char) (line : Text) : Text :=
  let after (skips : Bool) (place : Nat) : Nat :=
    if skips then place + ((line.drop place).takeWhile isBlank).length else place
  let start := min line.length
    (after key.skipsStart (fieldLength mark true key.startField line) + key.startPlace)
  let stop :=
    match key.endField with
    | none => line.length
    | some field =>
        if key.endPlace = 0 then fieldLength mark false (field + 1) line
        else
          min line.length
            (after key.skipsEnd (fieldLength mark true field line) + key.endPlace)
  (line.drop start).take (stop - start)

def decimal (text : Text) : Int × Text × Text :=
  let body := text.dropWhile isBlank
  let (isNegative, body) :=
    match body with
    | '-' :: rest => (true, rest)
    | rest => (false, rest)
  let digits := body.takeWhile isDigit
  let rest := body.drop digits.length
  let (fraction, rest) :=
    match rest with
    | '.' :: rest => (rest.takeWhile isDigit, rest.dropWhile isDigit)
    | rest => ([], rest)
  let size : Int := Decimal.value (digits ++ fraction.take 18 ++
    List.replicate (18 - fraction.length) '0')
  (if isNegative then -size else size, fraction.drop 18, rest)

def compareNumbers (first second : Text) : Ordering :=
  let (left, leftRest, _) := decimal first
  let (right, rightRest, _) := decimal second
  (compareOfLessAndEq left right).then
    (compareOfLessAndEq (Text.toOctets leftRest) (Text.toOctets rightRest))

def unitPlace (text : Text) : Nat :=
  match (decimal text).2.2 with
  | unit :: _ => (("KMGTPEZYRQ".toList.idxOf? unit).map (· + 1)).getD
      (if unit = 'k' then 1 else 0)
  | [] => 0

def compareSizes (first second : Text) : Ordering :=
  let rank (text : Text) : Int :=
    let (value, _, _) := decimal text
    let place : Int := unitPlace text
    if value < 0 then -place - 1 else if value = 0 then 0 else place + 1
  (compareOfLessAndEq (rank first) (rank second)).then (compareNumbers first second)

def months : List String :=
  ["JAN", "FEB", "MAR", "APR", "MAY", "JUN", "JUL", "AUG", "SEP", "OCT", "NOV", "DEC"]

def monthOf (text : Text) : Nat :=
  let name := (text.dropWhile isBlank).take 3
  ((months.idxOf? (String.ofList (name.map Char.toUpper))).map (· + 1)).getD 0

def realRank (text : Text) : Nat × Rat :=
  match Binary.Numeral.read? text with
  | none => (0, 0)
  | some numeral =>
      match numeral.amount with
      | .notANumber => (1, 0)
      | .infinite => (if numeral.isNegative then 2 else 4, 0)
      | .fraction numerator denominator =>
          let size : Int := if numeral.isNegative then -numerator else numerator
          (3, mkRat size denominator)

def compareReals (first second : Text) : Ordering :=
  let (firstKind, firstSize) := realRank first
  let (secondKind, secondSize) := realRank second
  (compareOfLessAndEq firstKind secondKind).then
    (if firstSize < secondSize then .lt else if secondSize < firstSize then .gt else .eq)

def versionRank (character : Char) : Int :=
  if character = '~' then -1
  else if isNameStart character && character ≠ '_' then character.toNat
  else character.toNat + 256

def compareVersions : Nat → Text → Text → Ordering
  | 0, _, _ => .eq
  | _, [], [] => .eq
  | fuel + 1, first, second =>
      let plain (text : Text) : Text := text.takeWhile fun next => !isDigit next
      let rec ranks : Text → Text → Ordering
        | [], [] => .eq
        | [], next :: _ => compareOfLessAndEq 0 (versionRank next)
        | next :: _, [] => compareOfLessAndEq (versionRank next) 0
        | left :: lefts, right :: rights =>
            (compareOfLessAndEq (versionRank left) (versionRank right)).then (ranks lefts rights)
      let number (text : Text) : Text := (text.drop (plain text).length).takeWhile isDigit
      let rest (text : Text) : Text := text.drop ((plain text).length + (number text).length)
      ((ranks (plain first) (plain second)).then
        (compareOfLessAndEq (Decimal.value (number first)) (Decimal.value (number second)))).then
          (compareVersions fuel (rest first) (rest second))

def Key.compare (key : Key) (first second : Text) : Ordering :=
  let isKept (character : Char) : Bool :=
    (!key.onlyWords || isBlank character || (isNameCharacter character && character ≠ '_')) &&
      (!key.onlyPrintable || isPrintable character)
  let shape (text : Text) : Octets :=
    let kept := text.filter isKept
    Text.toOctets (if key.foldsCase then kept.map Char.toUpper else kept)
  let order :=
    match key.senses with
    | .numbers :: _ => compareNumbers first second
    | .reals :: _ => compareReals first second
    | .sizes :: _ => compareSizes first second
    | .months :: _ => compareOfLessAndEq (monthOf first) (monthOf second)
    | .versions :: _ => compareVersions (first.length + second.length + 1) first second
    | _ => compareOfLessAndEq (shape first) (shape second)
  if key.isReversed then order.swap else order

/-- An order of lines by keys; lines with equal keys are ordered as wholes unless that is not
asked for. -/
structure Manner where
  keys : List Key
  mark : Option Char
  isStable : Bool
  isReversed : Bool

def Manner.compareKeys (manner : Manner) (first second : Text) : Ordering :=
  manner.keys.foldl (fun order key =>
    order.then (key.compare (key.text manner.mark first) (key.text manner.mark second))) .eq

def Manner.compare (manner : Manner) (first second : Text) : Ordering :=
  let whole := compareOfLessAndEq (Text.toOctets first) (Text.toOctets second)
  let last :=
    if manner.isStable then .eq else if manner.isReversed then whole.swap else whole
  (manner.compareKeys first second).then last

/-! Keys as they are written. -/

def keyLetters : String := "bdfghiMnRrV"

def addLetter (atEnd : Bool) (key : Key) (letter : Char) : Key :=
  let sensed (sense : Sense) : Key :=
    if key.senses.contains sense then key else { key with senses := key.senses ++ [sense] }
  match letter with
  | 'b' => if atEnd then { key with skipsEnd := true } else { key with skipsStart := true }
  | 'd' => { key with onlyWords := true }
  | 'f' => { key with foldsCase := true }
  | 'g' => sensed .reals
  | 'h' => sensed .sizes
  | 'i' => { key with onlyPrintable := true }
  | 'M' => sensed .months
  | 'n' => sensed .numbers
  | 'r' => { key with isReversed := true }
  | 'V' => sensed .versions
  | _ => key

def badSpecification (fault : String) (text : Text) : Text :=
  words (fault ++ ": invalid field specification ") ++ cited text

def readCount (fault : String) (text : Text) : Except Text (Nat × Text) :=
  let digits := text.takeWhile isDigit
  if digits.isEmpty then
    .error (words (fault ++ ": invalid count at start of ") ++ cited text)
  else .ok (Decimal.value digits, text.drop digits.length)

def readKey (whole : Text) : Except Text Key := do
  let (field, rest) ← readCount "invalid number at field start" whole
  if field = 0 then throw (badSpecification "field number is zero" whole)
  let (place, rest) ←
    match rest with
    | '.' :: rest => do
        let (place, rest) ← readCount "invalid number after '.'" rest
        if place = 0 then throw (badSpecification "character offset is zero" whole)
        pure (place - 1, rest)
    | rest => pure (0, rest)
  let letters := rest.takeWhile fun letter => keyLetters.contains letter
  let key := letters.foldl (addLetter false)
    { Key.whole with startField := field - 1, startPlace := place }
  match rest.drop letters.length with
  | [] => return key
  | ',' :: rest => do
      let (field, rest) ← readCount "invalid number after ','" rest
      if field = 0 then throw (badSpecification "field number is zero" whole)
      let (place, rest) ←
        match rest with
        | '.' :: rest => readCount "invalid number after '.'" rest
        | rest => pure (0, rest)
      let letters := rest.takeWhile fun letter => keyLetters.contains letter
      if letters.length < rest.length then
        throw (badSpecification "stray character in field spec" whole)
      return letters.foldl (addLetter true)
        { key with endField := some (field - 1), endPlace := place }
  | _ => throw (badSpecification "stray character in field spec" whole)

def conflict? (key : Key) : Option Text :=
  let groups := (key.senses.filter (· ≠ .versions)).length +
    (if key.senses.contains .versions || key.onlyWords || key.onlyPrintable then 1 else 0)
  if groups ≤ 1 then none
  else
    let letter (test : Bool) (letter : Char) : Text := if test then [letter] else []
    some (letter key.onlyWords 'd' ++ letter key.foldsCase 'f' ++
      letter (key.senses.contains .reals) 'g' ++ letter (key.senses.contains .sizes) 'h' ++
      letter key.onlyPrintable 'i' ++ letter (key.senses.contains .months) 'M' ++
      letter (key.senses.contains .numbers) 'n' ++ letter (key.senses.contains .versions) 'V')

def readMark (text : Text) : Except Text Char :=
  match text with
  | [] => .error (words "empty tab")
  | [mark] => .ok mark
  | ['\\', '0'] => .ok '\x00'
  | text => .error (words "multi-character tab " ++ cited text)

def disorder? (manner : Manner) (isStrict : Bool) : Nat → List Text → Option (Nat × Text)
  | number, first :: second :: rest =>
      let order := manner.compare first second
      if order = .gt || (isStrict && order = .eq) then some (number + 1, second)
      else disorder? manner isStrict (number + 1) (second :: rest)
  | _, _ => none

def firstOfEach (isAlike : Text → Text → Bool) : List Text → List Text
  | first :: second :: rest =>
      if isAlike first second then firstOfEach isAlike (first :: rest)
      else first :: firstOfEach isAlike (second :: rest)
  | lines => lines
termination_by lines => lines.length

end Order

def sort (name : Text) (arguments : List Text) : Running Unit :=
  withOptions 2 (Order.keyLetters.toList.map (flag · "") ++
    [flag 'u' "unique", flag 'c' "", flag 'C' "", flag 's' "stable", flag 'm' "merge",
      flag 'z' "zero-terminated", textual 'k' "key", textual 't' "field-separator",
      textual 'o' "output", textual 'S' "buffer-size", textual 'T' "temporary-directory",
      longOnly 'r' "reverse" .nothing, longOnly 'n' "numeric-sort" .nothing,
      longOnly 'f' "ignore-case" .nothing, longOnly 'b' "ignore-leading-blanks" .nothing,
      longOnly 'd' "dictionary-order" .nothing, longOnly 'h' "human-numeric-sort" .nothing,
      longOnly 'V' "version-sort" .nothing, longOnly 'g' "general-numeric-sort" .nothing,
      longOnly 'M' "month-sort" .nothing, longOnly 'i' "ignore-nonprinting" .nothing,
      longOnly 'c' "check" .ownText, longOnly '\x03' "parallel" .text])
    name arguments fun options operands => do
      let letters := (options.map (·.1)).filter fun letter => Order.keyLetters.contains letter
      let general := letters.foldl (Order.addLetter false) .whole
      let general := if letters.contains 'b' then { general with skipsEnd := true } else general
      let mark ←
        match (optionText? options 't').map Order.readMark with
        | some result => pure (some result)
        | none => pure none
      let keys := (options.filter (·.1 = 'k')).mapM fun entry => Order.readKey entry.2
      let isUnique := hasOption options 'u'
      let fail (fault : Text) : Running Unit := blame 2 name fault
      match mark, keys with
      | some (.error fault), _ => fail fault
      | _, .error fault => fail fault
      | mark, .ok keys => do
          let mark := mark.bind (·.toOption)
          let keys := keys.map fun key =>
            if key.hasNoManner then
              { general with
                startField := key.startField
                startPlace := key.startPlace
                endField := key.endField
                endPlace := key.endPlace }
            else key
          let keys :=
            if keys.isEmpty && !general.hasNoManner then
              if { general with isReversed := false }.hasNoManner then [] else [general]
            else keys
          let isStable := hasOption options 's' || isUnique
          let whole : List Order.Key :=
            if keys.isEmpty && isStable then [{ Order.Key.whole with
              isReversed := general.isReversed }] else keys
          let manner : Order.Manner := ⟨whole, mark, isStable, general.isReversed⟩
          let checks := options.filter fun entry => entry.1 = 'c' || entry.1 = 'C'
          match keys.findSome? Order.conflict? with
          | some letters =>
              fail (words "options '-" ++ letters ++ words "' are incompatible")
          | none =>
              if !checks.isEmpty && 1 < operands.length then
                fail (words "extra operand " ++ cited (operands.getD 1 []) ++
                  words " not allowed with -c")
              else
                let inputs : List Text := if operands.isEmpty then [['-']] else operands
                let machine ← get
                let fault? := inputs.findSome? fun operand =>
                  if operand = ['-'] then none
                  else
                    match machine.unreadable? operand with
                    | none => none
                    | some error =>
                        let what := if error = .isDirectory then "read failed: " else "cannot read: "
                        some (words what ++ named operand ++ words ": " ++
                          Machine.plainWording error)
                match fault? with
                | some fault => fail fault
                | none => do
                    succeed
                    let contents ← contentsOf name operands
                    let lines := contents.flatMap (splitLines (lineMark options))
                    if let check :: _ := checks then
                      match Order.disorder? manner isUnique 1 lines with
                      | none => return ()
                      | some (number, line) =>
                          let isQuiet := check.1 = 'C' || check.2 = words "quiet" ||
                            check.2 = words "silent"
                          if isQuiet then modify fun machine => machine.fail 1
                          else
                            blame 1 name (inputs.headD [] ++ ':' :: Decimal.digits number ++
                              words ": disorder: " ++ line)
                    else
                      let sorted := lines.mergeSort fun first second =>
                        manner.compare first second != .gt
                      let isAlike (first second : Text) : Bool :=
                        manner.compareKeys first second == .eq
                      let kept := if isUnique then Order.firstOfEach isAlike sorted else sorted
                      let text : Text := kept.flatMap (· ++ lineEnd options)
                      match optionText? options 'o' with
                      | none => say text
                      | some target => do
                          match ← Running.writeFile target text with
                          | .ok () => return ()
                          | .error error =>
                              fail (words "open failed: " ++ named target ++ words ": " ++
                                Machine.plainWording error)

/-! Neighbours that are alike. -/

def runs (isAlike : Text → Text → Bool) : List Text → List (List Text)
  | [] => []
  | line :: rest =>
      match runs isAlike rest with
      | (next :: others) :: more =>
          if isAlike line next then (line :: next :: others) :: more
          else [line] :: (next :: others) :: more
      | others => [line] :: others

def unique (name : Text) (arguments : List Text) : Running Unit :=
  let arguments : List Text := arguments.map fun argument =>
    match argument with
    | '-' :: digit :: digits =>
        if (digit :: digits).all isDigit then '-' :: 'f' :: digit :: digits else argument
    | argument => argument
  withOptions 1 [flag 'c' "count", flag 'd' "repeated", flag 'D' "", flag 'i' "ignore-case",
    flag 'u' "unique", flag 'z' "zero-terminated", textual 'f' "skip-fields",
    textual 's' "skip-chars", textual 'w' "check-chars", longOnly 'D' "all-repeated" .ownText]
    name arguments fun options operands => do
      let number? (key : Char) : Option Text := optionText? options key
      let faulty : List (Char × String) :=
        [('f', "fields to skip"), ('s', "bytes to skip"), ('w', "bytes to compare")]
      let fault? := faulty.findSome? fun (key, what) =>
        (number? key).bind fun text =>
          if !text.isEmpty && text.all isDigit then none
          else some (text ++ words (": invalid number of " ++ what))
      let value (key : Char) : Nat := ((number? key).map Decimal.value).getD 0
      let part (line : Text) : Text :=
        let after := (line.drop (Order.fieldLength none false (value 'f') line)).drop (value 's')
        let kept := if hasOption options 'w' then after.take (value 'w') else after
        if hasOption options 'i' then kept.map Char.toLower else kept
      let isAlike (first second : Text) : Bool := part first = part second
      match fault?, operands with
      | some fault, _ => blame 1 name fault
      | none, _ :: _ :: extra :: _ => extraOperand name extra
      | none, operands =>
          if hasOption options 'c' && hasOption options 'D' then
            misuse 1 name
              [words "printing all duplicated lines and repeat counts is meaningless"]
          else
            succeed
            let contents ← contentsOf name (operands.take 1)
            if !contents.isEmpty then
              let groups := (contents.flatMap (splitLines (lineMark options))) |> runs isAlike
              let shown := groups.flatMap fun group =>
                let isSingle := group.length = 1
                if (isSingle && (hasOption options 'd' || hasOption options 'D')) ||
                    (!isSingle && hasOption options 'u') then []
                else if hasOption options 'D' then group
                else if hasOption options 'c' then
                  (group.take 1).map fun line =>
                    rightAligned 7 (Decimal.digits group.length) ++ ' ' :: line
                else group.take 1
              let text : Text := shown.flatMap (· ++ lineEnd options)
              match operands[1]? with
              | none | some ['-'] => say text
              | some target => do
                  match ← Running.writeFile target text with
                  | .ok () => return ()
                  | .error error => blameFile 1 name target error

/-! What two files have in common. -/

def merged : Nat → List Text → List Text → List (Nat × Text)
  | 0, _, _ => []
  | _, [], [] => []
  | fuel + 1, first :: firsts, [] => (0, first) :: merged fuel firsts []
  | fuel + 1, [], second :: seconds => (1, second) :: merged fuel [] seconds
  | fuel + 1, first :: firsts, second :: seconds =>
      match compareOfLessAndEq (Text.toOctets first) (Text.toOctets second) with
      | .lt => (0, first) :: merged fuel firsts (second :: seconds)
      | .gt => (1, second) :: merged fuel (first :: firsts) seconds
      | .eq => (2, first) :: merged fuel firsts seconds

def common (name : Text) (arguments : List Text) : Running Unit :=
  withOptions 1 [flag '1' "", flag '2' "", flag '3' "", flag 'z' "zero-terminated",
    longOnly '\x03' "output-delimiter" .text, longOnly '\x04' "check-order" .nothing,
    longOnly '\x05' "nocheck-order" .nothing] name arguments fun options operands => do
      match operands with
      | [] => missingOperand name
      | [only] => missingOperandAfter name only
      | _ :: _ :: extra :: _ => extraOperand name extra
      | [_, _] => do
          succeed
          let contents ← contentsOf name operands
          match contents.map (splitLines (lineMark options)) with
          | [first, second] => do
              let shows (column : Nat) : Bool :=
                !hasOption options (Char.ofNat ('1'.toNat + column))
              let mark := (optionText? options '\x03').getD ['\t']
              let indent (column : Nat) : Text :=
                ((List.range column).filter shows).flatMap fun _ => mark
              say ((merged (first.length + second.length + 1) first second).flatMap
                fun (column, line) =>
                  if shows column then indent column ++ line ++ lineEnd options else [])
          | _ => return ()

def fieldsOf (mark : Option Char) (line : Text) : List Text :=
  match mark with
  | some mark => line.splitOn mark
  | none => ((line.splitOn ' ').flatMap fun part => part.splitOn '\t').filter fun part =>
      !part.isEmpty

def join (name : Text) (arguments : List Text) : Running Unit :=
  withOptions 1 [textual '1' "", textual '2' "", textual 'j' "", textual 't' "", textual 'a' "",
    textual 'v' "", textual 'o' "", textual 'e' "", flag 'i' "ignore-case"] name arguments
    fun options operands => do
      match operands with
      | [] => missingOperand name
      | [only] => missingOperandAfter name only
      | _ :: _ :: extra :: _ => extraOperand name extra
      | [_, _] => do
          succeed
          let contents ← contentsOf name operands
          let mark := (optionText? options 't').bind (·.head?)
          let place (key : Char) : Nat :=
            ((optionText? options key).or (optionText? options 'j')).map Decimal.value
              |>.getD 1
          let keyed (key : Char) (line : Text) : Text × List Text :=
            let fields := fieldsOf mark line
            let index := place key - 1
            (fields.getD index [], fields.eraseIdx index)
          let between : Text := [mark.getD ' ']
          let join (fields : List Text) : Text := (fields.intersperse between).flatten ++ ['\n']
          let loners (key : Char) (number : String) : Bool :=
            options.any fun entry => entry.1 = key && entry.2 = number.toList
          match contents.map (splitLines '\n') with
          | [first, second] => do
              let firsts := first.map (keyed '1')
              let seconds := second.map (keyed '2')
              let paired := firsts.map fun (key, fields) =>
                (key, fields, seconds.filter fun (other : Text × List Text) => other.1 = key)
              let isOnlyLoners := hasOption options 'v'
              let lines := paired.flatMap fun (key, fields, partners) =>
                if partners.isEmpty then
                  if loners 'a' "1" || loners 'v' "1" then [(key, join (key :: fields))] else []
                else if isOnlyLoners then []
                else partners.map fun (_, others) => (key, join (key :: fields ++ others))
              let rest := seconds.filter fun (key, _) => !(firsts.any (·.1 = key))
              let alone :=
                if loners 'a' "2" || loners 'v' "2" then
                  rest.map fun (key, fields) => (key, join (key :: fields))
                else []
              let ordered := (lines ++ alone).mergeSort fun first second =>
                decide (Text.toOctets first.1 ≤ Text.toOctets second.1)
              say (ordered.flatMap (·.2))
          | _ => return ()

end ArtifactTools.Shell.Native
