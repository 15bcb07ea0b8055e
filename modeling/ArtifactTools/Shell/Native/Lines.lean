import ArtifactTools.Shell.Native.Files
import ArtifactTools.Shell.Test

/-! Programs that pass on what files hold: the whole, its beginning or end, its lines in another
order, or how much it is. -/

namespace ArtifactTools.Shell.Native

/-! The whole. -/

/-- How the lines of a text are shown: with numbers, all or those that are not empty, with repeated
empty lines as one, and with marks of ends, tabs and other control characters. -/
structure Display where
  numbersAll : Bool
  numbersFull : Bool
  squeezes : Bool
  marksEnds : Bool
  marksTabs : Bool
  marksControls : Bool

def Display.character (display : Display) (character : Char) : Text :=
  let control (code : Nat) : Text :=
    if code < 32 then ['^', Char.ofNat (code + 64)]
    else if code = 127 then ['^', '?']
    else [Char.ofNat code]
  if character = '\t' then if display.marksTabs then ['^', 'I'] else ['\t']
  else if !display.marksControls || character = '\n' then [character]
  else if character.toNat < 128 then control character.toNat
  else 'M' :: '-' :: control (character.toNat - 128)

def rightAligned (width : Nat) (text : Text) : Text :=
  List.replicate (width - text.length) ' ' ++ text

def Display.lines (display : Display) : Nat → Bool → List Text → List Text
  | _, _, [] => []
  | number, afterEmpty, line :: rest =>
      let isEmpty := line = ['\n']
      if isEmpty && afterEmpty && display.squeezes then display.lines number true rest
      else
        let isNumbered := (display.numbersAll && !display.numbersFull) ||
          (display.numbersFull && !isEmpty)
        let mark := if isNumbered then rightAligned 6 (Decimal.digits number) ++ ['\t'] else []
        let shown := line.flatMap fun character =>
          if character = '\n' then if display.marksEnds then ['$', '\n'] else ['\n']
          else display.character character
        (mark ++ shown) ::
          display.lines (if isNumbered then number + 1 else number) isEmpty rest

def wholeLines (text : Text) : List Text :=
  let lines := splitLines '\n' text
  let isOpen := text.getLast?.any (· ≠ '\n')
  if isOpen then (lines.dropLast.map (· ++ ['\n'])) ++ lines.getLast?.toList
  else lines.map (· ++ ['\n'])

def passThrough (descriptor : Nat) : Nat → Running Unit
  | 0 => return ()
  | fuel + 1 => do
      Running.tick
      let text ← Running.readSome descriptor
      if text.isEmpty then return ()
      say text
      if (← get).unwritten.isSome then return ()
      passThrough descriptor fuel

def feedsItself (machine : Machine) (descriptor : Nat) : Bool :=
  match machine.openFile? descriptor, machine.openFile? 1 with
  | some (_, input), some (_, output) =>
      match input.target, output.target with
      | .file first, .file second =>
          let size := ((machine.tree.files[first]?).map (·.size)).getD 0
          first = second && output.isWritable &&
            input.position < (if output.appends then size + 1 else output.position)
              && input.position < size
      | _, _ => false
  | _, _ => false

def passOn (name operand : Text) : Running Unit := do
  match ← openOperand operand with
  | .error error => blameFile 1 name operand error
  | .ok descriptor => do
      if feedsItself (← get) descriptor then
        blame 1 name (named operand ++ words ": input file is output file")
      else passThrough descriptor Running.patience
      closeOperand descriptor

def concatenate (name : Text) (arguments : List Text) : Running Unit :=
  withOptions 1 [flag 'u' "", flag 'n' "number", flag 'b' "number-nonblank",
    flag 's' "squeeze-blank", flag 'A' "show-all", flag 'E' "show-ends", flag 'T' "show-tabs",
    flag 'v' "show-nonprinting", flag 'e' "", flag 't' ""] name arguments
    fun options operands => do
      let has (letters : String) : Bool := options.any fun entry => letters.contains entry.1
      let display : Display :=
        ⟨has "n", has "b", has "s", has "AEe", has "ATt", has "Avet"⟩
      let operands : List Text := if operands.isEmpty then [['-']] else operands
      succeed
      if !has "nbsAETvet" then
        for operand in operands do passOn name operand
      else
        let contents ← contentsOf name operands
        say (display.lines 1 false (wholeLines contents.flatten)).flatten

/-! Beginnings and ends. -/

structure Extent where
  countsLines : Bool
  isReversed : Bool
  count : Nat
  ending : Char

def takeLines (ending : Char) (before : Text) : Nat → Text → Text × Text
  | 0, text => (before.reverse, text)
  | _ + 1, [] => (before.reverse, [])
  | count + 1, character :: rest =>
      takeLines ending (character :: before) (if character = ending then count else count + 1) rest

def countLines (ending : Char) (text : Text) : Nat :=
  text.count ending + if text.getLast?.any (· ≠ ending) then 1 else 0

def Extent.split (extent : Extent) (text : Text) : Text × Text :=
  if extent.countsLines then
    let count :=
      if extent.isReversed then countLines extent.ending text - extent.count else extent.count
    takeLines extent.ending [] count text
  else
    let count := if extent.isReversed then text.length - extent.count else extent.count
    (text.take count, text.drop count)

def readExtent? (mark : Char) (countsLines : Bool) (ending : Char) (text : Text) : Option Extent :=
  let body := if text.head?.any fun sign => sign = '-' || sign = '+' then text.drop 1 else text
  let size? : Option Nat :=
    match body.getLast? with
    | some 'b' =>
        let digits := body.dropLast
        if !digits.isEmpty && digits.all isDigit then some (Decimal.value digits * 512)
        else sizeOf? body
    | _ => sizeOf? body
  size?.map fun count => ⟨countsLines, text.head? = some mark, count, ending⟩

def title (isFirst : Bool) (operand : Text) : Text :=
  let shown := if operand = ['-'] then words "standard input" else operand
  (if isFirst then [] else ['\n']) ++ words "==> " ++ shown ++ words " <==\n"

def withoutOldForm (marks : String) (arguments : List Text) : List Text :=
  match arguments with
  | (mark :: digit :: digits) :: rest =>
      let number := (digit :: digits).takeWhile isDigit
      let after := (digit :: digits).drop number.length
      let sign : Text := if mark = '+' then ['+'] else []
      if !marks.contains mark || number.isEmpty then arguments
      else if after.isEmpty || after = ['l'] then ['-', 'n'] :: (sign ++ number) :: rest
      else if after = ['c'] then ['-', 'c'] :: (sign ++ number) :: rest
      else arguments
  | arguments => arguments

def gatherExtent (extent : Extent) (descriptor : Nat) : Nat → List Text → Nat → Running Text
  | 0, pieces, _ => return pieces.reverse.flatten
  | fuel + 1, pieces, left => do
      Running.tick
      let text ← Running.readSome descriptor
      let found := if extent.countsLines then text.count extent.ending else text.length
      if text.isEmpty || (!extent.isReversed && left ≤ found) then
        return (text :: pieces).reverse.flatten
      else gatherExtent extent descriptor fuel (text :: pieces) (left - found)

def beginningOf (extent : Extent) (descriptor : Nat) : Running Text := do
  let machine ← get
  match machine.remaining descriptor with
  | none => return []
  | some (index, file, rest) =>
      if let .file _ := file.target then
        let (shown, _) := extent.split rest
        set (machine.advance index file rest shown.length)
        return shown
      else if extent.count = 0 && !extent.isReversed then return []
      else
        let text ← gatherExtent extent descriptor Running.patience [] extent.count
        return (extent.split text).1

def passParts (name : Text) (isHead : Bool) (extent : Extent) (isQuiet isLoud : Bool)
    (operands : List Text) : Running Unit := do
  let operands : List Text := if operands.isEmpty then [['-']] else operands
  let isTitled := (isLoud || operands.length ≠ 1) && !isQuiet
  succeed
  let mut isFirst := true
  for operand in operands do
    let machine ← get
    let heading := if isTitled then title isFirst operand else []
    if operand = ['-'] || machine.tree.holds machine.directory (pathOf operand) then
      isFirst := false
    let part (content : Text) : Running Unit :=
      say (heading ++ (extent.split content).2)
    let refused (error : HostError) : Running Unit := do
      if error = .isDirectory then
        say heading
        blame 1 name (faultWith "error reading" operand error)
      else
        blame 1 name (words "cannot open " ++ quotedName operand ++ words " for reading: " ++
          Machine.plainWording error)
    if isHead then
      match ← openOperand operand with
      | .error error => refused error
      | .ok descriptor => do
          say (heading ++ (← beginningOf extent descriptor))
          closeOperand descriptor
    else withContent operand part refused

def head (name : Text) (arguments : List Text) : Running Unit :=
  withOptions 1 [textual 'n' "lines", textual 'c' "bytes", flag 'q' "quiet",
    longOnly 'q' "silent" .nothing, flag 'v' "verbose", flag 'z' "zero-terminated"] name
    (withoutOldForm "-" arguments) fun options operands => do
      let (letter, size) :=
        ((options.filter fun entry => "nc".contains entry.1).getLast?).getD ('n', ['1', '0'])
      let extent? := readExtent? '-' (letter = 'n') (lineMark options) size
      let latest := (options.filter fun entry => "qv".contains entry.1).getLast?.map (·.1)
      match extent? with
      | none =>
          let unit := if letter = 'n' then "lines" else "bytes"
          blame 1 name (words ("invalid number of " ++ unit ++ ": ") ++ cited size)
      | some extent => passParts name true extent (latest = some 'q') (latest = some 'v') operands

def tail (name : Text) (arguments : List Text) : Running Unit :=
  withOptions 1 [textual 'n' "lines", textual 'c' "bytes", flag 'q' "quiet", flag 'f' "",
    longOnly 'f' "follow" .ownText, flag 'F' "", longOnly 'q' "silent" .nothing,
    flag 'v' "verbose", flag 'z' "zero-terminated", textual 's' "sleep-interval",
    longOnly '\x03' "pid" .text] name (withoutOldForm "-+" arguments) fun options operands => do
      let (letter, size) :=
        ((options.filter fun entry => "nc".contains entry.1).getLast?).getD ('n', ['1', '0'])
      let latest := (options.filter fun entry => "qv".contains entry.1).getLast?.map (·.1)
      match readExtent? '+' (letter = 'n') (lineMark options) size with
      | none =>
          let unit := if letter = 'n' then "lines" else "bytes"
          blame 1 name (words ("invalid number of " ++ unit ++ ": ") ++ cited size)
      | some extent => do
          let extent : Extent :=
            if extent.isReversed then
              { extent with isReversed := false, count := extent.count - 1 }
            else { extent with isReversed := true }
          passParts name false extent (latest = some 'q') (latest = some 'v') operands
          if (hasOption options 'f' || hasOption options 'F') && !operands.isEmpty then
            Running.wait .nothing

def reversedLines (text : Text) : Text := (wholeLines text).reverse.flatten

def reverseLines (name : Text) (arguments : List Text) : Running Unit :=
  withOptions 1 [flag 'b' "before", flag 'r' "regex", textual 's' "separator"] name arguments
    fun _ operands => do
      let operands : List Text := if operands.isEmpty then [['-']] else operands
      succeed
      for operand in operands do
        withContent operand (fun content => say (reversedLines content)) fun error =>
          if error = .isDirectory then
            blame 1 name (named operand ++ words ": read error: Invalid argument")
          else
            blame 1 name (words "failed to open " ++ quotedName operand ++
              words " for reading: " ++ Machine.plainWording error)

def spreadOut (descriptors : List Nat) : Nat → Running Unit
  | 0 => return ()
  | fuel + 1 => do
      Running.tick
      let text ← Running.readSome 0
      if text.isEmpty then return ()
      say text
      for descriptor in descriptors do
        modify fun machine => (machine.write descriptor text).getD machine
        Running.settleOutput
      spreadOut descriptors fuel

def tee (name : Text) (arguments : List Text) : Running Unit :=
  withOptions 1 [flag 'a' "append", flag 'i' "ignore-interrupts", flag 'p' "",
    longOnly 'p' "output-error" .ownText] name arguments fun options operands => do
      let appends := hasOption options 'a'
      succeed
      let mut descriptors : List Nat := []
      for operand in operands do
        let descriptor := (← get).freeFrom 3
        match ← Running.openToWrite descriptor operand ⟨appends, appends, false⟩ with
        | .ok () => descriptors := descriptors ++ [descriptor]
        | .error error => blameFile 1 name operand error
      spreadOut descriptors Running.patience

/-! How much there is. -/

structure Size where
  lines : Nat
  words : Nat
  octets : Nat
  width : Nat

def Size.add (first second : Size) : Size :=
  ⟨first.lines + second.lines, first.words + second.words, first.octets + second.octets,
    max first.width second.width⟩

def widest : Nat → Nat → Text → Nat
  | greatest, column, [] => max greatest column
  | greatest, column, character :: rest =>
      match character with
      | '\n' | '\r' | '\x0c' => widest (max greatest column) 0 rest
      | '\t' => widest greatest (column + 8 - column % 8) rest
      | character => widest greatest (if isPrintable character then column + 1 else column) rest

def Size.ofText (text : Text) : Size :=
  let isSpace := Test.isSpace
  let starts := (text.zip (' ' :: text)).countP fun pair => !isSpace pair.1 && isSpace pair.2
  ⟨text.count '\n', starts, text.length, widest 0 0 text⟩

def Size.numbers (size : Size) (letters : List Char) : List Nat :=
  let all : List (Char × Nat) :=
    [('l', size.lines), ('w', size.words), ('m', size.octets), ('c', size.octets),
      ('L', size.width)]
  all.filterMap fun entry => if letters.contains entry.1 then some entry.2 else none

/-- How wide numbers are written: as wide as the sum of the sizes of all files, or seven places if
one is no plain file. -/
def numberWidth (machine : Machine) (operands : List Text) (columns : Nat) : Nat :=
  if operands.length ≤ 1 && columns = 1 then 1
  else
    let size? (operand : Text) : Option (Option Nat) :=
      if operand.isEmpty || operand = ['-'] then
        match machine.openFile? 0 with
        | some (_, file) =>
            match file.target with
            | .file number => some ((machine.tree.files[number]?).map (·.size))
            | _ => some none
        | none => some none
      else
        match machine.tree.find machine.directory (pathOf operand) with
        | .ok (_, node) => some ((machine.tree.fileOf? node).map (·.size))
        | .error _ => none
    let operands : List Text := if operands.isEmpty then [[]] else operands
    let sizes := operands.filterMap size?
    let total := (sizes.map (·.getD 0)).foldl (· + ·) 0
    max (Decimal.digits total).length (if sizes.all (·.isSome) then 1 else 7)

def countWords (name : Text) (arguments : List Text) : Running Unit :=
  withOptions 1 [flag 'l' "lines", flag 'w' "words", flag 'm' "chars", flag 'c' "bytes",
    flag 'L' "max-line-length", longOnly '\x03' "files0-from" .text, longOnly '\x04' "total" .text]
    name arguments fun options operands => do
      let asked := (options.map (·.1)).filter fun letter => "lwmcL".contains letter
      let letters := if asked.isEmpty then ['l', 'w', 'c'] else asked
      let columns := ((Size.ofText []).numbers letters).length
      let width := numberWidth (← get) operands columns
      let line (size : Size) (shown : Text) : Text :=
        let numbers := (size.numbers letters).map fun number =>
          rightAligned width (Decimal.digits number)
        (numbers.intersperse [' ']).flatten ++
          (if shown.isEmpty then [] else ' ' :: shown) ++ ['\n']
      let named (operand : Text) : Text := if operands.isEmpty then [] else operand
      let inputs : List Text := if operands.isEmpty then [['-']] else operands
      succeed
      let mut total : Size := ⟨0, 0, 0, 0⟩
      for operand in inputs do
        match ← contentOf operand with
        | .ok content =>
            total := total.add (.ofText content)
            say (line (.ofText content) (named operand))
        | .error error =>
            blameFile 1 name operand error
            if error = .isDirectory then say (line (.ofText []) operand)
      if 1 < operands.length then say (line total (words "total"))

end ArtifactTools.Shell.Native
