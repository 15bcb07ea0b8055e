import ArtifactTools.Shell.Native.Basic

/-! Programs that write their arguments: as they are, or as a format asks. What is wrong with a format
ends the writing, after what stands before it. -/

namespace ArtifactTools.Shell.Native

/-! Escapes. -/

/-- What the text after a backslash stands for: some text, the end of all output, or nothing that can
be told. -/
inductive Escape where
  | text (content : Text)
  | ending
  | fault (message : Text)

def characterOfCode (letter : Char) (count code : Nat) : Escape :=
  let digits := Decimal.padZeros count (Format.digitsInBase 16 (letter ≠ 'i') 8 code)
  if 0xD800 ≤ code && code < 0xE000 then
    .fault (words "invalid universal character name \\" ++ letter ::
      Decimal.padZeros count (Format.digitsInBase 16 false 8 code))
  else if code < 128 then .text [Char.ofNat code]
  else if code < 0x10000 then
    .text (words "\\u" ++ Decimal.padZeros 4 (Format.digitsInBase 16 true 8 code))
  else .text (words "\\U" ++ Decimal.padZeros 8 digits)

def isHexadecimal (character : Char) : Bool := (Hexadecimal.value? character).isSome

def hexadecimalValue (digits : Text) : Nat :=
  digits.foldl (fun sum digit => sum * 16 + (Hexadecimal.value? digit).getD 0) 0

def missingDigits : Escape := .fault (words "missing hexadecimal number in escape")

/-- Reads the text after a backslash, and gives what follows it. A zero before octal digits may say
nothing. -/
def readEscape (skipsZero : Bool) (text : Text) : Escape × Text :=
  match text with
  | [] => (.text ['\\'], [])
  | 'c' :: rest => (.ending, rest)
  | '"' :: rest => (.text ['"'], rest)
  | 'x' :: rest =>
      let digits := (rest.take 2).takeWhile isHexadecimal
      if digits.isEmpty then (missingDigits, rest)
      else (.text [Char.ofNat (hexadecimalValue digits)], rest.drop digits.length)
  | letter :: rest =>
      if Format.isOctal letter then
        let start := if skipsZero && letter = '0' then rest else letter :: rest
        let digits := (start.take 3).takeWhile Format.isOctal
        (.text [Format.octalCharacter digits], start.drop digits.length)
      else if letter = 'u' || letter = 'U' then
        let count := if letter = 'u' then 4 else 8
        let digits := (rest.take count).takeWhile isHexadecimal
        if digits.length < count then (missingDigits, rest)
        else (characterOfCode letter count (hexadecimalValue digits), rest.drop count)
      else
        match Format.controlCharacter? letter with
        | some character => (.text [character], rest)
        | none => (.text ['\\', letter], rest)

/-! The program that writes its arguments with blanks between them. -/

def resolveEscapes : Nat → Text → Text × Bool
  | 0, _ | _, [] => ([], false)
  | fuel + 1, '\\' :: rest =>
      let (text, after) :=
        match rest with
        | 'x' :: _ | 'c' :: _ | '0' :: _ =>
            match readEscape true rest with
            | (.text content, after) => (some content, after)
            | (.ending, after) => (none, after)
            | (.fault _, _) => (some ['\\'], rest)
        | '"' :: _ | 'u' :: _ | 'U' :: _ => (some ['\\'], rest)
        | letter :: _ =>
            if Format.isOctal letter then
              match readEscape false rest with
              | (.text content, after) => (some content, after)
              | (_, after) => (none, after)
            else
              match readEscape false rest with
              | (.text content, after) => (some content, after)
              | (_, after) => (some ['\\'], after)
        | [] => (some ['\\'], [])
      match text with
      | none => ([], true)
      | some content =>
          let (others, stops) := resolveEscapes fuel after
          (content ++ others, stops)
  | fuel + 1, character :: rest =>
      let (others, stops) := resolveEscapes fuel rest
      (character :: others, stops)

def echoOptions (isOpen resolves : Bool) : List Text → Bool × Bool × List Text
  | [] => (isOpen, resolves, [])
  | word :: rest =>
      match word with
      | '-' :: letter :: letters =>
          if (letter :: letters).all fun letter => "neE".contains letter then
            let resolves : Bool :=
              match (letter :: letters).reverse.find? (· ≠ 'n') with
              | some letter => letter = 'e'
              | none => resolves
            echoOptions (isOpen || (letter :: letters).contains 'n') resolves rest
          else (isOpen, resolves, word :: rest)
      | _ => (isOpen, resolves, word :: rest)

def echoText (arguments : List Text) : Text :=
  let (isOpen, resolves, words) := echoOptions false false arguments
  let ending := if isOpen then [] else ['\n']
  let text := Format.joinWords words
  if resolves then
    let (text, stops) := resolveEscapes (text.length + 1) text
    if stops then text else text ++ ending
  else text ++ ending

def echo (arguments : List Text) : Running Unit := do
  succeed
  match arguments with
  | [word] => if word ≠ words "--help" && word ≠ words "--version" then say (echoText arguments)
  | arguments => say (echoText arguments)

/-! The program that fills the fields of a format. -/

def sayEscaped (name : Text) : Nat → Text → Running Bool
  | 0, _ | _, [] => return true
  | fuel + 1, '\\' :: rest =>
      match readEscape true rest with
      | (.text content, after) => do
          say content
          sayEscaped name fuel after
      | (.ending, _) => return false
      | (.fault message, _) => do
          blame 1 name message
          return false
  | fuel + 1, text => do
      let plain := text.takeWhile (· ≠ '\\')
      say plain
      sayEscaped name fuel (text.drop plain.length)

def noteNumber {α : Type} (name argument : Text) (reading : Format.Reading α) : Running Unit :=
  let told (fault : String) : Running Unit := blame 1 name (cited argument ++ words fault)
  if reading.isBeyond then told ": Numerical result out of range"
  else if reading.rest.isEmpty then return ()
  else if reading.rest.length = argument.length then told ": expected a numeric value"
  else told ": value not completely converted"

def numberOf {α : Type} (name : Text) (read : Text → Format.Reading α) (ofCode : Nat → α)
    (argument : Text) : Running α := do
  match (Format.characterCode? argument).filter fun _ => 1 < argument.length with
  | some (code, rest) => do
      if !rest.isEmpty then
        let status := (← get).status
        blame status name (words "warning: " ++ rest ++
          words ": character(s) following character constant have been ignored")
      return ofCode code
  | none => do
      let reading := read argument
      noteNumber name argument reading
      return reading.value

def isMeant (flags : Text) (hasPrecision : Bool) (conversion : Char) : Bool :=
  let denied (when : Bool) (letters : String) : Bool := when && letters.contains conversion
  "aAcdeEfFgGiosuxX".contains conversion &&
    !denied (flags.contains '\'' || flags.contains 'I') "aAceEosxX" &&
    !denied (flags.contains '#') "cdisu" && !denied (flags.contains '0') "cs" &&
    !denied hasPrecision "c"

abbrev Filling := Option (List Text)

def isHuge (size : Int) : Bool := size < -2147483648 || 2147483647 < size

/-- A width or a precision: digits, or a star that takes it from the arguments. Nothing is given
where it is too large. -/
def readExtent (name : Text) (what : String) (arguments : List Text) (text : Text) :
    Running (Option (Int × List Text × Text)) := do
  match text with
  | '*' :: rest =>
      match arguments with
      | [] => return some (0, [], rest)
      | argument :: arguments => do
          let size ← numberOf name (Format.wholeNumber true) Int.ofNat argument
          if isHuge size && !(size < 0 && what = "precision") then
            blame 1 name (words ("invalid " ++ what ++ ": ") ++ cited argument)
            return none
          else return some (size, arguments, rest)
  | text =>
      let digits := text.takeWhile isDigit
      return some (Decimal.value digits, arguments, text.drop digits.length)

def sayField (name : Text) (field : Format.Field) (conversion : Char) (argument : Text) :
    Running Unit := do
  match conversion with
  | 's' => say (Format.pad field (Format.limit field argument))
  | 'c' => say (Format.pad field [argument.head?.getD '\x00'])
  | _ =>
      if "aAeEfFgG".contains conversion then
        let value ← numberOf name (Format.realNumber .extended) Format.Scalar.ofCode argument
        say (Format.real .extended field conversion value)
      else
        let isSigned := conversion = 'd' || conversion = 'i'
        let value ← numberOf name (Format.wholeNumber isSigned) Int.ofNat argument
        say (Format.number field conversion value)

def fillField (name : Text) (arguments : List Text) (text : Text) :
    Running (Option (List Text × Text)) := do
  match text with
  | '%' :: rest => do
      say ['%']
      return some (arguments, rest)
  | 'b' :: rest => do
      let argument := arguments.head?.getD []
      if ← sayEscaped name (argument.length + 1) argument then return some (arguments.drop 1, rest)
      else return none
  | 'q' :: rest => do
      say ((arguments.head?.map scriptName).getD [])
      return some (arguments.drop 1, rest)
  | text => do
      let flags := text.takeWhile fun letter => "-+ #0'I".contains letter
      let some (width, arguments, rest) ←
        readExtent name "field width" arguments (text.drop flags.length) | return none
      let some (precision, arguments, rest) ← (do
        match rest with
        | '.' :: rest => do
            let read ← readExtent name "precision" arguments rest
            return read.map fun (size, arguments, rest) => (some size, arguments, rest)
        | rest => return some (none, arguments, rest)) | return none
      let rest := rest.dropWhile fun letter => "lLhjtz".contains letter
      let conversion := rest.head?.getD '\x00'
      if !isMeant flags precision.isSome conversion then
        blame 1 name ('%' :: text.take (text.length - rest.length + 1) ++
          words ": invalid conversion specification")
        return none
      else
        let field : Format.Field :=
          ⟨flags.contains '-' || width < 0, flags.contains '0', flags.contains '+',
            flags.contains ' ', flags.contains '#', width.natAbs,
            precision.bind fun size => if size < 0 then none else some size.toNat⟩
        sayField name field conversion (arguments.head?.getD [])
        return some (arguments.drop 1, rest.drop 1)

def fillOnce (name : Text) : Nat → List Text → Text → Running Filling
  | 0, arguments, _ | _, arguments, [] => return some arguments
  | fuel + 1, arguments, '%' :: rest => do
      match ← fillField name arguments rest with
      | some (arguments, rest) => fillOnce name fuel arguments rest
      | none => return none
  | fuel + 1, arguments, '\\' :: rest =>
      match readEscape false rest with
      | (.text content, after) => do
          say content
          fillOnce name fuel arguments after
      | (.ending, _) => return none
      | (.fault message, _) => do
          blame 1 name message
          return none
  | fuel + 1, arguments, text => do
      let plain := text.takeWhile fun next => next ≠ '\\' && next ≠ '%'
      say plain
      fillOnce name fuel arguments (text.drop plain.length)

def fillAll (name format : Text) : Nat → List Text → Running Unit
  | 0, _ => return ()
  | fuel + 1, arguments => do
      match ← fillOnce name (format.length + 1) arguments format with
      | none | some [] => return ()
      | some (argument :: rest) =>
          if rest.length + 1 < arguments.length then fillAll name format fuel (argument :: rest)
          else
            let status := (← get).status
            blame status name
              (words "warning: ignoring excess arguments, starting with " ++ cited argument)

def format (name : Text) (arguments : List Text) : Running Unit := do
  if arguments = [words "--help"] || arguments = [words "--version"] then succeed
  else
    match if arguments.head? = some ['-', '-'] then arguments.drop 1 else arguments with
    | [] => misuse 1 name [words "missing operand"]
    | format :: arguments => do
        succeed
        fillAll name format (arguments.length + 1) arguments

end ArtifactTools.Shell.Native
