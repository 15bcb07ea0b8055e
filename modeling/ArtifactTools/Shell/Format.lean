import ArtifactTools.Binary
import ArtifactTools.Shell.Arithmetic

/-! Text that a script writes: escapes of control characters and octets, and formats whose fields
are filled from arguments. A format is used again as long as arguments are left. -/

namespace ArtifactTools.Shell.Format

def isOctal (character : Char) : Bool := '0' ≤ character && character ≤ '7'

def octalCharacter (digits : Text) : Char :=
  Char.ofNat (digits.foldl (fun sum digit => sum * 8 + Decimal.digitValue digit) 0 % 256)

def controlCharacter? (letter : Char) : Option Char :=
  match letter with
  | '\\' => some '\\'
  | 'a' => some '\x07'
  | 'b' => some '\x08'
  | 'e' => some '\x1b'
  | 'f' => some '\x0c'
  | 'n' => some '\n'
  | 'r' => some '\r'
  | 't' => some '\t'
  | 'v' => some '\x0b'
  | _ => none

/-- The character that the text after a backslash stands for: a control character, or an octet by
at most three octal digits. What means nothing leaves the backslash. -/
def escape (characters : Text) : Char × Text :=
  match characters with
  | [] => ('\\', [])
  | letter :: rest =>
      match controlCharacter? letter with
      | some character => (character, rest)
      | none =>
          let digits := (characters.take 3).takeWhile isOctal
          if digits.isEmpty then ('\\', characters)
          else (octalCharacter digits, characters.drop digits.length)

/-- Text with its escapes resolved, and whether one of them ends all output. A zero before octal
digits says nothing. -/
def resolve : Nat → Text → Text × Bool
  | 0, _ => ([], false)
  | _ + 1, [] => ([], false)
  | _ + 1, '\\' :: 'c' :: _ => ([], true)
  | fuel + 1, '\\' :: rest =>
      let start :=
        match rest with
        | '0' :: digit :: _ => if isOctal digit then rest.drop 1 else rest
        | rest => rest
      let (character, rest) := escape start
      let (others, stops) := resolve fuel rest
      (character :: others, stops)
  | fuel + 1, character :: rest =>
      let (others, stops) := resolve fuel rest
      (character :: others, stops)

def joinWords : List Text → Text
  | [] => []
  | [word] => word
  | word :: rest => word ++ ' ' :: joinWords rest

def echoWords (last : Text) : List Text → Text
  | [] => last
  | word :: rest =>
      let (text, stops) := resolve (word.length + 1) word
      if stops then text
      else if rest.isEmpty then text ++ last
      else text ++ ' ' :: echoWords last rest

def echo (resolvesEscapes : Bool) (words : List Text) : Text :=
  let (last, words) :=
    match words with
    | ['-', 'n'] :: rest => ([], rest)
    | words => (['\n'], words)
  if resolvesEscapes then echoWords last words else joinWords words ++ last

structure Field where
  leftAligned : Bool
  zeroFilled : Bool
  signed : Bool
  spaced : Bool
  alternate : Bool
  width : Nat
  precision : Option Nat
  deriving DecidableEq, Repr

def Field.plain : Field := ⟨false, false, false, false, false, 0, none⟩

def pad (field : Field) (text : Text) : Text :=
  let missing := List.replicate (field.width - text.length) ' '
  if field.leftAligned then text ++ missing else missing ++ text

def fillUp (field : Field) (zeroFilled : Bool) (mark digits : Text) : Text :=
  if zeroFilled && !field.leftAligned then
    mark ++ Decimal.padZeros (field.width - mark.length) digits
  else pad field (mark ++ digits)

def digitsInBase (base : Nat) (uppercase : Bool) : Nat → Nat → Text
  | 0, _ => []
  | fuel + 1, number =>
      if number < base then [Hexadecimal.digit uppercase number]
      else
        digitsInBase base uppercase fuel (number / base) ++
          [Hexadecimal.digit uppercase (number % base)]

def signOf (field : Field) (negative : Bool) : Text :=
  if negative then ['-'] else if field.signed then ['+'] else if field.spaced then [' '] else []

/-- Writes a whole number in the base of a conversion. A precision is the least number of digits;
with none, zero has no digit. -/
def number (field : Field) (conversion : Char) (value : Int) : Text :=
  let size := value.natAbs
  let digits :=
    match conversion with
    | 'o' => digitsInBase 8 false 64 size
    | 'x' => digitsInBase 16 false 64 size
    | 'X' => digitsInBase 16 true 64 size
    | _ => Decimal.digits size
  let digits :=
    match field.precision with
    | some 0 => if size = 0 then [] else digits
    | some least => Decimal.padZeros least digits
    | none => digits
  let digits :=
    if conversion = 'o' && field.alternate && digits.head? ≠ some '0' then '0' :: digits
    else digits
  let mark :=
    match conversion with
    | 'd' | 'i' => signOf field (value < 0)
    | 'x' => if field.alternate && size ≠ 0 then ['0', 'x'] else []
    | 'X' => if field.alternate && size ≠ 0 then ['0', 'X'] else []
    | _ => []
  fillUp field (field.zeroFilled && field.precision.isNone) mark digits

def real (precision : Precision) (field : Field) (conversion : Char) (number : Scalar) : Text :=
  let uppercase := "AEFG".contains conversion
  let sign := signOf field number.isNegative
  let places := field.precision.getD 6
  let fillWith (mark digits : Text) : Text := fillUp field field.zeroFilled mark digits
  match number.magnitude with
  | .notANumber => pad field (sign ++ if uppercase then "NAN".toList else "nan".toList)
  | .infinite => pad field (sign ++ if uppercase then "INF".toList else "inf".toList)
  | .finite value =>
      match conversion.toLower with
      | 'f' => fillWith sign (value.positional places field.alternate)
      | 'e' => fillWith sign (value.scientific places field.alternate uppercase)
      | 'g' => fillWith sign (value.general places field.alternate uppercase)
      | _ => fillWith (sign ++ if uppercase then ['0', 'X'] else ['0', 'x'])
          (value.hexadecimal precision field.precision field.alternate uppercase)

inductive Complaint where
  | notNumeric
  | notConverted
  | outOfRange
  deriving DecidableEq, Repr

def Complaint.message : Complaint → String
  | .notNumeric => "expected numeric value"
  | .notConverted => "not completely converted"
  | .outOfRange => "Numerical result out of range"

structure Reading (α : Type) where
  value : α
  rest : Text
  isBeyond : Bool

def wholeNumber (isSigned : Bool) (argument : Text) : Reading Int :=
  let body := argument.dropWhile Binary.Numeral.isSpace
  let (negative, body) :=
    match body with
    | '-' :: rest => (true, rest)
    | '+' :: rest => (false, rest)
    | rest => (false, rest)
  if !(body.head?.any isDigit) then ⟨0, argument, false⟩
  else
    let (size, rest) := Arithmetic.leadingNumeral body
    if isSigned then
      let value : Int := if negative then -size else size
      let least := Arithmetic.least
      let greatest := Arithmetic.greatest
      ⟨max least (min greatest value), rest, value < least || greatest < value⟩
    else
      let limit := Nat.pow 2 64
      let isBeyond := limit ≤ size
      let value :=
        if isBeyond then limit - 1 else if negative then (limit - size) % limit else size
      ⟨value, rest, isBeyond⟩

def realNumber (precision : Precision) (argument : Text) : Reading Scalar :=
  match Binary.Numeral.read? argument with
  | none => ⟨⟨false, .finite .zero⟩, argument, false⟩
  | some numeral => ⟨numeral.scalar precision, numeral.rest, numeral.isBeyond precision⟩

def Scalar.ofCode (code : Nat) : Scalar := ⟨false, .finite ⟨code, 0⟩⟩

def characterCode? (argument : Text) : Option (Nat × Text) :=
  match argument with
  | '"' :: rest | '\'' :: rest => some ((rest.head?.map (·.toNat)).getD 0, rest.drop 1)
  | _ => none

def Reading.complaint? {α : Type} (reading : Reading α) (argument : Text) : Option Complaint :=
  if !reading.rest.isEmpty then
    some (if reading.rest.length = argument.length then .notNumeric else .notConverted)
  else if reading.isBeyond then some .outOfRange
  else none

structure State where
  output : Text
  arguments : List Text
  complaints : List (Text × Complaint)
  stopped : Bool

def State.write (state : State) (text : Text) : State :=
  { state with output := state.output ++ text }

def State.take (state : State) : Text × State :=
  match state.arguments with
  | [] => ([], state)
  | argument :: rest => (argument, { state with arguments := rest })

def State.complain (state : State) (argument : Text) (complaint : Option Complaint) : State :=
  match complaint with
  | none => state
  | some complaint => { state with complaints := state.complaints ++ [(argument, complaint)] }

def State.takeAs {α : Type} (state : State) (read : Text → Reading α) (ofCode : Nat → α) :
    α × State :=
  let (argument, state) := state.take
  match characterCode? argument with
  | some (code, _) => (ofCode code, state)
  | none =>
      let reading := read argument
      (reading.value, state.complain argument (reading.complaint? argument))

def State.takeNumber (state : State) (isSigned : Bool) : Int × State :=
  state.takeAs (wholeNumber isSigned) Int.ofNat

def readFlags (field : Field) : Text → Field × Text
  | '-' :: rest => readFlags { field with leftAligned := true } rest
  | '0' :: rest => readFlags { field with zeroFilled := true } rest
  | '+' :: rest => readFlags { field with signed := true } rest
  | ' ' :: rest => readFlags { field with spaced := true } rest
  | '#' :: rest => readFlags { field with alternate := true } rest
  | rest => (field, rest)

def readSize (state : State) : Text → Int × State × Text
  | '*' :: rest =>
      let (value, state) := state.takeNumber true
      (value, state, rest)
  | rest =>
      let digits := rest.takeWhile isDigit
      (Decimal.value digits, state, rest.drop digits.length)

def readField (state : State) (characters : Text) : Field × State × Text :=
  let (field, rest) := readFlags .plain characters
  let (width, state, rest) := readSize state rest
  let field :=
    { field with leftAligned := field.leftAligned || width < 0, width := width.natAbs }
  match rest with
  | '.' :: rest =>
      let (precision, state, rest) := readSize state rest
      ({ field with precision := if precision < 0 then none else some precision.toNat }, state,
        rest)
  | rest => (field, state, rest)

def limit (field : Field) (text : Text) : Text :=
  match field.precision with
  | none => text
  | some count => text.take count

def convert (field : Field) (conversion : Char) (state : State) : Option State :=
  match conversion with
  | 's' =>
      let (argument, state) := state.take
      some (state.write (pad field (limit field argument)))
  | 'b' =>
      let (argument, state) := state.take
      let (text, stops) := resolve (argument.length + 1) argument
      some { state.write (pad field (limit field text)) with stopped := stops }
  | 'c' =>
      let (argument, state) := state.take
      some (state.write (pad field [argument.head?.getD '\x00']))
  | _ =>
      if "di".contains conversion then
        let (value, state) := state.takeNumber true
        some (state.write (number field conversion value))
      else if "ouxX".contains conversion then
        let (value, state) := state.takeNumber false
        some (state.write (number field conversion value))
      else if "aAeEfFgG".contains conversion then
        let (value, state) := state.takeAs (realNumber .double) Scalar.ofCode
        some (state.write (real .double field conversion value))
      else none

def missingCharacter : Text := "missing format character".toList

def pass : Nat → Text → State → Except (Text × State) State
  | 0, _, state => .ok state
  | _ + 1, [], state => .ok state
  | fuel + 1, '\\' :: rest, state =>
      let (character, rest) := escape rest
      pass fuel rest (state.write [character])
  | fuel + 1, '%' :: '%' :: rest, state => pass fuel rest (state.write ['%'])
  | fuel + 1, '%' :: rest, state =>
      match readField state rest with
      | (_, state, []) => .error (missingCharacter, state)
      | (field, state, conversion :: after) =>
          match convert field conversion state with
          | none =>
              let directive := '%' :: rest.take (rest.length - after.length)
              .error (directive ++ ": invalid directive".toList, state)
          | some state => if state.stopped then .ok state else pass fuel after state
  | fuel + 1, character :: rest, state => pass fuel rest (state.write [character])

def passes (format : Text) : Nat → State → Except (Text × State) State
  | 0, state => .ok state
  | fuel + 1, state =>
      match pass (format.length + 1) format state with
      | .error fault => .error fault
      | .ok next =>
          if next.stopped || next.arguments.isEmpty ||
              next.arguments.length = state.arguments.length then .ok next
          else passes format fuel next

def fill (format : Text) (arguments : List Text) : Except (Text × State) State :=
  passes format (arguments.length + 1) ⟨[], arguments, [], false⟩

end ArtifactTools.Shell.Format
