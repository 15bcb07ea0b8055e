import ArtifactTools.Shell.Command
import ArtifactTools.Text.Decimal
import ArtifactTools.Text.Hexadecimal

/-! Escapes that stand for characters, and texts between quotes that a script reads back as the same
texts. Which characters a backslash gives a meaning to hangs on where it stands. -/

namespace ArtifactTools.Shell

/-- Where a backslash stands: between quotes after a dollar sign, in words that are echoed, in a
format, or in an argument of a format. -/
inductive EscapePlace where
  | quotes
  | words
  | format
  | argument
  deriving DecidableEq, Repr

inductive EscapeResult where
  | text (content : Text)
  | ending
  | digitless (content : Text) (what : String)

namespace Escape

def isOctal (character : Char) : Bool := '0' ≤ character && character ≤ '7'

def isHexadecimal (character : Char) : Bool := (Hexadecimal.value? character).isSome

def valueInBase (base : Nat) (digits : Text) : Nat :=
  digits.foldl (fun sum digit => sum * base + (Hexadecimal.value? digit).getD 0) 0

def control? (letter : Char) : Option Char :=
  match letter with
  | 'a' => some '\x07'
  | 'b' => some '\x08'
  | 'e' | 'E' => some '\x1b'
  | 'f' => some '\x0c'
  | 'n' => some '\n'
  | 'r' => some '\r'
  | 't' => some '\t'
  | 'v' => some '\x0b'
  | '\\' => some '\\'
  | _ => none

def ofCode (code : Nat) : Text :=
  let digits := (Hexadecimal.digits code).map Char.toUpper
  if code < 128 then [Char.ofNat code]
  else if code < 0x10000 then ['\\', 'u'] ++ Decimal.padZeros 4 digits
  else ['\\', 'U'] ++ Decimal.padZeros 8 digits

/-- The most digits of an octal code that begins with this digit, and whether the digit says nothing
but that. -/
def octalShape? (place : EscapePlace) (digit : Char) : Option (Nat × Bool) :=
  match place with
  | .words => if digit = '0' then some (3, true) else none
  | .argument => if digit = '0' then some (3, true) else some (3, false)
  | _ => some (3, false)

def read (place : EscapePlace) (text : Text) : EscapeResult × Text :=
  let numbered (count : Nat) (letter : Char) (what : String) (rest : Text)
      (make : Nat → Text) : EscapeResult × Text :=
    let digits := (rest.take count).takeWhile isHexadecimal
    if digits.isEmpty then (.digitless ['\\', letter] what, rest)
    else (.text (make (valueInBase 16 digits)), rest.drop digits.length)
  match text with
  | [] => (.text ['\\'], [])
  | 'x' :: rest => numbered 2 'x' "hex digit for \\x" rest fun code => [Char.ofNat code]
  | 'u' :: rest => numbered 4 'u' "unicode digit for \\u" rest ofCode
  | 'U' :: rest => numbered 8 'U' "unicode digit for \\U" rest ofCode
  | 'c' :: rest =>
      match place, rest with
      | .words, _ | .argument, _ => (.ending, rest)
      | .quotes, letter :: rest => (.text [Char.ofNat (letter.toUpper.toNat % 32)], rest)
      | _, _ => (.text ['\\', 'c'], rest)
  | letter :: rest =>
      if isOctal letter && (octalShape? place letter).isSome then
        let (count, isMark) := (octalShape? place letter).getD (3, false)
        let start := if isMark then rest else letter :: rest
        let digits := (start.take count).takeWhile isOctal
        (.text [Char.ofNat (valueInBase 8 digits % 256)], start.drop digits.length)
      else
        let isQuote := "'\"?".contains letter && (place = .quotes || place = .format)
        match control? letter with
        | some character => (.text [character], rest)
        | none => (.text (if isQuote then [letter] else ['\\', letter]), rest)

def resolve (place : EscapePlace) : Nat → Text → Text × Bool
  | 0, _ | _, [] => ([], false)
  | fuel + 1, '\\' :: rest =>
      match read place rest with
      | (.ending, _) => ([], true)
      | (.text content, rest) | (.digitless content _, rest) =>
          let (others, stops) := resolve place fuel rest
          (content ++ others, stops)
  | fuel + 1, character :: rest =>
      let (others, stops) := resolve place fuel rest
      (character :: others, stops)

def quotedText (text : Text) : Text :=
  ((resolve .quotes (text.length + 1) text).1).takeWhile (· ≠ '\x00')

end Escape

/-! Texts between quotes. -/

namespace Quoting

def isPrintable (character : Char) : Bool := ' ' ≤ character && character ≤ '~'

def single (text : Text) : Text :=
  if text = ['\''] then ['\\', '\'']
  else
    '\'' :: (text.flatMap fun character =>
      if character = '\'' then ['\'', '\\', '\'', '\''] else [character]) ++ ['\'']

def double (text : Text) : Text :=
  '"' :: (text.flatMap fun character =>
    if "\"$\x60\\".contains character then ['\\', character] else [character]) ++ ['"']

def escaped (character : Char) : Text :=
  match character with
  | '\x1b' => ['\\', 'E']
  | '\x07' => ['\\', 'a']
  | '\x08' => ['\\', 'b']
  | '\x0c' => ['\\', 'f']
  | '\n' => ['\\', 'n']
  | '\r' => ['\\', 'r']
  | '\t' => ['\\', 't']
  | '\x0b' => ['\\', 'v']
  | '\\' => ['\\', '\\']
  | '\'' => ['\\', '\'']
  | character =>
      if isPrintable character then [character]
      else '\\' :: Decimal.padZeros 3 (Nat.toDigits 8 character.toNat)

def withEscapes (text : Text) : Text := ['$', '\''] ++ text.flatMap escaped ++ ['\'']

def needsEscapes (text : Text) : Bool := text.any fun character => !isPrintable character

def isMeaningful (before : Option Char) (character : Char) : Bool :=
  " \t\n'\"\\|&;()<>!\x7b\x7d*[?]^$\x60".contains character ||
    (character = '~' && before.all fun before => before = '=' || before = ':') ||
    (character = '#' && before.isNone)

def hasMeaningful (text : Text) : Bool :=
  ((none :: text.map some).zip text).any fun (before, character) => isMeaningful before character

def traced (text : Text) : Text :=
  if text.isEmpty then ['\'', '\'']
  else if hasMeaningful text then single text
  else if needsEscapes text then withEscapes text
  else text

def backslashed (text : Text) : Text :=
  if text.isEmpty then ['\'', '\'']
  else if needsEscapes text then withEscapes text
  else
    ((none :: text.map some).zip text).flatMap fun (before, character) =>
      if isMeaningful before character || character = ',' then ['\\', character] else [character]

def reusable (text : Text) : Text :=
  if !text.isEmpty && needsEscapes text then withEscapes text else single text

def declared (text : Text) : Text := if needsEscapes text then withEscapes text else double text

def listed (text : Text) : Text :=
  if needsEscapes text then withEscapes text
  else if hasMeaningful text then single text
  else text

end Quoting

end ArtifactTools.Shell
