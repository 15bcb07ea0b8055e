import ArtifactTools.Json.Value

/-! The text of JSON values: compact, without any blank, or pretty, with one member or element to a
line and two blanks to a level. -/

namespace ArtifactTools.Json

/-- Doubles are written positionally from `0.00001` up to sixteen digits before the point. -/
def doubleLayout : Double.Layout := ⟨-5, 16⟩

def Number.text : Number → List Char
  | .whole value => Decimal.intDigits value
  | .double value => value.text doubleLayout

def escape (character : Char) : List Char :=
  match character with
  | '"' => ['\\', '"']
  | '\\' => ['\\', '\\']
  | '\x08' => ['\\', 'b']
  | '\x0c' => ['\\', 'f']
  | '\n' => ['\\', 'n']
  | '\r' => ['\\', 'r']
  | '\t' => ['\\', 't']
  | character =>
      if character.toNat < 0x20 then
        ['\\', 'u', '0', '0', Hexadecimal.digit false (character.toNat / 16),
          Hexadecimal.digit false (character.toNat % 16)]
      else [character]

def quote (text : String) : List Char := '"' :: text.toList.flatMap escape ++ ['"']

mutual

def Value.compact : Value → List Char
  | .null => ['n', 'u', 'l', 'l']
  | .bool true => ['t', 'r', 'u', 'e']
  | .bool false => ['f', 'a', 'l', 's', 'e']
  | .number value => value.text
  | .string text => quote text
  | .array [] => ['[', ']']
  | .array (element :: rest) => '[' :: element.compact ++ compactElements rest
  | .object [] => ['\x7b', '\x7d']
  | .object ((key, value) :: rest) =>
      '\x7b' :: quote key ++ ':' :: value.compact ++ compactMembers rest

def compactElements : List Value → List Char
  | [] => [']']
  | element :: rest => ',' :: element.compact ++ compactElements rest

def compactMembers : List (String × Value) → List Char
  | [] => ['\x7d']
  | (key, value) :: rest => ',' :: quote key ++ ':' :: value.compact ++ compactMembers rest

end

def newline (level : Nat) : List Char := '\n' :: List.replicate (2 * level) ' '

mutual

def Value.pretty (level : Nat) : Value → List Char
  | .array (element :: rest) =>
      '[' :: newline (level + 1) ++ element.pretty (level + 1) ++ prettyElements level rest
  | .object ((key, value) :: rest) =>
      '\x7b' :: newline (level + 1) ++ quote key ++ ':' :: ' ' :: value.pretty (level + 1) ++
        prettyMembers level rest
  | value => value.compact

def prettyElements (level : Nat) : List Value → List Char
  | [] => newline level ++ [']']
  | element :: rest =>
      ',' :: newline (level + 1) ++ element.pretty (level + 1) ++ prettyElements level rest

def prettyMembers (level : Nat) : List (String × Value) → List Char
  | [] => newline level ++ ['\x7d']
  | (key, value) :: rest =>
      ',' :: newline (level + 1) ++ quote key ++ ':' :: ' ' :: value.pretty (level + 1) ++
        prettyMembers level rest

end

def Value.compactText (value : Value) : String := String.ofList value.compact

def Value.prettyText (value : Value) : String := String.ofList (value.pretty 0)

end ArtifactTools.Json
