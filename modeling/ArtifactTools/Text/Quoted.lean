import ArtifactTools.Text.Glyphless
import ArtifactTools.Text.Hexadecimal

/-! Text between quotes for diagnostics. A quote and a backslash are escaped, the common control
characters have short escapes, and every other character that shows nothing of its own is written
by its code. -/

namespace ArtifactTools.Quoted

def escape (character : Char) : List Char :=
  match character with
  | '"' => ['\\', '"']
  | '\\' => ['\\', '\\']
  | '\n' => ['\\', 'n']
  | '\r' => ['\\', 'r']
  | '\t' => ['\\', 't']
  | '\x00' => ['\\', '0']
  | character =>
      if Glyphless.isGlyphless character then
        ['\\', 'u', '\x7b'] ++ Hexadecimal.digits character.toNat ++ ['\x7d']
      else [character]

def quote (text : String) : String :=
  String.ofList ('"' :: text.toList.flatMap escape ++ ['"'])

end ArtifactTools.Quoted
