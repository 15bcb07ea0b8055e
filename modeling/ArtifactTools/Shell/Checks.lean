import ArtifactTools.Regex.Reader
import ArtifactTools.Shell.Assigning
import ArtifactTools.Shell.Quoting
import ArtifactTools.Shell.Test

/-! The tests that conditions of the extended dialect are made of. -/

namespace ArtifactTools.Shell.Checks

def shown (text : Text) : Text := if text.isEmpty then ['\'', '\''] else text

def shownPattern (glyphs : List Glyph) : Text :=
  let text := glyphs.flatMap fun glyph =>
    match glyph with
    | .exact character => ['\\', character]
    | glyph => glyph.character?.toList
  shown text

def isSet (machine : Machine) (target : Text) : Bool :=
  let (name, subscript) := Machine.splitSubscript target
  match machine.lookup? name with
  | none => false
  | some entry =>
      match subscript with
      | none => entry.text?.isSome
      | some ['@'] | some ['*'] => !entry.values.isEmpty
      | some inside =>
          match (Assigning.key machine name inside).1 with
          | some key => ((entry.toElements false).get? key).isSome
          | none => false

def isOn (machine : Machine) (name : Text) : Bool :=
  Machine.extendedSwitches.any fun row => row.2.1.toList = name && machine.has row.1

def unary (machine : Machine) (operator operand : Text) : Bool :=
  match operator with
  | ['-', 'n'] => !operand.isEmpty
  | ['-', 'z'] => operand.isEmpty
  | ['-', 'v'] => isSet machine operand
  | ['-', 'R'] =>
      (machine.bindings.lookup operand).any fun entry =>
        entry.has .reference && entry.value.isSome
  | ['-', 'o'] => isOn machine operand
  | ['-', 't'] => false
  | ['-', 'a'] => Test.testFile machine 'e' operand
  | ['-', letter] => Test.testFile machine letter operand
  | _ => false

def comparison? (operator : String) : Option (Int → Int → Bool) :=
  match operator with
  | "-eq" => some fun first second => first = second
  | "-ne" => some fun first second => first ≠ second
  | "-lt" => some fun first second => first < second
  | "-le" => some fun first second => first ≤ second
  | "-gt" => some fun first second => second < first
  | "-ge" => some fun first second => second ≤ first
  | _ => none

def binary (machine : Machine) (first : Text) (operator : String) (second : Text) : Bool :=
  match operator with
  | "<" => decide (first.toOctets < second.toOctets)
  | ">" => decide (second.toOctets < first.toOctets)
  | "-ef" => Test.sameFile machine first second
  | "-nt" => Test.isNewer machine first second
  | "-ot" => Test.isNewer machine second first
  | _ => false

def expressionText (glyphs : List Glyph) : Text :=
  glyphs.flatMap fun glyph =>
    match glyph with
    | .exact character =>
        if "\\^$.|?*+()[]\x7b\x7d".contains character then ['\\', character] else [character]
    | glyph => glyph.character?.toList

/-- Searches a text for an expression, and keeps what it and its groups have found. Gives the status
of the test. -/
def search (machine : Machine) (text : Text) (glyphs : List Glyph) : Nat × Machine :=
  match Regex.read .condition (expressionText glyphs) with
  | .error _ => (2, machine)
  | .ok regex =>
      let name := words "BASH_REMATCH"
      let manner : Regex.Manner :=
        { Regex.Manner.plain with ignoresCase := machine.hasFeature "nocasematch" }
      match Regex.search? regex manner text 0 with
      | none => (1, (Assigning.setList (machine.forget name) name []).2)
      | some found =>
          let groups := (List.range regex.groupCount).map fun index =>
            (found.group? text (index + 1)).getD []
          let whole := Regex.slice text found.start found.stop
          (0, (Assigning.setList (machine.forget name) name (whole :: groups)).2)

end ArtifactTools.Shell.Checks
