import ArtifactTools.Shell.Command
import ArtifactTools.Text.Hexadecimal

/-! Patterns of the shell, and the characters of words before they become fields. A character keeps
whether quotes protect it, so that only bare ones take part in patterns and only replaced ones in
splitting. -/

namespace ArtifactTools.Shell

/-- A character of an expanded word: `exact` was quoted, `bare` stands in the script, `loose` came
in the place of a parameter. Quotes around nothing leave a `hold`; `cut` divides fields. -/
inductive Glyph where
  | exact (character : Char)
  | bare (character : Char)
  | loose (character : Char)
  | hold
  | cut
  deriving DecidableEq, Repr

namespace Glyph

def character? : Glyph → Option Char
  | .exact character | .bare character | .loose character => some character
  | .hold | .cut => none

def text (glyphs : List Glyph) : Text := glyphs.filterMap character?

def joined (between : Text) (glyphs : List Glyph) : List Glyph :=
  glyphs.flatMap fun glyph =>
    match glyph with
    | .cut => between.map exact
    | glyph => [glyph]

def dropMany : Nat → List Glyph → List Glyph
  | 0, glyphs => glyphs
  | _ + 1, [] => []
  | count + 1, .hold :: rest => .hold :: dropMany (count + 1) rest
  | count + 1, _ :: rest => dropMany count rest

def takeMany : Nat → List Glyph → List Glyph
  | _, [] => []
  | count, .hold :: rest => .hold :: takeMany count rest
  | 0, _ :: _ => []
  | count + 1, glyph :: rest => glyph :: takeMany count rest

def active? : Glyph → Option Char
  | .bare character | .loose character => some character
  | _ => none

end Glyph

inductive Member where
  | range (low high : Char)
  | kind (name : String)
  deriving DecidableEq, Repr

inductive PatternItem where
  | exactly (character : Char)
  | anyCharacter
  | anyText
  | oneOf (negated : Bool) (members : List Member)
  deriving DecidableEq, Repr

namespace Member

def isLower (character : Char) : Bool := 'a' ≤ character && character ≤ 'z'

def isUpper (character : Char) : Bool := 'A' ≤ character && character ≤ 'Z'

def isGraphic (character : Char) : Bool := '!' ≤ character && character ≤ '~'

def kinds : List (String × (Char → Bool)) :=
  [("alnum", fun character => isLower character || isUpper character || isDigit character),
    ("alpha", fun character => isLower character || isUpper character),
    ("blank", fun character => character = ' ' || character = '\t'),
    ("cntrl", fun character => character < ' ' || character = '\x7f'),
    ("digit", isDigit), ("graph", isGraphic), ("lower", isLower),
    ("print", fun character => isGraphic character || character = ' '),
    ("punct", fun character => isGraphic character &&
      !(isLower character || isUpper character || isDigit character)),
    ("space", fun character => " \t\n\x0b\x0c\r".contains character), ("upper", isUpper),
    ("xdigit", fun character => (Hexadecimal.value? character).isSome)]

def accepts : Member → Char → Bool
  | .range low high, character => low ≤ character && character ≤ high
  | .kind name, character => (kinds.lookup name).any fun test => test character

end Member

namespace Pattern

def kindName? (glyphs : List Glyph) : Option (String × List Glyph) :=
  Member.kinds.findSome? fun (name, _) =>
    let spelled := (":" ++ name ++ ":]").toList.map some
    if (glyphs.take spelled.length).map Glyph.active? = spelled then
      some (name, glyphs.drop spelled.length)
    else none

def members (isFirst : Bool) : Nat → List Glyph → Option (List Member × List Glyph)
  | 0, _ | _, [] => none
  | fuel + 1, first :: rest =>
      let add (member : Member) (rest : List Glyph) : Option (List Member × List Glyph) :=
        (members false fuel rest).map fun (others, rest) => (member :: others, rest)
      if first.active? = some ']' && !isFirst then some ([], rest)
      else
        match first.character?, if first.active? = some '[' then kindName? rest else none with
        | none, _ => members isFirst fuel rest
        | some _, some (name, rest) => add (.kind name) rest
        | some low, none =>
            match rest with
            | hyphen :: last :: others =>
                match hyphen.active?, last.active?, last.character? with
                | some '-', some ']', _ => add (.range low low) rest
                | some '-', _, some high => add (.range low high) others
                | _, _, _ => add (.range low low) rest
            | rest => add (.range low low) rest

/-- Reads a pattern; a bracket that is never closed stands for itself, and a backslash that came in
the place of a parameter protects the character after it. -/
def read : Nat → List Glyph → List PatternItem
  | 0, _ => []
  | _ + 1, [] => []
  | fuel + 1, glyph :: rest =>
      match glyph.active?, rest with
      | some '\\', next :: others =>
          match next.character? with
          | some character => .exactly character :: read fuel others
          | none => read fuel (glyph :: others)
      | some '*', _ => .anyText :: read fuel rest
      | some '?', _ => .anyCharacter :: read fuel rest
      | some '[', next :: others =>
          let negated := next.active? = some '!'
          match members true (rest.length + 1) (if negated then others else rest) with
          | some (found, rest) => .oneOf negated found :: read fuel rest
          | none => .exactly '[' :: read fuel rest
      | _, _ =>
          match glyph.character? with
          | some character => .exactly character :: read fuel rest
          | none => read fuel rest

def ofGlyphs (glyphs : List Glyph) : List PatternItem := read (glyphs.length + 1) glyphs

def PatternItem.accepts : PatternItem → Char → Bool
  | .exactly expected, character => expected = character
  | .anyCharacter, _ => true
  | .anyText, _ => false
  | .oneOf negated members, character => negated != members.any (·.accepts character)

def fits : List PatternItem → Text → Bool
  | [], text => text.isEmpty
  | .anyText :: items, [] => fits items []
  | .anyText :: items, character :: rest =>
      fits items (character :: rest) || fits (.anyText :: items) rest
  | _ :: _, [] => false
  | item :: items, character :: rest => PatternItem.accepts item character && fits items rest
termination_by items text => (text.length, items.length)

def fittingStarts (fits : Text → Bool) (text : Text) : List Nat :=
  (List.range (text.length + 1)).filter fun count => fits (text.take count)

def fittingEnds (fits : Text → Bool) (text : Text) : List Nat :=
  (List.range (text.length + 1)).filter fun count => fits (text.drop count)

def startCount (longest : Bool) (fits : Text → Bool) (text : Text) : Nat :=
  let counts := fittingStarts fits text
  ((if longest then counts.getLast? else counts.head?)).getD 0

def restCount (longest : Bool) (fits : Text → Bool) (text : Text) : Nat :=
  let counts := fittingEnds fits text
  ((if longest then counts.head? else counts.getLast?)).getD text.length

end Pattern

end ArtifactTools.Shell
