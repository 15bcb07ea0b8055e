import ArtifactTools.Text.Hexadecimal

/-! Regular expressions, and where they match a text. Of the matches that begin at one place the
longest counts, and of those of one length the one whose repetitions take more and whose first
alternatives hold. -/

namespace ArtifactTools

inductive RegexMember where
  | range (low high : Char)
  | kind (name : String)
  deriving DecidableEq, Repr

inductive RegexPlace where
  | lineStart
  | lineEnd
  | textStart
  | textEnd
  | wordStart
  | wordEnd
  | wordEdge
  | noWordEdge
  | notAfterWord
  | notBeforeWord
  deriving DecidableEq, Repr

/-- A regular expression. Groups are numbered from one on; `back` matches what a group has
matched. -/
inductive Regex where
  | empty
  | exactly (character : Char)
  | any
  | oneOf (negated : Bool) (members : List RegexMember)
  | place (place : RegexPlace)
  | group (number : Nat) (inside : Regex)
  | back (number : Nat)
  | sequence (first second : Regex)
  | either (first second : Regex)
  | many (inside : Regex) (least : Nat) (most : Option Nat)
  deriving Repr

namespace RegexMember

def isLower (character : Char) : Bool := 'a' ≤ character && character ≤ 'z'

def isUpper (character : Char) : Bool := 'A' ≤ character && character ≤ 'Z'

def isDigit (character : Char) : Bool := '0' ≤ character && character ≤ '9'

def isAlphanumeric (character : Char) : Bool :=
  isLower character || isUpper character || isDigit character

def isGraphic (character : Char) : Bool := '!' ≤ character && character ≤ '~'

def kinds : List (String × (Char → Bool)) :=
  [("alnum", isAlphanumeric), ("alpha", fun character => isLower character || isUpper character),
    ("blank", fun character => character = ' ' || character = '\t'),
    ("cntrl", fun character => character < ' ' || character = '\x7f'),
    ("digit", isDigit), ("graph", isGraphic), ("lower", isLower),
    ("print", fun character => isGraphic character || character = ' '),
    ("punct", fun character => isGraphic character && !isAlphanumeric character),
    ("space", fun character => " \t\n\x0b\x0c\r".contains character), ("upper", isUpper),
    ("xdigit", fun character => (Hexadecimal.value? character).isSome)]

def accepts : RegexMember → Char → Bool
  | .range low high, character => low ≤ character && character ≤ high
  | .kind name, character => (kinds.lookup name).any fun test => test character

end RegexMember

namespace Regex

/-- How a text is matched: with letters of either case alike, with lines within the text, and whether
the text begins and ends a line. -/
structure Manner where
  ignoresCase : Bool
  seesLines : Bool
  startsLine : Bool
  endsLine : Bool
  deriving DecidableEq, Repr

def Manner.plain : Manner := ⟨false, false, true, true⟩

/-- A place in a text: the character before it, what follows it, how many characters are before it,
and the places of the groups, the latest first. -/
structure Point where
  before : Option Char
  rest : List Char
  position : Nat
  groups : List (Nat × Nat × Nat)
  deriving DecidableEq, Repr

def Point.next (point : Point) (character : Char) (rest : List Char) : Point :=
  { point with before := some character, rest, position := point.position + 1 }

def isWord (character : Char) : Bool := RegexMember.isAlphanumeric character || character = '_'

def Point.isAt (manner : Manner) (point : Point) (place : RegexPlace) : Bool :=
  let isAfterWord := point.before.any isWord
  let isBeforeWord := point.rest.head?.any isWord
  match place with
  | .textStart => point.before.isNone
  | .textEnd => point.rest.isEmpty
  | .lineStart =>
      (point.before.isNone && manner.startsLine) ||
        (manner.seesLines && point.before = some '\n')
  | .lineEnd =>
      (point.rest.isEmpty && manner.endsLine) ||
        (manner.seesLines && point.rest.head? = some '\n')
  | .wordStart => !isAfterWord && isBeforeWord
  | .wordEnd => isAfterWord && !isBeforeWord
  | .wordEdge => isAfterWord != isBeforeWord
  | .noWordEdge => isAfterWord == isBeforeWord
  | .notAfterWord => !isAfterWord
  | .notBeforeWord => !isBeforeWord

def casesOf (manner : Manner) (character : Char) : List Char :=
  if manner.ignoresCase then [character, character.toLower, character.toUpper] else [character]

def takes? (manner : Manner) : Regex → Option (Char → Bool)
  | .exactly expected => some fun character => (casesOf manner character).contains expected
  | .any => some fun character => !(manner.seesLines && character = '\n')
  | .oneOf negated members =>
      some fun character =>
        let isMember := (casesOf manner character).any fun form =>
          members.any fun member => member.accepts form
        isMember != negated && !(manner.seesLines && negated && character = '\n')
  | _ => none

def farther (first : Option Point) (second : Unit → Option Point) : Option Point :=
  match first with
  | none => second ()
  | some point =>
      if point.rest.isEmpty then first
      else
        match second () with
        | some other => if point.position < other.position then some other else first
        | none => first

def pointsAfter (takes : Char → Bool) : Nat → Point → List Point → List Point
  | 0, point, sofar => point :: sofar
  | fuel + 1, point, sofar =>
      match point.rest with
      | character :: rest =>
          if takes character then
            pointsAfter takes fuel (point.next character rest) (point :: sofar)
          else point :: sofar
      | [] => point :: sofar

def farthest (goOn : Point → Option Point) : List Point → Option Point
  | [] => none
  | point :: rest => farther (goOn point) fun _ => farthest goOn rest

/-- Repeats a match as often as it takes something; `least` and `most` times are left. -/
def repeated (once : (Point → Option Point) → Point → Option Point)
    (goOn : Point → Option Point) : Nat → Nat → Option Nat → Point → Option Point
  | 0, least, _, point => if least = 0 then goOn point else none
  | fuel + 1, least, most, point =>
      let again : Option Point :=
        if most = some 0 then none
        else
          once (fun after =>
            if after.position = point.position && least = 0 then none
            else repeated once goOn fuel (least - 1) (most.map (· - 1)) after) point
      farther again fun _ => if least = 0 then goOn point else none

def matchFrom (manner : Manner) (whole : List Char) :
    Regex → (Point → Option Point) → Point → Option Point
  | .empty, goOn, point => goOn point
  | .place kind, goOn, point => if point.isAt manner kind then goOn point else none
  | .group number inside, goOn, point =>
      matchFrom manner whole inside
        (fun after =>
          goOn { after with groups := (number, point.position, after.position) :: after.groups })
        point
  | .back number, goOn, point =>
      match point.groups.lookup number with
      | none => none
      | some (start, stop) =>
          let expected := (whole.drop start).take (stop - start)
          let found := point.rest.take expected.length
          let isAlike (first second : Char) : Bool := (casesOf manner first).contains second
          if found.length = expected.length &&
              (found.zip expected).all (fun pair => isAlike pair.1 pair.2) then
            goOn { point with
              before := expected.getLast?.or point.before
              rest := point.rest.drop expected.length
              position := point.position + expected.length }
          else none
  | .sequence first second, goOn, point =>
      matchFrom manner whole first (matchFrom manner whole second goOn) point
  | .either first second, goOn, point =>
      farther (matchFrom manner whole first goOn point)
        fun _ => matchFrom manner whole second goOn point
  | .many inside least most, goOn, point =>
      match takes? manner inside with
      | some takes =>
          let points := pointsAfter takes (most.getD point.rest.length) point []
          farthest goOn (points.take (points.length - least))
      | none =>
          repeated (matchFrom manner whole inside) goOn (point.rest.length + least + 1) least most
            point
  | simple, goOn, point =>
      match takes? manner simple, point.rest with
      | some takes, character :: rest =>
          if takes character then goOn (point.next character rest) else none
      | _, _ => none

structure Match where
  start : Nat
  stop : Nat
  groups : List (Nat × Nat × Nat)
  deriving DecidableEq, Repr

def slice (text : List Char) (start stop : Nat) : List Char := (text.drop start).take (stop - start)

def Match.group? (found : Match) (text : List Char) (number : Nat) : Option (List Char) :=
  if number = 0 then some (slice text found.start found.stop)
  else (found.groups.lookup number).map fun (start, stop) => slice text start stop

def matchAt? (regex : Regex) (manner : Manner) (whole : List Char) (point : Point) :
    Option Match :=
  (matchFrom manner whole regex some point).map fun stop =>
    ⟨point.position, stop.position, stop.groups⟩

def searchFrom (regex : Regex) (manner : Manner) (whole : List Char) :
    Nat → Point → Option Match
  | 0, point => regex.matchAt? manner whole point
  | fuel + 1, point =>
      match regex.matchAt? manner whole point with
      | some found => some found
      | none =>
          match point.rest with
          | [] => none
          | character :: rest =>
              searchFrom regex manner whole fuel (point.next character rest)

def pointAt (text : List Char) (position : Nat) : Point :=
  ⟨if position = 0 then none else text[position - 1]?, text.drop position, position, []⟩

def search? (regex : Regex) (manner : Manner) (text : List Char) (position : Nat) :
    Option Match :=
  regex.searchFrom manner text (text.length + 1 - position) (pointAt text position)

def matchStart? (regex : Regex) (text : List Char) : Option Match :=
  regex.matchAt? .plain text (pointAt text 0)

def ofText (text : List Char) : Regex :=
  text.foldr (fun character rest => .sequence (.exactly character) rest) .empty

/-- Of the matches of several expressions the one that begins first, and of those the longest. -/
def searchAny? (regexes : List Regex) (manner : Manner) (text : List Char) (position : Nat) :
    Option Match :=
  regexes.foldl (fun best regex =>
    match best, regex.search? manner text position with
    | none, found => found
    | best, none => best
    | some best, some found =>
        let isBetter := found.start < best.start ||
          (found.start = best.start && best.stop < found.stop)
        some (if isBetter then found else best)) none

def groupCount : Regex → Nat
  | .group number inside => max number inside.groupCount
  | .sequence first second | .either first second => max first.groupCount second.groupCount
  | .many inside _ _ => inside.groupCount
  | _ => 0

end Regex

end ArtifactTools
