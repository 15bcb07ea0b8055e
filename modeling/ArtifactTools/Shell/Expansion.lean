import ArtifactTools.Shell.Arithmetic
import ArtifactTools.Shell.Fields
import ArtifactTools.Shell.References

/-! What takes the place of parameters and tildes in words. -/

namespace ArtifactTools.Shell.Expansion

def switchLetters (machine : Machine) : Text :=
  Switch.table.reverse.filterMap fun row => if machine.has row.1 then row.2.2 else none

def parameter? (machine : Machine) (name : Text) : Option Text :=
  match name with
  | ['#'] => some (Decimal.digits machine.arguments.list.length)
  | ['?'] => some (Decimal.digits machine.status)
  | ['$'] => some (Decimal.digits machine.number)
  | ['-'] => some (if machine.isExtended then machine.extendedLetters else switchLetters machine)
  | ['!'] => machine.latestJob.map Decimal.digits
  | name =>
      if !name.isEmpty && name.all isDigit then
        match Decimal.value name with
        | 0 => some machine.name
        | position + 1 => machine.arguments.list[position]?
      else if machine.isExtended then (machine.lookup? name).bind (·.text?)
      else machine.valueOf? name

def glyphs (isQuoted : Bool) (text : Text) : List Glyph :=
  if isQuoted then .hold :: text.map Glyph.exact else text.map Glyph.loose

def severalGlyphs (machine : Machine) (isJoined isQuoted : Bool) (texts : List Text) :
    List Glyph :=
  let found := texts.map (glyphs isQuoted)
  if isJoined && isQuoted then
    let between : List Glyph := ((Fields.separators machine).take 1).map Glyph.exact
    .hold :: between.intercalate found
  else [Glyph.cut].intercalate found

def argumentGlyphs (machine : Machine) (isJoined isQuoted : Bool) : List Glyph :=
  severalGlyphs machine isJoined isQuoted machine.arguments.list

def parameterGlyphs (machine : Machine) (name : Text) (isQuoted : Bool) : Option (List Glyph) :=
  match name with
  | ['@'] => some (argumentGlyphs machine false isQuoted)
  | ['*'] => some (argumentGlyphs machine true isQuoted)
  | name => (parameter? machine name).map (glyphs isQuoted)

/-- Whether the modifier takes another text in the place of this value. The list of arguments has no
value where it is empty. -/
def isMissing (orEmpty : Bool) (value : Option (List Glyph)) : Bool :=
  match value with
  | none => true
  | some glyphs => orEmpty && (Glyph.text glyphs).isEmpty

def joinedText (machine : Machine) (found : List Glyph) : Text :=
  let between := if machine.isExtended then [' '] else (Fields.separators machine).take 1
  Glyph.text (Glyph.joined between found)

/-- A word that is not divided, in which the arguments or elements that are to be joined are joined
by the first separator. -/
def joinStars (word : Word) : Word :=
  word.map fun part =>
    match part with
    | .parameter ['*'] _ => .parameter ['*'] true
    | .reference written name isIndirect (.every true) use _ =>
        .reference written name isIndirect (.every true) use true
    | .reference written ['*'] isIndirect selection use _ =>
        .reference written ['*'] isIndirect selection use true
    | part => part

def withoutMarks (word : Word) : Word :=
  word.map fun part =>
    match part with
    | .text characters isQuoted => .text (characters.filter (· ≠ '"')) isQuoted
    | part => part

def fitting (machine : Machine) (found : List Glyph) : Text → Bool :=
  if machine.isExtended then Pattern.extendedTest (machine.hasFeature "extglob") false found
  else Pattern.fits (Pattern.ofGlyphs found)

def unsetMessage (name : Text) : Text := name ++ words ": parameter not set"

def loosen : Glyph → Glyph
  | .bare character => .loose character
  | glyph => glyph

def dropEnds (text : Text) : Text := (text.reverse.dropWhile (· = '\n')).reverse

/-! Tildes. -/

/-- The home directory of a user; without a name, that of the variable. A sign may stand for the
working directory or the one before it. -/
def home? (machine : Machine) (user : Text) : Option Text :=
  if user.isEmpty then
    let home := machine.valueOf? (words "HOME")
    if machine.isExtended then some (home.getD (words Host.fallbackHome)) else home
  else if user = words "root" then some (words Host.fallbackHome)
  else if machine.isExtended && user = ['+'] then machine.valueOf? (words "PWD")
  else if machine.isExtended && user = ['-'] then machine.valueOf? (words "OLDPWD")
  else none

/-- Replaces tildes in unquoted text: at the beginning of a word, and in an assignment also after
each colon. A tilde goes with the name after it, which must be whole. -/
def replaceTildes (machine : Machine) (inAssignment isLast : Bool) : Nat → Bool → Text → Word
  | 0, _, _ => []
  | _ + 1, _, [] => []
  | fuel + 1, true, '~' :: rest =>
      let user := rest.takeWhile fun character =>
        character ≠ '/' && !(inAssignment && character = ':')
      let after := rest.drop user.length
      match if after.isEmpty && !isLast then none else home? machine user with
      | some home => .text home true :: replaceTildes machine inAssignment isLast fuel false after
      | none => .text ['~'] false :: replaceTildes machine inAssignment isLast fuel false rest
  | fuel + 1, _, character :: rest =>
      .text [character] false ::
        replaceTildes machine inAssignment isLast fuel (inAssignment && character = ':') rest

def withoutTildes (machine : Machine) (inAssignment : Bool) : Bool → Word → Word
  | _, [] => []
  | isStart, .text characters false :: rest =>
      let replaced :=
        if characters.contains '~' then
          replaceTildes machine inAssignment rest.isEmpty (characters.length + 1) isStart
            characters
        else [.text characters false]
      replaced ++ withoutTildes machine inAssignment false rest
  | _, part :: rest => part :: withoutTildes machine inAssignment false rest

/-! Faults of arithmetic. -/

def arithmeticMessage (expression : Text) : Arithmetic.Fault → Text
  | .expecting what =>
      words ("arithmetic expression: expecting " ++ what ++ ": \"") ++ expression ++ ['"']
  | .divisionByZero =>
      words "arithmetic expression: division by zero: \"" ++ expression ++ ['"']
  | .quotientTooLarge => words "arithmetic expression"
  | .illegalNumber text => Machine.illegalNumber text

end ArtifactTools.Shell.Expansion
