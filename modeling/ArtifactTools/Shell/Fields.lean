import ArtifactTools.Shell.Groups
import ArtifactTools.Shell.Values

/-! From expanded words to fields: what came in the place of parameters is split at separators, and
a field that is a pattern becomes the names of the files that fit it. A line that is read is split
in the same way among a number of names. -/

namespace ArtifactTools.Shell.Fields

def separators (machine : Machine) : Text :=
  (machine.valueOf? (words "IFS")).getD [' ', '\t', '\n']

def isBlankSeparator (separators : Text) (character : Char) : Bool :=
  " \t\n".contains character && separators.contains character

/-- The field being read, if one has begun, whether a blank has just ended another, and the fields
before; the latest glyph and the latest field come first. -/
structure Splitter where
  current : Option (List Glyph)
  endedByBlank : Bool
  done : List (List Glyph)

namespace Splitter

def start : Splitter := ⟨none, false, []⟩

def close (splitter : Splitter) (byBlank : Bool) : Splitter :=
  match splitter.current with
  | some field => ⟨none, byBlank, field.reverse :: splitter.done⟩
  | none => splitter

/-- A separator that is no blank divides fields even where one of them is empty, but not again where
a blank or the end of an argument has just divided them. -/
def divide (splitter : Splitter) : Splitter :=
  match splitter.current with
  | some field => ⟨none, false, field.reverse :: splitter.done⟩
  | none =>
      if splitter.endedByBlank then { splitter with endedByBlank := false }
      else { splitter with done := [] :: splitter.done }

def keep (splitter : Splitter) (glyph : Glyph) : Splitter :=
  ⟨some (glyph :: splitter.current.getD []), false, splitter.done⟩

def step (separators : Text) (splitter : Splitter) (glyph : Glyph) : Splitter :=
  match glyph with
  | .cut => splitter.close true
  | .loose character =>
      if isBlankSeparator separators character then splitter.close true
      else if separators.contains character then splitter.divide
      else splitter.keep glyph
  | glyph => splitter.keep glyph

end Splitter

def split (separators : Text) (glyphs : List Glyph) : List (List Glyph) :=
  ((glyphs.foldl (Splitter.step separators) .start).close false).done.reverse

def namesIn (tree : FileTree) (location : Location) : List Octets :=
  let depth := location.length
  let names := tree.nodes.filterMap fun entry =>
    match entry.1.drop depth with
    | [name] => if location.isPrefixOf entry.1 then some name else none
    | _ => none
  names.mergeSort fun first second => decide (first ≤ second)

def pathParts : List Glyph → List (List Glyph)
  | [] => [[]]
  | glyph :: rest =>
      if glyph.character? = some '/' && glyph ≠ .hold then [] :: pathParts rest
      else
        match pathParts rest with
        | [] => [[glyph]]
        | first :: others => (glyph :: first) :: others

def isHidden (name : Octets) : Bool := name.head? = some Path.dot

/-- How names are found: which fields are patterns and what fits them, whether hidden names and those
of the directory itself and the one above it count, and whether two stars stand for any number of
directories. -/
structure Globbing where
  isActive : List Glyph → Bool
  fits : List Glyph → Text → Bool
  showsHidden : Bool
  showsOwn : Bool
  hasStars : Bool

def isPattern (hasGroups : Bool) : List Glyph → Bool
  | [] => false
  | glyph :: rest =>
      let closes (other : Glyph) : Bool := other.active? = some ']'
      (match glyph.active? with
        | some '*' | some '?' => true
        | some '[' => rest.any closes
        | some mark =>
            hasGroups && "+@!".contains mark && rest.head?.any fun next => next.active? = some '('
        | none => false) || isPattern hasGroups rest

def Globbing.plain : Globbing :=
  ⟨isPattern false, fun glyphs text => Pattern.fits (Pattern.ofGlyphs glyphs) text, false, true,
    false⟩

def Globbing.extended (machine : Machine) : Globbing :=
  let hasGroups := machine.hasFeature "extglob"
  ⟨isPattern hasGroups, Pattern.extendedTest hasGroups (machine.hasFeature "nocaseglob"),
    machine.hasFeature "dotglob", false, machine.hasFeature "globstar"⟩

def isIgnored (machine : Machine) (path : Text) : Bool :=
  let patterns := ((machine.valueOf? (words "GLOBIGNORE")).getD []).splitOn ':'
  let fits (pattern : Text) : Bool :=
    !pattern.isEmpty &&
      Pattern.extendedTest (machine.hasFeature "extglob") (machine.hasFeature "nocaseglob")
        (pattern.map Glyph.bare) path
  patterns.any fits

/-- The directories below one, itself first, by the paths that lead to them, and the names of all
else that is there. Links are not followed. -/
def below (tree : FileTree) (showsHidden : Bool) : Nat → Location → Text → List (Text × Bool)
  | 0, _, _ => []
  | fuel + 1, location, sofar =>
      ((namesIn tree location).filter fun name => showsHidden || !isHidden name).flatMap fun name =>
        let path := sofar ++ Text.ofOctets name
        if (tree.node? (location ++ [name])).any FileTree.isDirectory then
          (path, true) :: below tree showsHidden fuel (location ++ [name]) (path ++ ['/'])
        else [(path, false)]

def expandParts (globbing : Globbing) (tree : FileTree) (directory : Location) :
    List (List Glyph) → Text → List Text
  | [], sofar => [sofar]
  | part :: rest, sofar =>
      let ending : Text := if rest.isEmpty then [] else ['/']
      if globbing.isActive part then
        let place : Text := if sofar.isEmpty then ['.'] else sofar
        match tree.find directory ⟨place.toOctets⟩ with
        | .ok (location, .directory mode) =>
            if !FileTree.allows mode FileTree.readBit then []
            else if globbing.hasStars && part.map Glyph.active? = [some '*', some '*'] then
              let found := below tree globbing.showsHidden (tree.nodes.length + 1) location sofar
              if rest.isEmpty then
                (if sofar.isEmpty then [] else [sofar]) ++ found.map (·.1)
              else
                let places := sofar ::
                  (found.filter (·.2)).map fun entry => entry.1 ++ ['/']
                places.flatMap fun place =>
                  (expandParts globbing tree directory rest place).filter (!·.isEmpty)
            else
              let showsHidden := (Glyph.text part).head? = some '.'
              let own : List Octets :=
                if globbing.showsOwn then [[Path.dot], [Path.dot, Path.dot]] else []
              let names := (own ++ namesIn tree location).filter fun name =>
                (globbing.showsHidden || showsHidden || !isHidden name) &&
                  globbing.fits part (Text.ofOctets name)
              names.flatMap fun name =>
                expandParts globbing tree directory rest (sofar ++ Text.ofOctets name ++ ending)
        | _ => []
      else
        let next := sofar ++ Glyph.text part
        if rest.isEmpty then
          match tree.findName directory ⟨next.toOctets⟩ with
          | .ok _ => [next]
          | .error _ => []
        else expandParts globbing tree directory rest (next ++ ending)

def paths? (globbing : Globbing) (tree : FileTree) (directory : Location) (field : List Glyph) :
    Option (List Text) :=
  if globbing.isActive field then some (expandParts globbing tree directory (pathParts field) [])
  else none

def texts (tree : FileTree) (directory : Location) (field : List Glyph) : List Text :=
  match paths? .plain tree directory field with
  | none | some [] => [Glyph.text field]
  | some found => found

/-! Lines that are read. A backslash makes its character exact. -/

/-- A line by its characters; a backslash before the end of the line joins the next one to it, and
is left out here. -/
def ofLine : Text → List Glyph
  | '\\' :: character :: rest => .exact character :: ofLine rest
  | ['\\'] => []
  | character :: rest => .loose character :: ofLine rest
  | [] => []

def isSeparator (separators : Text) : Glyph → Bool
  | .loose character => separators.contains character
  | _ => false

def isBlank (separators : Text) : Glyph → Bool
  | .loose character => isBlankSeparator separators character
  | _ => false

def skipSeparator (separators : Text) (glyphs : List Glyph) : List Glyph :=
  match glyphs.dropWhile (isBlank separators) with
  | [] => []
  | glyph :: rest =>
      if isSeparator separators glyph then rest.dropWhile (isBlank separators) else glyph :: rest

def lastField (separators : Text) (glyphs : List Glyph) : List Glyph :=
  let field := glyphs.takeWhile fun glyph => !isSeparator separators glyph
  if (skipSeparator separators (glyphs.drop field.length)).isEmpty then field
  else (glyphs.reverse.dropWhile (isBlank separators)).reverse

def share (separators : Text) : Nat → List Glyph → List Text
  | 0, _ => []
  | 1, glyphs => [Glyph.text (lastField separators glyphs)]
  | count + 2, glyphs =>
      let field := glyphs.takeWhile fun glyph => !isSeparator separators glyph
      Glyph.text field ::
        share separators (count + 1) (skipSeparator separators (glyphs.drop field.length))

def ofRead (separators : Text) (count : Nat) (glyphs : List Glyph) : List Text :=
  share separators count (glyphs.dropWhile (isBlank separators))

end ArtifactTools.Shell.Fields
