import ArtifactTools.Shell.Declared
import ArtifactTools.Shell.Groups

/-! What references of the extended dialect make of the values that they mean. -/

namespace ArtifactTools.Shell.References

/-- The values that a reference means: that of one variable or element, if it has one, or those of
several, which may be joined. -/
inductive Subject where
  | one (value : Option Text)
  | many (values : List Text) (isJoined : Bool)

def Subject.isMissing (orEmpty : Bool) : Subject → Bool
  | .one none => true
  | .one (some value) => orEmpty && value.isEmpty
  | .many values _ => values.isEmpty || (orEmpty && values = [[]])

def Subject.map (change : Text → Text) : Subject → Subject
  | .one value => .one (value.map change)
  | .many values isJoined => .many (values.map change) isJoined

def shownName (written name : Text) : Text :=
  let rec inside : Nat → Text → Text
    | _, [] => []
    | depth, '[' :: rest => '[' :: inside (depth + 1) rest
    | 0, ']' :: _ | 1, ']' :: _ => [']']
    | depth + 2, ']' :: rest => ']' :: inside (depth + 1) rest
    | depth, character :: rest => character :: inside depth rest
  let start := if name.isPrefixOf written then written else written.drop 1
  match start.drop name.length with
  | '[' :: rest => name ++ inside 0 ('[' :: rest)
  | _ => name

def target? (text : Text) : Option (Text × Option Text) :=
  let (name, subscript) := Machine.splitSubscript text
  let isParameter :=
    match name with
    | [mark] => isSpecialParameter mark
    | _ => false
  if isName name then some (name, subscript)
  else if (isParameter || (!name.isEmpty && name.all isDigit)) && subscript.isNone then
    some (name, none)
  else none

def namesFrom (machine : Machine) (start : Text) : List Text :=
  let found := (machine.bindings.filter fun entry =>
    start.isPrefixOf entry.1 && (entry.2.value.isSome || entry.2.elements.isSome)).map (·.1)
  found.mergeSort fun first second => decide (first.toOctets ≤ second.toOctets)

def recase (recasing : Recasing) (isEverywhere : Bool) (fits : Text → Bool) (text : Text) : Text :=
  let change (letter : Char) : Char :=
    if !fits [letter] then letter
    else
      match recasing with
      | .upper => letter.toUpper
      | .lower => letter.toLower
      | .other => if Member.isUpper letter then letter.toLower else letter.toUpper
  if isEverywhere then text.map change
  else
    match text with
    | first :: rest => change first :: rest
    | [] => []

def longestStart? (fits : Text → Bool) (text : Text) : Option Nat :=
  (List.range (text.length + 1)).reverse.find? fun count => fits (text.take count)

/-- The text that takes the place of a match: what is bare stands for the match itself where it is an
ampersand. -/
def replacementFor (replacement : List Glyph) (found : Text) : Text :=
  replacement.flatMap fun glyph =>
    if glyph.active? = some '&' then found else glyph.character?.toList

def substituteFrom (fits : Text → Bool) (replacement : List Glyph) (isEverywhere : Bool) :
    Nat → Text → Text
  | 0, text => text
  | _ + 1, [] => []
  | fuel + 1, character :: rest =>
      match longestStart? fits (character :: rest) with
      | none => character :: substituteFrom fits replacement isEverywhere fuel rest
      | some 0 =>
          let rest :=
            if isEverywhere then substituteFrom fits replacement isEverywhere fuel rest else rest
          replacementFor replacement [] ++ character :: rest
      | some count =>
          let text := character :: rest
          let after := text.drop count
          replacementFor replacement (text.take count) ++
            (if isEverywhere then substituteFrom fits replacement isEverywhere fuel after
              else after)

def substitute (place : Place) (isEmpty : Bool) (fits : Text → Bool) (replacement : List Glyph)
    (text : Text) : Text :=
  match place with
  | .start =>
      match longestStart? fits text with
      | some count => replacementFor replacement (text.take count) ++ text.drop count
      | none => text
  | .finish =>
      let counts := Pattern.fittingEnds fits text
      match counts.head? with
      | some count => text.take count ++ replacementFor replacement (text.drop count)
      | none => text
  | place =>
      if isEmpty then text
      else if text.isEmpty then
        if fits [] then replacementFor replacement [] else []
      else substituteFrom fits replacement (place = .everywhere) (text.length + 1) text

def slice {α : Type} (items : List α) (offset : Int) (count : Option Int) :
    Except Unit (List α) :=
  let size : Int := items.length
  let start := if offset < 0 then offset + size else offset
  if start < 0 || size < start then .ok []
  else
    match count with
    | none => .ok (items.drop start.toNat)
    | some count =>
        if count < 0 then
          if size + count < start then .error ()
          else .ok ((items.take (size + count).toNat).drop start.toNat)
        else .ok ((items.drop start.toNat).take count.toNat)

/-- The elements of a list from a number on, at most so many. Numbers below zero are counted from
behind the last element. -/
def sliceElements (elements : Elements) (offset : Int) (count : Option Nat) : List Text :=
  let listed := elements.toList
  let found : List (Key × Text) :=
    match elements with
    | .numbered _ =>
        let start := if offset < 0 then offset + elements.next else offset
        if start < 0 then []
        else listed.filter fun entry =>
          match entry.1 with
          | .number number => start ≤ number
          | .name _ => false
    | .named _ =>
        let start := if offset < 0 then offset + listed.length + 1 else offset
        if start < 0 then [] else listed.drop (start.toNat - 1)
  let values := found.map (·.2)
  match count with
  | some count => values.take count
  | none => values

def prompt (machine : Machine) : Nat → Text → Text
  | 0, text => text
  | fuel + 1, '\\' :: letter :: rest =>
      let home := (machine.valueOf? (words "HOME")).getD []
      let shown :=
        if !home.isEmpty && home.isPrefixOf machine.shown then
          '~' :: machine.shown.drop home.length
        else machine.shown
      let text : Text :=
        match letter with
        | 'a' => ['\x07']
        | 'e' => ['\x1b']
        | 'n' => ['\n']
        | 'r' => ['\r']
        | 's' => (machine.name.reverse.takeWhile (· ≠ '/')).reverse
        | 'u' => words "root"
        | 'v' => words "5.2"
        | 'V' => words "5.2.21"
        | 'w' => shown
        | 'W' =>
            if shown = ['~'] || shown = ['/'] then shown
            else (shown.reverse.takeWhile (· ≠ '/')).reverse
        | '$' => ['#']
        | '\\' => ['\\']
        | '[' | ']' => []
        | letter => ['\\', letter]
      text ++ prompt machine fuel rest
  | fuel + 1, character :: rest => character :: prompt machine fuel rest
  | _ + 1, [] => []

def transformed (machine : Machine) (letter : Char) (value : Text) : Text :=
  match letter with
  | 'Q' | 'K' | 'k' => Quoting.reusable value
  | 'U' => value.map Char.toUpper
  | 'L' => value.map Char.toLower
  | 'u' =>
      match value with
      | first :: rest => first.toUpper :: rest
      | [] => []
  | 'E' => Escape.quotedText value
  | 'P' => prompt machine (value.length + 1) value
  | _ => value

def assignment (name : Text) (entry : Variable) (value : Option Text) : Text :=
  let found := Declared.letters entry
  match value, found with
  | none, [] => []
  | none, found => words "declare -" ++ found ++ ' ' :: name
  | some value, [] => name ++ '=' :: Quoting.reusable value
  | some value, found =>
      words "declare -" ++ found ++ ' ' :: name ++ '=' :: Quoting.reusable value

def pairs (inOneText : Bool) (elements : Elements) : List Text :=
  if inOneText then
    [((elements.toList.map fun (key, value) =>
      Declared.subscript key ++ ' ' :: Quoting.declared value).intersperse [' ']).flatten ++
      (if elements.isNamed && !elements.toList.isEmpty then [' '] else [])]
  else elements.toList.flatMap fun (key, value) => [key.text, value]

def command (name : Text) (entry : Variable) : Subject → Text
  | .one value => assignment name entry value
  | .many values _ =>
      if !isName name then
        words "set -- " ++ (([' '] : Text).intercalate (values.map Quoting.reusable))
      else if entry.elements.isSome then Declared.command name entry
      else assignment name entry values.head?

def transform (machine : Machine) (name : Text) (entry : Variable) (letter : Char)
    (subject : Subject) : Subject :=
  match letter, subject with
  | 'A', subject => .one (some (command name entry subject))
  | 'a', .one _ => .one (some (Declared.letters entry))
  | 'a', .many values isJoined => .many (values.map fun _ => Declared.letters entry) isJoined
  | 'K', .many values isJoined =>
      match entry.elements with
      | some elements => .many (pairs true elements) isJoined
      | none => .many (values.map Quoting.reusable) isJoined
  | 'k', .many values isJoined =>
      match entry.elements with
      | some elements => .many (pairs false elements) isJoined
      | none => .many (values.map Quoting.reusable) isJoined
  | letter, subject => subject.map (transformed machine letter)

end ArtifactTools.Shell.References
