import ArtifactTools.Shell.Quoting
import ArtifactTools.Shell.Values

/-! Variables as a script may declare them again. -/

namespace ArtifactTools.Shell.Declared

def letters (entry : Variable) : Text :=
  (match entry.elements with
    | some (.numbered _) => ['a']
    | some (.named _) => ['A']
    | none => []) ++
  (if entry.has .integer then ['i'] else []) ++
  (if entry.has .reference then ['n'] else []) ++
  (if entry.isReadOnly then ['r'] else []) ++
  (if entry.exported then ['x'] else []) ++
  (if entry.has .lower then ['l'] else []) ++
  (if entry.has .upper then ['u'] else [])

def subscript (key : Key) : Text :=
  match key with
  | .number value => Decimal.digits value
  | .name text =>
      if Quoting.needsEscapes text then Quoting.withEscapes text
      else if Quoting.hasMeaningful text || text = ['@'] || text.isEmpty then Quoting.double text
      else text

def list (elements : Elements) : Text :=
  let entries := elements.toList.map fun (key, value) =>
    '[' :: subscript key ++ [']', '='] ++ Quoting.declared value
  let inside := (entries.intersperse [' ']).flatten
  let ending := if elements.isNamed && !entries.isEmpty then [' '] else []
  '(' :: inside ++ ending ++ [')']

/-- The name of a variable with the value that it has, if it has one. A list without elements has
one since it was set. -/
def binding (quote : Text → Text) (name : Text) (entry : Variable) : Text :=
  match entry.elements, entry.value with
  | some elements, value =>
      if value.isNone && elements.toList.isEmpty then name else name ++ '=' :: list elements
  | none, some value => name ++ '=' :: quote value
  | none, none => name

def command (name : Text) (entry : Variable) : Text :=
  let found := letters entry
  words "declare -" ++ (if found.isEmpty then ['-'] else found) ++ ' ' ::
    binding Quoting.declared name entry

end ArtifactTools.Shell.Declared
