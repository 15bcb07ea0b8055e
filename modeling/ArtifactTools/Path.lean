import ArtifactTools.Text.Utf8

/-! Paths are octets divided by slashes. A path is read as its components: repeated slashes and dots
within it say nothing, a leading dot and every double dot do. -/

namespace ArtifactTools

structure Path where
  octets : Octets
  deriving DecidableEq, Repr

inductive Component where
  | root
  | current
  | parent
  | named (name : Octets)
  deriving DecidableEq, Repr

namespace Path

def slash : UInt8 := 47

def dot : UInt8 := 46

end Path

def Component.text : Component → Octets
  | .root => [Path.slash]
  | .current => [Path.dot]
  | .parent => [Path.dot, Path.dot]
  | .named name => name

namespace Path

def empty : Path := ⟨[]⟩

def ofString (text : String) : Path := ⟨Utf8.encode text⟩

def display (path : Path) : String := Utf8.decodeLossy path.octets

def isAbsolute (path : Path) : Bool := path.octets.head? = some slash

def endsWithSlash (path : Path) : Bool := path.octets.getLast? = some slash

def segments : Octets → List Octets
  | [] => [[]]
  | octet :: rest =>
      if octet = slash then [] :: segments rest
      else
        match segments rest with
        | [] => [[octet]]
        | first :: others => (octet :: first) :: others

def lastSegment? (path : Path) : Option Octets :=
  ((segments path.octets).filter fun segment => !segment.isEmpty).getLast?

def componentOf (segment : Octets) : Component :=
  if segment = [dot, dot] then .parent else .named segment

def isIdle (segment : Octets) : Bool := segment.isEmpty || segment == [dot]

def leading (parts : List Octets) : List Component :=
  (parts.filter fun segment => !isIdle segment).map componentOf

def components (path : Path) : List Component :=
  let parts := segments path.octets
  if path.isAbsolute then .root :: leading parts
  else if parts.head? = some [dot] then .current :: leading parts
  else leading parts

def join (base addition : Path) : Path :=
  if addition.isAbsolute then addition
  else if base.octets.isEmpty || base.endsWithSlash then ⟨base.octets ++ addition.octets⟩
  else ⟨base.octets ++ slash :: addition.octets⟩

def joinComponents (base : Path) (steps : List Component) : Path :=
  steps.foldl (fun path step => path.join ⟨step.text⟩) base

/-- How many octets come before the first name: a root, or the dot that begins a relative path. -/
def headLength (path : Path) : Nat :=
  if path.isAbsolute || (segments path.octets).head? = some [dot] then 1 else 0

def joinSegments (parts : List Octets) : Octets := (parts.intersperse [slash]).flatten

/-- The path without its last component; the root and the empty path have none. Slashes and dots
within the rest stay as they are written. -/
def parent? (path : Path) : Option Path :=
  match path.components.getLast? with
  | none | some .root => none
  | some .current => some empty
  | some _ =>
      let parts := (segments (path.octets.drop path.headLength)).reverse
      let rest := ((parts.dropWhile isIdle).drop 1).dropWhile isIdle
      some ⟨path.octets.take path.headLength ++ joinSegments rest.reverse⟩

def fileName? (path : Path) : Option Octets :=
  match path.components.getLast? with
  | some (.named name) => some name
  | _ => none

def dropCurrent : List Component → List Component
  | .current :: rest => rest
  | steps => steps

/-- Exactly two leading slashes are kept, since a system may give them a meaning. -/
def beginsWithTwoSlashes (path : Path) : Bool :=
  match path.octets with
  | first :: second :: rest => first = slash && second = slash && rest.head? ≠ some slash
  | _ => false

/-- The path that names the same file from any working directory. No file is consulted: dots and
repeated slashes go, double dots and a slash at the end stay. The empty path names no file and
stays empty. -/
def absolute (workingDirectory path : Path) : Path :=
  if path.octets.isEmpty then path
  else
    let steps := dropCurrent path.components
    let full :=
      if path.beginsWithTwoSlashes then joinComponents ⟨[slash, slash]⟩ (steps.drop 1)
      else if path.isAbsolute then joinComponents empty steps
      else joinComponents workingDirectory steps
    if path.endsWithSlash then full.join empty else full

end Path

end ArtifactTools
