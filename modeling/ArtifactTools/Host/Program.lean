import ArtifactTools.Host

/-! Starting programs. A file runs if it may be executed and the host knows how: it is one of the
host's own programs, or it begins with a line that names its interpreter. A name without a slash is
looked for in the directories of `PATH`. -/

namespace ArtifactTools

structure Invocation where
  program : NativeProgram
  arguments : List Octets
  deriving DecidableEq, Repr

namespace Invocation

/-- Only so much of a file is searched for the line of its interpreter. -/
def openingLength : Nat := 256

def isBlank (octet : UInt8) : Bool := octet = 32 || octet = 9

def endsWord (octet : UInt8) : Bool := isBlank octet || octet = 0

def dropTrailingBlanks (octets : Octets) : Octets :=
  (octets.reverse.dropWhile isBlank).reverse

def opening (content : Octets) : Octets :=
  let start := content.take openingLength
  start ++ List.replicate (openingLength - start.length) 0

/-- The line after its mark. Without an end of line it goes on to the last octet but one, provided
that the first word is whole. -/
def interpreterLine? (marked : Octets) : Option Octets :=
  let line := marked.takeWhile fun octet => octet ≠ 10 && octet ≠ 0
  if (marked.drop line.length).head? = some 10 then some line
  else if (marked.dropWhile isBlank).any endsWord then some marked.dropLast
  else none

def interpreter? (content : Octets) : Option (Octets × Option Octets) :=
  match opening content with
  | 35 :: 33 :: marked =>
      (interpreterLine? marked).bind fun line =>
        let line := (dropTrailingBlanks line).dropWhile isBlank
        let name := line.takeWhile fun octet => !endsWord octet
        let after := line.drop name.length
        let argument :=
          if after.head?.any isBlank then some ((after.dropWhile isBlank).takeWhile (· ≠ 0))
          else none
        if line.isEmpty then none else some (name, argument)
  | _ => none

def depthLimit : Nat := 6

def executable (tree : FileTree) (directory : Location) (path : Path) :
    Except HostError (Octets ⊕ NativeProgram) :=
  if path.octets.isEmpty then .error .denied
  else
    match tree.find directory path with
    | .error error => .error error
    | .ok (_, .native program) => .ok (.inr program)
    | .ok (_, node) =>
        match (tree.fileOf? node).filter fun file => FileTree.allows file.mode FileTree.passBit with
        | some file => .ok (.inl file.content)
        | none => .error .denied

def ofPath (tree : FileTree) (directory : Location) :
    Nat → Path → List Octets → Except HostError Invocation
  | depth, path, arguments =>
      match depth, executable tree directory path with
      | _, .error error => .error error
      | 0, .ok _ => .error .tooManyLinks
      | _ + 1, .ok (.inr program) => .ok ⟨program, arguments⟩
      | depth + 1, .ok (.inl content) =>
          match interpreter? content with
          | none => .error .notExecutableFormat
          | some (name, argument) =>
              ofPath tree directory depth ⟨name⟩
                (name :: argument.toList ++ path.octets :: arguments.drop 1)

def goesOn : HostError → Bool
  | .missing | .notDirectory | .denied => true
  | _ => false

/-- Tries the directories in turn. Being denied counts before not being found. -/
def ofSearch (tree : FileTree) (directory : Location) (arguments : List Octets) (name : Octets)
    (last : HostError) : List Octets → Except HostError Invocation
  | [] => .error last
  | place :: rest =>
      let path : Path := ⟨if place.isEmpty then name else place ++ Path.slash :: name⟩
      match ofPath tree directory depthLimit path arguments with
      | .ok invocation => .ok invocation
      | .error error =>
          if goesOn error then
            ofSearch tree directory arguments name (if last = .denied then last else error) rest
          else .error error

def find (tree : FileTree) (directory : Location) (searched : List Octets) (name : Octets)
    (arguments : List Octets) : Except HostError Invocation :=
  if name.isEmpty then .error .missing
  else if name.contains Path.slash then
    ofPath tree directory depthLimit ⟨name⟩ (name :: arguments)
  else ofSearch tree directory (name :: arguments) name .missing searched

end Invocation

end ArtifactTools
