import ArtifactTools.Failure

/-! Files and directories by the names that lead to them from the root. A path is walked from the
working directory step by step: every step starts from a directory, and only the last may lead to a
name that is not there. A link leads on to where its text says; the last name of a path may stand
for the link itself. -/

namespace ArtifactTools

abbrev Location := List Octets

inductive NativeProgram where
  | shell (isExtended : Bool)
  | baseName
  | calculate
  | changeMode
  | checksum
  | common
  | compareOctets
  | concatenate
  | copy
  | count
  | countWords
  | cut
  | date
  | digest (label : String)
  | directoryName
  | echo
  | environment
  | expand
  | fail
  | fold
  | format
  | groups
  | head
  | hostName
  | identity
  | install
  | join
  | limitTime
  | link
  | linkPlainly
  | list
  | loginName
  | makeDirectories
  | makeNode
  | makePipes
  | makeTemporary
  | move
  | numberLines
  | paste
  | printVariables
  | processors
  | readLink
  | realPath
  | remove
  | removeDirectories
  | repeatLine
  | reverse
  | reverseLines
  | runBuffered
  | runDetached
  | runInGroup
  | runNicely
  | search (kind : Option Char)
  | sleep
  | sort
  | status
  | succeed
  | sum
  | system
  | tail
  | tee
  | tell (text : String)
  | terminal
  | test (isBracketed : Bool)
  | touch
  | translate
  | truncate
  | unique
  | unlink
  | which
  | workingDirectory
  deriving DecidableEq, Repr

inductive Device where
  | sink
  | zeros
  | full
  | random
  | descriptor (number : Nat)
  deriving DecidableEq, Repr

/-- What a name leads to. Files are numbered, so that several names may stand for one file. -/
inductive Node where
  | directory (mode : Nat)
  | file (number : Nat)
  | native (program : NativeProgram)
  | link (target : Octets)
  | pipe (number mode : Nat)
  | device (device : Device)
  deriving DecidableEq, Repr

/-- A file: the pieces of its content, the latest first, and how many octets these are, its
permissions, the time of its last change in millionths of a second, and how often its content has
been changed. -/
structure StoredFile where
  pieces : List Octets
  size : Nat
  mode : Nat
  modified : Nat
  revision : Nat
  deriving DecidableEq, Repr

namespace StoredFile

def content (file : StoredFile) : Octets :=
  match file.pieces with
  | [piece] => piece
  | pieces => pieces.reverse.flatten

def append (file : StoredFile) (octets : Octets) : StoredFile :=
  { file with
    pieces := if file.pieces = [[]] then [octets] else octets :: file.pieces
    size := file.size + octets.length }

def replace (file : StoredFile) (octets : Octets) : StoredFile :=
  { file with pieces := [octets], size := octets.length }

/-- Puts octets in at a position, over those that stand there. A gap before them is filled with
zeros. -/
def overwrite (file : StoredFile) (position : Nat) (octets : Octets) : StoredFile :=
  if position = file.size then file.append octets
  else
    let content := file.content
    file.replace (content.take position ++ List.replicate (position - file.size) 0 ++ octets ++
      content.drop (position + octets.length))

end StoredFile

/-- The nodes by their places, and the files by their numbers; `now` is the time of a change. The
root is always a directory. -/
structure FileTree where
  nodes : List (Location × Node)
  files : List StoredFile
  now : Nat
  deriving DecidableEq, Repr

namespace FileTree

def plainMode : Nat := 0o644

def programMode : Nat := 0o755

def readBit : Nat := 0o400

def writeBit : Nat := 0o200

def passBit : Nat := 0o100

def allows (mode bit : Nat) : Bool := mode &&& bit ≠ 0

def descriptorPlace : Location := ["proc", "self", "fd"].map Utf8.encode

def descriptorAt? (location : Location) : Option Node :=
  match location with
  | [first, second, third, digits] =>
      let isNumber := !digits.isEmpty && digits.length < 4 &&
        digits.all fun digit => 48 ≤ digit && digit ≤ 57
      if isNumber && [first, second, third] = descriptorPlace then
        some (.device (.descriptor
          (digits.foldl (fun number digit => number * 10 + (digit.toNat - 48)) 0)))
      else none
  | _ => none

def node? (tree : FileTree) (location : Location) : Option Node :=
  if location = [] then some (.directory programMode)
  else
    match tree.nodes.lookup location with
    | some node => some node
    | none => descriptorAt? location

def isDirectory : Node → Bool
  | .directory _ => true
  | _ => false

def fileOf? (tree : FileTree) : Node → Option StoredFile
  | .file number => tree.files[number]?
  | _ => none

def fileAt? (tree : FileTree) (location : Location) : Option StoredFile :=
  (tree.node? location).bind tree.fileOf?

def permits (tree : FileTree) (node : Node) (bit : Nat) : Bool :=
  match node with
  | .directory mode | .pipe _ mode => allows mode bit
  | .file number => (tree.files[number]?).any fun file => allows file.mode bit
  | .native _ | .link _ => true
  | .device _ => bit ≠ passBit

def runs (tree : FileTree) (node : Node) : Bool :=
  match node with
  | .native _ => true
  | node => (tree.fileOf? node).any fun file => allows file.mode passBit

def replaceNode (location : Location) (node : Node) :
    List (Location × Node) → List (Location × Node)
  | [] => [(location, node)]
  | (other, old) :: rest =>
      if other = location then (location, node) :: rest
      else (other, old) :: replaceNode location node rest

def put (tree : FileTree) (location : Location) (node : Node) : FileTree :=
  if location = [] then tree else { tree with nodes := replaceNode location node tree.nodes }

def modifyFile (tree : FileTree) (number : Nat) (change : StoredFile → StoredFile) : FileTree :=
  { tree with files := tree.files.modify number change }

def modifyContent (tree : FileTree) (number : Nat) (change : StoredFile → StoredFile) : FileTree :=
  tree.modifyFile number fun file =>
    { change file with modified := tree.now, revision := file.revision + 1 }

def create (tree : FileTree) (location : Location) (content : Octets) (mode : Nat) : FileTree :=
  let file : StoredFile := ⟨[content], content.length, mode, tree.now, 0⟩
  { tree with files := tree.files ++ [file] }.put location (.file tree.files.length)

def erase (tree : FileTree) (location : Location) : FileTree :=
  { tree with nodes := tree.nodes.filter fun entry => !location.isPrefixOf entry.1 }

def copy (tree : FileTree) (source target : Location) : FileTree :=
  (tree.nodes.filter fun entry => source.isPrefixOf entry.1).foldl
    (fun tree entry => tree.put (target ++ entry.1.drop source.length) entry.2) tree

def nameLimit : Nat := 255

def pathLimit : Nat := 4095

def step (tree : FileTree) (start : Location) : Component → Except HostError Location
  | .root => .ok []
  | move =>
      match tree.node? start with
      | none => .error .missing
      | some (.directory mode) =>
          if !allows mode passBit then .error .denied
          else
            match move with
            | .parent => .ok start.dropLast
            | .named name =>
                if name.length > nameLimit then .error .nameTooLong else .ok (start ++ [name])
            | _ => .ok start
      | some _ => .error .notDirectory

def linkLimit : Nat := 40

/-- What a path is walked for: what it leads to, its last name even where that is a link, or a file
that is made where there is none. -/
inductive Purpose where
  | content
  | name
  | creation
  deriving DecidableEq, Repr

/-- The steps of a path, and whether a slash follows its last name. A dot at the end stays in a
directory, which has to be one. -/
def stepsOf (path : Path) : List Component × Bool :=
  let endsInDot := path.lastSegment? = some [Path.dot]
  (path.components ++ (if endsInDot then [.current] else []),
    path.endsWithSlash && !endsInDot && path.fileName?.isSome)

/-- Walks along steps and gives a link on the way to `goOn`: where it lies, its text, whether a slash
follows the last name, and the steps after it. A slash after the last name takes a directory, so
that no file can be made there. -/
def walkWith (tree : FileTree) (purpose : Purpose)
    (goOn : Location → Octets → Bool → List Component → Except HostError Location) :
    Location → Bool → List Component → Except HostError Location
  | start, isMarked, [] => if isMarked then tree.step start .current else .ok start
  | start, isMarked, move :: rest =>
      if purpose = .creation && isMarked && rest.isEmpty then
        (tree.step start .current).bind fun _ => .error .isDirectory
      else
        match tree.step start move with
        | .error error => .error error
        | .ok next =>
            match tree.node? next with
            | some (.link target) =>
                if purpose = .name && !isMarked && rest.isEmpty then .ok next
                else goOn start target isMarked rest
            | _ => tree.walkWith purpose goOn next isMarked rest

def walk (tree : FileTree) (purpose : Purpose) :
    Nat → Location → Bool → List Component → Except HostError Location
  | 0 => tree.walkWith purpose fun _ _ _ _ => .error .tooManyLinks
  | links + 1 =>
      tree.walkWith purpose fun start target isMarked rest =>
        let (steps, endsMarked) := stepsOf ⟨target⟩
        tree.walk purpose links start (isMarked || (endsMarked && rest.isEmpty)) (steps ++ rest)

def follow (tree : FileTree) (purpose : Purpose) (directory : Location) (path : Path) :
    Except HostError Location :=
  if path.octets.isEmpty then .error .missing
  else if path.octets.contains 0 then .error .nulInPath
  else if path.octets.length > pathLimit then .error .nameTooLong
  else
    let (steps, isMarked) := stepsOf path
    tree.walk purpose linkLimit directory isMarked steps

def locate (tree : FileTree) (directory : Location) (path : Path) : Except HostError Location :=
  if path.octets.length > pathLimit then .error .nameTooLong
  else
    let trimmed := (path.octets.reverse.dropWhile (· = Path.slash)).reverse
    tree.follow .name directory (if trimmed.isEmpty then path else ⟨trimmed⟩)

def nodeAt (tree : FileTree) (result : Except HostError Location) :
    Except HostError (Location × Node) :=
  match result with
  | .error error => .error error
  | .ok location =>
      match tree.node? location with
      | none => .error .missing
      | some node => .ok (location, node)

def find (tree : FileTree) (directory : Location) (path : Path) :
    Except HostError (Location × Node) :=
  tree.nodeAt (tree.follow .content directory path)

def findName (tree : FileTree) (directory : Location) (path : Path) :
    Except HostError (Location × Node) :=
  tree.nodeAt (tree.follow .name directory path)

def holds (tree : FileTree) (directory : Location) (path : Path) : Bool :=
  match tree.find directory path with
  | .ok _ => true
  | .error _ => false

def holdsDirectory (tree : FileTree) (directory : Location) (path : Path) : Bool :=
  match tree.find directory path with
  | .ok (_, node) => isDirectory node
  | .error _ => false

def holdsExecutable (tree : FileTree) (directory : Location) (path : Path) : Bool :=
  match tree.find directory path with
  | .ok (_, node) => tree.runs node
  | .error _ => false

def read (tree : FileTree) (directory : Location) (path : Path) : Except HostError Octets :=
  match tree.find directory path with
  | .error error => .error error
  | .ok (_, node) =>
      if isDirectory node then .error .isDirectory
      else
        match tree.fileOf? node with
        | some file => if allows file.mode readBit then .ok file.content else .error .denied
        | none => .ok []

/-- Where a file is to be opened for writing. A name that a slash follows is no file's, whether it
is there or not. -/
def locateWritable (tree : FileTree) (directory : Location) (path : Path) :
    Except HostError Location :=
  tree.follow .creation directory path

def mayChange (tree : FileTree) (location : Location) : Bool :=
  match tree.node? location.dropLast with
  | some (.directory mode) => allows mode writeBit
  | _ => true

/-- Opens a path for writing: what is there, and the tree with a file empty unless `keep`. A file that
is not there is made. -/
def openForWriting (tree : FileTree) (directory : Location) (path : Path) (keep : Bool)
    (mode : Nat) : Except HostError (Node × FileTree) :=
  match tree.locateWritable directory path with
  | .error error => .error error
  | .ok location =>
      match tree.node? location with
      | some (.directory _) => .error .isDirectory
      | none =>
          if tree.mayChange location then
            .ok (.file tree.files.length, tree.create location [] mode)
          else .error .denied
      | some (.file number) =>
          if (tree.files[number]?).any fun file => allows file.mode writeBit then
            .ok (.file number, if keep then tree else tree.modifyContent number (·.replace []))
          else .error .denied
      | some (.native _) => .error .busy
      | some (.link _) => .error .tooManyLinks
      | some node => .ok (node, tree)

def append (tree : FileTree) (number : Nat) (octets : Octets) : FileTree :=
  tree.modifyContent number (·.append octets)

def write (tree : FileTree) (directory : Location) (path : Path) (content : Octets) :
    Except HostError FileTree :=
  match tree.openForWriting directory path false plainMode with
  | .error error => .error error
  | .ok (.file number, tree) => .ok (tree.append number content)
  | .ok (_, tree) => .ok tree

def makeDirectory (tree : FileTree) (directory : Location) (path : Path) (mode : Nat) :
    Except HostError FileTree :=
  match tree.locate directory path with
  | .error error => .error error
  | .ok location =>
      match tree.node? location with
      | some _ => .error .alreadyExists
      | none =>
          if tree.mayChange location then .ok (tree.put location (.directory mode))
          else .error .denied

def makeNode (tree : FileTree) (directory : Location) (path : Path) (node : Node) :
    Except HostError FileTree :=
  match tree.locate directory path with
  | .error error => .error error
  | .ok location =>
      match tree.node? location with
      | some _ => .error .alreadyExists
      | none =>
          if path.endsWithSlash then .error .missing
          else if tree.mayChange location then .ok (tree.put location node)
          else .error .denied

def makeLink (tree : FileTree) (directory : Location) (target : Octets) (path : Path) :
    Except HostError FileTree :=
  if target.isEmpty then .error .missing
  else if target.length > pathLimit then .error .nameTooLong
  else tree.makeNode directory path (.link target)

def ensureDirectory (tree : FileTree) (directory : Location) (path : Path) :
    Except HostError Unit × FileTree :=
  match tree.makeDirectory directory path programMode with
  | .ok tree => (.ok (), tree)
  | .error error =>
      (if tree.holdsDirectory directory path then .ok () else .error error, tree)

/-- Makes a directory and those above it that are missing, at most so many. Those that were made
stay if a later one cannot be. -/
def makeDirectoriesWithin (tree : FileTree) (directory : Location) (path : Path) :
    Nat → Except HostError Unit × FileTree
  | 0 => tree.ensureDirectory directory path
  | fuel + 1 =>
      match tree.ensureDirectory directory path with
      | (.error .missing, tree) =>
          match path.parent? with
          | none => (.error .missing, tree)
          | some parent =>
              match tree.makeDirectoriesWithin directory parent fuel with
              | (.ok (), tree) => tree.ensureDirectory directory path
              | failed => failed
      | result => result

def makeDirectories (tree : FileTree) (directory : Location) (path : Path) :
    Except HostError Unit × FileTree :=
  if path.octets.isEmpty then (.ok (), tree)
  else tree.makeDirectoriesWithin directory path (path.components.length + 1)

end FileTree

end ArtifactTools
