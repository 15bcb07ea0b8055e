import ArtifactTools.Shell.Fields
import ArtifactTools.Shell.Native.Dates
import ArtifactTools.Shell.Native.Modes

/-! Programs that make and remove files and directories. What is wrong with one operand is told, and
they go on with the next. -/

namespace ArtifactTools.Shell.Native

def cannotMake (name : Text) (error : HostError) : Text :=
  words "cannot create directory " ++ cited name ++ words ": " ++ Machine.plainWording error

def pathsAbove (text : Text) : List Text :=
  let trimmed := (text.reverse.dropWhile (· = '/')).reverse
  (List.range trimmed.length).filterMap fun length =>
    if 0 < length && trimmed[length]? = some '/' && trimmed[length - 1]? ≠ some '/' then
      some (trimmed.take length)
    else none

/-! Directories. -/

/-- Makes a directory that may be there already, and those above it, and gives the names of those
that were made. -/
def makeAll (machine : Machine) (text : Text) (mode : Nat) :
    Except Text Unit × List Text × FileTree :=
  let rec ensure (tree : FileTree) (made : List Text) :
      List Text → Except Text Unit × List Text × FileTree
    | [] => (.ok (), made.reverse, tree)
    | part :: rest =>
        match tree.find machine.directory (pathOf part) with
        | .ok (_, .directory _) => ensure tree made rest
        | .ok _ =>
            let error : HostError := if rest.isEmpty then .alreadyExists else .notDirectory
            (.error (cannotMake part error), made.reverse, tree)
        | .error _ =>
            let mode := if rest.isEmpty then mode else machine.directoryMode ||| 0o300
            match tree.makeDirectory machine.directory (pathOf part) mode with
            | .ok tree => ensure tree (part :: made) rest
            | .error error => (.error (cannotMake part error), made.reverse, tree)
  ensure machine.tree [] (pathsAbove text ++ [text])

def makeOne (name what : Text) (withParents isTold : Bool) (mode : Nat) (text : Text) :
    Running Unit := do
  let machine ← get
  let (result, made, tree) :=
    if withParents then makeAll machine text mode
    else
      match machine.tree.makeDirectory machine.directory (pathOf text) mode with
      | .ok tree => (.ok (), [text], tree)
      | .error error => (.error (cannotMake text error), [], machine.tree)
  set (machine.withTree tree)
  if isTold then
    made.forM fun part => say (name ++ words ": " ++ what ++ ' ' :: quotedName part ++ ['\n'])
  if let .error fault := result then blame 1 name fault

def makeDirectories (name : Text) (arguments : List Text) : Running Unit :=
  withOptions 1 [flag 'p' "parents", flag 'v' "verbose", textual 'm' "mode"] name arguments
    fun options operands => do
      let machine ← get
      let make : Nat → Text → Running Unit :=
        makeOne name (words "created directory") (hasOption options 'p') (hasOption options 'v')
      match operands, optionText? options 'm' with
      | [], _ => misuse 1 name [words "missing operand"]
      | operands, some mode =>
          match readMode? mode with
          | none => blame 1 name (words "invalid mode " ++ cited mode)
          | some changes => forEach operands (make (applyMode changes true machine.mask 0o777))
      | operands, none => forEach operands (make machine.directoryMode)

def isEmptyDirectory (tree : FileTree) (location : Location) : Bool :=
  (Fields.namesIn tree location).isEmpty

def removeEmpty (machine : Machine) (text : Text) : Except Text FileTree :=
  let tree := machine.tree
  let refused (fault : Text) : Except Text FileTree :=
    .error (words "failed to remove " ++ quotedName text ++ words ": " ++ fault)
  if endsInSlash text && (linkAt? machine text).isSome then
    let leads := tree.holdsDirectory machine.directory (pathOf text)
    refused (if leads then words "Symbolic link not followed" else words "Not a directory")
  else
    match tree.findName machine.directory (pathOf text) with
    | .error error => refused (Machine.plainWording error)
    | .ok (location, .directory _) =>
        if lastName text = ['.'] then refused (words "Invalid argument")
        else if !isEmptyDirectory tree location then refused (words "Directory not empty")
        else if tree.mayChange location then .ok (tree.erase location)
        else refused (Machine.plainWording .denied)
    | .ok _ => refused (words "Not a directory")

def removeDirectories (name : Text) (arguments : List Text) : Running Unit :=
  withOptions 1 [flag 'p' "parents", flag 'v' "verbose",
    longOnly 'I' "ignore-fail-on-non-empty" .nothing] name arguments fun options operands =>
      if operands.isEmpty then misuse 1 name [words "missing operand"]
      else
        forEach operands fun operand => do
          let above := if hasOption options 'p' then (pathsAbove operand).reverse else []
          let rec removeAll : List Text → Running Unit
            | [] => return ()
            | text :: rest => do
                if hasOption options 'v' then
                  say (name ++ words ": removing directory, " ++ quotedName text ++ ['\n'])
                match removeEmpty (← get) text with
                | .ok tree => do
                    modify fun machine => machine.withTree tree
                    removeAll rest
                | .error fault =>
                    let isFull := (words "Directory not empty").isSuffixOf fault
                    if !(isFull && hasOption options 'I') then blame 1 name fault
          removeAll (operand :: above)

/-! Removing. -/

/-- How files are removed: without a word about those that are not there, with all that is in a
directory, with directories in which there is nothing, with a question before, and with a line on
each. -/
structure Removal where
  isForced : Bool
  isRecursive : Bool
  takesEmpty : Bool
  asks : Bool
  tells : Bool

def removalQuestion (tree : FileTree) (location : Location) (node : Node) : Text :=
  words (match node with
    | .directory _ => if isEmptyDirectory tree location then "remove directory " else
        "descend into directory "
    | .file number =>
        if (tree.files[number]?).all fun file => file.size = 0 then "remove regular empty file "
        else "remove regular file "
    | .native _ => "remove regular file "
    | .link _ => "remove symbolic link "
    | .pipe _ _ => "remove fifo "
    | .device _ => "remove character special file ")

def removeAt (removal : Removal) (name : Text) : Nat → Text → Location → Running Bool
  | 0, _, _ => return false
  | depth + 1, shown, location => do
      let machine ← get
      let cannot (error : HostError) : Running Bool := do
        blame 1 name
          (words "cannot remove " ++ quotedName shown ++ words ": " ++ Machine.plainWording error)
        return false
      let agree (question : Text) : Running Bool :=
        if removal.asks then
          confirm (name ++ words ": " ++ question ++ quotedName shown ++ words "? ")
        else return true
      match machine.tree.node? location with
      | none => return true
      | some node => do
          let isDirectory := FileTree.isDirectory node
          let isFull := isDirectory && !isEmptyDirectory machine.tree location
          if !(← agree (removalQuestion machine.tree location node)) then return false
          if isFull then
            if !machine.tree.permits node FileTree.readBit then return ← cannot .denied
            let start := if endsInSlash shown then shown else shown ++ ['/']
            let mut isClear := true
            for found in Fields.namesIn machine.tree location do
              let isGone ←
                removeAt removal name depth (start ++ Text.ofOctets found) (location ++ [found])
              isClear := isClear && isGone
            if !isClear then return false
            if !(← agree (words "remove directory ")) then return false
          let machine ← get
          if !machine.tree.mayChange location ||
              (machine.tree.step location.dropLast .current matches .error _) then
            cannot .denied
          else
            set (machine.withTree (machine.tree.erase location))
            if removal.tells then
              say (words (if isDirectory then "removed directory " else "removed ") ++
                quotedName shown ++ ['\n'])
            return true

def removeOne (removal : Removal) (name text : Text) : Running Unit := do
  let machine ← get
  let tree := machine.tree
  let cannot (fault : Text) : Running Unit :=
    blame 1 name (words "cannot remove " ++ quotedName text ++ words ": " ++ fault)
  let refused (error : HostError) : Running Unit := cannot (Machine.plainWording error)
  let last := lastName text
  let erase (location : Location) : Running Unit :=
    discard (removeAt removal name (tree.nodes.length + 1) text location)
  let throughLink := endsInSlash text && (linkAt? machine text).isSome
  match tree.findName machine.directory (pathOf text) with
  | .error error =>
      if throughLink then
        if !removal.isForced then refused .notDirectory
      else
        let isAbsent := error = .missing || (error = .notDirectory && !endsInSlash text)
        if !(removal.isForced && isAbsent) then refused error
  | .ok (location, .directory _) =>
      if !removal.isRecursive then
        if !removal.takesEmpty then refused .isDirectory
        else if isEmptyDirectory tree location then erase location
        else cannot (words "Directory not empty")
      else if throughLink then
        if !removal.isForced then refused .notDirectory
      else if last = ['.'] || last = ['.', '.'] then
        blame 1 name
          (words "refusing to remove '.' or '..' directory: skipping " ++ quotedName text)
      else if location = [] then
        complain 1 [name ++ words ": it is dangerous to operate recursively on '/'",
          name ++ words ": use --no-preserve-root to override this failsafe"]
      else erase location
  | .ok (location, _) => erase location

def remove (name : Text) (arguments : List Text) : Running Unit :=
  withOptions 1 [flag 'f' "force", flag 'r' "recursive", flag 'R' "", flag 'd' "dir", flag 'i' "",
    flag 'I' "", flag 'v' "verbose", longOnly '\x03' "interactive" .ownText,
    longOnly '\x04' "one-file-system" .nothing, longOnly '\x05' "no-preserve-root" .nothing,
    longOnly '\x06' "preserve-root" .ownText] name arguments fun options operands => do
      let isRecursive := hasOption options 'r' || hasOption options 'R'
      let latest := (options.filter fun entry => "fiI".contains entry.1).getLast?.map (·.1)
      let removal : Removal :=
        ⟨latest = some 'f', isRecursive, hasOption options 'd', latest = some 'i',
          hasOption options 'v'⟩
      if operands.isEmpty then
        if latest = some 'f' then succeed else misuse 1 name [words "missing operand"]
      else
        let count := operands.length
        let question := name ++ words ": remove " ++ Decimal.digits count ++
          words (if count = 1 then " argument" else " arguments") ++
          words (if isRecursive then " recursively? " else "? ")
        let goesOn ←
          if latest = some 'I' && (3 < count || isRecursive) then confirm question else pure true
        if goesOn then forEach operands (removeOne removal name) else succeed

/-! Empty files. -/

/-- Makes an empty file where there is nothing of the name, and gives what is there a time of its last
change. -/
def touchOne (isOld : Bool) (time : Option Nat) (machine : Machine) (text : Text) :
    Except Text FileTree :=
  let tree := machine.tree
  let stamp (tree : FileTree) (node : Node) : FileTree :=
    match node with
    | .file number =>
        tree.modifyFile number fun file => { file with modified := time.getD tree.now }
    | _ => tree
  match tree.find machine.directory (pathOf text) with
  | .ok (_, node) =>
      if time.isNone && !tree.permits node FileTree.writeBit then .ok (stamp tree node)
      else .ok (stamp tree node)
  | .error error =>
      if isOld then
        if error = .missing then .ok tree else .error (faultWith "setting times of" text error)
      else
        match tree.openForWriting machine.directory (pathOf text) true machine.fileMode with
        | .ok (node, tree) => .ok (stamp tree node)
        | .error .isDirectory => .error (faultWith "setting times of" text .missing)
        | .error error => .error (faultWith "cannot touch" text error)

def touch (name : Text) (arguments : List Text) : Running Unit :=
  withOptions 1 [flag 'a' "", flag 'c' "no-create", textual 'd' "date", flag 'f' "",
    flag 'h' "no-dereference", flag 'm' "", textual 'r' "reference", textual 't' "",
    longOnly '\x03' "time" .text] name arguments fun options operands => do
      let machine ← get
      let reference? : Option (Except Text Nat) := (optionText? options 'r').map fun text =>
        match machine.tree.find machine.directory (pathOf text) with
        | .error error => .error (faultWith "failed to get attributes of" text error)
        | .ok (_, node) => .ok (((machine.tree.fileOf? node).map (·.modified)).getD 0)
      let given? : Option (Except Text Nat) :=
        match optionText? options 'd', optionText? options 't' with
        | some text, _ =>
            some ((Dates.read? (FileTree.startTime + machine.clock) text).elim
              (.error (words "invalid date format " ++ cited text)) .ok)
        | none, some text =>
            some ((Dates.readStamp? (FileTree.startTime + machine.clock) text).elim
              (.error (words "invalid date format " ++ cited text)) .ok)
        | none, none => none
      match given?.or reference? with
      | some (.error fault) => blame 1 name fault
      | time =>
          if operands.isEmpty then misuse 1 name [words "missing file operand"]
          else
            let time? : Option Nat := time.bind (·.toOption)
            forEach operands fun operand => do
              settle name
                (touchOne (hasOption options 'c' || hasOption options 'h') time? (← get) operand)

def sizeOf? (text : Text) : Option Nat :=
  let digits := text.takeWhile isDigit
  let power? : Option Nat :=
    match text.drop digits.length with
    | [] => some 1
    | [unit] | [unit, 'i', 'B'] =>
        ("KMGTPE".toList.idxOf? (if unit = 'k' then 'K' else unit)).map fun place =>
          Nat.pow 1024 (place + 1)
    | [unit, 'B'] => ("KMGTPE".toList.idxOf? unit).map fun place => Nat.pow 1000 (place + 1)
    | _ => none
  if digits.isEmpty then none else power?.map (· * Decimal.value digits)

def newSize? (old : Nat) (text : Text) : Option Nat :=
  match text with
  | '+' :: rest => (sizeOf? rest).map (old + ·)
  | '-' :: rest => (sizeOf? rest).map (old - ·)
  | '<' :: rest => (sizeOf? rest).map (min old)
  | '>' :: rest => (sizeOf? rest).map (max old)
  | '/' :: rest => (sizeOf? rest).map fun size => old / size * size
  | '%' :: rest => (sizeOf? rest).map fun size => (old + size - 1) / size * size
  | rest => sizeOf? rest

def truncate (name : Text) (arguments : List Text) : Running Unit :=
  withOptions 1 [textual 's' "size", textual 'r' "reference", flag 'c' "no-create",
    flag 'o' "io-blocks"] name arguments fun options operands => do
      match optionText? options 's', optionText? options 'r' with
      | none, none => misuse 1 name [words "you must specify either '--size' or '--reference'"]
      | size, reference => do
          let machine ← get
          let base :=
            match reference.map fun text => machine.tree.find machine.directory (pathOf text) with
            | some (.ok (_, node)) => ((machine.tree.fileOf? node).map (·.size)).getD 0
            | _ => 0
          let size := size.getD (Decimal.digits base)
          if (newSize? 0 size).isNone then blame 1 name (words "Invalid number: " ++ cited size)
          else if operands.isEmpty then misuse 1 name [words "missing file operand"]
          else
            forEach operands fun operand => do
              let machine ← get
              let path := pathOf operand
              let isThere := machine.tree.holds machine.directory path
              if isThere || !hasOption options 'c' then
                settle name (match machine.tree.openForWriting machine.directory path true
                    machine.fileMode with
                  | .error error =>
                      .error (words "cannot open " ++ quotedName operand ++
                        words " for writing: " ++ Machine.plainWording error)
                  | .ok (.file number, tree) =>
                      .ok (tree.modifyContent number fun file =>
                        let content := file.content
                        let count := (newSize? content.length size).getD 0
                        let kept := content.take count
                        file.replace (kept ++ List.replicate (count - kept.length) 0))
                  | .ok (_, tree) => .ok tree)

end ArtifactTools.Shell.Native
