import ArtifactTools.Shell.Native.Files

/-! The program that lists files. Names stand in the order of their octets, each on a line, unless
other orders and forms are asked for. -/

namespace ArtifactTools.Shell.Native

/-- How names are put on lines: one on each, with what is known of the file before it, all on one line
between commas, or in columns of a width, from the top down or from the left. -/
inductive ListForm where
  | single
  | long
  | commas
  | columns (width : Nat) (isAcross : Bool)
  deriving DecidableEq, Repr

/-- How files are listed: which hidden names are shown, directories as names, with marks of their
kinds, from the last on, directories within directories too, in what order and form, and how names
are written. Owners and groups may be left out. -/
structure Listing where
  showsHidden : Bool
  showsOwn : Bool
  namesDirectories : Bool
  marks : Option Char
  isReversed : Bool
  isRecursive : Bool
  order : Option Char
  groupsDirectories : Bool
  form : ListForm
  showsOwner : Bool
  showsGroup : Bool
  usesNumbers : Bool
  showsNode : Bool
  showsBlocks : Bool
  isReadable : Bool
  quoting : Option Char
  timePattern : Option Text
  leavesOut : List Text
  hides : List Text

def markOf (tree : FileTree) (marks : Option Char) (node : Node) : Text :=
  match marks, node with
  | some _, .directory _ => ['/']
  | some 'F', .link _ => ['@']
  | some 'F', .pipe _ _ => ['|']
  | some 'F', node => if tree.runs node then ['*'] else []
  | _, _ => []

def sizeOf (tree : FileTree) (node : Node) : Nat :=
  match node with
  | .directory _ => 4096
  | .link target => target.length
  | node => ((tree.fileOf? node).map (·.size)).getD 0

def namesOf (tree : FileTree) (location : Location) (node : Node) : Nat :=
  match node with
  | .file number => tree.nodes.countP fun entry => entry.2 = .file number
  | .directory _ =>
      2 + tree.nodes.countP fun entry =>
        entry.1.length = location.length + 1 && location.isPrefixOf entry.1 &&
          FileTree.isDirectory entry.2
  | _ => 1

def blocksOf (tree : FileTree) (node : Node) : Nat :=
  match node with
  | .link _ => 0
  | node => (sizeOf tree node + 4095) / 4096 * 4

def nodeNumber (tree : FileTree) (location : Location) (node : Node) : Nat :=
  match node with
  | .file number => 100000 + number
  | _ => 200000 + (tree.nodes.findIdx fun entry => entry.1 = location)

def kindLetter : Node → Char
  | .directory _ => 'd'
  | .link _ => 'l'
  | .pipe _ _ => 'p'
  | .device _ => 'c'
  | _ => '-'

def readableSize (size : Nat) : Text :=
  let rec scaled (fuel number rest : Nat) (units : List Char) : Text :=
    match fuel, units with
    | fuel + 1, unit :: units =>
        if number < 1024 then
          let tenths := (number * 10 + (rest * 10 + 1023) / 1024)
          if tenths < 100 then
            Decimal.digits (tenths / 10) ++ ['.'] ++ Decimal.digits (tenths % 10) ++ [unit]
          else
            let whole := number + (if rest = 0 then 0 else 1)
            Decimal.digits whole ++ [unit]
        else scaled fuel (number / 1024) (number % 1024) units
    | _, _ => Decimal.digits number
  if size < 1024 then Decimal.digits size
  else scaled 8 (size / 1024) (size % 1024) "KMGTPE".toList

def Listing.shownName (listing : Listing) (text : Text) : Text :=
  match listing.quoting with
  | some 'Q' =>
      let inside := text.flatMap fun character =>
        if character = '"' || character = '\\' then ['\\', character]
        else if isPrintable character then [character] else escaped character
      '"' :: inside ++ ['"']
  | some 'b' =>
      text.flatMap fun character =>
        if character = ' ' || character = '\\' then ['\\', character]
        else if isPrintable character then [character] else escaped character
  | some 'q' => text.map fun character => if isPrintable character then character else '?'
  | some 's' => scriptName text
  | _ => text

structure Listed where
  shown : Text
  location : Location

def dateText (listing : Listing) (now time : Nat) : Text :=
  let seconds := time / 1000000
  let isRecent := seconds ≤ now / 1000000 && now / 1000000 < seconds + 15778476
  let pattern := listing.timePattern.getD
    (words (if isRecent then "%b %e %H:%M" else "%b %e  %Y"))
  Calendar.shown true ⟨Int.ofNat seconds, time % 1000000 * 1000⟩ (8 * pattern.length + 8) pattern

def longLines (listing : Listing) (tree : FileTree) (now : Nat) (files : List Listed) :
    List Text :=
  let size (number : Nat) : Text :=
    if listing.isReadable then readableSize number else Decimal.digits number
  let row (file : Listed) : List Text :=
    let node := (tree.node? file.location).getD (.directory FileTree.programMode)
    let owner : Text := if listing.usesNumbers then ['0'] else words "root"
    let after : Text :=
      match node with
      | .link target => words " -> " ++ listing.shownName (Text.ofOctets target)
      | node => markOf tree listing.marks node
    [if listing.showsNode then Decimal.digits (nodeNumber tree file.location node) else [],
      if listing.showsBlocks then size (blocksOf tree node) else [],
      kindLetter node :: modeLetters (modeOf tree node),
      Decimal.digits (namesOf tree file.location node),
      if listing.showsOwner then owner else [],
      if listing.showsGroup then owner else [],
      size (sizeOf tree node),
      dateText listing now (((tree.fileOf? node).map (·.modified)).getD tree.now),
      listing.shownName file.shown ++ after]
  let rows := files.map row
  let widthOf (index : Nat) : Nat :=
    (rows.map fun cells => (cells.getD index []).length).foldl max 0
  let widths := (List.range 9).map widthOf
  rows.map fun cells =>
    let shown := (cells.zipIdx.zip widths).filterMap fun ((cell, index), width) =>
      let filling := List.replicate (width - cell.length) ' '
      if width = 0 then none
      else if index = 8 || index = 2 then some cell
      else if index = 4 || index = 5 then some (cell ++ filling)
      else some (filling ++ cell)
    (shown.intersperse [' ']).flatten

def inColumns (width : Nat) (isAcross : Bool) (cells : List Text) : List Text :=
  let count := cells.length
  let rowsFor (columns : Nat) : Nat := (count + columns - 1) / columns
  let columnOf (columns index : Nat) : Nat :=
    if isAcross then index % columns else index / rowsFor columns
  let widthsFor (columns : Nat) : List Nat :=
    (List.range columns).map fun column =>
      let own := cells.zipIdx.filterMap fun (cell, index) =>
        if columnOf columns index = column then
          some (cell.length + (if column + 1 = columns then 0 else 2))
        else none
      own.foldl max 0
  let fits (columns : Nat) : Bool := (widthsFor columns).foldl (· + ·) 0 < width
  let columns := (((List.range count).map (· + 1)).reverse.find? fits).getD 1
  let widths := widthsFor columns
  (List.range (rowsFor columns)).map fun row =>
    let own := cells.zipIdx.filterMap fun (cell, index) =>
      let place := if isAcross then index / columns else index % rowsFor columns
      if place = row then some (cell, columnOf columns index) else none
    (own.zipIdx.flatMap fun ((cell, column), place) =>
      if place + 1 = own.length then cell
      else cell ++ List.replicate (widths.getD column 0 - cell.length) ' ')

def listedLines (listing : Listing) (tree : FileTree) (now : Nat) (files : List Listed) :
    List Text :=
  let cells := files.map fun file =>
    let node := (tree.node? file.location).getD (.directory FileTree.programMode)
    let number : Text :=
      if listing.showsNode then Decimal.digits (nodeNumber tree file.location node) ++ [' '] else []
    let blocks : Text :=
      if listing.showsBlocks then Decimal.digits (blocksOf tree node) ++ [' '] else []
    number ++ blocks ++ listing.shownName file.shown ++ markOf tree listing.marks node
  match listing.form with
  | .single => cells
  | .long => longLines listing tree now files
  | .commas =>
      let step (state : List Text × Text) (cell : Text) : List Text × Text :=
        if state.2.isEmpty then (state.1, cell)
        else if 80 ≤ state.2.length + 2 + cell.length then (state.1 ++ [state.2 ++ [',']], cell)
        else (state.1, state.2 ++ [',', ' '] ++ cell)
      let (lines, last) := cells.foldl step ([], [])
      if cells.isEmpty then [] else lines ++ [last]
  | .columns width isAcross => if cells.isEmpty then [] else inColumns width isAcross cells

def Listing.sorted (listing : Listing) (tree : FileTree) (files : List Listed) : List Listed :=
  let nodeOf (file : Listed) : Node :=
    (tree.node? file.location).getD (.directory FileTree.programMode)
  let byName := files.mergeSort fun first second =>
    decide (Text.toOctets first.shown ≤ Text.toOctets second.shown)
  let keyed (key : Listed → Nat) : List Listed :=
    byName.mergeSort fun first second => decide (key second ≤ key first)
  let ending (file : Listed) : Text :=
    if file.shown.contains '.' then
      '.' :: (file.shown.reverse.takeWhile (· ≠ '.')).reverse
    else []
  let ordered :=
    match listing.order with
    | some 't' => keyed fun file => ((tree.fileOf? (nodeOf file)).map (·.modified)).getD tree.now
    | some 'S' => keyed fun file => sizeOf tree (nodeOf file)
    | some 'X' => byName.mergeSort fun first second =>
        decide (Text.toOctets (ending first) ≤ Text.toOctets (ending second))
    | some 'U' | some 'f' => files
    | _ => byName
  let ordered := if listing.isReversed && listing.order ≠ some 'U' then ordered.reverse else ordered
  if listing.groupsDirectories then
    let (directories, others) := ordered.partition fun file => FileTree.isDirectory (nodeOf file)
    directories ++ others
  else ordered

def placeOf (location : Location) (name : Octets) : Location :=
  if name = [Path.dot] then location
  else if name = [Path.dot, Path.dot] then location.dropLast
  else location ++ [name]

def fitsName (pattern : Text) (name : Octets) : Bool :=
  Pattern.fits (Pattern.ofGlyphs (pattern.map Glyph.bare)) (Text.ofOctets name)

def shownNames (listing : Listing) (tree : FileTree) (location : Location) : List Listed :=
  let own : List Octets := if listing.showsOwn then [[Path.dot], [Path.dot, Path.dot]] else []
  let names := own ++ (Fields.namesIn tree location).filter fun found =>
    (listing.showsHidden || (found.head? ≠ some Path.dot &&
      !listing.hides.any fun pattern => fitsName pattern found)) &&
    !listing.leavesOut.any fun pattern => fitsName pattern found
  listing.sorted tree (names.map fun name => ⟨Text.ofOctets name, placeOf location name⟩)

def directoryLines (listing : Listing) (tree : FileTree) (now : Nat) (location : Location) :
    List Text :=
  let files := shownNames listing tree location
  let blocks := (files.map fun file =>
    ((tree.node? file.location).map (blocksOf tree)).getD 0).foldl (· + ·) 0
  let total :=
    if listing.form = .long || listing.showsBlocks then
      [words "total " ++
        (if listing.isReadable then
          (if blocks = 0 then ['0'] else readableSize (blocks * 1024))
        else Decimal.digits blocks)]
    else []
  total ++ listedLines listing tree now files

def ofLines (lines : List Text) : Text := lines.flatMap (· ++ ['\n'])

def listAll (listing : Listing) (name : Text) (now : Nat) (isTitled : Bool) :
    Nat → Bool → Text → Location → Running Unit
  | 0, _, _, _ => return ()
  | depth + 1, isFirst, shown, location => do
      let tree := (← get).tree
      match tree.node? location with
      | some (.directory mode) =>
          if !FileTree.allows mode FileTree.readBit then
            complain 2 [name ++ words ": " ++ faultWith "cannot open directory" shown .denied]
          else do
            let title :=
              if isTitled then
                (if isFirst then [] else ['\n']) ++ listing.shownName shown ++ [':', '\n']
              else []
            say (title ++ ofLines (directoryLines listing tree now location))
            if listing.isRecursive then
              let start := if endsInSlash shown then shown else shown ++ ['/']
              for file in shownNames { listing with showsOwn := false } tree location do
                if (tree.node? file.location).any FileTree.isDirectory then
                  listAll listing name now true depth false (start ++ file.shown) file.location
      | _ => return ()

def list (name : Text) (arguments : List Text) : Running Unit :=
  withOptions 2 [flag '1' "", flag 'a' "all", flag 'A' "almost-all", flag 'd' "directory",
    flag 'F' "", flag 'p' "", flag 'r' "reverse", flag 'R' "recursive", flag 'l' "",
    flag 'h' "human-readable", flag 'U' "", flag 't' "", flag 'i' "inode", flag 's' "size",
    flag 'n' "numeric-uid-gid", flag 'C' "", flag 'L' "dereference", flag 'H' "", flag 'q' "",
    flag 'N' "literal", flag 'S' "", flag 'm' "", flag 'x' "", flag 'g' "", flag 'o' "",
    flag 'G' "no-group", flag 'Q' "quote-name", flag 'b' "escape", flag 'X' "", flag 'v' "",
    flag 'B' "ignore-backups", flag 'f' "", flag 'c' "", flag 'u' "", flag 'k' "kibibytes",
    flag 'Z' "context", textual 'I' "ignore", textual 'w' "width", textual 'T' "tabsize",
    longOnly '\x03' "color" .ownText, longOnly 'F' "classify" .ownText,
    longOnly '\x04' "group-directories-first" .nothing, longOnly '\x05' "hide" .text,
    longOnly '\x06' "full-time" .nothing, longOnly '\x07' "time-style" .text,
    longOnly '\x08' "sort" .text, longOnly '\x0b' "format" .text, longOnly '\x0c' "time" .text,
    longOnly '\x0e' "file-type" .nothing, longOnly '\x0f' "quoting-style" .text,
    longOnly '\x10' "show-control-chars" .nothing, longOnly '\x11' "indicator-style" .text]
    name arguments fun options operands => do
      let has := hasOption options
      let latest (letters : String) : Option Char :=
        (options.filter fun entry => letters.contains entry.1).getLast?.map (·.1)
      let latestHidden := latest "aAf"
      let marks := if has '\x0e' then some 'p' else latest "Fp"
      let sorting : Option Char :=
        match String.ofList ((optionText? options '\x08').getD []) with
        | "time" => some 't'
        | "size" => some 'S'
        | "extension" => some 'X'
        | "none" => some 'U'
        | _ => latest "tSXUfv"
      let form : ListForm :=
        let width := ((optionText? options 'w').map Decimal.value).getD 80
        match latest "1lmxCngo" with
        | some 'm' => .commas
        | some 'x' => .columns (if width = 0 then 1000000 else width) true
        | some 'C' => .columns (if width = 0 then 1000000 else width) false
        | some '1' => if has 'l' || has 'n' || has 'g' || has 'o' then .long else .single
        | some _ => .long
        | none => if has '\x06' then .long else .single
      let quoting : Option Char :=
        match String.ofList ((optionText? options '\x0f').getD []) with
        | "c" => some 'Q'
        | "escape" => some 'b'
        | "shell" | "shell-escape" => some 's'
        | _ => latest "QbqN"
      let timePattern : Option Text :=
        let full := words "%Y-%m-%d %H:%M:%S.%N %z"
        if has '\x06' then some full
        else
          match optionText? options '\x07' with
          | none => none
          | some ('+' :: pattern) => some pattern
          | some text =>
              match String.ofList text with
              | "full-iso" => some full
              | "long-iso" => some (words "%Y-%m-%d %H:%M")
              | "iso" => some (words "%m-%d %H:%M")
              | _ => none
      let listing : Listing :=
        { showsHidden := latestHidden.isSome
          showsOwn := latestHidden.any (· ≠ 'A')
          namesDirectories := has 'd'
          marks
          isReversed := has 'r'
          isRecursive := has 'R'
          order := sorting
          groupsDirectories := has '\x04'
          form
          showsOwner := !has 'g'
          showsGroup := !has 'o' && !has 'G'
          usesNumbers := has 'n'
          showsNode := has 'i'
          showsBlocks := has 's'
          isReadable := has 'h'
          quoting
          timePattern
          leavesOut := (options.filter (·.1 = 'I')).map (·.2) ++ (if has 'B' then [['*', '~']] else [])
          hides := (options.filter (·.1 = '\x05')).map (·.2) }
      let operands : List Text := if operands.isEmpty then [['.']] else operands
      let machine ← get
      let now := FileTree.startTime + machine.clock
      let find (text : Text) : Except HostError (Location × Node) :=
        match machine.tree.find machine.directory (pathOf text) with
        | .ok (location, .directory mode) =>
            if !listing.namesDirectories && ((marks ≠ some 'F' && form ≠ .long) || has 'H' || has 'L' ||
                endsInSlash text) then
              .ok (location, .directory mode)
            else machine.tree.findName machine.directory (pathOf text)
        | .ok (location, node) =>
            if (marks ≠ some 'F' && form ≠ .long) || has 'L' then .ok (location, node)
            else machine.tree.findName machine.directory (pathOf text)
        | .error _ => machine.tree.findName machine.directory (pathOf text)
      succeed
      for operand in operands do
        if let .error error := machine.tree.findName machine.directory (pathOf operand) then
          complain 2 [name ++ words ": " ++ faultWith "cannot access" operand error]
      let isListed (node : Node) : Bool := FileTree.isDirectory node && !listing.namesDirectories
      let found := operands.filterMap fun operand =>
        match find operand with
        | .ok (location, node) => some ((⟨operand, location⟩ : Listed), isListed node)
        | .error _ => none
      let files := listing.sorted machine.tree
        ((found.filter fun entry => !entry.2).map (·.1))
      let directories := listing.sorted machine.tree ((found.filter (·.2)).map (·.1))
      say (ofLines (listedLines listing machine.tree now files))
      let isTitled := 1 < operands.length || listing.isRecursive
      let mut isFirst := files.isEmpty
      for directory in directories do
        listAll listing name now isTitled (machine.tree.nodes.length + 1) isFirst directory.shown
          directory.location
        isFirst := false

end ArtifactTools.Shell.Native
