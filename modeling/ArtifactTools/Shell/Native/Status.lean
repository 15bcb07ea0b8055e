import ArtifactTools.Shell.Native.Listing

/-! The program that tells what is known of files. -/

namespace ArtifactTools.Shell.Native

namespace Status

structure Subject where
  shown : Text
  location : Location
  node : Node

def kindBits : Node → Nat
  | .directory _ => 0o040000
  | .link _ => 0o120000
  | .pipe _ _ => 0o010000
  | .device _ => 0o020000
  | _ => 0o100000

def kindName (tree : FileTree) (node : Node) : String :=
  match node with
  | .directory _ => "directory"
  | .link _ => "symbolic link"
  | .pipe _ _ => "fifo"
  | .device _ => "character special file"
  | node => if sizeOf tree node = 0 then "regular empty file" else "regular file"

def deviceNumbers : Node → Nat × Nat
  | .device .sink => (1, 3)
  | .device .zeros => (1, 5)
  | .device .full => (1, 7)
  | .device .random => (1, 8)
  | _ => (0, 0)

def homeNumbers : Nat × Nat := (254, 0)

def joinNumbers (numbers : Nat × Nat) : Nat := numbers.1 * 256 + numbers.2

/-- A field of a format: its marks, its least width and its precision, where none stands for all
places. -/
structure Field where
  marks : Text
  width : Nat
  precision : Option (Option Nat)

def Field.shape (field : Field) : Format.Field where
  leftAligned := field.marks.contains '-'
  zeroFilled := field.marks.contains '0'
  signed := field.marks.contains '+'
  spaced := field.marks.contains ' '
  alternate := field.marks.contains '#'
  width := field.width
  precision := field.precision.map (·.getD 0)

def Field.text (field : Field) (text : Text) : Text :=
  Format.pad field.shape (match field.precision with
    | some (some most) => text.take most
    | some none => []
    | none => text)

def Field.number (field : Field) (base : Char) (number : Nat) : Text :=
  Format.number { field.shape with signed := false, spaced := false } base number

def Field.seconds (field : Field) (time : Nat) : Text :=
  let whole := Decimal.digits (time / 1000000)
  let fraction := Decimal.padZeros 6 (Decimal.digits (time % 1000000)) ++ ['0', '0', '0']
  let text :=
    match field.precision with
    | none | some (some 0) => whole
    | some places? => whole ++ '.' :: fraction.take (places?.getD 9)
  Format.fillUp { field.shape with precision := none } (field.marks.contains '0') [] text

def timeText (time : Nat) : Text :=
  Calendar.shown true ⟨Int.ofNat (time / 1000000), time % 1000000 * 1000⟩ 200
    (words "%Y-%m-%d %H:%M:%S.%N %z")

def value? (tree : FileTree) (quote : Text → Text) (subject : Subject) (field : Field)
    (letter : Char) : Option Text :=
  let node := subject.node
  let number (value : Nat) : Option Text := some (field.number 'd' value)
  let bits := kindBits node + modeOf tree node
  let time := ((tree.fileOf? node).map (·.modified)).getD tree.now
  match letter with
  | 'a' => some (field.number 'o' (modeOf tree node))
  | 'A' => some (field.text (kindLetter node :: modeLetters (modeOf tree node)))
  | 'b' => number (blocksOf tree node * 2)
  | 'B' => number 512
  | 'C' => some ['?']
  | 'd' => number (joinNumbers homeNumbers)
  | 'D' => some (field.number 'x' (joinNumbers homeNumbers))
  | 'f' => some (field.number 'x' bits)
  | 'F' => some (field.text (words (kindName tree node)))
  | 'g' | 'u' => number 0
  | 'G' | 'U' => some (field.text (words "root"))
  | 'h' => number (namesOf tree subject.location node)
  | 'i' => number (nodeNumber tree subject.location node)
  | 'm' => some (field.text ['/'])
  | 'n' => some (field.text subject.shown)
  | 'N' =>
      let target : Text :=
        match node with
        | .link target => words " -> " ++ quote (Text.ofOctets target)
        | _ => []
      some (field.text (quote subject.shown ++ target))
  | 'o' => number 4096
  | 'r' => number (joinNumbers (deviceNumbers node))
  | 'R' => some (field.number 'x' (joinNumbers (deviceNumbers node)))
  | 's' => number (sizeOf tree node)
  | 't' => some (field.number 'x' (deviceNumbers node).1)
  | 'T' => some (field.number 'x' (deviceNumbers node).2)
  | 'w' | 'x' | 'y' | 'z' => some (field.text (timeText time))
  | 'W' | 'X' | 'Y' | 'Z' => some (field.seconds time)
  | _ => none

def systemValue? (subject : Subject) (field : Field) (letter : Char) : Option Text :=
  let number (value : Nat) : Option Text := some (field.number 'd' value)
  match letter with
  | 'a' | 'f' => number 1000000
  | 'b' => number 4000000
  | 'c' => number 1000000
  | 'd' => number 900000
  | 'i' => some (field.number 'x' 0x1000)
  | 'l' => number 255
  | 'n' => some (field.text subject.shown)
  | 's' | 'S' => number 4096
  | 't' => some (field.number 'x' 0xef53)
  | 'T' => some (field.text (words "ext2/ext3"))
  | _ => none

inductive Piece where
  | text (text : Text)
  | fault (message : Text)
  | stop (message : Text)

def escapePiece : Text → List Piece × Text
  | [] => ([.fault (words "warning: backslash at end of format"), .text ['\\']], [])
  | 'x' :: rest =>
      let digits := (rest.take 2).takeWhile fun digit => (Hexadecimal.value? digit).isSome
      let value := digits.foldl (fun sum digit => sum * 16 + (Hexadecimal.value? digit).getD 0) 0
      if digits.isEmpty then
        ([.fault (words "warning: unrecognized escape '\\x'"), .text ['x']], rest)
      else ([.text [Char.ofNat value]], rest.drop digits.length)
  | 'e' :: rest => ([.text ['\x1b']], rest)
  | '"' :: rest => ([.text ['"']], rest)
  | letter :: rest =>
      let digits := ((letter :: rest).take 3).takeWhile Format.isOctal
      if !digits.isEmpty then
        ([.text [Format.octalCharacter digits]], (letter :: rest).drop digits.length)
      else
        match Format.controlCharacter? letter with
        | some character => ([.text [character]], rest)
        | none =>
            ([.fault (words "warning: unrecognized escape '\\" ++ [letter, '\'']),
              .text [letter]], rest)

def pieces (value? : Field → Char → Option Text) (halves : Char → Option (Nat × Nat))
    (resolves : Bool) : Nat → Text → List Piece
  | 0, _ | _, [] => []
  | fuel + 1, '\\' :: rest =>
      if resolves then
        let (found, rest) := escapePiece rest
        found ++ pieces value? halves resolves fuel rest
      else .text ['\\'] :: pieces value? halves resolves fuel rest
  | fuel + 1, '%' :: rest =>
      let goOn := pieces value? halves resolves fuel
      let marks := rest.takeWhile fun mark => "'-+ #I0".contains mark
      let after := rest.drop marks.length
      let width := after.takeWhile isDigit
      let after := after.drop width.length
      let (precision, after) : Option (Option Nat) × Text :=
        match after with
        | '.' :: after =>
            let digits := after.takeWhile isDigit
            (some (if digits.isEmpty then none else some (Decimal.value digits)),
              after.drop digits.length)
        | after => (none, after)
      let taken := rest.take (rest.length - after.length)
      let field : Field := ⟨marks, Decimal.value width, precision⟩
      match after with
      | [] =>
          if taken.isEmpty then [.text ['%']]
          else [.stop (cited ('%' :: taken) ++ words ": invalid directive")]
      | '%' :: rest =>
          if taken.isEmpty then .text ['%'] :: goOn rest
          else [.stop (cited ('%' :: taken ++ ['%']) ++ words ": invalid directive")]
      | letter :: rest =>
          let half? : Option (Nat × Text) :=
            match letter, rest with
            | 'H', kind :: rest => (halves kind).map fun numbers => (numbers.1, rest)
            | 'L', kind :: rest => (halves kind).map fun numbers => (numbers.2, rest)
            | _, _ => none
          match half? with
          | some (number, rest) => .text (field.number 'd' number) :: goOn rest
          | none => .text ((value? field letter).getD ['?']) :: goOn rest
  | fuel + 1, character :: rest => .text [character] :: pieces value? halves resolves fuel rest

def usualFormat (node : Node) : Text :=
  let links :=
    match node with
    | .device _ => "%-5h Device type: %Hr,%Lr"
    | _ => "%h"
  words ("  File: %N\n  Size: %-10s\tBlocks: %-10b IO Block: %-6o %F\n" ++
    "Device: %Hd,%Ld\tInode: %-10i  Links: " ++ links ++
    "\nAccess: (%04a/%10.10A)  Uid: (%5u/%8U)   Gid: (%5g/%8G)\n" ++
    "Access: %x\nModify: %y\nChange: %z\n Birth: %w\n")

def behind (machine : Machine) (node : Node) : Node :=
  let target? : Option Target :=
    match node with
    | .device (.descriptor number) => (machine.openFile? number).map (·.2.target)
    | _ => none
  match target? with
  | some (.file number) => .file number
  | some (.pipe number) => .pipe number 0o600
  | some (.device device) => .device device
  | some .directory => .directory FileTree.programMode
  | _ => node

end Status

open Status

def status (name : Text) (arguments : List Text) : Running Unit :=
  withOptions 1 [flag 'L' "dereference", flag 'f' "file-system", textual 'c' "format",
    longOnly '\x03' "printf" .text, flag 't' "terse", longOnly '\x04' "cached" .text] name
    arguments fun options operands => do
      if operands.isEmpty then missingOperand name
      else if let some caching := (optionText? options '\x04').filter fun text =>
          !(["default", "never", "always"].contains (String.ofList text)) then
        complain 1 ([name ++ words ": invalid argument " ++ cited caching ++
          words " for '--cached'", words "Valid arguments are:", words "  - 'default'",
          words "  - 'never'", words "  - 'always'", usageHint name])
      else
        let format? := (options.filter fun entry => "c\x03".contains entry.1).getLast?
        let isSystem := hasOption options 'f'
        succeed
        for operand in operands do
          let machine ← get
          let tree := machine.tree
          let isInput := operand = ['-'] && !isSystem
          let path := pathOf (if isInput then words "/dev/stdin" else operand)
          let found :=
            if isInput || hasOption options 'L' || isSystem then tree.find machine.directory path
            else tree.findName machine.directory path
          match found with
          | .error error =>
              let what :=
                if isSystem then "cannot read file system information for" else "cannot statx"
              blame 1 name (words what ++ ' ' :: cited operand ++ words ": " ++
                Machine.plainWording error)
          | .ok (location, node) => do
              let node := behind machine node
              let subject : Subject := ⟨operand, location, node⟩
              let terse :=
                if isSystem then "%n %i %l %t %s %S %b %f %a %c %d"
                else "%n %s %b %f %u %g %D %i %h %t %T %X %Y %Z %W %o"
              let (format, resolves, ending) : Text × Bool × Text :=
                match format? with
                | some ('c', format) => (format, false, ['\n'])
                | some (_, format) => (format, true, [])
                | none =>
                    if hasOption options 't' then (words terse, false, ['\n'])
                    else if isSystem then
                      (words ("  File: \"%n\"\n    ID: %-8i Namelen: %-7l Type: %T\n" ++
                        "Block size: %-10s Fundamental block size: %S\n" ++
                        "Blocks: Total: %-10b Free: %-10f Available: %a\n" ++
                        "Inodes: Total: %-10c Free: %d\n"), false, [])
                    else (usualFormat node, false, [])
              let quote := if format?.isSome then quotedName else scriptName
              let value := if isSystem then systemValue? subject else value? tree quote subject
              let halves (kind : Char) : Option (Nat × Nat) :=
                match kind with
                | 'd' => some homeNumbers
                | 'r' => some (deviceNumbers node)
                | _ => none
              for piece in pieces value halves resolves (format.length + 1) format do
                match piece with
                | .text text => say text
                | .fault message =>
                    let status := (← get).status
                    blame status name message
                | .stop message => do
                    blame 1 name message
                    quit
              say ending

end ArtifactTools.Shell.Native
