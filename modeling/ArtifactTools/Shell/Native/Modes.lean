import ArtifactTools.Shell.Native.Basic

/-! Modes of files, the program that changes them, and programs that make what has a mode: files and
directories of which nobody else has the names, and pipes that have names. -/

namespace ArtifactTools.Shell.Native

inductive Granted where
  | bits (value : Nat) (withAnyPass : Bool)
  | likeOwner
  | likeGroup
  | likeOthers
  deriving DecidableEq, Repr

/-- A change of a mode: the bits of those whom it is for, or none where nobody is named; whether the
bits are added, taken away or put in the place of the others; and the bits. Directories keep the
bits for starting programs under another name unless these are mentioned. -/
structure ModeChange where
  affected : Nat
  mark : Char
  granted : Granted
  mentioned : Nat
  deriving DecidableEq, Repr

def allBits : Nat := 0o7777

def whoBits (letter : Char) : Nat :=
  match letter with
  | 'u' => 0o4700
  | 'g' => 0o2070
  | 'o' => 0o1007
  | _ => allBits

def letterBits (letter : Char) : Nat :=
  match letter with
  | 'r' => 0o444
  | 'w' => 0o222
  | 'x' => 0o111
  | 's' => 0o6000
  | 't' => 0o1000
  | _ => 0

def isPermission (letter : Char) : Bool := "rwxXst".contains letter

def joinBits (values : List Nat) : Nat := values.foldl (fun joined value => joined ||| value) 0

def readMarks? (affected : Nat) : Nat → Text → Option (List ModeChange)
  | 0, _ => none
  | _ + 1, [] => some []
  | fuel + 1, mark :: rest =>
      let letters := rest.takeWhile fun letter => !("+-=".contains letter)
      let granted? : Option Granted :=
        match letters with
        | ['u'] => some .likeOwner
        | ['g'] => some .likeGroup
        | ['o'] => some .likeOthers
        | letters =>
            if letters.all isPermission then
              some (.bits (joinBits (letters.map letterBits)) (letters.contains 'X'))
            else none
      if !("+-=".contains mark) then none
      else
        match granted?, readMarks? affected fuel (rest.drop letters.length) with
        | some granted, some others =>
            let value :=
              match granted with
              | .bits value _ => value
              | _ => 0
            some (⟨affected, mark, granted,
              if affected = 0 then value else affected &&& value⟩ :: others)
        | _, _ => none

def readClause? (clause : Text) : Option (List ModeChange) :=
  let who := clause.takeWhile fun letter => "ugoa".contains letter
  let marks := clause.drop who.length
  if marks.isEmpty then none
  else readMarks? (joinBits (who.map whoBits)) (marks.length + 1) marks

def readMode? (text : Text) : Option (List ModeChange) :=
  if text.head?.any Format.isOctal then
    let value := text.foldl (fun sum digit => sum * 8 + Decimal.digitValue digit) 0
    if text.all Format.isOctal && value ≤ allBits then
      some [⟨allBits, '=', .bits value false,
        if 5 ≤ text.length then allBits else value &&& 0o6000 ||| 0o1777⟩]
    else none
  else ((text.splitOn ',').mapM readClause?).map (·.flatten)

def spreadBits (bits : Nat) : Nat := bits * 0o111

def ModeChange.apply (change : ModeChange) (isDirectory : Bool) (mask mode : Nat) : Nat :=
  let without (value bits : Nat) : Nat := value - (value &&& bits)
  let kept := if isDirectory then without 0o6000 change.mentioned else 0
  let value :=
    match change.granted with
    | .bits value withAnyPass =>
        if withAnyPass && (isDirectory || mode &&& 0o111 ≠ 0) then value ||| 0o111 else value
    | .likeOwner => spreadBits (mode / 64 % 8)
    | .likeGroup => spreadBits (mode / 8 % 8)
    | .likeOthers => spreadBits (mode % 8)
  let value := if change.affected = 0 then without value mask else value &&& change.affected
  let value := without value kept
  match change.mark with
  | '+' => mode ||| value
  | '-' => without mode value
  | _ =>
      let preserved := (if change.affected = 0 then 0 else without allBits change.affected) ||| kept
      (mode &&& preserved) ||| value

def applyMode (changes : List ModeChange) (isDirectory : Bool) (mask mode : Nat) : Nat :=
  changes.foldl (fun mode change => change.apply isDirectory mask mode) mode

def modeOf (tree : FileTree) (node : Node) : Nat :=
  match node with
  | .directory mode | .pipe _ mode => mode
  | .file number => ((tree.files[number]?).map (·.mode)).getD 0
  | .native _ => FileTree.programMode
  | .link _ => 0o777
  | .device _ => 0o666

def withMode (tree : FileTree) (location : Location) (mode : Nat) : FileTree :=
  match tree.node? location with
  | some (.directory _) => tree.put location (.directory mode)
  | some (.pipe number _) => tree.put location (.pipe number mode)
  | some (.file number) => tree.modifyFile number fun file => { file with mode }
  | _ => tree

def modeLetters (mode : Nat) : Text :=
  let three (bits : Nat) (special : Bool) (set unset : Char) : Text :=
    [if bits &&& 4 ≠ 0 then 'r' else '-', if bits &&& 2 ≠ 0 then 'w' else '-',
      if special then (if bits &&& 1 ≠ 0 then set else unset)
      else if bits &&& 1 ≠ 0 then 'x' else '-']
  three (mode / 64 % 8) (mode &&& 0o4000 ≠ 0) 's' 'S' ++
    three (mode / 8 % 8) (mode &&& 0o2000 ≠ 0) 's' 'S' ++
    three (mode % 8) (mode &&& 0o1000 ≠ 0) 't' 'T'

def octal (mode : Nat) : Text := Format.digitsInBase 8 false 12 mode

structure ModeTelling where
  isRecursive : Bool
  tellsAll : Bool
  tellsChanges : Bool
  isQuiet : Bool

def placesFrom (tree : FileTree) : Nat → Text → Location → List (Text × Location)
  | 0, _, _ => []
  | depth + 1, shown, location =>
      let names : List Octets :=
        if (tree.node? location).any FileTree.isDirectory then
          tree.nodes.filterMap fun entry =>
            if entry.1.dropLast = location && !entry.1.isEmpty then entry.1.getLast? else none
        else []
      let start := if endsInSlash shown then shown else shown ++ ['/']
      (shown, location) :: names.flatMap fun name =>
        placesFrom tree depth (start ++ Text.ofOctets name) (location ++ [name])

def changeAt (telling : ModeTelling) (changes : Nat → Bool → Nat) (shown : Text)
    (location : Location) : Running Unit := do
  let machine ← get
  match machine.tree.node? location with
  | none | some (.link _) => return ()
  | some node => do
      let old := modeOf machine.tree node
      let mode := changes old (FileTree.isDirectory node)
      set (machine.withTree (withMode machine.tree location mode))
      let told (mode : Nat) : Text :=
        Decimal.padZeros 4 (octal mode) ++ words " (" ++ modeLetters mode ++ [')']
      if old ≠ mode && (telling.tellsAll || telling.tellsChanges) then
        say (words "mode of " ++ quotedName shown ++ words " changed from " ++ told old ++
          words " to " ++ told mode ++ ['\n'])
      else if old = mode && telling.tellsAll then
        say (words "mode of " ++ quotedName shown ++ words " retained as " ++ told mode ++ ['\n'])

def changeOne (telling : ModeTelling) (changes : Nat → Bool → Nat) (name text : Text) :
    Running Unit := do
  let machine ← get
  let tree := machine.tree
  match tree.find machine.directory (pathOf text) with
  | .error error =>
      if telling.isQuiet then modify fun machine => machine.fail 1
      else if (linkAt? machine text).isSome && error = .missing then
        blame 1 name (words "cannot operate on dangling symlink " ++ quotedName text)
      else blame 1 name (faultWith "cannot access" text error)
  | .ok (location, _) =>
      let places :=
        if telling.isRecursive then placesFrom tree (tree.nodes.length + 1) text location
        else [(text, location)]
      places.forM fun (shown, location) => changeAt telling changes shown location

def changeMode (name : Text) (arguments : List Text) : Running Unit := do
  let machine ← get
  let run (options : List (Char × Text)) (operands : List Text) : Running Unit :=
    let telling : ModeTelling :=
      ⟨hasOption options 'R', hasOption options 'v', hasOption options 'c',
        hasOption options 'f'⟩
    match optionText? options '\x05', operands with
    | some _, [] => misuse 1 name [words "missing operand"]
    | some reference, operands =>
        match machine.tree.find machine.directory (pathOf reference) with
        | .error error => blame 1 name (faultWith "failed to get attributes of" reference error)
        | .ok (_, node) =>
            forEach operands (changeOne telling (fun _ _ => modeOf machine.tree node) name)
    | none, [] => misuse 1 name [words "missing operand"]
    | none, [mode] => misuse 1 name [words "missing operand after " ++ cited mode]
    | none, mode :: operands =>
        match readMode? mode with
        | none => misuse 1 name [words "invalid mode: " ++ cited mode]
        | some changes =>
            let change (old : Nat) (isDirectory : Bool) : Nat :=
              applyMode changes isDirectory machine.mask old
            forEach operands (changeOne telling change name)
  let kinds := [flag 'R' "recursive", flag 'v' "verbose", flag 'c' "changes", flag 'f' "silent",
    longOnly 'f' "quiet" .nothing, longOnly '\x03' "preserve-root" .nothing,
    longOnly '\x04' "no-preserve-root" .nothing, longOnly '\x05' "reference" .text]
  let isMode (argument : Text) : Bool :=
    match argument with
    | '-' :: letter :: letters =>
        isPermission letter && letters.all fun letter => isPermission letter || "+-=,ugo".contains letter
    | _ => false
  match arguments.find? isMode with
  | some mode =>
      withOptions 1 kinds name (arguments.erase mode) fun options operands =>
        if operands.isEmpty then run options [] else run options (mode :: operands)
  | none => withOptions 1 kinds name arguments run

/-! Programs that make files and directories of which nobody else has the names, and pipes that have
names. -/

/-! Names of one's own. -/

def nameLetters : Text :=
  words "abcdefghijklmnopqrstuvwxyzABCDEFGHIJKLMNOPQRSTUVWXYZ0123456789"

def lettersFrom : Nat → Nat → Text
  | 0, _ => []
  | count + 1, seed =>
      let next := (seed * 1103515245 + 12345) % 2147483648
      nameLetters.getD (next / 65536 % nameLetters.length) 'a' :: lettersFrom count next

/-- What a name is made from: the text before the place of its letters, how many these are, and the
text after them. -/
structure NamePattern where
  start : Text
  count : Nat
  ending : Text

/-- Reads a pattern, in which the last row of marks stands for the letters; a suffix may be given
apart from it. -/
def NamePattern.read (template : Text) (suffix : Option Text) : NamePattern :=
  let ending : Text :=
    match suffix with
    | some suffix => suffix
    | none => (template.reverse.takeWhile (· ≠ 'X')).reverse
  let body := if suffix.isSome then template else template.take (template.length - ending.length)
  let count := (body.reverse.takeWhile (· = 'X')).length
  ⟨body.take (body.length - count), count, ending⟩

def NamePattern.freePath (pattern : NamePattern) (machine : Machine) : Text :=
  let path (index : Nat) : Text :=
    pattern.start ++ lettersFrom pattern.count
      (machine.clock * 31 + machine.process * 7919 + machine.tree.nodes.length * 104729 + index) ++
      pattern.ending
  let isFree (index : Nat) : Bool :=
    match machine.tree.findName machine.directory (pathOf (path index)) with
    | .ok _ => false
    | .error _ => true
  path (((List.range 100).find? isFree).getD 0)

def makeTemporary (name : Text) (arguments : List Text) : Running Unit :=
  withOptions 1 [flag 'd' "directory", flag 'u' "dry-run", flag 'q' "quiet", flag 't' "",
    textual 'p' "", longOnly '\x03' "tmpdir" .ownText, longOnly '\x04' "suffix" .text] name
    arguments fun options operands => do
      let machine ← get
      let isDirectory := hasOption options 'd'
      let usual : Text := words "tmp.XXXXXXXXXX"
      let filled (text : Option Text) : Option Text := text.filter fun text => !text.isEmpty
      let place : Text :=
        (filled ((optionText? options 'p').or (optionText? options '\x03'))).getD
          ((filled (machine.valueOf? (words "TMPDIR"))).getD (words "/tmp"))
      let isPlaced := operands.isEmpty || hasOption options 'p' || hasOption options 't' ||
        hasOption options '\x03'
      match operands with
      | _ :: _ :: _ => misuse 1 name [words "too many templates"]
      | operands => do
          let template := operands.head?.getD usual
          let suffix := optionText? options '\x04'
          let pattern := NamePattern.read template suffix
          let slashed (text : Text) : Bool := text.contains '/'
          if suffix.any slashed || (suffix.isNone && slashed pattern.ending) then
            blame 1 name (words "invalid suffix " ++ cited pattern.ending ++
              words ", contains directory separator")
          else if pattern.count < 3 then
            blame 1 name (words "too few X's in template " ++ cited template)
          else if hasOption options 't' && slashed template then
            blame 1 name (words "invalid template, " ++ cited template ++
              words ", contains directory separator")
          else if isPlaced && template.head? = some '/' then
            blame 1 name (words "invalid template, " ++ cited template ++
              words "; with --tmpdir, it may not be absolute")
          else do
            let before : Text :=
              if !isPlaced then [] else if endsInSlash place then place else place ++ ['/']
            let pattern := { pattern with start := before ++ pattern.start }
            let path := pattern.freePath machine
            let made : Except HostError FileTree :=
              if hasOption options 'u' then .ok machine.tree
              else if isDirectory then
                machine.tree.makeDirectory machine.directory (pathOf path) 0o700
              else
                (machine.tree.openForWriting machine.directory (pathOf path) true 0o600).map (·.2)
            match made with
            | .ok tree => do
                set (machine.withTree tree)
                succeed
                say (path ++ ['\n'])
            | .error error =>
                let what := if isDirectory then "directory" else "file"
                if hasOption options 'q' then modify fun machine => machine.fail 1
                else
                  blame 1 name (words ("failed to create " ++ what ++ " via template ") ++
                    cited (before ++ template ++ suffix.getD []) ++ words ": " ++
                    Machine.plainWording error)

/-! Pipes with names. -/

def makePipesNamed (name : Text) (mode : Nat) (operands : List Text) : Running Unit :=
  forEach operands fun operand => do
    let (number, machine) := (← get).newPipe []
    match machine.tree.makeNode machine.directory (pathOf operand) (.pipe number mode) with
    | .ok tree => set (machine.withTree tree)
    | .error error =>
        blame 1 name (words "cannot create fifo " ++ cited operand ++ words ": " ++
          Machine.plainWording error)

def makePipes (name : Text) (arguments : List Text) : Running Unit :=
  withOptions 1 [textual 'm' "mode"] name arguments fun options operands => do
    let machine ← get
    if operands.isEmpty then missingOperand name
    else
      match optionText? options 'm' with
      | none => makePipesNamed name machine.fileMode operands
      | some text =>
          match readMode? text with
          | none => blame 1 name (words "invalid mode")
          | some changes =>
              makePipesNamed name (applyMode changes false machine.mask 0o666) operands

def makeNode (name : Text) (arguments : List Text) : Running Unit :=
  withOptions 1 [textual 'm' "mode"] name arguments fun _ operands => do
    match operands with
    | [] => missingOperand name
    | [path] => missingOperandAfter name path
    | [path, ['p']] => makePipesNamed name (← get).fileMode [path]
    | _ :: _ :: extra :: _ => extraOperand name extra
    | _ :: kind :: _ => missingOperandAfter name kind

end ArtifactTools.Shell.Native
