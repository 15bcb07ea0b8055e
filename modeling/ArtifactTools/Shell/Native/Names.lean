import ArtifactTools.Shell.Builtin.Directories
import ArtifactTools.Shell.Native.Basic

/-! Programs that work on the names of files: they make links and take names away, and tell the parts
of a path and where it leads. -/

namespace ArtifactTools.Shell.Native

def leadAlike (machine : Machine) (first second : Text) : Bool :=
  match machine.tree.findName machine.directory (pathOf first),
      machine.tree.findName machine.directory (pathOf second) with
  | .ok (first, _), .ok (second, _) => first = second
  | _, _ => false

/-- How links are made: with a text of their own or as another name of a file, over what is there,
never into the directory that a link or a name leads to, with a text that starts from where the
link lies, with a question before something is replaced, and with a line on each. What is replaced
may be kept under a name with an ending. -/
structure Linking where
  isSymbolic : Bool
  isForced : Bool
  keepsLinks : Bool
  keepsNames : Bool
  isRelative : Bool
  asks : Bool
  tells : Bool
  backup : Option Text

def putAside (ending target : Text) (location : Location) : Running Text := do
  let machine ← get
  let tree := machine.tree
  let name := ((location.getLast?).map Text.ofOctets).getD []
  let above := location.dropLast
  let isTaken (text : Text) : Bool := (tree.node? (above ++ [text.toOctets])).isSome
  let numbered (number : Nat) : Text := words ".~" ++ Decimal.digits number ++ ['~']
  let latest := ((List.range 100).filter fun number => isTaken (name ++ numbered number)).getLast?
  let ending : Text :=
    if ending = words "*" then
      if latest.isSome then numbered ((latest.getD 0) + 1) else ['~']
    else if ending = words "**" then numbered ((latest.getD 0) + 1)
    else ending
  let place := above ++ [(name ++ ending).toOctets]
  set (machine.withTree (((tree.erase place).copy location place).erase location))
  return target ++ ending

/-- The ending that options ask for of what is put aside; a star stands for a number where there are
numbers already. -/
def backupEnding? (options : List (Char × Text)) : Option Text :=
  let control := optionText? options '\x0e'
  let suffix := optionText? options 'S'
  let kind := String.ofList (control.getD [])
  if !hasOption options 'b' && control.isNone && suffix.isNone then none
  else if kind = "none" || kind = "off" then none
  else if kind = "numbered" || kind = "t" then some (words "**")
  else if kind = "simple" || kind = "never" then some (suffix.getD ['~'])
  else if suffix.isSome then suffix
  else some ['*']

def relativeText (directory place : Location) : Octets :=
  let rec shared : Location → Location → Nat
    | first :: others, second :: rest => if first = second then shared others rest + 1 else 0
    | _, _ => 0
  let count := shared directory place
  let steps := List.replicate (directory.length - count) [Path.dot, Path.dot] ++ place.drop count
  if steps.isEmpty then [Path.dot] else Path.joinSegments steps

def linkText (linking : Linking) (machine : Machine) (target place : Text) : Octets :=
  let above := if place.contains '/' then (place.reverse.dropWhile (· ≠ '/')).reverse else ['.']
  if !linking.isRelative then target.toOctets
  else
    match machine.tree.find machine.directory (pathOf above),
        machine.tree.follow .content machine.directory (pathOf target) with
    | .ok (directory, _), .ok location => relativeText directory location
    | _, _ => target.toOctets

def linkOne (linking : Linking) (name target place : Text) : Running Unit := do
  let machine ← get
  let kind := if linking.isSymbolic then "symbolic link " else "hard link "
  let cannot (error : HostError) : Text :=
    let shown :=
      if linking.isSymbolic && (error ≠ .alreadyExists && error ≠ .nameTooLong) &&
          target.isEmpty then
        quotedName place ++ words " -> " ++ quotedName target
      else if !linking.isSymbolic && error ≠ .alreadyExists then
        quotedName place ++ words " => " ++ quotedName target
      else quotedName place
    words ("failed to create " ++ kind) ++ shown ++ words ": " ++ Machine.plainWording error
  let same := quotedName target ++ words " and " ++ quotedName place ++ words " are the same file"
  let found := machine.tree.findName machine.directory (pathOf place)
  let isReplaced := (linking.isForced || linking.asks || linking.backup.isSome) &&
    !(found matches .ok (_, .directory _) | .error _)
  if linking.isForced && leadAlike machine target place then blame 1 name same
  else
    let agreed ←
      if isReplaced && linking.asks then
        confirm (name ++ words ": replace " ++ quotedName place ++ words "? ")
      else pure true
    if !agreed then modify fun machine => machine.fail 1
    else
      let aside ←
        match found, linking.backup with
        | .ok (location, _), some ending =>
            if isReplaced then some <$> putAside ending place location else pure none
        | _, _ => pure none
      let machine ← get
      let tree :=
        match machine.tree.findName machine.directory (pathOf place) with
        | .ok (_, .directory _) | .error _ => machine.tree
        | .ok (location, _) =>
            if isReplaced && machine.tree.mayChange location then machine.tree.erase location
            else machine.tree
      let result : Except Text FileTree :=
        if linking.isSymbolic then
          (tree.makeLink machine.directory (linkText linking machine target place)
            (pathOf place)).mapError cannot
        else
          match machine.tree.findName machine.directory (pathOf target) with
          | .error error => .error (faultWith "failed to access" target error)
          | .ok (_, .directory _) =>
              .error (named target ++ words ": hard link not allowed for directory")
          | .ok (_, node) =>
              (tree.makeNode machine.directory (pathOf place) node).mapError cannot
      settle name result
      if result.toOption.isSome && linking.tells then
        let before := (aside.map fun text => quotedName text ++ words " ~ ").getD []
        say (before ++ quotedName place ++
          words (if linking.isSymbolic then " -> " else " => ") ++
          quotedName (if linking.isSymbolic then Text.ofOctets (linkText linking machine target place)
            else target) ++ ['\n'])

def link (name : Text) (arguments : List Text) : Running Unit :=
  withOptions 1 [flag 's' "symbolic", flag 'f' "force", flag 'n' "no-dereference",
    flag 'i' "interactive", flag 'T' "no-target-directory", flag 'r' "relative", flag 'v' "verbose",
    flag 'L' "logical", flag 'P' "physical", flag 'b' "", flag 'd' "directory", flag 'F' "",
    textual 't' "target-directory", textual 'S' "suffix", longOnly '\x0e' "backup" .ownText]
    name arguments fun options operands => do
      let latest := (options.filter fun entry => "fi".contains entry.1).getLast?.map (·.1)
      let linking : Linking :=
        ⟨hasOption options 's', latest = some 'f', hasOption options 'n',
          hasOption options 'T', hasOption options 'r', latest = some 'i', hasOption options 'v',
          backupEnding? options⟩
      let machine ← get
      let isPlace (text : Text) : Bool :=
        machine.tree.holdsDirectory machine.directory (pathOf text) && !linking.keepsNames &&
          !(linking.keepsLinks && !endsInSlash text && (linkAt? machine text).isSome)
      let into (directory : Text) (targets : List Text) : Running Unit :=
        forEach targets fun target =>
          let start := if endsInSlash directory then directory else directory ++ ['/']
          linkOne linking name target (start ++ lastName target)
      if linking.isRelative && !linking.isSymbolic then
        blame 1 name (words "cannot do --relative without --symbolic")
      else
      match operands, optionText? options 't' with
      | [], _ => misuse 1 name [words "missing file operand"]
      | targets, some directory =>
          if machine.tree.holdsDirectory machine.directory (pathOf directory) then
            into directory targets
          else
            let error : HostError :=
              if machine.tree.holds machine.directory (pathOf directory) then .notDirectory
              else .missing
            blame 1 name (faultWith "target directory" directory error)
      | [target], none => into ['.'] [target]
      | [target, place], none =>
          if isPlace place then into place [target]
          else do
            succeed
            linkOne linking name target place
      | operands, none =>
          let directory := operands.getLast?.getD []
          if linking.keepsNames then
            misuse 1 name [words "extra operand " ++ cited (operands.getD 2 [])]
          else if isPlace directory then into directory operands.dropLast
          else
            let error : HostError :=
              if machine.tree.holds machine.directory (pathOf directory) then .notDirectory
              else .missing
            blame 1 name (faultWith "target" directory error)

def linkPlainly (name : Text) (arguments : List Text) : Running Unit :=
  withOptions 1 [] name arguments fun _ operands => do
    match operands with
    | [] => misuse 1 name [words "missing operand"]
    | [only] => misuse 1 name [words "missing operand after " ++ cited only]
    | [target, place] => do
        succeed
        let machine ← get
        let cannot (error : HostError) : Text :=
          words "cannot create link " ++ quotedName place ++ words " to " ++ quotedName target ++
            words ": " ++ Machine.plainWording error
        settle name (match machine.tree.findName machine.directory (pathOf target) with
          | .error error => .error (cannot error)
          | .ok (_, .directory _) =>
              .error (words "cannot create link " ++ quotedName place ++ words " to " ++
                quotedName target ++ words ": Operation not permitted")
          | .ok (_, node) =>
              (machine.tree.makeNode machine.directory (pathOf place) node).mapError cannot)
    | _ :: _ :: extra :: _ => misuse 1 name [words "extra operand " ++ cited extra]

def unlink (name : Text) (arguments : List Text) : Running Unit :=
  withOptions 1 [] name arguments fun _ operands => do
    match operands with
    | [] => misuse 1 name [words "missing operand"]
    | [text] => do
        let machine ← get
        succeed
        settle name (match machine.tree.findName machine.directory (pathOf text) with
          | .ok (_, .directory _) => .error (faultWith "cannot unlink" text .isDirectory)
          | .ok (location, _) =>
              if machine.tree.mayChange location then .ok (machine.tree.erase location)
              else .error (faultWith "cannot unlink" text .denied)
          | .error error => .error (faultWith "cannot unlink" text error))
    | _ :: extra :: _ => misuse 1 name [words "extra operand " ++ cited extra]

/-! The parts of a path, and where it leads. -/

def baseOf (text : Text) : Text :=
  if !text.isEmpty && text.all (· = '/') then ['/'] else lastName text

def withoutEnding (ending name : Text) : Text :=
  if ending.isSuffixOf name && ending.length < name.length then
    name.take (name.length - ending.length)
  else name

def baseName (name : Text) (arguments : List Text) : Running Unit :=
  withLeadingOptions 1 [flag 'a' "multiple", textual 's' "suffix", flag 'z' "zero"] name arguments
    fun options operands =>
      let suffix := optionText? options 's'
      let write (operands : List Text) (ending : Text) : Running Unit := do
        succeed
        for operand in operands do
          say (withoutEnding ending (baseOf operand) ++ lineEnd options)
      if operands.isEmpty then missingOperand name
      else if hasOption options 'a' || suffix.isSome then write operands (suffix.getD [])
      else
        match operands with
        | _ :: _ :: extra :: _ => extraOperand name extra
        | operand :: rest => write [operand] (rest.head?.getD [])
        | [] => return ()

def directoryOf (text : Text) : Text :=
  let trim (text : Text) : Text := (text.reverse.dropWhile (· = '/')).reverse
  let trimmed := trim text
  let above := trimmed.take (trimmed.length - (lastName trimmed).length)
  if trimmed.isEmpty then if text.isEmpty then ['.'] else ['/']
  else if above.isEmpty then ['.']
  else if (trim above).isEmpty then ['/']
  else trim above

def directoryName (name : Text) (arguments : List Text) : Running Unit :=
  withLeadingOptions 1 [flag 'z' "zero"] name arguments fun options operands => do
    if operands.isEmpty then missingOperand name
    else
      succeed
      for operand in operands do
        say (directoryOf operand ++ lineEnd options)

/-! Where paths lead. -/

inductive Presence where
  | whole
  | allButLast
  | nothing
  deriving DecidableEq, Repr

def walkLoosely (tree : FileTree) : Nat → Nat → Location → List Component →
    Except HostError Location
  | 0, _, _, _ => .error .tooManyLinks
  | _ + 1, _, start, [] => .ok start
  | fuel + 1, links, start, move :: rest =>
      match move with
      | .root => walkLoosely tree fuel links [] rest
      | .current => walkLoosely tree fuel links start rest
      | .parent => walkLoosely tree fuel links start.dropLast rest
      | .named name =>
          match tree.node? (start ++ [name]) with
          | some (.link target) =>
              if links = 0 then .error .tooManyLinks
              else
                walkLoosely tree fuel (links - 1) start (Path.components ⟨target⟩ ++ rest)
          | _ => walkLoosely tree fuel links (start ++ [name]) rest

def resolved (machine : Machine) (presence : Presence) (text : Text) : Except HostError Location :=
  let tree := machine.tree
  let trimmed := (text.reverse.dropWhile (· = '/')).reverse
  let body := if trimmed.isEmpty then text else trimmed
  match presence with
  | .whole => (tree.find machine.directory (pathOf text)).map (·.1)
  | .allButLast =>
      match tree.follow .content machine.directory (pathOf body) with
      | .error error => .error error
      | .ok location =>
          match tree.node? location with
          | none | some (.directory _) => .ok location
          | some _ => if endsInSlash text then .error .notDirectory else .ok location
  | .nothing =>
      if text.isEmpty then .error .missing
      else
        walkLoosely tree (4096 * 41) FileTree.linkLimit machine.directory
          (pathOf text).components

def presenceOf (options : List (Char × Text)) (usual : Option Presence) : Option Presence :=
  match (options.filter fun entry => "fem".contains entry.1).getLast?.map (·.1) with
  | some 'f' => some .allButLast
  | some 'e' => some .whole
  | some 'm' => some .nothing
  | _ => usual

def readLink (name : Text) (arguments : List Text) : Running Unit :=
  withOptions 1 [flag 'f' "canonicalize", flag 'e' "canonicalize-existing",
    flag 'm' "canonicalize-missing", flag 'n' "no-newline", flag 'q' "quiet", flag 's' "silent",
    flag 'v' "verbose", flag 'z' "zero"] name arguments fun options operands => do
      if operands.isEmpty then missingOperand name
      else
        let ending := if hasOption options 'n' && operands.length = 1 then [] else lineEnd options
        let tells := (options.filter fun entry => "qsv".contains entry.1).getLast?.map (·.1)
        forEach operands fun operand => do
          let machine ← get
          let refused (fault : Text) : Running Unit :=
            if tells = some 'v' then blame 1 name (named operand ++ words ": " ++ fault)
            else modify fun machine => machine.fail 1
          match presenceOf options none with
          | some presence =>
              match resolved machine presence operand with
              | .ok location => say (Builtin.locationText location ++ ending)
              | .error error => refused (Machine.plainWording error)
          | none =>
              match machine.tree.findName machine.directory (pathOf operand) with
              | .ok (_, .link target) => say (Text.ofOctets target ++ ending)
              | .ok _ => refused (words "Invalid argument")
              | .error error => refused (Machine.plainWording error)

def realPath (name : Text) (arguments : List Text) : Running Unit :=
  withOptions 1 [flag 'e' "canonicalize-existing", flag 'm' "canonicalize-missing",
    flag 'L' "logical", flag 'P' "physical", flag 'q' "quiet", flag 's' "strip",
    longOnly 's' "no-symlinks" .nothing, flag 'z' "zero", longOnly '\x03' "relative-to" .text,
    longOnly '\x04' "relative-base" .text] name arguments fun options operands => do
      if operands.isEmpty then missingOperand name
      else
        let presence := (presenceOf options none).getD .allButLast
        let machine ← get
        let lead (text : Text) : Except HostError Location :=
          if hasOption options 's' && !text.isEmpty then
            let path := Builtin.resolve (Builtin.locationText machine.directory) text
            .ok ((Path.segments path.toOctets).filter fun part => !part.isEmpty)
          else resolved machine presence text
        let isWithin (base : Text) (location : Location) : Bool :=
          match lead base with
          | .ok place => place.isPrefixOf location
          | .error _ => false
        let base := optionText? options '\x04'
        let start := (optionText? options '\x03').or base
        forEach operands fun operand => do
          match lead operand with
          | .error error =>
              if hasOption options 'q' then modify fun machine => machine.fail 1
              else blame 1 name (named operand ++ words ": " ++ Machine.plainWording error)
          | .ok location =>
              let relative? := (start.filter fun _ => base.all fun base => isWithin base location)
              let shown :=
                match relative?.map lead with
                | some (.ok place) => Text.ofOctets (relativeText place location)
                | _ => Builtin.locationText location
              say (shown ++ lineEnd options)

def workingDirectory (name : Text) (arguments : List Text) : Running Unit :=
  withOptions 1 [flag 'L' "logical", flag 'P' "physical"] name arguments fun options operands => do
    let machine ← get
    succeed
    if !operands.isEmpty then
      complain 0 [name ++ words ": ignoring non-option arguments"]
    let shown? := (machine.valueOf? (words "PWD")).filter fun text =>
      Builtin.isShown machine text && (text.splitOn '/').all fun part =>
        part ≠ ['.'] && part ≠ ['.', '.']
    let isLogical := options.getLast?.map (·.1) = some 'L'
    let shown :=
      if isLogical then shown?.getD (Builtin.locationText machine.directory)
      else Builtin.locationText machine.directory
    say (shown ++ ['\n'])

end ArtifactTools.Shell.Native
