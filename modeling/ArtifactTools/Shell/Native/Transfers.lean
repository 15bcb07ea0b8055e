import ArtifactTools.Shell.Native.Files
import ArtifactTools.Shell.Native.Names

/-! Programs that copy and move files. The last operand is the destination: a directory that the
files go into under their own names, or a new name. -/

namespace ArtifactTools.Shell.Native

inductive Replacing where
  | all
  | older
  | none
  deriving DecidableEq, Repr

/-- How files are copied or moved: with all that is in directories, what links lead to, of those that
are named or of all; over what cannot be opened, not over what is there, with a question, after
taking away what is there; as links, symbolic or not; with a line on each; with their modes and
times; and with the old file put aside. -/
structure Transfer where
  isRecursive : Bool
  followsNamed : Bool
  followsLinks : Bool
  isForced : Bool
  keepsOld : Bool
  asks : Bool
  replacesOld : Bool
  linking : Option Bool
  replacing : Replacing
  tells : Bool
  preserves : Bool
  backup : Option Text

def sameFile (source target : Text) : Text :=
  quotedName source ++ words " and " ++ quotedName target ++ words " are the same file"

def overDirectory (source target : Text) : Text :=
  words "cannot overwrite non-directory " ++ quotedName target ++ words " with directory " ++
    quotedName source

def overFile (target : Text) : Text :=
  words "cannot overwrite directory " ++ quotedName target ++ words " with non-directory"

def refusedMove : Running Unit := modify fun machine => machine.fail 1

def tellTransfer (transfer : Transfer) (start : String) (source target : Text)
    (aside : Option Text) : Running Unit :=
  if transfer.tells then
    let after := (aside.map fun text => words " (backup: " ++ quotedName text ++ [')']).getD []
    say (words start ++ quotedName source ++ words " -> " ++ quotedName target ++ after ++ ['\n'])
  else return ()

def placeLink (isSymbolic : Bool) (machine : Machine) (node : Node) (source target : Text) :
    Except Text FileTree :=
  let cannot (error : HostError) : Text :=
    words (if isSymbolic then "cannot create symbolic link " else "cannot create hard link ") ++
      quotedName target ++ words " to " ++ quotedName source ++ words ": " ++
        Machine.plainWording error
  if isSymbolic then
    (machine.tree.makeLink machine.directory source.toOctets (pathOf target)).mapError cannot
  else (machine.tree.makeNode machine.directory (pathOf target) node).mapError cannot

def preserve (node : Node) (target : Text) : Running Unit := do
  let machine ← get
  match machine.tree.findName machine.directory (pathOf target) with
  | .error _ => return ()
  | .ok (location, copy) =>
      let tree := withMode machine.tree location (modeOf machine.tree node)
      let tree :=
        match tree.fileOf? node, copy with
        | some file, .file number =>
            tree.modifyFile number fun copy => { copy with modified := file.modified }
        | _, _ => tree
      set (machine.withTree tree)

def copyContent (transfer : Transfer) (name source target : Text) (mode : Nat) : Running Unit := do
  let machine ← get
  let isNew := !machine.tree.holds machine.directory (pathOf target)
  let open? : Running (Except HostError Nat) := do
    let machine ← get
    let descriptor := machine.freeFrom 3
    match ← Running.openToWrite descriptor target ⟨false, false, false⟩ with
    | .error error => return .error error
    | .ok () => return .ok descriptor
  match ← contentOf (if source = ['-'] then words "./-" else source) with
  | .error error =>
      blame 1 name (words "cannot open " ++ quotedName source ++ words " for reading: " ++
        Machine.plainWording error)
  | .ok content => do
      let opened ← open?
      let opened ←
        match opened with
        | .error error =>
            match machine.tree.findName machine.directory (pathOf target) with
            | .ok (location, .file _) =>
                if transfer.isForced && machine.tree.mayChange location then do
                  modify fun machine => machine.withTree (machine.tree.erase location)
                  open?
                else pure (.error error)
            | _ => pure (.error error)
        | opened => pure opened
      match opened with
      | .error error =>
          let error := if error = .isDirectory then .notDirectory else error
          blame 1 name (faultWith "cannot create regular file" target error)
      | .ok descriptor => do
          modify fun machine => (machine.write descriptor content).getD machine
          Running.settleOutput
          closeOperand descriptor
          let machine ← get
          if isNew then
            match machine.tree.find machine.directory (pathOf target) with
            | .ok (location, .file _) =>
                set (machine.withTree (withMode machine.tree location (machine.masked mode)))
            | _ => return ()

def copyFile (transfer : Transfer) (name source target : Text) (location : Location)
    (node : Node) : Running Unit := do
  let machine ← get
  let tree := machine.tree
  let old := tree.find machine.directory (pathOf target)
  let oldName := tree.findName machine.directory (pathOf target)
  let isThere := old.toOption.isSome
  let isSame : Bool :=
    match old, node with
    | .ok (_, .file found), .file number => found = number
    | .ok (place, _), _ => place = location
    | .error _, _ => false
  let isOlder : Bool :=
    match old.toOption.bind fun found => tree.fileOf? found.2, tree.fileOf? node with
    | some found, some file => found.modified < file.modified
    | _, _ => true
  let isDangling := !isThere && oldName.toOption.isSome
  let replacesLink := transfer.replacesOld || transfer.backup.isSome
  if isThere && transfer.replacing = .none then return ()
  else if isThere && transfer.keepsOld then return ()
  else if isSame && !(replacesLink && (linkAt? machine target).isSome) &&
      !(transfer.backup.isSome && transfer.isForced) then
    if transfer.linking = some false then return ()
    else blame 1 name (sameFile source target)
  else if old matches .ok (_, .directory _) then blame 1 name (overFile target)
  else if isThere && transfer.replacing = .older && !isOlder then return ()
  else if let .error .notDirectory := old then
    blame 1 name (faultWith "cannot stat" target .notDirectory)
  else if let .error .tooManyLinks := old then
    blame 1 name (faultWith "cannot stat" target .tooManyLinks)
  else do
    let agreed ←
      if isThere && transfer.asks then
        confirm (name ++ words ": overwrite " ++ quotedName target ++ words "? ")
      else pure true
    if !agreed then refusedMove
    else
      let aside ←
        match oldName, transfer.backup with
        | .ok (place, _), some ending => some <$> putAside ending target place
        | _, _ => pure none
      if aside.isNone && transfer.replacesOld then
        modify fun machine =>
          match machine.tree.findName machine.directory (pathOf target) with
          | .ok (_, .directory _) | .error _ => machine
          | .ok (place, _) => machine.withTree (machine.tree.erase place)
      let isDangling := isDangling && aside.isNone && !transfer.replacesOld
      if isDangling && (transfer.linking.isSome || node matches .link _) then
        blame 1 name (sameFile source target)
      else if isDangling then
        blame 1 name (words "not writing through dangling symlink " ++ quotedName target)
      else do
        tellTransfer transfer "" source target aside
        let machine ← get
        match transfer.linking, node with
        | some isSymbolic, node => settle name (placeLink isSymbolic machine node source target)
        | none, .link text =>
            settle name ((machine.tree.makeLink machine.directory text (pathOf target)).mapError
              (faultWith "cannot create symbolic link" target))
        | none, .pipe number mode =>
            if transfer.isRecursive then do
              let (_, machine) := machine.newPipe []
              settle name ((machine.tree.makeNode machine.directory (pathOf target)
                (.pipe number mode)).mapError (faultWith "cannot create fifo" target))
            else copyContent transfer name source target mode
        | none, node => do
            copyContent transfer name source target (modeOf machine.tree node)
            if transfer.preserves then preserve node target

def copyTree (transfer : Transfer) (name : Text) :
    Nat → Bool → Text → Text → Running Unit
  | 0, _, _, _ => return ()
  | depth + 1, isNamed, source, target => do
      let machine ← get
      let tree := machine.tree
      let follows := transfer.followsLinks || (isNamed && transfer.followsNamed)
      let found :=
        if follows then tree.find machine.directory (pathOf source)
        else tree.findName machine.directory (pathOf source)
      match found with
      | .error error => blame 1 name (faultWith "cannot stat" source error)
      | .ok (location, .directory mode) =>
          if !transfer.isRecursive then
            blame 1 name (words "-r not specified; omitting directory " ++ quotedName source)
          else
            match tree.locate machine.directory (pathOf target) with
            | .error error => blame 1 name (faultWith "cannot create directory" target error)
            | .ok place =>
                if location.isPrefixOf place then
                  blame 1 name (words "cannot copy a directory, " ++ quotedName source ++
                    words ", into itself, " ++ quotedName target)
                else
                  match tree.find machine.directory (pathOf target) with
                  | .ok (_, .directory _) | .error .missing => do
                      let isNew := (tree.node? place).isNone
                      let made : Except HostError FileTree :=
                        if isNew then
                          tree.makeDirectory machine.directory (pathOf target)
                            (machine.masked mode ||| 0o700)
                        else .ok tree
                      match made with
                      | .error error =>
                          blame 1 name (faultWith "cannot create directory" target error)
                      | .ok tree => do
                          set (machine.withTree tree)
                          if isNew then tellTransfer transfer "" source target none
                          if !FileTree.allows mode FileTree.readBit then
                            blame 1 name (words "cannot access " ++ quotedName source ++
                              words ": " ++ Machine.plainWording .denied)
                          else
                            let depthOf := location.length
                            let names := tree.nodes.filterMap fun entry =>
                              match entry.1.drop depthOf with
                              | [found] => if location.isPrefixOf entry.1 then some found else none
                              | _ => none
                            let below (text : Text) (found : Octets) : Text :=
                              (if endsInSlash text then text else text ++ ['/']) ++
                                Text.ofOctets found
                            for found in names do
                              copyTree transfer name depth false (below source found)
                                (below target found)
                          modify fun machine =>
                            let mode := if transfer.preserves then mode else machine.masked mode
                            if isNew then machine.withTree (withMode machine.tree place mode)
                            else machine
                  | .ok _ => blame 1 name (overDirectory source target)
                  | .error error =>
                      blame 1 name (faultWith "cannot create directory" target error)
      | .ok (location, node) => copyFile transfer name source target location node

def copyOne (transfer : Transfer) (name source target : Text) : Running Unit := do
  copyTree transfer name ((← get).tree.nodes.length + 2) true source target

def moveOne (transfer : Transfer) (name source target : Text) : Running Unit := do
  let machine ← get
  let tree := machine.tree
  let cannot (fault : Text) : Running Unit :=
    blame 1 name (words "cannot move " ++ quotedName source ++ words " to " ++
      quotedName target ++ words ": " ++ fault)
  let intoItself := words "cannot move " ++ quotedName source ++
    words " to a subdirectory of itself, " ++ quotedName target
  match tree.findName machine.directory (pathOf source) with
  | .error error => blame 1 name (faultWith "cannot stat" source error)
  | .ok (location, node) =>
      let isDirectory := FileTree.isDirectory node
      match tree.locate machine.directory (pathOf target) with
      | .error .notDirectory => blame 1 name (faultWith "cannot stat" target .notDirectory)
      | .error error =>
          if target.isEmpty && !isDirectory then blame 1 name (overFile target)
          else cannot (Machine.plainWording error)
      | .ok place =>
          let old := tree.node? place
          let isOlder : Bool :=
            match old.bind tree.fileOf?, tree.fileOf? node with
            | some found, some file => found.modified < file.modified
            | _, _ => true
          let move : Running Unit := do
            let agreed ←
              if old.isSome && transfer.asks then
                confirm (name ++ words ": overwrite " ++ quotedName target ++ words "? ")
              else pure true
            if !agreed then refusedMove
            else if !tree.mayChange location || !tree.mayChange place then
              cannot (Machine.plainWording .denied)
            else
              let aside ←
                match old, transfer.backup with
                | some _, some ending => some <$> putAside ending target place
                | _, _ => pure none
              modify fun machine =>
                machine.withTree
                  (((machine.tree.erase place).copy location place).erase location)
              tellTransfer transfer "renamed " source target aside
          let leadsToTarget :=
            match node, tree.find machine.directory (pathOf source) with
            | .link _, .ok (found, _) => found = place
            | _, _ => false
          let last := lastName source
          if isDirectory && (last = ['.'] || last = ['.', '.']) then
            cannot (words "Device or resource busy")
          else if isDirectory && endsInSlash source && (linkAt? machine source).isSome then
            cannot (Machine.plainWording .notDirectory)
          else if old.isSome && transfer.replacing = .none && place ≠ location then return ()
          else if old.isSome && transfer.keepsOld && place ≠ location then
            blame 1 name (words "not replacing " ++ quotedName target)
          else if old.isSome && transfer.replacing = .older && !isOlder then return ()
          else
            match node, old with
            | .directory _, none => if location.isPrefixOf place then blame 1 name intoItself else move
            | .directory _, some (.directory _) =>
                if location.isPrefixOf place then blame 1 name intoItself
                else if isEmptyDirectory tree place || transfer.backup.isSome then move
                else
                  blame 1 name (words "cannot overwrite " ++ quotedName target ++
                    words ": Directory not empty")
            | .directory _, some _ => blame 1 name (overDirectory source target)
            | _, some (.directory _) => blame 1 name (overFile target)
            | node, found =>
                let isSame := place = location || leadsToTarget ||
                  (found = some node && (node matches .file _))
                if isSame then blame 1 name (sameFile source target)
                else if endsInSlash target then
                  if found.isNone then cannot (Machine.plainWording .notDirectory)
                  else blame 1 name (faultWith "cannot stat" target .notDirectory)
                else move

/-- Runs a program that brings files to their destination, which is the last operand unless it is
given apart. -/
def bring (name : Text) (operands : List Text) (directory? : Option Text) (isName : Bool)
    (act : Text → Text → Running Unit) : Running Unit := do
  let machine ← get
  let into (directory : Text) (source : Text) : Running Unit :=
    let start := if endsInSlash directory then directory else directory ++ ['/']
    act source (start ++ lastName source)
  let isPlace (text : Text) : Bool := machine.tree.holdsDirectory machine.directory (pathOf text)
  let refused (what : String) (place : Text) : Running Unit :=
    let error : HostError :=
      match machine.tree.find machine.directory (pathOf place) with
      | .ok _ => .notDirectory
      | .error error => error
    blame 1 name (faultWith what place error)
  match directory?, operands.reverse with
  | _, [] => misuse 1 name [words "missing file operand"]
  | some directory, _ =>
      if isPlace directory then forEach operands (into directory)
      else refused "target directory" directory
  | none, [only] => misuse 1 name [words "missing destination file operand after " ++ quotedName only]
  | none, [last, source] =>
      if isPlace last && !isName then forEach [source] (into last)
      else forEach [source] fun source => act source last
  | none, last :: sources =>
      if isName then misuse 1 name [words "extra operand " ++ quotedName (operands.getD 2 [])]
      else if isPlace last then forEach sources.reverse (into last)
      else refused "target" last

def replacingOf (options : List (Char × Text)) : Replacing :=
  match (options.filter fun entry => entry.1 = 'u' || entry.1 = '\x06').getLast? with
  | none => .all
  | some ('u', _) => .older
  | some (_, text) =>
      match String.ofList text with
      | "all" => .all
      | "none" => .none
      | _ => .older

def copy (name : Text) (arguments : List Text) : Running Unit :=
  withOptions 1 [flag 'r' "recursive", flag 'R' "", flag 'a' "archive", flag 'f' "force",
    flag 'p' "", flag 'i' "interactive", flag 'n' "no-clobber", flag 'u' "", flag 'v' "verbose",
    flag 'L' "dereference", flag 'P' "no-dereference", flag 'H' "", flag 'd' "",
    flag 'l' "link", flag 's' "symbolic-link", flag 'T' "no-target-directory", flag 'b' "",
    flag 'x' "one-file-system", flag 'Z' "", textual 't' "target-directory", textual 'S' "suffix",
    longOnly '\x03' "remove-destination" .nothing, longOnly '\x04' "preserve" .ownText,
    longOnly '\x05' "reflink" .ownText, longOnly '\x06' "update" .ownText,
    longOnly '\x07' "no-preserve" .text, longOnly '\x08' "sparse" .text,
    longOnly '\x0b' "parents" .nothing, longOnly '\x0e' "backup" .ownText,
    longOnly '\x0f' "strip-trailing-slashes" .nothing, longOnly '\x10' "attributes-only" .nothing]
    name arguments fun options operands => do
      let has := hasOption options
      let isRecursive := has 'r' || has 'R' || has 'a'
      let latest := (options.filter fun entry => "LPHda".contains entry.1).getLast?.map (·.1)
      let followsLinks :=
        match latest with
        | some 'L' => true
        | some _ => false
        | none => !isRecursive || has 'l'
      let linking := if has 's' then some true else if has 'l' then some false else none
      let transfer : Transfer :=
        { isRecursive
          followsNamed := latest = some 'H'
          followsLinks
          isForced := has 'f'
          keepsOld := has 'n'
          asks := has 'i' && !has 'n'
          replacesOld := has '\x03'
          linking
          replacing := replacingOf options
          tells := has 'v'
          preserves := has 'p' || has 'a' || has '\x04'
          backup := backupEnding? options }
      if has 'n' then
        complain 0 [name ++ words ": warning: behavior of -n is non-portable and may change in " ++
          words "future; use --update=none instead"]
      if has '\x0b' then
        let machine ← get
        let directory := (optionText? options 't').getD (operands.getLast?.getD [])
        let sources := if (optionText? options 't').isSome then operands else operands.dropLast
        if !machine.tree.holdsDirectory machine.directory (pathOf directory) then
          misuse 1 name [words "with --parents, the destination must be a directory"]
        else
          forEach sources fun source => do
            let start := if endsInSlash directory then directory else directory ++ ['/']
            for above in pathsAbove source do
              let machine ← get
              let place := start ++ above
              if !machine.tree.holdsDirectory machine.directory (pathOf place) then
                settle name ((machine.tree.makeDirectory machine.directory (pathOf place)
                  machine.directoryMode).mapError (cannotMake place))
                if transfer.tells then say (above ++ words " -> " ++ place ++ ['\n'])
            copyOne transfer name source (start ++ source)
      else
        bring name operands (optionText? options 't') (has 'T') (copyOne transfer name)

def move (name : Text) (arguments : List Text) : Running Unit :=
  withOptions 1 [flag 'f' "force", flag 'i' "interactive", flag 'n' "no-clobber", flag 'u' "",
    flag 'v' "verbose", flag 'T' "no-target-directory", flag 'b' "", flag 'Z' "",
    textual 't' "target-directory", textual 'S' "suffix", longOnly '\x06' "update" .ownText,
    longOnly '\x0e' "backup" .ownText, longOnly '\x0f' "strip-trailing-slashes" .nothing]
    name arguments fun options operands =>
      let latest := (options.filter fun entry => "fin".contains entry.1).getLast?.map (·.1)
      let transfer : Transfer :=
        { isRecursive := true
          followsNamed := false
          followsLinks := false
          isForced := latest = some 'f'
          keepsOld := latest = some 'n'
          asks := latest = some 'i'
          replacesOld := true
          linking := none
          replacing := replacingOf options
          tells := hasOption options 'v'
          preserves := true
          backup := backupEnding? options }
      let bare (operand : Text) : Text :=
        if hasOption options '\x0f' then (operand.reverse.dropWhile (· = '/')).reverse else operand
      bring name (operands.map bare) (optionText? options 't') (hasOption options 'T')
        (moveOne transfer name)

def install (name : Text) (arguments : List Text) : Running Unit :=
  withOptions 1 [flag 'd' "directory", flag 'D' "", textual 'm' "mode", flag 'v' "verbose",
    flag 'T' "no-target-directory", textual 't' "target-directory", flag 'p' "preserve-timestamps",
    flag 'c' "", flag 's' "strip", flag 'C' "compare", textual 'o' "owner", textual 'g' "group",
    flag 'b' "", textual 'S' "suffix", longOnly '\x0e' "backup" .ownText]
    name arguments fun options operands => do
      let mode := (optionText? options 'm').getD ['7', '5', '5']
      let tells := hasOption options 'v'
      let makeAbove (mode : Nat) : Text → Running Unit :=
        makeOne name (words "creating directory") true tells mode
      match readMode? mode with
      | none => blame 1 name (words "invalid mode " ++ cited mode)
      | some changes =>
          if hasOption options 'd' then
            if operands.isEmpty then misuse 1 name [words "missing file operand"]
            else forEach operands (makeAbove (applyMode changes true 0 0))
          else
            if let (true, some directory) := (hasOption options 'D', optionText? options 't') then
              makeAbove 0o755 directory
            bring name operands (optionText? options 't') (hasOption options 'T')
              fun source target => do
                let above := (pathsAbove target).getLast?
                if hasOption options 'D' then above.toList.forM (makeAbove 0o755)
                let machine ← get
                match machine.tree.find machine.directory (pathOf source) with
                | .error error => blame 1 name (faultWith "cannot stat" source error)
                | .ok (_, .directory _) =>
                    blame 1 name (words "omitting directory " ++ quotedName source)
                | .ok (location, node) => do
                    let transfer : Transfer :=
                      ⟨false, true, true, false, false, false, true, none, .all, tells, false,
                        backupEnding? options⟩
                    copyFile transfer name source target location node
                    let machine ← get
                    match machine.tree.find machine.directory (pathOf target) with
                    | .ok (place, .file number) =>
                        let tree := withMode machine.tree place (applyMode changes false 0 0)
                        let tree :=
                          match hasOption options 'p', tree.fileOf? node with
                          | true, some file =>
                              tree.modifyFile number fun copy =>
                                { copy with modified := file.modified }
                          | _, _ => tree
                        set (machine.withTree tree)
                    | _ => return ()

end ArtifactTools.Shell.Native
