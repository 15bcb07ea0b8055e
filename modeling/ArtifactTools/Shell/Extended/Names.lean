import ArtifactTools.Shell.Builtin.Names
import ArtifactTools.Shell.Extended.Doing
import ArtifactTools.Shell.Quoting

/-! The commands of the extended dialect that tell what names stand for. -/

namespace ArtifactTools.Shell.Extended

/-! Aliases. -/

def aliasLine (name value : Text) : Text := words "alias " ++ name ++ '=' :: Quoting.single value

def isAliasName (name : Text) : Bool :=
  !name.isEmpty && name.all fun character => !" \t\n;&|<>()\\'\"\x60$/".contains character

def setAlias (name value : Text) : Doing Unit := do
  let machine ← get
  let others := machine.aliases.filter fun entry => entry.1 ≠ name
  set { machine with aliases := others ++ [(name, value)] }

def aliasNames (arguments : List Text) : Doing Nat := do
  match ← options [('p', false)] "[-p] [name[=value] ... ]" arguments with
  | none => return 2
  | some (found, names) => do
      if names.isEmpty || has found 'p' then
        let listed := (← get).aliases.mergeSort fun first second =>
          decide (first.1.toOctets ≤ second.1.toOctets)
        for (name, value) in listed do Doing.sayLine (aliasLine name value)
      forEach names fun word => do
        let name := word.takeWhile (· ≠ '=')
        match name.isEmpty, word.drop name.length with
        | false, '=' :: value =>
            if isAliasName name then
              setAlias name value
              return 0
            else refuse 1 (('\x60' :: name) ++ words "': invalid alias name")
        | _, _ =>
            match (← get).aliases.lookup word with
            | some value =>
                Doing.sayLine (aliasLine word value)
                return 0
            | none => refuse 1 (word ++ words ": not found")

def unalias (arguments : List Text) : Doing Nat := do
  match ← options [('a', false)] "[-a] name [name ...]" arguments with
  | none => return 2
  | some (found, names) => do
      if has found 'a' then
        modify fun machine => { machine with aliases := [] }
        return 0
      if names.isEmpty then return ← usage "[-a] name [name ...]"
      forEach names fun name => do
        let machine ← get
        if (machine.aliases.lookup name).isNone then return ← refuse 1 (name ++ words ": not found")
        set { machine with aliases := machine.aliases.filter fun entry => entry.1 ≠ name }
        return 0

/-! What names stand for. -/

inductive Sense where
  | replaced (text : Text)
  | keyword
  | function
  | own
  | tracked (path : Text)
  | file (path : Text)

def isKeyword (name : Text) : Bool :=
  Grammar.isReserved .extended name

def filesOf (machine : Machine) (path : Option Text) (name : Text) : List Text :=
  let runs (path : Text) : Bool :=
    match machine.tree.find machine.directory ⟨path.toOctets⟩ with
    | .ok (_, node) => machine.tree.runs node
    | _ => false
  if name.contains '/' then if runs name then [name] else []
  else
    let places := (searchedIn path).map fun place =>
      if place.isEmpty then words "./" ++ name else pathIn place name
    places.filter runs

def senses (machine : Machine) (path : Option Text) (withFunctions onlyFiles : Bool)
    (name : Text) : List Sense :=
  let known := (machine.trackOf? name).filter fun _ => path = machine.searchPath?
  let files := known.toList.map (Sense.tracked ·.path) ++
    (filesOf machine path name).map Sense.file
  if onlyFiles then files
  else
    let replaced : List Sense :=
      if machine.hasFeature "expand_aliases" then
        (machine.aliases.lookup name).toList.map Sense.replaced
      else []
    let keyword : List Sense := if isKeyword name then [.keyword] else []
    let function : List Sense :=
      if withFunctions && (machine.functions.lookup name).isSome then [.function] else []
    let own : List Sense := if isExtendedCommand name then [.own] else []
    replaced ++ keyword ++ function ++ own ++ files

def Sense.sentence (name : Text) : Sense → Text
  | .replaced text => name ++ words " is aliased to \x60" ++ text ++ ['\'']
  | .keyword => name ++ words " is a shell keyword"
  | .function => name ++ words " is a function"
  | .own => name ++ words " is a shell builtin"
  | .tracked path => name ++ words " is hashed (" ++ path ++ [')']
  | .file path => name ++ words " is " ++ path

def Sense.kind : Sense → String
  | .replaced _ => "alias"
  | .keyword => "keyword"
  | .function => "function"
  | .own => "builtin"
  | .tracked _ | .file _ => "file"

def Sense.reuse (name : Text) : Sense → Text
  | .replaced text => aliasLine name text
  | .tracked path | .file path => path
  | _ => name

def typeSynopsis : String := "[-afptP] name [name ...]"

def describeNames (arguments : List Text) : Doing Nat := do
  let allowed := [('a', false), ('f', false), ('p', false), ('t', false), ('P', false)]
  match ← options allowed typeSynopsis arguments with
  | none => return 2
  | some (found, names) => do
      let machine ← get
      let path := machine.searchPath?
      let last := (found.filter fun entry => "ptP".contains entry.1).getLast?.map (·.1)
      forEach names fun name => do
        let all := senses machine path (!has found 'f') (last = some 'P') name
        let isTracked (sense : Sense) : Bool := sense matches .tracked _
        let chosen := if has found 'a' then all.filter (!isTracked ·) else all.take 1
        if chosen.any isTracked then modify fun machine => machine.countTrack name
        for sense in chosen do
          match last, sense with
          | some 't', sense => Doing.sayLine (words sense.kind)
          | some _, .file path | some _, .tracked path => Doing.sayLine path
          | some _, _ => pure ()
          | none, sense => Doing.sayLine (sense.sentence name)
        if !chosen.isEmpty then return 0
        if last.isNone then Doing.complain (name ++ words ": not found")
        return 1

def commandSynopsis : String := "[-pVv] command [arg ...]"

def describeCommands (arguments : List Text) : Doing Nat := do
  match ← options [('p', false), ('v', false), ('V', false)] commandSynopsis arguments with
  | none => return 2
  | some (found, names) => do
      let machine ← get
      let path := if has found 'p' then some (usualPath .extended) else machine.searchPath?
      let inSentence := (found.filter fun entry => entry.1 ≠ 'p').getLast?.any (·.1 = 'V')
      if names.isEmpty then return 0
      let statuses ← names.mapM fun name => do
        match (senses machine path true false name).head? with
        | some sense =>
            Doing.sayLine (if inSentence then sense.sentence name else sense.reuse name)
            return 0
        | none =>
            if inSentence then Doing.complain (name ++ words ": not found")
            return 1
      return if statuses.contains 0 then 0 else 1

def ownSynopsis : String := "[shell-builtin [arg ...]]"

def nameOwn (arguments : List Text) : Doing Nat := do
  match ← options [] ownSynopsis arguments with
  | none => return 2
  | some _ => return 0

def hashSynopsis : String := "[-lr] [-p pathname] [-dt] [name ...]"

def trackLine (entry : Tracked) : Text :=
  let uses := Decimal.digits entry.uses
  List.replicate (4 - uses.length) ' ' ++ uses ++ '\t' :: entry.path

def trackCommand (entry : Tracked) : Text :=
  words "builtin hash -p " ++ entry.path ++ ' ' :: entry.name

def hash (arguments : List Text) : Doing Nat := do
  let allowed := [('l', false), ('r', false), ('p', true), ('d', false), ('t', false)]
  match ← options allowed hashSynopsis arguments with
  | none => return 2
  | some (found, names) => do
      if names.isEmpty then
        let needed := if has found 'd' then some 'd' else if has found 't' then some 't' else none
        if let some letter := needed then
          return ← refuse 1 (['-', letter] ++ words ": option requires an argument")
        if !has found 'r' then
          let entries := (← get).tracks
          if entries.isEmpty then Doing.sayLine (words "hash: hash table empty")
          else if has found 'l' then entries.forM fun entry => Doing.sayLine (trackCommand entry)
          else
            Doing.sayLine (words "hits\tcommand")
            entries.forM fun entry => Doing.sayLine (trackLine entry)
          return 0
      if has found 'r' then modify fun machine => { machine with tracked := [] }
      let refuseName (name : Text) : Doing Nat := refuse 1 (name ++ words ": not found")
      forEach names fun name => do
        let machine ← get
        if has found 't' then
          match machine.trackOf? name with
          | none => refuseName name
          | some entry => do
              modify fun machine => machine.countTrack name
              let title := if 1 < names.length then name ++ ['\t'] else []
              Doing.sayLine (if has found 'l' then trackCommand entry else title ++ entry.path)
              return 0
        else if name.contains '/' then return 0
        else if let some path := found.lookup 'p' then
          if Test.testFile machine 'd' path then refuse 1 (path ++ words ": Is a directory")
          else do
            set ((machine.forgetTrack name).keepTrack ⟨name, 0, path, 0, false⟩)
            return 0
        else if has found 'd' then
          if (machine.trackOf? name).isSome || machine.tracked.isEmpty then
            set (machine.forgetTrack name)
            return 0
          else refuseName name
        else if (machine.functions.lookup name).isSome || isExtendedCommand name then return 0
        else
          let (answer, machine) := (machine.forgetTrack name).locate name
          set machine
          match answer with
          | .ok _ => return 0
          | .error _ => refuseName name

def enableSynopsis : String := "[-a] [-dnps] [-f filename] [name ...]"

def listOwn (arguments : List Text) : Doing Nat := do
  let allowed := [('a', false), ('d', false), ('n', false), ('p', false), ('s', false),
    ('f', true)]
  match ← options allowed enableSynopsis arguments with
  | none => return 2
  | some (found, names) => do
      if names.isEmpty then
        for name in extendedCommands do
          let isListed := !has found 's' ||
            Grammar.specialCommands.contains name || name = "source"
          if !has found 'n' && isListed then Doing.sayLine (words ("enable " ++ name))
        return 0
      forEach names fun name => do
        if isExtendedCommand name then return 0
        else refuse 1 (name ++ words ": not a shell builtin")

def help (arguments : List Text) : Doing Nat := do
  let allowed := [('d', false), ('m', false), ('s', false)]
  match ← options allowed "[-dms] [pattern ...]" arguments with
  | none => return 2
  | some (_, names) =>
      match names.find? fun name => !isExtendedCommand name && !isKeyword name with
      | none => return 0
      | some _ =>
          let name := names.getLast?.getD []
          refuse 1 (words "no help topics match \x60" ++ name ++
            words "'.  Try \x60help help' or \x60man -k " ++ name ++ words "' or \x60info " ++
            name ++ words "'.")

end ArtifactTools.Shell.Extended
