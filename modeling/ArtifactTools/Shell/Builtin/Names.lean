import ArtifactTools.Shell.Builtin.Basic
import ArtifactTools.Shell.Lookup

/-! The shell's own commands that tell what names stand for. -/

namespace ArtifactTools.Shell.Builtin

def showAlias (name value : Text) : Text := name ++ '=' :: quoted value

def aliasPlace (name : Text) : Nat :=
  ((name.head?.map (·.toNat)).getD 0 * 16 + (name.map (·.toNat)).foldl (· + ·) 0) % 39

def aliasNames (arguments : List Text) : Doing Nat := do
  if arguments.isEmpty then
    let listed := (← get).aliases.mergeSort fun first second =>
      decide (aliasPlace first.1 ≤ aliasPlace second.1)
    for (name, value) in listed do Doing.sayLine (showAlias name value)
    return 0
  let statuses ← arguments.mapM fun word => do
    let rest := (word.drop 1).takeWhile (· ≠ '=')
    let name := word.take 1 ++ rest
    let machine ← get
    match word.drop name.length with
    | '=' :: value =>
        let entry := (name, value)
        let changed := machine.aliases.map fun other => if other.1 = name then entry else other
        let isKnown := (machine.aliases.lookup name).isSome
        set { machine with aliases := if isKnown then changed else machine.aliases ++ [entry] }
        return 0
    | _ =>
        match machine.aliases.lookup word with
        | some value =>
            Doing.sayLine (showAlias word value)
            return 0
        | none =>
            Doing.remark (words "alias: " ++ word ++ words " not found")
            return 1
  return statuses.foldl max 0

def unalias (arguments : List Text) : Doing Nat := do
  let (found, names) ← Doing.options [('a', false)] arguments
  if !found.isEmpty then
    modify fun machine => { machine with aliases := [] }
    return 0
  let statuses ← names.mapM fun name => do
    let machine ← get
    if (machine.aliases.lookup name).isSome then
      set { machine with aliases := machine.aliases.filter fun entry => entry.1 ≠ name }
      return 0
    else
      Doing.remark (words "unalias: " ++ name ++ words " not found")
      return 1
  return statuses.foldl max 0

def Meaning.sentence : Meaning → Text
  | .keyword => words " is a shell keyword"
  | .replaced text => words " is an alias for " ++ text
  | .special => words " is a special shell builtin"
  | .ordinary => words " is a shell builtin"
  | .function _ => words " is a shell function"
  | .file path => words " is " ++ path

/-- Tells what a name stands for, in a sentence or as it may be used. Programs are looked for along
a path that is given, or else where they are searched, which is kept track of. -/
def describe (inSentence : Bool) (path : Option Text) (name : Text) : Doing Nat := do
  let machine ← get
  let isTracked := path.isNone && (machine.trackOf? name).isSome
  let meaning? ←
    match meaning? machine name, path with
    | some meaning, _ => pure (some meaning)
    | none, some path =>
        match placesOf machine name .missing (searchedIn (some path)) with
        | .ok (place :: _) => pure (some (.file (pathIn place name)))
        | _ => pure none
    | none, none =>
        match machine.trackOf? name with
        | some known => pure (some (.file known.path))
        | none => do
            let (found, machine) := machine.locate name
            set machine
            pure (found.toOption.map fun found => .file found.path)
  match meaning?, inSentence with
  | none, true =>
      Doing.sayLine (name ++ words ": not found")
      return 127
  | none, false => return 127
  | some (.file path), true =>
      let title := if isTracked then " is a tracked alias for " else " is "
      Doing.sayLine (name ++ words title ++ path)
      return 0
  | some meaning, true =>
      Doing.sayLine (name ++ Meaning.sentence meaning)
      return 0
  | some (.replaced text), false =>
      Doing.sayLine (words "alias " ++ showAlias name text)
      return 0
  | some (.file path), false =>
      Doing.sayLine path
      return 0
  | some _, false =>
      Doing.sayLine name
      return 0

def describeAll (names : List Text) : Doing Nat := do
  return (← names.mapM (describe true none)).foldl (· ||| ·) 0

def describeCommand (arguments : List Text) : Doing Nat := do
  let (found, names) ←
    Doing.options [('p', false), ('v', false), ('V', false)] arguments
  let letters := found.map (·.1)
  let path := if letters.contains 'p' then some (usualPath .plain) else none
  match names with
  | [] => return 0
  | name :: _ =>
      if letters.contains 'V' then describe true path name
      else if letters.contains 'v' then describe false path name
      else return 0

def hash (arguments : List Text) : Doing Nat := do
  let (found, names) ← Doing.options [('r', false)] arguments
  if !found.isEmpty then
    modify fun machine => { machine with tracked := [] }
    return 0
  if names.isEmpty then
    for entry in (← get).tracks do
      Doing.sayLine (entry.path ++ (if entry.isDoubtful then ['*'] else []))
    return 0
  let statuses ← names.mapM fun name => do
    let machine := (← get).forgetTrack name
    set machine
    if name.contains '/' || isSpecial name || isOrdinary name ||
        (machine.functions.lookup name).isSome then return 0
    match machine.locate name with
    | (.ok _, machine) => do
        set machine
        return 0
    | (.error error, _) =>
        Doing.complain (name ++ words ": " ++ Machine.wording "not found" error)
        return 1
  return statuses.foldl max 0

end ArtifactTools.Shell.Builtin
