import ArtifactTools.Shell.Declared
import ArtifactTools.Shell.Extended.Doing
import ArtifactTools.Shell.Grammar

/-! The commands of the extended dialect that declare variables, export or protect them, or take them
away. -/

namespace ArtifactTools.Shell.Extended

def keptNames : List String :=
  ["BASHOPTS", "BASHPID", "BASH_LINENO", "BASH_SOURCE", "BASH_SUBSHELL", "DIRSTACK", "FUNCNAME",
    "GROUPS", "LINENO", "PIPESTATUS", "SECONDS", "SHELLOPTS"]

def allVariables (machine : Machine) : List (Text × Variable) :=
  let kept := (keptNames.map words).filterMap fun name =>
    (machine.kept? name).map fun entry =>
      let isFixed := name = words "BASHOPTS" || name = words "SHELLOPTS"
      (name, { entry with isReadOnly := isFixed })
  let others := machine.bindings.filter fun entry => !keptNames.contains (String.ofList entry.1)
  (kept ++ others).mergeSort fun first second =>
    decide (first.1.toOctets ≤ second.1.toOctets)

def listDeclared (test : Variable → Bool) : Doing Nat := do
  for (name, entry) in allVariables (← get) do
    if test entry then Doing.sayLine (Declared.command name entry)
  return 0

def listValues : Doing Unit := do
  for (name, entry) in allVariables (← get) do
    if entry.value.isSome || entry.elements.isSome then
      Doing.sayLine (Declared.binding Quoting.listed name entry)

structure Target where
  name : Text
  subscript : Option Text
  appends : Bool
  value : Option Text

def Target.ofText (word : Text) : Target :=
  let start := word.takeWhile (· ≠ '=')
  let value? : Option Text :=
    match word.drop start.length with
    | '=' :: value => some value
    | _ => none
  let appends := value?.isSome && start.getLast? = some '+'
  let place := if appends then start.dropLast else start
  let (name, subscript) := Machine.splitSubscript place
  ⟨name, subscript, appends, value?⟩

def entriesOf? (text : Text) : Option (List Entry) :=
  match text with
  | '(' :: rest =>
      let plain (word : Word) : Text :=
        word.flatMap fun part =>
          match part with
          | .text characters _ => characters
          | _ => []
      match (Grammar.items (16 * rest.length + 64)).run (.ofText .extended rest 1 []) with
      | .error _ => none
      | .ok (items, _) =>
          some (items.map fun item =>
            match item with
            | .plain word => ⟨none, false, plain word⟩
            | .placed subscript appends word => ⟨some (plain subscript), appends, plain word⟩)
  | _ => none

structure Wish where
  on : List Char
  off : List Char

def readWish (allowed : String) : List Text → Except Text (Wish × List Text)
  | [] => .ok (⟨[], []⟩, [])
  | word :: rest =>
      match word with
      | ['-', '-'] => .ok (⟨[], []⟩, rest)
      | sign :: letter :: letters =>
          if sign = '-' || sign = '+' then
            match (letter :: letters).find? fun letter => !allowed.contains letter with
            | some letter => .error ([sign, letter] ++ words ": invalid option")
            | none =>
                (readWish allowed rest).map fun (wish, rest) =>
                  let found := letter :: letters
                  (if sign = '-' then { wish with on := found ++ wish.on }
                    else { wish with off := found ++ wish.off }, rest)
          else .ok (⟨[], []⟩, word :: rest)
      | _ => .ok (⟨[], []⟩, word :: rest)

def Wish.has (wish : Wish) (letter : Char) : Bool := wish.on.contains letter

def Wish.apply (wish : Wish) (entry : Variable) : Variable :=
  let turn (letter : Char) (quality : Trait) (entry : Variable) : Variable :=
    if wish.on.contains letter then entry.turn quality true
    else if wish.off.contains letter then entry.turn quality false
    else entry
  let entry := entry |> turn 'i' .integer |> turn 'n' .reference
  let entry :=
    if wish.has 'l' && !wish.has 'u' then (entry.turn .lower true).turn .upper false
    else if wish.has 'u' && !wish.has 'l' then (entry.turn .upper true).turn .lower false
    else (entry |> turn 'l' .lower |> turn 'u' .upper)
  if wish.has 'x' then { entry with exported := true }
  else if wish.off.contains 'x' then { entry with exported := false }
  else entry

def makeLocal (name : Text) : Doing Unit := do
  let machine ← get
  let known := machine.locals.getD []
  if !(known.lookup name).isSome then
    set { machine.forget name with
      locals := some ((name, machine.bindings.lookup name) :: known) }

def declareOne (wish : Wish) (isLocal : Bool) (word : Text) : Doing Nat := do
  let target := Target.ofText word
  let machine ← get
  if !isName target.name then
    return ← refuse 1 (Assigning.invalidName word)
  let name := target.name
  let own := machine.bindings.lookup name
  let isKnownLocal := ((machine.locals.getD []).lookup name).isSome
  if (own.any (·.isReadOnly)) && (!isLocal || !isKnownLocal) &&
      (target.value.isSome || wish.off.contains 'r' || isLocal) then
    return ← refuse 1 (Machine.readOnlyMessage name)
  if isLocal then makeLocal name
  let entry := (← get).variableOf name
  let isList := wish.has 'a' || wish.has 'A'
  if wish.off.contains 'a' || wish.off.contains 'A' then
    if entry.elements.isSome then
      return ← refuse 1 (name ++ words ": cannot destroy array variables in this way")
  match entry.elements with
  | some (.named _) =>
      if wish.has 'a' then
        return ← refuse 1 (name ++ words ": cannot convert associative to indexed array")
  | some (.numbered _) =>
      if wish.has 'A' then
        return ← refuse 1 (name ++ words ": cannot convert indexed to associative array")
  | none => pure ()
  if wish.has 'n' && target.value = some name then
    return ← refuse 1 (name ++ words ": nameref variable self references not allowed")
  let entry := wish.apply entry
  let entry :=
    if isList && entry.elements.isNone then
      { entry with
        elements := some (entry.toElements (wish.has 'A'))
        value := entry.value.map fun _ => [] }
    else entry
  let entry :=
    if target.subscript.isSome && entry.elements.isNone then
      { entry with elements := some (entry.toElements false), value := entry.value.map fun _ => [] }
    else entry
  modify fun machine => machine.putVariable name entry
  let isDone ←
    match target.value with
    | none => pure true
    | some value => do
        let machine ← get
        let listed := (machine.lists.lookup word).or
          (if entry.elements.isSome && target.subscript.isNone then entriesOf? value else none)
        match listed with
        | some entries => settle (Assigning.assignList machine name target.appends entries)
        | none =>
            if wish.has 'n' then
              set (machine.putVariable name { entry with value := some value })
              pure true
            else settle (Assigning.assign machine name target.subscript target.appends value)
  if wish.has 'r' && isDone then
    modify fun machine =>
      machine.putVariable name { machine.variableOf name with isReadOnly := true }
  return if isDone then 0 else 1

def showOne (name : Text) : Doing Nat := do
  let machine ← get
  let entry? := (machine.bindings.lookup name).or (machine.kept? name)
  match entry? with
  | some entry => do
      Doing.sayLine (Declared.command name entry)
      return 0
  | none => refuse 1 (name ++ words ": not found")

def showFunctions (namesOnly : Bool) (names : List Text) : Doing Nat := do
  let machine ← get
  if names.isEmpty then
    let known := (machine.functions.map (·.1)).mergeSort fun first second =>
      decide (first.toOctets ≤ second.toOctets)
    for name in known do
      if namesOnly then Doing.sayLine (words "declare -f " ++ name)
    return 0
  forEach names fun name => do
    if (machine.functions.lookup name).isNone then return 1
    if namesOnly then Doing.sayLine name
    return 0

def declare (arguments : List Text) : Doing Nat := do
  match readWish "aAfFgiIlnprtux" arguments with
  | .error message => do
      Doing.complain message
      let name := (← get).command.getD []
      Doing.remark (name ++ words ": usage: " ++ name ++
        words " [-aAfFgiIlnrtux] [name[=value] ...] or " ++ name ++
        words " -p [-aAfFilnrtux] [name ...]")
      return 2
  | .ok (wish, names) => do
      if wish.has 'f' || wish.has 'F' then return ← showFunctions (wish.has 'F') names
      let asked (entry : Variable) : Bool :=
        let letters := Declared.letters entry
        (wish.on.filter fun letter => letter ≠ 'p' && letter ≠ 'g').all letters.contains
      if names.isEmpty then
        if wish.on.isEmpty && wish.off.isEmpty then
          listValues
          return 0
        return ← listDeclared asked
      if wish.has 'p' then return ← forEach names showOne
      let isLocal := (← get).locals.isSome && !wish.has 'g'
      forEach names (declareOne wish isLocal)

def declareLocal (arguments : List Text) : Doing Nat := do
  let machine ← get
  if machine.locals.isNone then
    return ← refuse 1 (words "can only be used in a function")
  match readWish "aAfFgiIlnprtux" arguments with
  | .error message => do
      Doing.complain message
      Doing.remark (words "local: usage: local [option] name[=value] ...")
      return 2
  | .ok (wish, names) => do
      let own := (machine.locals.getD []).map (·.1)
      if names.isEmpty then
        for (name, entry) in allVariables machine do
          if own.contains name then
            Doing.sayLine (if wish.has 'p' then Declared.command name entry
              else Declared.command name entry)
        return 0
      if wish.has 'p' then return ← forEach names showOne
      forEach (names.filter (· ≠ ['-'])) (declareOne wish true)

def mark (synopsis : String) (letter : Char) (arguments : List Text) : Doing Nat := do
  let allowed : List (Char × Bool) :=
    if letter = 'x' then [('f', false), ('n', false), ('p', false)]
    else [('a', false), ('A', false), ('f', false), ('p', false)]
  match ← options allowed synopsis arguments with
  | none => return 2
  | some (found, names) => do
      let isMarked (entry : Variable) : Bool :=
        if letter = 'x' then entry.exported else entry.isReadOnly
      if has found 'f' then
        return ← forEach names fun name => do
          let machine ← get
          match machine.functions.lookup name with
          | none => refuse 1 (name ++ words ": not a function")
          | some definition => do
              let marked := { definition with isExported := letter = 'x' && !has found 'n' }
              set { machine with
                functions := machine.functions.map fun (entry : Text × Function) =>
                  if entry.1 = name then (name, marked) else entry }
              return 0
      if names.isEmpty then
        return ← listDeclared fun entry =>
          isMarked entry && (!has found 'a' || entry.elements.any fun list => !list.isNamed) &&
            (!has found 'A' || entry.elements.any (·.isNamed))
      forEach names fun word => do
        let target := Target.ofText word
        if !isName target.name || target.subscript.isSome then
          return ← refuse 1 (Assigning.invalidName word)
        let name := (← get).referent target.name
        let entry := (← get).variableOf name
        let isList := has found 'a' || has found 'A'
        if isList && entry.elements.isNone then
          modify fun machine =>
            machine.putVariable name
              { entry with elements := some (entry.toElements (has found 'A')), value := none }
        let isDone ←
          match target.value with
          | none => pure true
          | some value => do
              let listed := (← get).lists.lookup word
              unnamed do
                match listed with
                | some entries =>
                    settle (Assigning.assignList (← get) name target.appends entries)
                | none => settle (Assigning.assign (← get) name none target.appends value)
        if isDone then
          modify fun machine =>
            let entry := machine.variableOf name
            machine.putVariable name
              (if letter = 'x' then { entry with exported := !has found 'n' }
                else { entry with isReadOnly := true })
        return if isDone then 0 else 1

def exportVariables : List Text → Doing Nat := mark "[-fn] [name[=value] ...] or export -p" 'x'

def protectVariables : List Text → Doing Nat :=
  mark "[-aAf] [name[=value] ...] or readonly -p" 'r'

def unset (arguments : List Text) : Doing Nat := do
  let allowed := [('f', false), ('v', false), ('n', false)]
  match ← options allowed "[-f] [-v] [-n] [name ...]" arguments with
  | none => return 2
  | some (found, names) => do
      if has found 'f' && has found 'v' then
        return ← refuse 1 (words "cannot simultaneously unset a function and a variable")
      forEach names fun word => do
        let machine ← get
        let (name, subscript) := Machine.splitSubscript word
        let forgetFunction : Doing Nat := do
          modify fun machine =>
            { machine with functions := machine.functions.filter fun entry => entry.1 ≠ word }
          return 0
        if has found 'f' then forgetFunction
        else if !isName name then
          refuse 1 (Assigning.invalidName word)
        else
          let target := if has found 'n' then name else (Machine.splitSubscript
            (machine.referent name)).1
          match machine.bindings.lookup target with
          | none =>
              if subscript.isNone && !has found 'v' && (machine.functions.lookup word).isSome then
                forgetFunction
              else return 0
          | some entry =>
              if entry.isReadOnly then
                refuse 1 (target ++ words ": cannot unset: readonly variable")
              else
                match subscript, entry.elements with
                | some inside, none =>
                    if inside = ['0'] || inside = ['@'] || inside = ['*'] then
                      set (machine.forget target)
                      return 0
                    else refuse 1 (target ++ words ": not an array variable")
                | subscript, _ => do
                    let isDone ← settle (Assigning.forget machine target subscript)
                    return if isDone then 0 else 1

end ArtifactTools.Shell.Extended
