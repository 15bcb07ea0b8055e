import ArtifactTools.Shell.Builtin.Basic
import ArtifactTools.Shell.Fields

/-! The shell's own commands that change variables, arguments and switches. -/

namespace ArtifactTools.Shell.Builtin

def splitValue (word : Text) : Text × Option Text :=
  let name := word.takeWhile (· ≠ '=')
  match word.drop name.length with
  | '=' :: value => (name, some value)
  | _ => (name, none)

def badName (name : Text) : Text := name ++ words ": bad variable name"

def readOnly (name : Text) : Text := name ++ words ": is read only"

def sorted (machine : Machine) : List (Text × Variable) :=
  machine.bindings.mergeSort fun first second => decide (first.1.toOctets ≤ second.1.toOctets)

def listVariables (mark : Text) (test : Variable → Bool) : Doing Unit := do
  for (name, entry) in sorted (← get) do
    if test entry then
      let value := (entry.text?.map fun value => '=' :: quoted value).getD []
      Doing.sayLine (mark ++ name ++ value)

def declare (name : String) (test : Variable → Bool) (change : Variable → Variable)
    (arguments : List Text) : Doing Nat := do
  let (found, arguments) ← Doing.options [('p', false)] arguments
  if !found.isEmpty || arguments.isEmpty then
    listVariables (words (name ++ " ")) test
    return 0
  for word in arguments do
    let (name, value) := splitValue word
    let known := ((← get).bindings.lookup name).isSome
    match value with
    | some value => Doing.assign name value
    | none => if !known && !isName name then Doing.misuse (badName name)
    modify fun machine => machine.putVariable name (change (machine.variableOf name))
  return 0

def exportVariables : List Text → Doing Nat :=
  declare "export" (·.exported) fun entry => { entry with exported := true }

def protectVariables : List Text → Doing Nat :=
  declare "readonly" (·.isReadOnly) fun entry => { entry with isReadOnly := true }

def declareLocal (arguments : List Text) : Doing Nat := do
  if (← get).locals.isNone then Doing.misuse (words "not in a function")
  for word in arguments do
    let (name, value) := splitValue word
    let machine ← get
    if !isName name then Doing.misuse (badName name)
    set { machine with
      locals := some ((name, machine.bindings.lookup name) :: machine.locals.getD []) }
    match value with
    | some value => Doing.assign name value
    | none => pure ()
  return 0

def unset (arguments : List Text) : Doing Nat := do
  let (found, names) ← Doing.options [('v', false), ('f', false)] arguments
  for name in names do
    let machine ← get
    if (found.getLast?.map (·.1)) = some 'f' then
      set { machine with functions := machine.functions.filter fun entry => entry.1 ≠ name }
    else if !isName name then Doing.misuse (badName name)
    else if (machine.variableOf name).isReadOnly then Doing.misuse (readOnly name)
    else set (machine.forget name)
  return 0

def withArguments (list : List Text) : Doing Unit :=
  modify fun machine => { machine with arguments := .ofList list }

def shift (arguments : List Text) : Doing Nat := do
  let count ←
    match arguments with
    | [] => pure 1
    | text :: _ => Doing.number text
  let list := (← get).arguments.list
  if list.length < count then Doing.misuse (words "can't shift that many")
  withArguments (list.drop count)
  return 0

/-! Switches. -/

def turnLetter (value : Bool) (letter : Char) (machine : Machine) : Except Text Machine :=
  match Switch.ofLetter? letter with
  | none => .error (words "Illegal option -" ++ [letter])
  | some switch =>
      let turned := machine.turn switch value
      .ok (match value, switch with
        | true, .vi => turned.turn .emacs false
        | true, .emacs => turned.turn .vi false
        | _, _ => turned)

def turnName (value : Bool) (name : Text) (machine : Machine) : Except Text Machine :=
  match Switch.ofName? name with
  | none => .error (words "Illegal option -o " ++ name)
  | some switch => .ok (machine.turn switch value)

def switchTable (asCommands : Bool) (isOn : Switch → Bool) : Text :=
  if asCommands then
    Switch.table.flatMap fun row =>
      words ("set " ++ (if isOn row.1 then "-" else "+") ++ "o " ++ row.2.1 ++ "\n")
  else
    words "Current option settings\n" ++ Switch.table.flatMap fun row =>
      let missing := List.replicate (16 - row.2.1.length) ' '
      words row.2.1 ++ missing ++ words (if isOn row.1 then "on\n" else "off\n")

def turnLetters (value : Bool) : Text → List Text → Doing (List Text)
  | [], rest => return rest
  | 'o' :: letters, rest => do
      match rest with
      | [] => Doing.say (switchTable (!value) (← get).has)
      | name :: _ => set (← Doing.ofExcept (turnName value name (← get)))
      turnLetters value letters (rest.drop 1)
  | letter :: letters, rest => do
      set (← Doing.ofExcept (turnLetter value letter (← get)))
      turnLetters value letters rest

def setAll : Nat → List Text → Doing Unit
  | 0, _ => return ()
  | _ + 1, [] => return ()
  | fuel + 1, word :: rest => do
      let replace (list : List Text) : Doing Unit :=
        if list.isEmpty then return () else withArguments list
      match word with
      | ['-'] =>
          modify fun machine => (machine.turn .xtrace false).turn .verbose false
          replace rest
      | ['-', '-'] => withArguments rest
      | '-' :: letters => setAll fuel (← turnLetters true letters rest)
      | '+' :: letters => setAll fuel (← turnLetters false letters rest)
      | _ => replace (word :: rest)

def setSwitches (arguments : List Text) : Doing Nat := do
  if arguments.isEmpty then listVariables [] (·.text?.isSome)
  else
    setAll (arguments.length + 1) arguments
    if (← get).has .monitor then
      Doing.complain (words "can't access tty; job control turned off")
      modify fun machine => machine.turn .monitor false
  return 0

/-- Turns the switches that a shell is started with. Gives whether its script is the next argument,
and the arguments after the switches. -/
def readStart : Nat → Bool → List Text → Doing (Bool × List Text)
  | 0, isGiven, rest => return (isGiven, rest)
  | _ + 1, isGiven, [] => return (isGiven, [])
  | fuel + 1, isGiven, word :: rest => do
      let turn (value : Bool) (letters : Text) : Doing (Bool × List Text) := do
        let others := letters.filter fun letter => letter ≠ 'c' && letter ≠ 'l'
        readStart fuel (isGiven || letters.contains 'c') (← turnLetters value others rest)
      match word with
      | ['-'] | ['-', '-'] => return (isGiven, rest)
      | '-' :: letters => turn true letters
      | '+' :: letters => turn false letters
      | _ => return (isGiven, word :: rest)

/-! Reading lines, and options among arguments. -/

/-- A line at the start of a text: its characters, whether it is ended, and how many characters it
takes. A backslash at its end joins the next one to it, unless it is read raw. -/
def takeLine (isRaw : Bool) (sofar : Text) (taken : Nat) : Text → Text × Bool × Nat
  | [] => (sofar.reverse, false, taken)
  | '\n' :: _ => (sofar.reverse, true, taken + 1)
  | '\\' :: next :: rest =>
      if isRaw then takeLine isRaw ('\\' :: sofar) (taken + 1) (next :: rest)
      else if next = '\n' then takeLine isRaw sofar (taken + 2) rest
      else takeLine isRaw (next :: '\\' :: sofar) (taken + 2) rest
  | character :: rest => takeLine isRaw (character :: sofar) (taken + 1) rest

def readInput (isRaw : Bool) (machine : Machine) : Text × Bool × Machine :=
  match machine.remaining 0 with
  | none => ([], false, machine)
  | some (index, file, text) =>
      let (line, isEnded, taken) := takeLine isRaw [] 0 text
      (line, isEnded, machine.advance index file text taken)

def holdsLine (arguments : List Text) (text : Text) : Bool :=
  let options := arguments.takeWhile fun argument => argument.head? = some '-'
  let isRaw := options.any fun option => option.contains 'r'
  (takeLine isRaw [] 0 text).2.1

def readVariables (arguments : List Text) : Doing Nat := do
  let (found, names) ← Doing.options [('p', true), ('r', false)] arguments
  if names.isEmpty then Doing.misuse (words "arg count")
  let isRaw := (found.lookup 'r').isSome
  let (line, ended, machine) := readInput isRaw (← get)
  set machine
  let line := line.filter (· ≠ '\x00')
  let glyphs := if isRaw then line.map Glyph.loose else Fields.ofLine line
  let values := Fields.ofRead (Fields.separators machine) names.length glyphs
  for (name, value) in names.zip values do
    Doing.assign name value
  return if ended then 0 else 1

def takesText? (letter : Char) : Text → Option Bool
  | [] => none
  | first :: rest =>
      if first = letter then some (rest.head? = some ':')
      else
        match rest with
        | ':' :: rest => takesText? letter rest
        | rest => takesText? letter rest

inductive OptionFault where
  | unknown (letter : Char)
  | textless (letter : Char)
  deriving DecidableEq, Repr

def OptionFault.message : OptionFault → Text
  | .unknown letter => words "Illegal option -" ++ [letter]
  | .textless letter => words "No arg for -" ++ letter :: words " option"

/-- What reading one more option comes to: its letter or a question mark, the text that goes with it
if that is set, the number of the next argument and the place in the one before it. -/
structure OptionStep where
  letter : Char
  text : Option (Option Text)
  next : Nat
  taken : Option Nat
  fault : Option OptionFault
  isLast : Bool

def nextOption (allowed : Text) (list : List Text) (state : Arguments) : OptionStep :=
  let isQuiet := allowed.head? = some ':'
  let current := (list.getD (state.next - 2) []).drop (state.taken.getD 0)
  let goesOn := 1 < state.next && state.taken.isSome && !current.isEmpty
  let start? : Option (Text × Nat) :=
    if goesOn then some (current, state.next)
    else
      match list[state.next - 1]? with
      | some ('-' :: letter :: letters) => some (letter :: letters, state.next + 1)
      | _ => none
  match start? with
  | none | some ([], _) => ⟨'?', none, state.next, none, none, true⟩
  | some (letter :: letters, next) =>
      let position := (list.getD (next - 2) []).length - letters.length
      let after : Option Nat := some position
      if letter = '-' && letters.isEmpty && !goesOn then ⟨'?', none, next, none, none, true⟩
      else
        match takesText? letter allowed with
        | none =>
            if isQuiet then ⟨'?', some (some [letter]), next, after, none, false⟩
            else
              ⟨'?', some none, next, after, some (.unknown letter), false⟩
        | some false => ⟨letter, some (some []), next, after, none, false⟩
        | some true =>
            if !letters.isEmpty then ⟨letter, some (some letters), next, none, none, false⟩
            else
              match list[next - 1]? with
              | some text => ⟨letter, some (some text), next + 1, none, none, false⟩
              | none =>
                  if isQuiet then ⟨':', some (some [letter]), next, none, none, false⟩
                  else ⟨'?', some none, next, none, some (.textless letter), false⟩

def getOptions (arguments : List Text) : Doing Nat := do
  let (_, arguments) ← Doing.options [] arguments
  match arguments with
  | allowed :: name :: list => do
      let machine ← get
      let list := if list.isEmpty then machine.arguments.list else list
      let state :=
        if list.length + 1 < machine.arguments.next then
          { machine.arguments with next := 1, taken := none }
        else machine.arguments
      let step := nextOption allowed list state
      match step.fault with
      | some fault => Doing.remark fault.message
      | none => pure ()
      match step.text with
      | none => pure ()
      | some (some text) => Doing.assign (words "OPTARG") text
      | some none => modify fun machine => machine.forget (words "OPTARG")
      modify fun machine => machine.setVariable (words "OPTIND") (Decimal.digits step.next)
      Doing.assign name [step.letter]
      modify fun machine =>
        { machine with
          arguments := { machine.arguments with next := step.next, taken := step.taken } }
      return if step.isLast then 1 else 0
  | _ => Doing.misuse (words "Usage: getopts optstring var [arg...]")

end ArtifactTools.Shell.Builtin
