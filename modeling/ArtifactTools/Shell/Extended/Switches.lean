import ArtifactTools.Shell.Extended.Declarations

/-! The commands of the extended dialect that turn switches and features. -/

namespace ArtifactTools.Shell.Extended

def switchOf? (name : Text) : Option Switch :=
  (Machine.extendedSwitches.find? fun row => row.2.1.toList = name).map (·.1)

def switchOfLetter? (letter : Char) : Option Switch :=
  (Machine.extendedSwitches.find? fun row => row.2.2 = some letter).map (·.1)

def turn (machine : Machine) (switch : Switch) (value : Bool) : Machine :=
  let turned := machine.turn switch value
  match switch, value with
  | .vi, true => turned.turn .emacs false
  | .emacs, true => turned.turn .vi false
  | .posix, true => turned.setVariable (words "POSIXLY_CORRECT") ['y']
  | .posix, false => turned.forget (words "POSIXLY_CORRECT")
  | _, _ => turned

def row (name : String) (isOn : Bool) : Text :=
  words name ++ List.replicate (15 - name.length) ' ' ++ words (if isOn then "\ton" else "\toff")

def switchCommand (name : String) (isOn : Bool) : Text :=
  words ("set " ++ (if isOn then "-" else "+") ++ "o " ++ name)

def featureCommand (name : String) (isOn : Bool) : Text :=
  words ("shopt " ++ (if isOn then "-s " else "-u ") ++ name)

def listSwitches (asCommands : Bool) : Doing Unit := do
  let machine ← get
  for (switch, name, _) in Machine.extendedSwitches do
    let isOn := machine.has switch
    Doing.sayLine (if asCommands then switchCommand name isOn else row name isOn)

def setSynopsis : String := "[-abefhkmnptuvxBCEHPT] [-o option-name] [--] [-] [arg ...]"

/-- The first letter among the switches in the arguments that is none. The first argument may be the
name of a switch that the one before it `awaits`. -/
def wrongLetter? (awaits : Bool) : List Text → Option Text
  | [] => none
  | argument :: rest =>
      let isSwitch := argument.head? = some '-' || argument.head? = some '+'
      if awaits && argument.head? ≠ some '-' then wrongLetter? false rest
      else if !isSwitch || argument = ['-'] || argument = ['-', '-'] then none
      else
        let letters := argument.drop 1
        let plain := letters.takeWhile (· ≠ 'o')
        match plain.find? fun letter => (switchOfLetter? letter).isNone with
        | some letter => some (argument.take 1 ++ [letter])
        | none => wrongLetter? (plain.length + 1 = letters.length) rest

/-- Turns the switches of one argument, of which some are named by the arguments after it. Gives
those that are left, or none where a name is wrong. -/
def turnLetters (value : Bool) : Text → List Text → Doing (Option (List Text))
  | [], rest => return some rest
  | 'o' :: letters, rest => do
      let isName : Bool :=
        match rest with
        | (first :: _) :: _ => first ≠ '-' && first ≠ '+'
        | _ => false
      match isName, rest with
      | true, name :: rest =>
          match switchOf? name with
          | some switch => do
              modify fun machine => turn machine switch value
              turnLetters value letters rest
          | none => do
              Doing.complain (name ++ words ": invalid option name")
              return none
      | _, rest => do
          listSwitches !value
          turnLetters value letters rest
  | letter :: letters, rest => do
      if let some switch := switchOfLetter? letter then
        modify fun machine => turn machine switch value
      turnLetters value letters rest

def setAll : Nat → List Text → Doing Nat
  | 0, _ => return 0
  | fuel + 1, arguments => do
      let replace (list : List Text) : Doing Unit :=
        modify fun machine => { machine with arguments := machine.arguments.replaced list }
      match arguments with
      | [] => return 0
      | ['-'] :: rest => do
          modify fun machine => (machine.turn .xtrace false).turn .verbose false
          if !rest.isEmpty then replace rest
          return 0
      | ['-', '-'] :: rest => do
          replace rest
          return 0
      | (sign :: letters) :: rest =>
          if sign = '-' || sign = '+' then
            match ← turnLetters (sign = '-') letters rest with
            | some rest => setAll fuel rest
            | none => return 2
          else do
            replace arguments
            return 0
      | arguments => do
          replace arguments
          return 0

def setSwitches (arguments : List Text) : Doing Nat := do
  if arguments.isEmpty then
    listValues
    return 0
  match wrongLetter? false arguments with
  | some option =>
      Doing.complain (option ++ words ": invalid option")
      let status ← usage setSynopsis
      return if option = ['-', '?'] then 0 else status
  | none => setAll (arguments.length + 1) arguments

/-! Features. -/

def isFeature (name : Text) : Bool :=
  Machine.featureTable.any fun row => row.1.toList = name

def turnFeature (machine : Machine) (name : String) (value : Bool) : Machine :=
  let others := machine.features.filter (· ≠ name)
  { machine with features := if value then name :: others else others }

def shoptSynopsis : String := "[-pqsu] [-o] [optname ...]"

/-- What a command on features or switches works on: how one is looked up, how it is turned, and how
it is told. -/
structure Panel where
  names : List String
  isOn : Machine → String → Bool
  turn : Machine → String → Bool → Machine
  command : String → Bool → Text
  refusal : String

def Panel.features : Panel where
  names := Machine.featureTable.map (·.1)
  isOn := Machine.hasFeature
  turn := turnFeature
  command := featureCommand
  refusal := ": invalid shell option name"

def Panel.switches : Panel where
  names := Machine.extendedSwitches.map (·.2.1)
  isOn := fun machine name => (switchOf? name.toList).any machine.has
  turn := fun machine name value =>
    match switchOf? name.toList with
    | some switch => Extended.turn machine switch value
    | none => machine
  command := switchCommand
  refusal := ": invalid option name"

def turnFeatures (arguments : List Text) : Doing Nat := do
  let allowed := [('p', false), ('q', false), ('s', false), ('u', false), ('o', false)]
  match ← options allowed shoptSynopsis arguments with
  | none => return 2
  | some (found, names) => do
      if has found 's' && has found 'u' then
        return ← refuse 1 (words "cannot set and unset shell options simultaneously")
      let panel := if has found 'o' then Panel.switches else Panel.features
      let tell (name : String) (isOn : Bool) : Doing Unit :=
        if has found 'q' then return ()
        else Doing.sayLine (if has found 'p' then panel.command name isOn else row name isOn)
      if names.isEmpty then
        let machine ← get
        for name in panel.names do
          let isOn := panel.isOn machine name
          if (!has found 's' || isOn) && (!has found 'u' || !isOn) then tell name isOn
        return 0
      forEach names fun word => do
        let name := String.ofList word
        if !panel.names.contains name then
          return ← refuse 1 (word ++ words panel.refusal)
        if has found 's' || has found 'u' then
          modify fun machine => panel.turn machine name (has found 's')
          return 0
        let isOn := panel.isOn (← get) name
        tell name isOn
        return if isOn then 0 else 1

end ArtifactTools.Shell.Extended
