import ArtifactTools.Shell.Extended.Controls
import ArtifactTools.Shell.Extended.Switches

/-! What a shell of the extended dialect begins with. -/

namespace ArtifactTools.Shell.Extended

open Running Run

/-- The variables, switches and features that a shell has from its beginning. Only some of the
variables may come from outside. -/
def startShell (name : Text) (machine : Machine) : Machine :=
  let entryOf (name : String) : Variable := machine.variableOf (words name)
  let put (name : String) (entry : Variable) (machine : Machine) : Machine :=
    machine.putVariable (words name) entry
  let fixed (name value : String) : Machine → Machine := put name (.ofText (words value))
  let number (name : String) (value : Text) : Machine → Machine :=
    put name { Variable.ofText value with isReadOnly := true, traits := [.integer] }
  let suggest (name : String) (value : Text) (machine : Machine) : Machine :=
    if (machine.valueOf? (words name)).isSome then machine
    else put name (.ofText value) machine
  let parent := Decimal.digits machine.parent
  let shown :=
    ((machine.valueOf? (words "PWD")).filter (Builtin.isShown machine)).getD
      (Builtin.locationText machine.directory)
  let path := pathOf machine machine.searchPath? name
  let level := ((machine.valueOf? (words "SHLVL")).bind integer?).getD 0 + 1
  let level := if level < 0 then 0 else level
  let list (isNamed : Bool) : Variable :=
    { Variable.unset with value := some [], elements := some (.empty isNamed) }
  let former : Variable :=
    match (entryOf "OLDPWD").value with
    | some value =>
        if Test.testFile machine 'd' value then entryOf "OLDPWD"
        else { Variable.unset with exported := true }
    | none => { Variable.unset with exported := true }
  let machine := { machine with
    dialect := .extended
    name
    shown
    arguments := .ofList []
    switches := [.braceexpand, .hashall, .comments]
    features := (Machine.featureTable.filter (·.2)).map (·.1)
    statuses := [0]
    seed := machine.process }
  machine
    |> put "BASH" (.ofText path)
    |> put "BASH_ALIASES" (list true)
    |> put "BASH_ARGC" (list false)
    |> put "BASH_ARGV" (list false)
    |> put "BASH_CMDS" (list true)
    |> fixed "BASH_VERSION" "5.2.21(1)-release"
    |> put "BASH_VERSINFO"
      { list false with
        elements := some (.ofList (Machine.versionParts.map words)), isReadOnly := true }
    |> number "EUID" ['0']
    |> number "UID" ['0']
    |> number "PPID" parent
    |> suggest "HOSTNAME" (words "localhost")
    |> fixed "HOSTTYPE" "x86_64"
    |> fixed "MACHTYPE" "x86_64-pc-linux-gnu"
    |> fixed "OSTYPE" "linux-gnu"
    |> fixed "IFS" " \t\n"
    |> fixed "OPTERR" "1"
    |> put "OPTIND" { Variable.ofText ['1'] with traits := [.integer] }
    |> suggest "PATH" defaultPath
    |> suggest "PS4" (words "+ ")
    |> put "PWD" { Variable.ofText shown with exported := true }
    |> put "OLDPWD" former
    |> put "SHLVL" { Variable.ofText (Decimal.intDigits level) with exported := true }
    |> suggest "SHELL" (words "/bin/bash")
    |> suggest "TERM" (words "dumb")
    |> suggest "_" name

def longOptions : List (String × Bool) :=
  [("debug", false), ("debugger", false), ("dump-po-strings", false), ("dump-strings", false),
    ("help", false), ("init-file", true), ("login", false), ("noediting", false),
    ("noprofile", false), ("norc", false), ("posix", false), ("pretty-print", false),
    ("rcfile", true), ("restricted", false), ("verbose", false), ("version", false)]

def startUsage (name : Text) : Text :=
  words "Usage:\t" ++ name ++ words " [GNU long option] [option] ...\n\t" ++ name ++
    words " [GNU long option] [option] script-file ...\nGNU long options:\n" ++
    (longOptions.flatMap fun row => words ("\t--" ++ row.1 ++ "\n")) ++
    words "Shell options:\n" ++
    words "\t-ilrsD or -c command or -O shopt_option\t\t(invocation only)\n" ++
    words "\t-abefhkmnptuvxBCEHPT or -o option\n"

def refuseAll {α : Type} (status : Nat) (message rest : Text) : Running α := do
  modify fun machine =>
    ((machine.write 2 (machine.name ++ words ": " ++ message ++ ['\n'] ++ rest)).getD
      machine).fail status
  throw .shell

def refuseOption {α : Type} (option : Text) : Running α := do
  let name := (← get).name
  refuseAll 2 (option ++ words ": invalid option") (startUsage name)

/-- What the arguments of a shell say: whether the script is one of them, what is still to be turned
on or off, and the arguments after the options. -/
structure Beginning where
  isGiven : Bool
  features : List (Text × Bool)
  rest : List Text

def readLong : Nat → List Text → Running (List Text)
  | 0, rest => return rest
  | _ + 1, [] => return []
  | fuel + 1, word :: rest => do
      let isLong := (words "--").isPrefixOf word
      let name := String.ofList (if isLong then word.drop 2 else word.drop 1)
      if word.head? ≠ some '-' || word = ['-'] || word = ['-', '-'] then return word :: rest
      match longOptions.lookup name with
      | none => if isLong then refuseOption word else return word :: rest
      | some true =>
          match rest with
          | [] => refuseAll 2 (words name ++ words ": option requires an argument") []
          | _ :: rest => readLong fuel rest
      | some false => do
          match name with
          | "posix" => modify fun machine => turn machine .posix true
          | "verbose" => modify fun machine => turn machine .verbose true
          | "help" | "version" => do
              setStatus 0
              throw .shell
          | _ => pure ()
          readLong fuel rest

def readShort (sign : Char) : Text → Beginning → Running Beginning
  | [], beginning => return beginning
  | letter :: letters, beginning => do
      match letter with
      | 'c' => readShort sign letters { beginning with isGiven := true }
      | 'l' | 'i' | 'r' | 'D' => readShort sign letters beginning
      | 's' => do
          modify fun machine => machine.turn .stdin true
          readShort sign letters beginning
      | 'o' =>
          match beginning.rest with
          | [] => do
              perform (listSwitches (sign = '+'))
              readShort sign letters beginning
          | name :: rest =>
              match switchOf? name with
              | some switch => do
                  modify fun machine => turn machine switch (sign = '-')
                  readShort sign letters { beginning with rest }
              | none => do
                  let shell := (← get).name
                  refuseAll 2 (words "line 0: " ++ shell ++ words ": " ++ name ++
                    words ": invalid option name") []
      | 'O' =>
          match beginning.rest with
          | [] => readShort sign letters beginning
          | name :: rest =>
              let asked : Text × Bool := (name, sign = '-')
              readShort sign letters
                { beginning with features := beginning.features ++ [asked], rest }
      | letter =>
          match switchOfLetter? letter with
          | some switch => do
              modify fun machine => turn machine switch (sign = '-')
              readShort sign letters beginning
          | none => refuseOption [sign, letter]

def readLetterOptions : Nat → Beginning → Running Beginning
  | 0, beginning => return beginning
  | fuel + 1, beginning => do
      match beginning.rest with
      | ['-'] :: rest | ['-', '-'] :: rest => return { beginning with rest }
      | (sign :: letters) :: rest =>
          if sign = '-' || sign = '+' then
            readLetterOptions fuel (← readShort sign letters { beginning with rest })
          else return beginning
      | _ => return beginning

def turnAsked (features : List (Text × Bool)) : Running Unit :=
  for (name, value) in features do
    if !isFeature name then
      refuseAll 2 (words "line 0: " ++ name ++ words ": invalid shell option name") []
    modify fun machine => turnFeature machine (String.ofList name) value

def readFile (path : Text) : Running Text := do
  let machine ← get
  let places :=
    if path.contains '/' then []
    else (searchedIn machine.searchPath?).map fun place => pathIn place path
  let isThere := machine.tree.holds machine.directory ⟨path.toOctets⟩
  let found :=
    if isThere then path else (places.find? (Test.testFile machine 'f')).getD path
  match ← wholeFile found with
  | .ok content => do
      modify fun machine => { machine with name := found }
      if isBinary content then
        refuseAll 126 (path ++ words ": cannot execute binary file") []
      return content
  | .error .isDirectory => do
      modify fun machine => { machine with name := found }
      refuseAll 126 (path ++ words ": Is a directory") []
  | .error error =>
      refuseAll (if error = .denied then 126 else 127)
        (path ++ words ": " ++ Machine.plainWording error) []

def readStart (arguments : List Text) : Running (Option Text × Text) := do
  let rest ← readLong (arguments.length + 1) arguments
  let beginning ← readLetterOptions (arguments.length + 1) ⟨false, [], rest⟩
  turnAsked beginning.features
  let rest := beginning.rest
  if beginning.isGiven then
    match rest with
    | [] => refuseAll 2 (words "-c: option requires an argument") []
    | script :: rest => do
        modify fun machine =>
          { machine with
            isGiven := true
            name := rest.head?.getD machine.name
            arguments := .ofList (rest.drop 1) }
        modify fun machine =>
          machine.putVariable (words "BASH_EXECUTION_STRING") (.ofText script)
        return (some (words "-c"), script)
  else if rest.isEmpty || (← get).has .stdin then
    modify fun machine =>
      { machine.turn .stdin true with arguments := .ofList rest }
    let script ← readAll 0
    return (none, script)
  else
    let content ← readFile (rest.head?.getD [])
    modify fun machine => { machine with arguments := .ofList (rest.drop 1) }
    return (none, content)

end ArtifactTools.Shell.Extended
