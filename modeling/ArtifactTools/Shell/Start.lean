import ArtifactTools.Shell.Calls
import ArtifactTools.Shell.Opening

/-! What a shell begins with: its variables, and scripts in files. -/

namespace ArtifactTools.Shell.Run

def startShell (name : Text) (machine : Machine) : Machine :=
  let put (name : String) (value : Text) (isExported : Bool) (machine : Machine) : Machine :=
    let entry := machine.variableOf (words name)
    machine.putVariable (words name)
      { entry with value := some value, exported := entry.exported || isExported }
  let suggest (name : String) (value : Text) (machine : Machine) : Machine :=
    if (machine.valueOf? (words name)).isSome then machine else put name value false machine
  let parent := Decimal.digits machine.parent
  let shown :=
    ((machine.valueOf? (words "PWD")).filter (Builtin.isShown machine)).getD
      (Builtin.locationText machine.directory)
  { machine with name, shown, arguments := .ofList [], functions := [] }
    |> put "IFS" [' ', '\t', '\n'] false
    |> put "OPTIND" ['1'] false
    |> put "PPID" parent false
    |> put "PWD" shown true
    |> suggest "PATH" defaultPath
    |> suggest "PS1" (words "# ")
    |> suggest "PS2" (words "> ")
    |> suggest "PS4" (words "+ ")

def readScript (path : Text) : Running Text := do
  match ← Running.wholeFile path with
  | .ok content => return content
  | .error .isDirectory => return []
  | .error error =>
      Running.abandon
        (words "cannot open " ++ path ++ words ": " ++ Machine.wording "No such file" error)

def findSourced (machine : Machine) (name : Text) : Except Text Text :=
  if name.contains '/' then .ok name
  else
    let isFile (path : Text) : Bool := Test.testFile machine 'f' path
    let places := (searchedIn machine.searchPath?).map fun place => pathIn place name
    match places.find? isFile with
    | some path => .ok path
    | none => .error (name ++ words ": not found")

end ArtifactTools.Shell.Run
