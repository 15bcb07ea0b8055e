import ArtifactTools.Shell.Grammar
import ArtifactTools.Shell.Machine

/-! What the name of a command stands for. The shell's special commands come first, then functions,
its other commands, and the programs in the directories that are searched. -/

namespace ArtifactTools.Shell

def ordinaryCommands : List String :=
  ["[", "alias", "bg", "cd", "chdir", "command", "echo", "false", "fg", "getopts", "hash", "jobs",
    "kill", "printf", "pwd", "read", "test", "true", "type", "ulimit", "umask", "unalias", "wait"]

def extendedCommands : List String :=
  [".", ":", "[", "alias", "bg", "bind", "break", "builtin", "caller", "cd", "command", "compgen",
    "complete", "compopt", "continue", "declare", "dirs", "disown", "echo", "enable", "eval",
    "exec", "exit", "export", "false", "fc", "fg", "getopts", "hash", "help", "history", "jobs",
    "kill", "let", "local", "logout", "mapfile", "popd", "printf", "pushd", "pwd", "read",
    "readarray", "readonly", "return", "set", "shift", "shopt", "source", "suspend", "test",
    "times", "trap", "true", "type", "typeset", "ulimit", "umask", "unalias", "unset", "wait"]

/-! The same names as texts. -/

def extendedTexts : List Text := extendedCommands.map String.toList

def specialTexts : List Text := Grammar.specialCommands.map String.toList

def ordinaryTexts : List Text := ordinaryCommands.map String.toList

def isExtendedCommand (name : Text) : Bool := extendedTexts.contains name

def isSpecial (name : Text) : Bool := specialTexts.contains name

def isOrdinary (name : Text) : Bool := ordinaryTexts.contains name

def defaultPath : Text :=
  words "/usr/local/sbin:/usr/local/bin:/usr/sbin:/usr/bin:/sbin:/bin"

def usualPath : Dialect → Text
  | .plain => defaultPath
  | .extended => words "/bin:/usr/bin"

def Machine.searchPath? (machine : Machine) : Option Text := machine.valueOf? (words "PATH")

def searchedIn (path : Option Text) : List Text :=
  match path with
  | none => []
  | some text => (splitAtColons text.toOctets).map Text.ofOctets

def pathIn (directory name : Text) : Text :=
  if directory.isEmpty then name else directory ++ '/' :: name

/-- The directories from the first on that holds a program of this name. Without one, being denied
counts before not being found. -/
def placesOf (machine : Machine) (name : Text) (last : HostError) :
    List Text → Except HostError (List Text)
  | [] => .error last
  | place :: rest =>
      match machine.tree.find machine.directory ⟨(pathIn place name).toOctets⟩ with
      | .ok (_, node) =>
          if machine.tree.runs node then .ok (place :: rest)
          else placesOf machine name .denied rest
      | .error .missing | .error .notDirectory => placesOf machine name last rest
      | .error error => placesOf machine name error rest

inductive Meaning where
  | keyword
  | replaced (text : Text)
  | special
  | ordinary
  | function (definition : Function)
  | file (path : Text)

def meaning? (machine : Machine) (name : Text) : Option Meaning :=
  if Grammar.reservedWords.contains (String.ofList name) then some .keyword
  else
    match machine.aliases.lookup name with
    | some text => some (.replaced text)
    | none =>
        if name.contains '/' then
          if machine.tree.holds machine.directory ⟨name.toOctets⟩ then some (.file name) else none
        else if isSpecial name then some .special
        else
          match machine.functions.lookup name with
          | some definition => some (.function definition)
          | none =>
              if isOrdinary name then some .ordinary else none

structure StartFailure where
  error : HostError
  status : Nat

def statusOf : HostError → Nat
  | .missing | .notDirectory | .nameTooLong | .tooManyLinks | .other _ => 127
  | _ => 126

def startFile (machine : Machine) (path name : Text) (arguments : List Text) :
    Except HostError Invocation :=
  let octets := arguments.map Text.toOctets
  match Invocation.ofPath machine.tree machine.directory Invocation.depthLimit ⟨path.toOctets⟩
      (name.toOctets :: octets) with
  | .error .notExecutableFormat =>
      let shell := if machine.isExtended then "/bin/bash" else "/bin/sh"
      .ok ⟨.shell machine.isExtended, Utf8.encode shell :: path.toOctets :: octets⟩
  | answer => answer

def startIn (machine : Machine) (name : Text) (arguments : List Text) (last : HostError) :
    List Text → Except HostError Invocation
  | [] => .error last
  | place :: rest =>
      match startFile machine (pathIn place name) name arguments with
      | .ok invocation => .ok invocation
      | .error .missing | .error .notDirectory => startIn machine name arguments last rest
      | .error error => startIn machine name arguments error rest

def startProgram (machine : Machine) (path : Option Text) (name : Text) (arguments : List Text) :
    Except StartFailure Invocation :=
  let failed (error : HostError) : StartFailure := ⟨error, statusOf error⟩
  if name.contains '/' then (startFile machine name name arguments).mapError failed
  else
    match placesOf machine name .missing (searchedIn path) with
    | .error error => .error ⟨error, 127⟩
    | .ok places => (startIn machine name arguments .missing places).mapError failed

/-! Commands whose programs have been found before are not looked for again: a shell keeps track of
where it has found them. What it keeps is in doubt after a change of the working directory, and lost
with another search path. -/

namespace Machine

def trackOf? (machine : Machine) (name : Text) : Option Tracked :=
  machine.tracked.find? fun entry => entry.name = name

def forgetTrack (machine : Machine) (name : Text) : Machine :=
  { machine with tracked := machine.tracked.filter fun entry => entry.name ≠ name }

def keepTrack (machine : Machine) (entry : Tracked) : Machine :=
  if (machine.trackOf? entry.name).isSome then
    { machine with
      tracked := machine.tracked.map fun other => if other.name = entry.name then entry else other }
  else { machine with tracked := machine.tracked ++ [entry] }

def doubtTracks (machine : Machine) : Machine :=
  { machine with tracked := machine.tracked.map fun entry => { entry with isDoubtful := true } }

/-- The first of the numbered directories that holds a program of this name. Where it has been found
in one before, that one is not looked at again, nor are those before it, unless they depend on the
working directory. -/
def firstPlace (machine : Machine) (name : Text) (former : Option Nat) (last : HostError) :
    List (Nat × Text) → Except HostError (Nat × Text)
  | [] => .error last
  | (number, place) :: rest =>
      let isFixed := place.head? = some '/'
      if isFixed && former = some number then .ok (number, place)
      else if isFixed && former.any (number < ·) then firstPlace machine name former last rest
      else
        match placesOf machine name last [place] with
        | .ok _ => .ok (number, place)
        | .error error => firstPlace machine name former error rest

def lookFor (machine : Machine) (name : Text) (former : Option Nat) : Except HostError Tracked :=
  let places := searchedIn machine.searchPath?
  (machine.firstPlace name former .missing ((List.range places.length).zip places)).map
    fun (number, place) => ⟨name, number, pathIn place name, 0, false⟩

/-- Finds the program of a command and keeps track of it. A function hides it from that. In the
extended dialect only absolute paths are kept. -/
def locate (machine : Machine) (name : Text) : Except HostError Tracked × Machine :=
  let known? := machine.trackOf? name
  match known?.filter fun known => !known.isDoubtful with
  | some known => (.ok known, machine)
  | none =>
      match machine.lookFor name (known?.map (·.place)) with
      | .error error => (.error error, machine.forgetTrack name)
      | .ok found =>
          let isKept :=
            if machine.isExtended then found.path.head? = some '/'
            else (machine.functions.lookup name).isNone
          (.ok found, if isKept then machine.keepTrack found else machine)

def countTrack (machine : Machine) (name : Text) : Machine :=
  match machine.trackOf? name with
  | some entry => machine.keepTrack { entry with uses := entry.uses + 1 }
  | none => machine

def chainOf (name : Text) : Nat :=
  ((name.head?.map (·.toNat)).getD 0 * 16 + (name.map (·.toNat)).foldl (· + ·) 0) % 0x8000 % 31

def tracks (machine : Machine) : List Tracked :=
  if machine.isExtended then
    machine.tracked.reverse.mergeSort fun first second =>
      decide (namePlace first.name % 256 ≤ namePlace second.name % 256)
  else
    machine.tracked.mergeSort fun first second =>
      decide (chainOf first.name ≤ chainOf second.name)

end Machine

def startTracked (machine : Machine) (name : Text) (arguments : List Text) :
    Except StartFailure Invocation × Machine :=
  if name.contains '/' then (startProgram machine none name arguments, machine)
  else
    match machine.locate name with
    | (.error error, machine) => (.error ⟨error, 127⟩, machine)
    | (.ok found, machine) =>
        let machine := machine.countTrack name
        let places := (searchedIn machine.searchPath?).drop found.place
        let answer :=
          if machine.isExtended then startFile machine found.path name arguments
          else startIn machine name arguments .missing places
        (answer.mapError fun error => ⟨error, statusOf error⟩, machine)

end ArtifactTools.Shell
