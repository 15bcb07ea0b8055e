import ArtifactTools.Shell.Machine

/-! The variables of the extended dialect: those that the shell keeps itself, references to others,
lists and their elements. -/

namespace ArtifactTools.Shell.Machine

def extendedSwitches : List (Switch × String × Option Char) :=
  [(.allexport, "allexport", some 'a'), (.braceexpand, "braceexpand", some 'B'),
    (.emacs, "emacs", none), (.errexit, "errexit", some 'e'), (.errtrace, "errtrace", some 'E'),
    (.functrace, "functrace", some 'T'), (.hashall, "hashall", some 'h'),
    (.histexpand, "histexpand", some 'H'), (.history, "history", none),
    (.ignoreeof, "ignoreeof", none), (.comments, "interactive-comments", none),
    (.keyword, "keyword", some 'k'), (.monitor, "monitor", some 'm'),
    (.noclobber, "noclobber", some 'C'), (.noexec, "noexec", some 'n'),
    (.noglob, "noglob", some 'f'), (.nolog, "nolog", none), (.notify, "notify", some 'b'),
    (.nounset, "nounset", some 'u'), (.onecmd, "onecmd", some 't'),
    (.physical, "physical", some 'P'), (.pipefail, "pipefail", none), (.posix, "posix", none),
    (.privileged, "privileged", some 'p'), (.verbose, "verbose", some 'v'), (.vi, "vi", none),
    (.xtrace, "xtrace", some 'x')]

def featureTable : List (String × Bool) :=
  [("autocd", false), ("assoc_expand_once", false), ("cdable_vars", false), ("cdspell", false),
    ("checkhash", false), ("checkjobs", false), ("checkwinsize", true), ("cmdhist", true),
    ("compat31", false), ("compat32", false), ("compat40", false), ("compat41", false),
    ("compat42", false), ("compat43", false), ("compat44", false), ("complete_fullquote", true),
    ("direxpand", false), ("dirspell", false), ("dotglob", false), ("execfail", false),
    ("expand_aliases", false), ("extdebug", false), ("extglob", false), ("extquote", true),
    ("failglob", false), ("force_fignore", true), ("globasciiranges", true),
    ("globskipdots", true), ("globstar", false), ("gnu_errfmt", false), ("histappend", false),
    ("histreedit", false), ("histverify", false), ("hostcomplete", true), ("huponexit", false),
    ("inherit_errexit", false), ("interactive_comments", true), ("lastpipe", false),
    ("lithist", false), ("localvar_inherit", false), ("localvar_unset", false),
    ("login_shell", false), ("mailwarn", false), ("no_empty_cmd_completion", false),
    ("nocaseglob", false), ("nocasematch", false), ("noexpand_translation", false),
    ("nullglob", false), ("patsub_replacement", true), ("progcomp", true),
    ("progcomp_alias", false), ("promptvars", true), ("restricted_shell", false),
    ("shift_verbose", false), ("sourcepath", true), ("varredir_close", false),
    ("xpg_echo", false)]

def hasFeature (machine : Machine) (name : String) : Bool := machine.features.contains name

def atColons (names : List String) : Text := (names.intersperse ":").flatMap String.toList

def versionParts : List String := ["5", "2", "21", "1", "release", "x86_64-pc-linux-gnu"]

def extendedLetters (machine : Machine) : Text :=
  let letters := extendedSwitches.filterMap fun row =>
    if machine.has row.1 then row.2.2 else none
  let small := letters.filter Char.isLower
  let sorted (letters : Text) : Text :=
    letters.mergeSort fun first second => decide (first.toNat ≤ second.toNat)
  sorted small ++ sorted (letters.filter fun letter => !letter.isLower) ++
    (if machine.isGiven then ['c'] else if machine.has .stdin then ['s'] else [])

def kept? (machine : Machine) (name : Text) : Option Variable :=
  let text (value : Text) : Option Variable := some (.ofText value)
  let list (values : List Text) : Option Variable :=
    some { Variable.unset with elements := some (.ofList values) }
  match String.ofList name with
  | "LINENO" => text (Decimal.digits machine.line)
  | "BASHPID" => text (Decimal.digits machine.process)
  | "BASH_SUBSHELL" => text (Decimal.digits machine.depth)
  | "SECONDS" =>
      let base := ((machine.bindings.lookup name).bind (·.value)).getD []
      match base with
      | '-' :: digits => text (Decimal.digits (machine.clock / 1000000 - Decimal.value digits))
      | digits => text (Decimal.digits (machine.clock / 1000000 + Decimal.value digits))
  | "SHELLOPTS" =>
      text (atColons ((extendedSwitches.filter fun row => machine.has row.1).map (·.2.1)))
  | "BASHOPTS" =>
      text (atColons ((featureTable.map (·.1)).filter machine.hasFeature))
  | "PIPESTATUS" => list (machine.statuses.map Decimal.digits)
  | "FUNCNAME" =>
      if machine.frames.isEmpty then none else list (machine.frames.map (·.function))
  | "BASH_SOURCE" =>
      if machine.frames.isEmpty then none else list (machine.frames.map (·.origin))
  | "BASH_LINENO" =>
      if machine.frames.isEmpty then none
      else list (machine.frames.map fun frame => Decimal.digits frame.line)
  | "DIRSTACK" => list (machine.shown :: machine.stack)
  | "GROUPS" => list [['0']]
  | _ => none

/-- The name that a variable stands for, if it is a reference, or else its own. It may be that of an
element. -/
def referent (machine : Machine) (name : Text) : Text :=
  let rec follow : Nat → Text → Text
    | 0, name => name
    | fuel + 1, name =>
        match machine.bindings.lookup name with
        | none => name
        | some entry =>
            match entry.has .reference, entry.value with
            | true, some target => if target.isEmpty then name else follow fuel target
            | _, _ => name
  follow 8 name

def splitSubscript (text : Text) : Text × Option Text :=
  let name := text.takeWhile (· ≠ '[')
  match text.drop name.length, text.getLast? with
  | '[' :: rest, some ']' => (name, some rest.dropLast)
  | _, _ => (text, none)

def lookup? (machine : Machine) (name : Text) : Option Variable :=
  (machine.kept? name).or (machine.bindings.lookup (machine.referent name))

def numberedKey? (elements : Elements) (number : Int) : Option Key :=
  let number := if number < 0 then number + elements.next else number
  if number < 0 then none else some (.number number.toNat)

def readOnlyMessage (name : Text) : Text := name ++ words ": readonly variable"

def recased (entry : Variable) (value : Text) : Text :=
  if entry.has .lower then value.map Char.toLower
  else if entry.has .upper then value.map Char.toUpper
  else value

def noticing (machine : Machine) (name value : Text) : Machine :=
  let number : Nat := Decimal.value (value.takeWhile isDigit)
  match String.ofList name with
  | "OPTIND" =>
      let { list, taken, .. } := machine.arguments
      { machine with
        arguments := ⟨list, max number 1, if number ≤ 1 then none else taken⟩ }
  | "PATH" => { machine with tracked := [] }
  | "RANDOM" => { machine with seed := number % 0x100000000 }
  | "GLOBIGNORE" =>
      let others := machine.features.filter (· ≠ "dotglob")
      if value.isEmpty then machine else { machine with features := "dotglob" :: others }
  | "SECONDS" =>
      let past := machine.clock / 1000000
      let base :=
        if past ≤ number then Decimal.digits (number - past)
        else '-' :: Decimal.digits (past - number)
      machine.putVariable name (.ofText base)
  | _ => machine

def noticingLoss (machine : Machine) (name : Text) : Machine :=
  match String.ofList name with
  | "OPTIND" | "PATH" => machine.noticing name []
  | "GLOBIGNORE" => { machine with features := machine.features.filter (· ≠ "dotglob") }
  | _ => machine

def put (machine : Machine) (name : Text) (key : Option Key) (value : Text) :
    Except Text Machine :=
  let entry := machine.variableOf name
  let value := recased entry value
  let exported := entry.exported || machine.has .allexport
  if entry.isReadOnly then .error (readOnlyMessage name)
  else
    match key with
    | none => .ok ((machine.putVariable name { entry.withText value with exported }).noticing name
        value)
    | some key =>
        let elements := (entry.toElements false).put key value
        .ok (machine.putVariable name { entry with value := some [], elements := some elements })

def nextSeed (seed : Nat) : Nat :=
  let start : Int := if seed = 0 then 123459876 else seed
  let high := start / 127773
  let low := start - 127773 * high
  let next := 16807 * low - 2836 * high
  (if next < 0 then next + 0x7fffffff else next).toNat

def random (machine : Machine) : Nat × Machine :=
  let shorten (seed : Nat) : Nat := ((seed >>> 16) ^^^ (seed % 65536)) % 32768
  let seed := nextSeed machine.seed
  let again := nextSeed seed
  if shorten seed = shorten machine.seed then (shorten again, { machine with seed := again })
  else (shorten seed, { machine with seed })

end ArtifactTools.Shell.Machine
