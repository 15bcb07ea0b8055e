import ArtifactTools.Shell.Lookup
import ArtifactTools.Shell.Native.Basic

/-! Programs that tell where and for whom they run: the system, the user, the variables, and the
places of other programs. -/

namespace ArtifactTools.Shell.Native

/-! The system. -/

def systemParts : List (Char × String × String) :=
  [('s', "kernel-name", "Linux"), ('n', "nodename", "localhost"),
    ('r', "kernel-release", "6.8.0-generic"), ('v', "kernel-version", "#1 SMP PREEMPT_DYNAMIC"),
    ('m', "machine", "x86_64"), ('p', "processor", "x86_64"), ('i', "hardware-platform", "x86_64"),
    ('o', "operating-system", "GNU/Linux")]

def systemKinds : List OptionKind :=
  flag 'a' "all" :: systemParts.map fun row => flag row.1 row.2.1

def system (name : Text) (arguments : List Text) : Running Unit :=
  withOptions 1 systemKinds name arguments fun options operands => do
    match operands with
    | extra :: _ => extraOperand name extra
    | [] => do
        let asked (letter : Char) : Bool :=
          hasOption options 'a' || hasOption options letter || (options.isEmpty && letter = 's')
        let parts := systemParts.filterMap fun row =>
          if asked row.1 then some (words row.2.2) else none
        succeed
        say (Format.joinWords parts ++ ['\n'])

def tell (status : Nat) (text : String) (name : Text) (arguments : List Text) : Running Unit :=
  withOptions status [] name arguments fun _ operands => do
    match operands with
    | extra :: _ =>
        complain status [name ++ words ": extra operand " ++ cited extra, usageHint name]
    | [] => do
        succeed
        say (words text ++ ['\n'])

def hostName (name : Text) (arguments : List Text) : Running Unit :=
  withOptions 1 [flag 's' "short", flag 'f' "fqdn", flag 'i' "ip-address"] name arguments
    fun _ _ => do
      succeed
      say (words "localhost\n")

def processors (name : Text) (arguments : List Text) : Running Unit :=
  withOptions 1 [longOnly '\x03' "all" .nothing, longOnly '\x04' "ignore" .text] name arguments
    fun options operands => do
      match operands with
      | extra :: _ => extraOperand name extra
      | [] => do
          let ignored := Decimal.value ((optionText? options '\x04').getD [])
          succeed
          say (Decimal.digits (max 1 (2 - ignored)) ++ ['\n'])

def terminal (name : Text) (arguments : List Text) : Running Unit :=
  withOptions 2 [flag 's' "silent", longOnly 's' "quiet" .nothing] name arguments
    fun options operands => do
      match operands with
      | extra :: _ =>
          complain 2 [name ++ words ": extra operand " ++ cited extra, usageHint name]
      | [] => do
          if !hasOption options 's' then say (words "not a tty\n")
          modify fun machine => machine.fail 1

/-! The user. -/

def noSuchUser (name user : Text) : Running Unit :=
  blame 1 name (cited user ++ words ": no such user")

def isRoot (user : Text) : Bool := user = words "root" || user = ['0']

def identity (name : Text) (arguments : List Text) : Running Unit :=
  withOptions 1 [flag 'u' "user", flag 'g' "group", flag 'G' "groups", flag 'n' "name",
    flag 'r' "real", flag 'z' "zero", flag 'a' ""] name arguments fun options operands => do
      let asked := (options.map (·.1)).filter fun letter => "ugG".contains letter
      let choices := asked.eraseDups
      if 1 < choices.length then
        blame 1 name (words "cannot print \"only\" of more than one choice")
      else if choices.isEmpty && (hasOption options 'n' || hasOption options 'r') then
        blame 1 name (words "cannot print only names or real IDs in default format")
      else
        let users : List Text := if operands.isEmpty then [words "root"] else operands
        forEach users fun user => do
          if !isRoot user then noSuchUser name user
          else if choices.isEmpty then say (words "uid=0(root) gid=0(root) groups=0(root)\n")
          else say (words (if hasOption options 'n' then "root" else "0") ++ lineEnd options)

def groups (name : Text) (arguments : List Text) : Running Unit :=
  withOptions 1 [] name arguments fun _ operands => do
    if operands.isEmpty then
      succeed
      say (words "root\n")
    else
      forEach operands fun user => do
        if isRoot user then say (user ++ words " : root\n") else noSuchUser name user

def loginName (name : Text) (arguments : List Text) : Running Unit :=
  withOptions 1 [] name arguments fun _ operands => do
    match operands with
    | extra :: _ => extraOperand name extra
    | [] => blame 1 name (words "no login name")

/-! Variables and programs. -/

def printVariables (name : Text) (arguments : List Text) : Running Unit :=
  withOptions 2 [flag '0' "null"] name arguments fun options operands => do
    let machine ← get
    let ending : Text := if hasOption options '0' then ['\x00'] else ['\n']
    succeed
    if operands.isEmpty then
      for (name, entry) in machine.bindings.reverse do
        if let some value := entry.text? then say (name ++ '=' :: value ++ ending)
    else
      for operand in operands do
        match machine.valueOf? operand with
        | some value => say (value ++ ending)
        | none => modify fun machine => machine.fail 1

def which (name : Text) (arguments : List Text) : Running Unit := do
  match readOptions true [flag 'a' "", flag 's' ""] arguments with
  | .error fault => do
      let letter := (fault.reverse.drop 1).head?.getD '-'
      complain 2 [words "Illegal option -" ++ [letter], words "Usage: " ++ name ++
        words " [-as] args"]
  | .ok (options, operands) => do
      let machine ← get
      let isFound (path : Text) : Bool :=
        match machine.tree.find machine.directory (pathOf path) with
        | .ok (_, node) => machine.tree.runs node
        | .error _ => false
      modify fun machine => machine.fail (if operands.isEmpty then 1 else 0)
      for operand in operands do
        let paths :=
          if operand.contains '/' then [operand]
          else (searchedIn machine.searchPath?).map fun place =>
            pathIn (if place.isEmpty then ['.'] else place) operand
        let found := paths.filter isFound
        let told := if hasOption options 'a' then found else found.take 1
        if found.isEmpty then modify fun machine => machine.fail 1
        if !hasOption options 's' then told.forM fun path => say (path ++ ['\n'])

end ArtifactTools.Shell.Native
