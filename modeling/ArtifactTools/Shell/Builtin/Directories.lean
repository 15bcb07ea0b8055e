import ArtifactTools.Shell.Builtin.Basic
import ArtifactTools.Shell.Lookup

/-! The shell's own commands for the working directory and the mask of new files. -/

namespace ArtifactTools.Shell.Builtin

def locationText (location : Location) : Text := Text.ofOctets (Host.pathOf location).octets

/-- The path that a text leads to from a directory by the names alone: a double dot takes the name
before it away. Two slashes at the beginning stay. -/
def resolve (shown target : Text) : Text :=
  let isAbsolute := target.head? = some '/'
  let keepsTwo : Bool :=
    match if isAbsolute then target else shown with
    | '/' :: '/' :: rest => rest.head? ≠ some '/'
    | _ => false
  let parts := (if isAbsolute then target else shown ++ '/' :: target).splitOn '/'
  let names := parts.foldl (fun (names : List Text) part =>
    if part.isEmpty || part = ['.'] then names
    else if part = ['.', '.'] then names.drop 1
    else part :: names) []
  (if keepsTwo then ['/', '/'] else ['/']) ++ (names.reverse.intersperse ['/']).flatten

def isShown (machine : Machine) (text : Text) : Bool :=
  text.head? = some '/' &&
    match machine.tree.find machine.directory ⟨text.toOctets⟩ with
    | .ok (location, _) => location = machine.directory
    | .error _ => false

def enter (isPhysical : Bool) (target : Text) : Doing Unit := do
  let machine ← get
  let shown := resolve machine.shown target
  let path := if isPhysical then target else shown
  match machine.tree.find machine.directory ⟨path.toOctets⟩ with
  | .ok (location, .directory mode) =>
      if !FileTree.allows mode FileTree.passBit then
        Doing.misuse (words "can't cd to " ++ target)
      let put (name : String) (text : Text) (machine : Machine) : Machine :=
        let entry := machine.variableOf (words name)
        machine.putVariable (words name) { entry.withText text with exported := true }
      let shown := if isPhysical then locationText location else shown
      set (put "PWD" shown
        (put "OLDPWD" machine.shown { machine.doubtTracks with directory := location, shown }))
  | _ => Doing.misuse (words "can't cd to " ++ target)

def isAnchored (target : Text) : Bool :=
  let first := target.takeWhile (· ≠ '/')
  target.head? = some '/' || first = ['.'] || first = ['.', '.']

def searched? (machine : Machine) (target : Text) : Option (Text × Bool) :=
  match machine.valueOf? (words "CDPATH") with
  | none => none
  | some places =>
      (splitAtColons places.toOctets).findSome? fun place =>
        let path : Text :=
          if place.isEmpty then target else Text.ofOctets place ++ '/' :: target
        match machine.tree.find machine.directory ⟨path.toOctets⟩ with
        | .ok (_, .directory _) => some (path, !place.isEmpty)
        | _ => none

def changeDirectory (arguments : List Text) : Doing Nat := do
  let (found, arguments) ← Doing.options [('L', false), ('P', false)] arguments
  let isPhysical := (found.getLast?.map (·.1)) = some 'P'
  let machine ← get
  let (target, returns) :=
    match arguments with
    | [] => ((machine.valueOf? (words "HOME")).getD [], false)
    | ['-'] :: _ => ((machine.valueOf? (words "OLDPWD")).getD [], true)
    | target :: _ => (target, false)
  let place? := if isAnchored target then none else searched? machine target
  let tells :=
    match place? with
    | some (_, tells) => tells
    | none => false
  enter isPhysical ((place?.map (·.1)).getD target)
  if returns || tells then Doing.sayLine (← get).shown
  return 0

def printDirectory (arguments : List Text) : Doing Nat := do
  let (found, _) ← Doing.options [('L', false), ('P', false)] arguments
  let machine ← get
  let isPhysical := (found.getLast?.map (·.1)) = some 'P'
  Doing.sayLine (if isPhysical then locationText machine.directory else machine.shown)
  return 0

/-! The mask. -/

def octal (digits number : Nat) : Text :=
  Decimal.padZeros digits (Nat.toDigits 8 number)

def permissions (mask : Nat) (shift : Nat) : Text :=
  let allowed (bit : Nat) : Bool := !(mask.testBit (shift + bit))
  (if allowed 2 then ['r'] else []) ++ (if allowed 1 then ['w'] else []) ++
    (if allowed 0 then ['x'] else [])

structure Grant where
  who : Nat
  operation : Char
  what : Nat

def bitsOf (meaning : Char → Option Nat) (letters : Text) : Nat :=
  letters.foldl (fun bits letter => bits ||| (meaning letter).getD 0) 0

def whoOf : Char → Option Nat
  | 'a' => some 0o111
  | 'u' => some 0o100
  | 'g' => some 0o010
  | 'o' => some 0o001
  | _ => none

def whatOf (allowed : Nat) : Char → Option Nat
  | 'r' => some 4
  | 'w' => some 2
  | 'x' => some 1
  | 'u' => some (allowed >>> 6)
  | 'g' => some (allowed >>> 3)
  | 'o' => some allowed
  | 'X' => some (if allowed &&& 0o111 = 0 then 0 else 1)
  | 's' => some 0
  | _ => none

def Grant.apply (grant : Grant) (allowed : Nat) : Nat :=
  let bits := (grant.what % 8) * grant.who
  let others := 0o777 ^^^ (grant.who * 7)
  match grant.operation with
  | '-' => allowed &&& (0o777 ^^^ bits)
  | '=' => bits ||| (allowed &&& others)
  | _ => allowed ||| bits

def readGrants (allowed : Nat) : Nat → Nat → Nat → Text → Option Nat
  | 0, _, _, _ => none
  | _ + 1, _, sofar, [] => some sofar
  | fuel + 1, who, sofar, text =>
      let people := text.takeWhile fun letter => (whoOf letter).isSome
      let bits := who ||| bitsOf whoOf people
      let who := if bits = 0 then 0o111 else bits
      match text.drop people.length with
      | operation :: rest =>
          if !("=+-".contains operation) then none
          else
            let letters := rest.takeWhile fun letter => (whatOf allowed letter).isSome
            let grant : Grant := ⟨who, operation, bitsOf (whatOf allowed) letters⟩
            let sofar := grant.apply sofar
            match rest.drop letters.length with
            | ',' :: rest => readGrants allowed fuel 0 sofar rest
            | rest => readGrants allowed fuel who sofar rest
      | [] => none

def readMask (mask : Nat) (text : Text) : Except Text Nat :=
  if text.head?.any isDigit then
    if text.all fun digit => '0' ≤ digit && digit ≤ '7' then
      .ok (text.foldl (fun mask digit => mask * 8 + Decimal.digitValue digit) 0 % 0o1000)
    else .error (Machine.illegalNumber text)
  else
    match readGrants (0o777 ^^^ mask) (text.length + 1) 0 (0o777 ^^^ mask) text with
    | some allowed => .ok (0o777 ^^^ allowed)
    | none => .error (words "Illegal mode: " ++ text)

def changeMask (arguments : List Text) : Doing Nat := do
  let (found, arguments) ← Doing.options [('S', false)] arguments
  let mask := (← get).mask
  match arguments with
  | text :: _ => do
      let mask ← Doing.ofExcept (readMask mask text)
      modify fun machine => { machine with mask }
  | [] =>
      if found.isEmpty then Doing.sayLine (octal 4 mask)
      else
        Doing.sayLine (words "u=" ++ permissions mask 6 ++ words ",g=" ++ permissions mask 3 ++
          words ",o=" ++ permissions mask 0)
  return 0

end ArtifactTools.Shell.Builtin
