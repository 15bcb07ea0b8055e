import ArtifactTools.Shell.Builtin.Directories
import ArtifactTools.Shell.Extended.Doing

/-! The commands of the extended dialect for the working directory, the directories to come back to,
and the mask of new files. -/

namespace ArtifactTools.Shell.Extended

def isPassable (machine : Machine) (shown target : Text) : Bool :=
  let isAbsolute := target.head? = some '/'
  let parts := (if isAbsolute then target else shown ++ '/' :: target).splitOn '/'
  let isDirectory (path : Text) : Bool := Test.testFile machine 'd' path
  let step (state : Bool × Text) (part : Text) : Bool × Text :=
    let (passes, path) := state
    if part = ['.', '.'] then
      (passes && (path.isEmpty || isDirectory path), Builtin.resolve path (path ++ words "/.."))
    else if part.isEmpty || part = ['.'] then state
    else (passes, Builtin.resolve path (path ++ '/' :: part))
  (parts.foldl step (true, [])).1

def noteDirectory (name : String) (value : Text) : Doing Bool :=
  unnamed do settle (Assigning.assign (← get) (words name) none false value)

def enter? (isPhysical : Bool) (target : Text) : Doing (Except HostError Nat) := do
  let machine ← get
  let find (path : Text) : Except HostError Location :=
    match machine.tree.find machine.directory ⟨path.toOctets⟩ with
    | .ok (location, .directory mode) =>
        if FileTree.allows mode FileTree.passBit then .ok location else .error .denied
    | .ok _ => .error .notDirectory
    | .error error => .error error
  let absolute := if target.head? = some '/' then target else machine.shown ++ '/' :: target
  let resolved :=
    if isPassable machine machine.shown target then Builtin.resolve machine.shown target
    else absolute
  let found : Except HostError (Location × Text) :=
    if isPhysical then
      (find absolute).map fun location => (location, Builtin.locationText location)
    else
      match find resolved with
      | .ok location => .ok (location, resolved)
      | .error error =>
          match find absolute with
          | .ok location => .ok (location, Builtin.locationText location)
          | .error _ => .error error
  match found with
  | .error error => return .error error
  | .ok (directory, shown) => do
      let former := (machine.valueOf? (words "PWD")).getD []
      set { machine with directory, shown }
      let isNoted ← noteDirectory "OLDPWD" former
      let isShown ← noteDirectory "PWD" shown
      return .ok (if isNoted && isShown then 0 else 1)

def directorySynopsis : String := "[-L|[-P [-e]] [-@]] [dir]"

def asksForPhysical (found : List (Char × Text)) : Doing Bool := do
  let usually := (← get).has .physical
  let asked := (found.filter fun entry => entry.1 = 'L' || entry.1 = 'P').getLast?.map (·.1)
  return match asked with
    | some letter => letter = 'P'
    | none => usually

def enterIn (isPhysical : Bool) (target : Text) : List Text → Doing (Option Nat)
  | [] => return none
  | place :: rest => do
      let path := if place.isEmpty then target else place ++ '/' :: target
      match ← enter? isPhysical path with
      | .ok status => do
          if !place.isEmpty then Doing.sayLine (← get).shown
          return some status
      | .error _ => enterIn isPhysical target rest

def changeDirectory (arguments : List Text) : Doing Nat := do
  let allowed := [('e', false), ('L', false), ('P', false), ('@', false)]
  match ← options allowed directorySynopsis arguments with
  | none => return 2
  | some (found, names) => do
      let isPhysical ← asksForPhysical found
      let machine ← get
      let go (target : Text) (tells : Bool) : Doing Nat := do
        match ← enter? isPhysical target with
        | .ok status => do
            if tells then Doing.sayLine target
            return status
        | .error error =>
            match if machine.hasFeature "cdable_vars" then machine.valueOf? target else none with
            | some other => do
                match ← enter? isPhysical other with
                | .ok status => do
                    Doing.sayLine other
                    return status
                | .error _ => refuse 1 (target ++ words ": " ++ Machine.plainWording error)
            | none => refuse 1 (target ++ words ": " ++ Machine.plainWording error)
      match names with
      | [] =>
          match machine.valueOf? (words "HOME") with
          | some home => go home false
          | none => refuse 1 (words "HOME not set")
      | [['-']] =>
          match machine.valueOf? (words "OLDPWD") with
          | some former => go former true
          | none => refuse 1 (words "OLDPWD not set")
      | [target] =>
          match if Builtin.isAnchored target then none else machine.valueOf? (words "CDPATH") with
          | none => go target false
          | some places => do
              let places := (splitAtColons places.toOctets).map Text.ofOctets
              match ← enterIn isPhysical target places with
              | some status => return status
              | none => go target false
      | _ => refuse 1 (words "too many arguments")

def printDirectory (arguments : List Text) : Doing Nat := do
  match ← options [('L', false), ('P', false)] "[-LP]" arguments with
  | none => return 2
  | some (found, _) => do
      let isPhysical ← asksForPhysical found
      let machine ← get
      Doing.sayLine
        (if isPhysical then Builtin.locationText machine.directory else machine.shown)
      return 0

/-! The directories to come back to. The working directory counts as the first of them. -/

def refuseIndex (text : Text) : Doing Nat := do
  refuse 1 (if (← get).stack.isEmpty then words "directory stack empty"
    else text ++ words ": directory stack index out of range")

def invalidNumber (text : Text) : Text := text ++ words ": invalid number"

def politely (machine : Machine) (path : Text) : Text :=
  let home := (machine.valueOf? (words "HOME")).getD []
  let rest := path.drop home.length
  if 1 < home.length && home.isPrefixOf path && (rest.isEmpty || rest.head? = some '/') then
    '~' :: rest
  else path

def stackSynopsis : String := "[-clpv] [+N] [-N]"

/-- How directories are listed: whole, not at all since all are to be forgotten, with numbers, each
on a line, and only the one with a number. -/
structure StackView where
  isLong : Bool
  forgets : Bool
  isNumbered : Bool
  isTall : Bool
  index : Option (Text × Option Nat)

def listStack (view : StackView) : Doing Nat := do
  let machine ← get
  let directories := machine.shown :: machine.stack
  let shown (path : Text) : Text := if view.isLong then path else politely machine path
  let line (index : Nat) (path : Text) : Text :=
    if view.isNumbered then
      let digits := Decimal.digits index
      List.replicate (2 - digits.length) ' ' ++ digits ++ [' ', ' '] ++ shown path
    else shown path
  match view.index with
  | some (text, index?) =>
      match index?.bind fun index => directories[index]?.map (line index) with
      | some text => do
          Doing.sayLine text
          return 0
      | none => refuseIndex text
  | none => do
      let lines := ((List.range directories.length).zip directories).map fun entry =>
        line entry.1 entry.2
      let between : Text := if view.isTall || view.isNumbered then ['\n'] else [' ']
      Doing.sayLine (between.intercalate lines)
      return 0

def readStack : StackView → List Text → Doing (Except Nat StackView)
  | view, [] => return .ok view
  | view, word :: rest => do
      match word with
      | ['-', '-'] => return .ok view
      | ['-', 'l'] => readStack { view with isLong := true } rest
      | ['-', 'c'] => readStack { view with forgets := true } rest
      | ['-', 'v'] => readStack { view with isNumbered := true } rest
      | ['-', 'p'] => readStack { view with isTall := true } rest
      | sign :: digits =>
          if sign ≠ '+' && sign ≠ '-' then
            Doing.complain (word ++ words ": invalid option")
            return .error (← usage stackSynopsis)
          match integer? digits with
          | none => do
              Doing.complain (invalidNumber word)
              return .error (← usage stackSynopsis)
          | some number => do
              let last : Int := (← get).stack.length
              let index := if sign = '+' then number else last - number
              let index? := if index < 0 || last < index then none else some index.toNat
              readStack { view with index := some (digits, index?) } rest
      | [] => do
          Doing.complain (words ": invalid option")
          return .error (← usage stackSynopsis)

def listDirectories (arguments : List Text) : Doing Nat := do
  match ← readStack ⟨false, false, false, false, none⟩ arguments with
  | .error status => return status
  | .ok view =>
      if view.forgets then
        modify fun machine => { machine with stack := [] }
        return 0
      else listStack view

def showStack : Doing Nat := listStack ⟨false, false, false, false, none⟩

def enterAndShow (target : Text) : Doing Nat := do
  let status ← changeDirectory [target]
  if status ≠ 0 then return status
  showStack

def pushSynopsis : String := "[-n] [+N | -N | dir]"

def rotate (stays : Bool) (count : Nat) : Doing Nat := do
  let machine ← get
  let directories := machine.shown :: machine.stack
  let turned := directories.drop count ++ directories.take count
  set { machine with stack := turned.drop 1 }
  if stays then return 0
  enterAndShow (turned.head?.getD [])

def push (stays : Bool) (arguments : List Text) : Doing Nat := do
  let former := (← get).shown
  let status ← if stays then pure 0 else changeDirectory arguments
  if status ≠ 0 then return status
  modify fun machine =>
    { machine with stack := (if stays then arguments.head?.getD [] else former) :: machine.stack }
  showStack

def readPush (stays : Bool) (turn : Option Nat) : List Text → Doing Nat
  | [] =>
      match turn with
      | some count => rotate stays count
      | none => return 0
  | word :: rest => do
      let finish (rest : List Text) : Doing Nat :=
        match turn with
        | some count => rotate stays count
        | none => if rest.isEmpty then return 0 else push stays rest
      match word with
      | ['-', 'n'] => readPush true turn rest
      | ['-', '-'] => finish rest
      | ['-'] => finish (word :: rest)
      | sign :: digits =>
          if sign ≠ '+' && sign ≠ '-' then finish (word :: rest)
          else
            match integer? digits with
            | none => do
                Doing.complain (invalidNumber word)
                usage pushSynopsis
            | some number => do
                let last : Int := (← get).stack.length
                let index := if sign = '+' then number else last - number
                if index < 0 || last < index then refuseIndex word
                else readPush stays (some index.toNat) rest
      | [] => finish (word :: rest)

def pushDirectory (arguments : List Text) : Doing Nat := do
  if !arguments.isEmpty then return ← readPush false none arguments
  let machine ← get
  match machine.stack with
  | [] => refuse 1 (words "no other directory")
  | top :: rest => do
      set { machine with stack := machine.shown :: rest }
      enterAndShow top

def popSynopsis : String := "[-n] [+N | -N]"

def pop (stays : Bool) (word : Text) (sign : Char) (number : Int) : Doing Nat := do
  let machine ← get
  let last : Int := machine.stack.length
  if last < number || number < -last || last = 0 then return ← refuseIndex word
  let isTop := if sign = '+' then number = 0 else number = last
  if isTop then
    let top := machine.stack.head?.getD []
    let status ← if stays then pure 0 else changeDirectory [top]
    if status ≠ 0 then return status
    modify fun machine => { machine with stack := machine.stack.drop 1 }
  else
    let index := if sign = '+' then number - 1 else last - 1 - number
    set { machine with stack := machine.stack.eraseIdx index.toNat }
  showStack

def readPop (stays : Bool) (word : Text) (sign : Char) (number : Int) : List Text → Doing Nat
  | [] => pop stays word sign number
  | next :: rest => do
      match next with
      | ['-', 'n'] => readPop true word sign number rest
      | ['-', '-'] => pop stays word sign number
      | sign' :: digits =>
          if sign' = '+' || sign' = '-' then
            match integer? digits with
            | none => do
                Doing.complain (invalidNumber next)
                usage popSynopsis
            | some number => readPop stays next sign' number rest
          else do
            Doing.complain (next ++ words ": invalid argument")
            usage popSynopsis
      | [] => pop stays word sign number

def popDirectory : List Text → Doing Nat := readPop false [] '+' 0

/-! The mask. -/

def maskSynopsis : String := "[-p] [-S] [mode]"

def readGrants : Nat → Nat → Text → Except Text Nat
  | 0, bits, _ => .ok bits
  | fuel + 1, bits, text =>
      let fault (mark : Char) (what : String) : Except Text Nat :=
        .error (['\x60', mark] ++ words ("': invalid symbolic mode " ++ what))
      let people := text.takeWhile fun letter => (Builtin.whoOf letter).isSome
      let who := Builtin.bitsOf Builtin.whoOf people
      match text.drop people.length with
      | [] => fault '\x00' "operator"
      | operation :: rest =>
          if !("=+-".contains operation) then fault operation "operator"
          else
            let letters := rest.takeWhile fun letter => "rwx".contains letter
            let what := Builtin.bitsOf (Builtin.whatOf 0) letters
            let grant : Builtin.Grant := ⟨if who = 0 then 0o111 else who, operation, what⟩
            let bits := grant.apply bits
            match rest.drop letters.length with
            | [] => .ok bits
            | ',' :: rest => readGrants fuel bits rest
            | letter :: _ => fault letter "character"

def readMask (mask : Nat) (mode : Text) : Except Text Nat :=
  if mode.head?.any isDigit then
    let isOctal := mode.all fun digit => '0' ≤ digit && digit ≤ '7'
    let number := mode.foldl (fun sum digit => sum * 8 + Decimal.digitValue digit) 0
    if isOctal && number ≤ 0o7777 then .ok (number % 0o1000)
    else .error (mode ++ words ": octal number out of range")
  else
    (readGrants (mode.length + 1) (0o777 ^^^ mask) mode).map fun allowed => 0o777 ^^^ allowed

def changeMask (arguments : List Text) : Doing Nat := do
  match ← options [('S', false), ('p', false)] maskSynopsis arguments with
  | none => return 2
  | some (found, modes) => do
      let symbolic (mask : Nat) : Text :=
        words "u=" ++ Builtin.permissions mask 6 ++ words ",g=" ++ Builtin.permissions mask 3 ++
          words ",o=" ++ Builtin.permissions mask 0
      let mask := (← get).mask
      match modes with
      | [] => do
          let start := if has found 'p' then words "umask " else []
          if has found 'S' then
            Doing.sayLine (start ++ (if has found 'p' then words "-S " else []) ++ symbolic mask)
          else Doing.sayLine (start ++ Builtin.octal 4 mask)
          return 0
      | mode :: _ =>
          match readMask mask mode with
          | .error message => refuse 1 message
          | .ok mask => do
              modify fun machine => { machine with mask }
              if has found 'S' then Doing.sayLine (symbolic mask)
              return 0

end ArtifactTools.Shell.Extended
