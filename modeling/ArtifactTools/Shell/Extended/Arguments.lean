import ArtifactTools.Shell.Builtin.Variables
import ArtifactTools.Shell.Extended.Doing

/-! The commands of the extended dialect that work on arguments, and those that say where a script
is. -/

namespace ArtifactTools.Shell.Extended

def compute (arguments : List Text) : Doing Nat := do
  let arguments := if arguments.head? = some ['-', '-'] then arguments.drop 1 else arguments
  if arguments.isEmpty then return ← refuse 1 (words "expression expected")
  let rec go : List Text → Int → Doing Nat
    | [], last => return if last = 0 then 1 else 0
    | text :: rest, _ => do
        match Assigning.calculate (← get) text with
        | (some number, machine) => do
            set machine
            go rest number
        | (none, machine) => do
            set machine
            return 1
  go arguments 0

def wording : Builtin.OptionFault → Text
  | .unknown letter => words "illegal option -- " ++ [letter]
  | .textless letter => words "option requires an argument -- " ++ [letter]

/-- What the next option among arguments comes to: there may be none, it may be one with a text, or
something may be wrong with it. -/
inductive NextOption where
  | none
  | found (letter : Char) (text : Option Text)
  | faulty (fault : Builtin.OptionFault)

def nextOption (allowed : Text) (state : Arguments) : NextOption × Arguments :=
  let list := state.list
  let word := list.getD (state.next - 1) []
  let next := state.next + 1
  let left := (state.taken.map fun count => word.drop count).getD []
  let start : Option (Nat × Text) :=
    if !left.isEmpty then some (state.taken.getD 0, left)
    else
      match word with
      | '-' :: letter :: letters => some (1, letter :: letters)
      | _ => none
  if list.length < state.next then (.none, { state with next := list.length + 1 })
  else if left.isEmpty && word = ['-', '-'] then (.none, ⟨list, next, none⟩)
  else
    match start with
    | none | some (_, []) => (.none, { state with taken := none })
    | some (place, letter :: letters) =>
        let passed : Arguments :=
          if letters.isEmpty then ⟨list, next, none⟩
          else { state with taken := some (place + 1) }
        match (Builtin.takesText? letter allowed).filter fun _ => letter ≠ ':' with
        | none => (.faulty (.unknown letter), passed)
        | some false => (.found letter none, passed)
        | some true =>
            if !letters.isEmpty then (.found letter (some letters), ⟨list, next, none⟩)
            else
              match list[next - 1]? with
              | some text => (.found letter (some text), ⟨list, next + 1, none⟩)
              | none => (.faulty (.textless letter), passed)

def optionsSynopsis : String := "optstring name [arg ...]"

def getOptions (arguments : List Text) : Doing Nat := do
  match ← options [] optionsSynopsis arguments with
  | none => return 2
  | some (_, rest) =>
      match rest with
      | allowed :: name :: list => do
          let machine ← get
          let isQuiet := allowed.head? = some ':'
          let allowed := if isQuiet then allowed.drop 1 else allowed
          let own := machine.arguments
          let (step, state) :=
            nextOption allowed (if list.isEmpty then own else own.replaced list)
          if let .faulty fault := step then
            if !isQuiet && machine.valueOf? (words "OPTERR") ≠ some ['0'] then
              let text := machine.name ++ words ": " ++ wording fault ++ ['\n']
              modify fun machine => (machine.write 2 text).getD machine
          let (shown, text?) : Text × Option Text :=
            match step with
            | .none => (['?'], none)
            | .found letter text => ([letter], text)
            | .faulty (.unknown letter) => (['?'], if isQuiet then some [letter] else none)
            | .faulty (.textless letter) =>
                if isQuiet then ([':'], some [letter]) else (['?'], none)
          modify fun machine =>
            let machine :=
              { machine with arguments := state.replaced own.list }.setVariable (words "OPTIND")
                (Decimal.digits state.next)
            match text? with
            | some text => machine.setVariable (words "OPTARG") text
            | none => machine.forget (words "OPTARG")
          let isNone : Bool := step matches .none
          if !isName name then
            Doing.complain (Assigning.invalidName name)
            return 1
          let isDone ← unnamed do settle (Assigning.assign (← get) name none false shown)
          return if isNone then 1 else if isDone then 0 else 2
      | _ => usage optionsSynopsis

def callerSynopsis : String := "[expr]"

def caller (arguments : List Text) : Doing Nat := do
  match ← options [] callerSynopsis arguments with
  | none => return 2
  | some (_, rest) => do
      let machine ← get
      let outermost := if machine.isGiven then words "environment" else words "main"
      if machine.frames.isEmpty then return 1
      match rest with
      | [] =>
          match machine.frames with
          | [] => return 1
          | frame :: others => do
              let origin := (others.head?.map (·.origin)).getD
                (if machine.isGiven then words "NULL" else machine.name)
              Doing.sayLine (Decimal.digits frame.line ++ ' ' :: origin)
              return 0
      | text :: _ =>
          match integer? text with
          | none => do
              Doing.complain (text ++ words ": invalid number")
              usage callerSynopsis
          | some number =>
              if number < 0 then return 1
              match machine.frames.drop number.toNat with
              | frame :: next :: _ => do
                  Doing.sayLine (Decimal.digits frame.line ++ ' ' :: next.function ++ ' ' ::
                    next.origin)
                  return 0
              | [frame] =>
                  if machine.isGiven then return 1
                  Doing.sayLine (Decimal.digits frame.line ++ ' ' :: outermost ++ ' ' ::
                    machine.name)
                  return 0
              | [] => return 1

def matchesSynopsis : String :=
  "[-abcdefgjksuv] [-o option] [-A action] [-G globpat] [-W wordlist] [-F function] " ++
    "[-C command] [-X filterpat] [-P prefix] [-S suffix] [word]"

def listMatches (arguments : List Text) : Doing Nat := do
  let allowed := ("abcdefgjksuv".toList.map fun letter => (letter, false)) ++
    "oAGFCPSWX".toList.map fun letter => (letter, true)
  match ← options allowed matchesSynopsis arguments with
  | none => return 2
  | some (found, rest) => do
      let start := rest.head?.getD []
      let listed := (found.lookup 'W').getD []
      let items := (Fields.split [' ', '\t', '\n'] (listed.map Glyph.loose)).map Glyph.text
      let fitting := items.filter fun item => start.isPrefixOf item
      for item in fitting do Doing.sayLine item
      return if fitting.isEmpty then 1 else 0

end ArtifactTools.Shell.Extended
