import ArtifactTools.Shell.Calendar
import ArtifactTools.Shell.Extended.Doing
import ArtifactTools.Shell.Format
import ArtifactTools.Shell.Quoting

/-! The commands of the extended dialect that write text. -/

namespace ArtifactTools.Shell.Extended

def readEcho (isOpen resolves : Bool) : List Text → Bool × Bool × List Text
  | [] => (isOpen, resolves, [])
  | word :: rest =>
      match word with
      | '-' :: letter :: letters =>
          let letters := letter :: letters
          if (letters.all fun letter => "neE".contains letter) then
            let resolves := letters.foldl (fun resolves letter =>
              if letter = 'e' then true else if letter = 'E' then false else resolves) resolves
            readEcho (isOpen || letters.contains 'n') resolves rest
          else (isOpen, resolves, word :: rest)
      | _ => (isOpen, resolves, word :: rest)

def echo (arguments : List Text) : Doing Nat := do
  let usually := (← get).hasFeature "xpg_echo"
  let (isOpen, resolves, rest) := readEcho false usually arguments
  let text := Format.joinWords rest
  let ending : Text := if isOpen then [] else ['\n']
  if resolves then
    let (resolved, stops) := Escape.resolve .words (text.length + 1) text
    Doing.say (if stops then resolved else resolved ++ ending)
  else Doing.say (text ++ ending)
  return 0

/-! Formats. -/

/-- What a format has come to: its text, which may be `kept` from being written, the arguments left,
whether any was faulty, and whether it has ended. -/
structure Filling where
  output : Text
  isKept : Bool
  arguments : List Text
  isFaulty : Bool
  isOver : Bool

namespace Filling

def write (filling : Filling) (text : Text) : Filling :=
  { filling with output := filling.output ++ text }

def take (filling : Filling) : Text × Filling :=
  match filling.arguments with
  | [] => ([], filling)
  | argument :: rest => (argument, { filling with arguments := rest })

end Filling

def Filling.complain (filling : Filling) (message : Text) : Doing Filling := do
  if !filling.isKept then Doing.say filling.output
  Doing.complain message
  return if filling.isKept then filling else { filling with output := [] }

def numberFault (argument : Text) (complaint : Format.Complaint) : Text :=
  match complaint with
  | .outOfRange => words "warning: " ++ argument ++ words ": Numerical result out of range"
  | _ => argument ++ words ": invalid number"

def takeNumber {α : Type} (filling : Filling) (read : Text → Format.Reading α)
    (ofCode : Nat → α) : Doing (α × Filling) := do
  let (argument, filling) := filling.take
  match Format.characterCode? argument with
  | some (code, _) => return (ofCode code, filling)
  | none => do
      let reading := read argument
      match if argument.isEmpty then none else reading.complaint? argument with
      | none => return (reading.value, filling)
      | some complaint => do
          let filling ← filling.complain (numberFault argument complaint)
          let isFaulty := filling.isFaulty || complaint ≠ .outOfRange
          return (reading.value, { filling with isFaulty })

def readSize (filling : Filling) : Text → Doing (Int × Filling × Text)
  | '*' :: rest => do
      let (value, filling) ← takeNumber filling (Format.wholeNumber true) Int.ofNat
      return (value, filling, rest)
  | rest =>
      let digits := rest.takeWhile isDigit
      return (Decimal.value digits, filling, rest.drop digits.length)

def convert (field : Format.Field) (letter : Char) (filling : Filling) :
    Doing (Option Filling) := do
  match letter with
  | 's' =>
      let (argument, filling) := filling.take
      return some (filling.write (Format.pad field (Format.limit field argument)))
  | 'b' =>
      let (argument, filling) := filling.take
      let (text, stops) := Escape.resolve .argument (argument.length + 1) argument
      let text := Format.pad field (Format.limit field text)
      return some { filling.write text with isOver := stops }
  | 'c' =>
      let (argument, filling) := filling.take
      return some (filling.write (Format.pad field [argument.head?.getD '\x00']))
  | 'q' | 'Q' =>
      let (argument, filling) := filling.take
      let text :=
        if letter = 'Q' then Quoting.backslashed (Format.limit field argument)
        else Format.limit field (Quoting.backslashed argument)
      return some (filling.write (Format.pad field text))
  | letter =>
      if "di".contains letter then
        let (value, filling) ← takeNumber filling (Format.wholeNumber true) Int.ofNat
        return some (filling.write (Format.number field letter value))
      else if "ouxX".contains letter then
        let (value, filling) ← takeNumber filling (Format.wholeNumber false) Int.ofNat
        return some (filling.write (Format.number field letter value))
      else if "aAeEfFgG".contains letter then
        let (value, filling) ←
          takeNumber filling (Format.realNumber .extended) Format.Scalar.ofCode
        return some (filling.write (Format.real .extended field letter value))
      else return none

def pass : Nat → Text → Filling → Doing Filling
  | 0, _, filling => return filling
  | _ + 1, [], filling => return filling
  | fuel + 1, '\\' :: rest, filling => do
      match Escape.read .format rest with
      | (.digitless content what, rest) => do
          let filling ← filling.complain (words ("missing " ++ what))
          pass fuel rest (filling.write content)
      | (.text content, rest) => pass fuel rest (filling.write content)
      | (.ending, _) => return { filling with isOver := true }
  | fuel + 1, '%' :: '%' :: rest, filling => pass fuel rest (filling.write ['%'])
  | fuel + 1, '%' :: text, filling => do
      let (field, rest) := Format.readFlags .plain text
      let (width, filling, rest) ← readSize filling rest
      let field :=
        { field with leftAligned := field.leftAligned || width < 0, width := width.natAbs }
      let (field, filling, rest) ←
        match rest with
        | '.' :: rest => do
            let (precision, filling, rest) ← readSize filling rest
            let precision := if precision < 0 then none else some precision.toNat
            pure ({ field with precision }, filling, rest)
        | rest => pure (field, filling, rest)
      let rest := rest.dropWhile fun letter => "hjlLtz".contains letter
      match rest with
      | [] => do
          let filling ←
            filling.complain (('\x60' :: '%' :: text) ++ words "': missing format character")
          return { filling with isFaulty := true, isOver := true }
      | '(' :: inside => do
          let format := inside.takeWhile (· ≠ ')')
          match inside.drop format.length with
          | ')' :: 'T' :: rest => do
              let (argument, filling) := filling.take
              let number := (Format.wholeNumber true argument).value
              let seconds := if argument.isEmpty || number < 0 then 0 else number
              let format := if format.isEmpty then words "%X" else format
              let text := Calendar.text seconds (8 * format.length + 8) format
              pass fuel rest (filling.write (Format.pad field (Format.limit field text)))
          | _ => do
              let filling ← filling.complain (words "\x60(': invalid format character")
              return { filling with isFaulty := true, isOver := true }
      | letter :: rest => do
          match ← convert field letter filling with
          | none => do
              let filling ←
                filling.complain (['\x60', letter] ++ words "': invalid format character")
              return { filling with isFaulty := true, isOver := true }
          | some filling => if filling.isOver then return filling else pass fuel rest filling
  | fuel + 1, character :: rest, filling => pass fuel rest (filling.write [character])

def passes (format : Text) : Nat → Filling → Doing Filling
  | 0, filling => return filling
  | fuel + 1, filling => do
      let next ← pass (format.length + 1) format filling
      if next.isOver || next.arguments.isEmpty ||
          next.arguments.length = filling.arguments.length then return next
      else passes format fuel next

def formatSynopsis : String := "[-v var] format [arguments]"

def format (arguments : List Text) : Doing Nat := do
  match ← options [('v', true)] formatSynopsis arguments with
  | none => return 2
  | some (found, rest) => do
      let target? := (found.filter (·.1 = 'v')).getLast?.map (·.2)
      if let some target := target? then
        if !isName (Machine.splitSubscript target).1 then
          return ← refuse 2 (Assigning.invalidName target)
      match rest with
      | [] => usage formatSynopsis
      | format :: arguments => do
          let filling ← passes format (arguments.length + 1)
            ⟨[], target?.isSome, arguments, false, false⟩
          let status := if filling.isFaulty then 1 else 0
          match target? with
          | none => do
              Doing.say filling.output
              return status
          | some target => do
              let text := filling.output.takeWhile (· ≠ '\x00')
              return if ← assignTo target text then status else 1

end ArtifactTools.Shell.Extended
