import ArtifactTools.Shell.Calendar
import ArtifactTools.Shell.Native.Basic

/-! Points of time as they are written in words and numbers, and the program that tells them. -/

namespace ArtifactTools.Shell.Native

namespace Dates

/-- What a text has said of a point of time so far: a date and a time of day in thousand millionths
of a second, how far its zone is from the common time in minutes, and what is to be added in months,
days and thousand millionths of a second. -/
structure Reading where
  date : Option (Int × Int × Int)
  time : Option Nat
  zone : Int
  isExact : Option (Int × Nat)
  months : Int
  days : Int
  nanoseconds : Int
  deriving DecidableEq, Repr

def second : Nat := 1000000000

inductive Token where
  | number (digits : Text)
  | word (text : Text)
  | mark (character : Char)
  deriving DecidableEq, Repr

def tokens : Nat → Text → List Token
  | 0, _ | _, [] => []
  | fuel + 1, character :: rest =>
      if isDigit character then
        let digits := (character :: rest).takeWhile isDigit
        .number digits :: tokens fuel ((character :: rest).drop digits.length)
      else if character.isAlpha then
        let word := (character :: rest).takeWhile fun letter => letter.isAlpha || letter = '.'
        .word ((word.filter (· ≠ '.')).map Char.toLower) ::
          tokens fuel ((character :: rest).drop word.length)
      else if character = ' ' || character = '\t' || character = '\n' then tokens fuel rest
      else .mark character :: tokens fuel rest

def isBeginning (text : Text) (name : String) : Bool :=
  3 ≤ text.length && text.isPrefixOf (name.toList.map Char.toLower)

def monthOf? (text : Text) : Option Nat :=
  (Calendar.monthNames.findIdx? (isBeginning text)).map (· + 1)

def weekdayOf? (text : Text) : Option Nat := Calendar.dayNames.findIdx? (isBeginning text)

def fractionOf (digits : Text) : Nat :=
  Decimal.value ((digits ++ List.replicate 9 '0').take 9)

def Reading.add (reading : Reading) (count : Int) (unit : Text) : Option Reading :=
  let name := if 1 < unit.length && unit.getLast? = some 's' then unit.dropLast else unit
  match String.ofList name with
  | "year" => some { reading with months := reading.months + 12 * count }
  | "month" => some { reading with months := reading.months + count }
  | "fortnight" => some { reading with days := reading.days + 14 * count }
  | "week" => some { reading with days := reading.days + 7 * count }
  | "day" => some { reading with days := reading.days + count }
  | "hour" => some { reading with nanoseconds := reading.nanoseconds + 3600 * second * count }
  | "minute" | "min" =>
      some { reading with nanoseconds := reading.nanoseconds + 60 * second * count }
  | "second" | "sec" | "s" =>
      some { reading with nanoseconds := reading.nanoseconds + second * count }
  | _ => none

def setDate (reading : Reading) (year month day : Nat) : Option Reading :=
  if reading.date.isSome || month = 0 || 12 < month || day = 0 || 31 < day then none
  else some { reading with date := some (year, month, day) }

def setTime (reading : Reading) (hour minute seconds fraction : Nat) : Option Reading :=
  if reading.time.isSome || 23 < hour || 59 < minute || 60 < seconds then none
  else some { reading with
    time := some (((hour * 60 + minute) * 60 + seconds) * second + fraction) }

def wholeYear (digits : Text) : Nat :=
  let value := Decimal.value digits
  if 2 < digits.length then value else if value < 69 then value + 2000 else value + 1900

def read : Nat → Reading → List Token → Option Reading
  | 0, _, _ => none
  | fuel + 1, reading, tokens =>
      let value := Decimal.value
      match tokens with
      | [] => some reading
      | .number year :: .mark '-' :: .number month :: .mark '-' :: .number day :: rest =>
          (setDate reading (wholeYear year) (value month) (value day)).bind (read fuel · rest)
      | .number month :: .mark '/' :: .number day :: .mark '/' :: .number year :: rest =>
          if 4 ≤ month.length then
            (setDate reading (value month) (value day) (value year)).bind (read fuel · rest)
          else
            (setDate reading (wholeYear year) (value month) (value day)).bind (read fuel · rest)
      | .number hour :: .mark ':' :: .number minute :: .mark ':' :: .number seconds ::
          .mark '.' :: .number digits :: rest =>
          (setTime reading (value hour) (value minute) (value seconds) (fractionOf digits)).bind
            (read fuel · rest)
      | .number hour :: .mark ':' :: .number minute :: .mark ':' :: .number seconds ::
          .word half :: rest =>
          if half = words "am" || half = words "pm" then
            let hour := value hour % 12 + (if half = words "pm" then 12 else 0)
            (setTime reading hour (value minute) (value seconds) 0).bind (read fuel · rest)
          else
            (setTime reading (value hour) (value minute) (value seconds) 0).bind
              (read fuel · (.word half :: rest))
      | .number hour :: .mark ':' :: .number minute :: .mark ':' :: .number seconds :: rest =>
          (setTime reading (value hour) (value minute) (value seconds) 0).bind
            (read fuel · rest)
      | .number hour :: .mark ':' :: .number minute :: .word half :: rest =>
          if half = words "am" || half = words "pm" then
            let hour := value hour % 12 + (if half = words "pm" then 12 else 0)
            (setTime reading hour (value minute) 0 0).bind (read fuel · rest)
          else
            (setTime reading (value hour) (value minute) 0 0).bind
              (read fuel · (.word half :: rest))
      | .number hour :: .mark ':' :: .number minute :: rest =>
          (setTime reading (value hour) (value minute) 0 0).bind (read fuel · rest)
      | .mark sign :: .number hour :: .mark ':' :: .number minute :: rest =>
          if (sign ≠ '+' && sign ≠ '-') || reading.time.isNone then none
          else
            let zone : Int := value hour * 60 + value minute
            read fuel { reading with zone := if sign = '+' then zone else -zone } rest
      | .mark sign :: .number count :: .word unit :: rest =>
          if sign ≠ '+' && sign ≠ '-' then none
          else
            let count : Int := value count
            let (sign, rest) :=
              match rest with
              | .word word :: others =>
                  if word = words "ago" then ((if sign = '+' then '-' else '+'), others)
                  else (sign, rest)
              | _ => (sign, rest)
            (reading.add (if sign = '+' then count else -count) unit).bind (read fuel · rest)
      | .mark sign :: .number digits :: rest =>
          if (sign ≠ '+' && sign ≠ '-') || reading.time.isNone || digits.length ≠ 4 then none
          else
            let zone : Int := value (digits.take 2) * 60 + value (digits.drop 2)
            read fuel { reading with zone := if sign = '+' then zone else -zone } rest
      | .number day :: .word name :: .number year :: rest =>
          match monthOf? name with
          | some month =>
              let isTime := rest.head? = some (.mark ':')
              if isTime then none
              else (setDate reading (wholeYear year) month (value day)).bind (read fuel · rest)
          | none => (countUnit reading day name).bind (read fuel · (.number year :: rest))
      | .number day :: .mark '-' :: .word name :: .mark '-' :: .number year :: rest =>
          (monthOf? name).bind fun month =>
            (setDate reading (wholeYear year) month (value day)).bind (read fuel · rest)
      | .number count :: .word unit :: .word word :: rest =>
          if word = words "ago" then
            (reading.add (-(value count : Int)) unit).bind (read fuel · rest)
          else (countUnit reading count unit).bind (read fuel · (.word word :: rest))
      | .number count :: .word unit :: rest => (countUnit reading count unit).bind (read fuel · rest)
      | .number digits :: rest =>
          if digits.length = 8 then
            (setDate reading (value (digits.take 4)) (value ((digits.drop 4).take 2))
              (value (digits.drop 6))).bind (read fuel · rest)
          else if digits.length = 4 && reading.date.isSome && reading.time.isNone then
            (setTime reading (value (digits.take 2)) (value (digits.drop 2)) 0 0).bind
              (read fuel · rest)
          else none
      | .word name :: .number day :: .mark ',' :: .number year :: rest =>
          (monthOf? name).bind fun month =>
            (setDate reading (wholeYear year) month (value day)).bind (read fuel · rest)
      | .word name :: .number day :: .number year :: rest =>
          match monthOf? name with
          | none => (wordOf reading name).bind (read fuel · (.number day :: .number year :: rest))
          | some month =>
              if rest.head? = some (.mark ':') then
                none
              else (setDate reading (wholeYear year) month (value day)).bind (read fuel · rest)
      | .word step :: .word unit :: rest =>
          if step = words "next" then (reading.add 1 unit).bind (read fuel · rest)
          else if step = words "last" then (reading.add (-1) unit).bind (read fuel · rest)
          else if step = words "this" then (reading.add 0 unit).bind (read fuel · rest)
          else (wordOf reading step).bind (read fuel · (.word unit :: rest))
      | .word word :: rest => (wordOf reading word).bind (read fuel · rest)
      | .mark ',' :: rest => read fuel reading rest
      | .mark _ :: _ => none
where
  countUnit (reading : Reading) (count unit : Text) : Option Reading :=
    reading.add (Decimal.value count) unit
  wordOf (reading : Reading) (word : Text) : Option Reading :=
    match String.ofList word with
    | "now" | "today" | "utc" | "gmt" | "z" => some reading
    | "t" => if reading.date.isSome then some reading else none
    | "yesterday" => some { reading with days := reading.days - 1 }
    | "tomorrow" => some { reading with days := reading.days + 1 }
    | "noon" => setTime reading 12 0 0 0
    | "midnight" => setTime reading 0 0 0 0
    | _ => if (weekdayOf? word).isSome then some reading else none

def Reading.moment (reading : Reading) (now : Int × Nat) : Option Calendar.Moment :=
  let (seconds, fraction) := now
  let days := seconds / 86400
  let (year, month, day) := Calendar.dateOf days
  let (year, month, day) := reading.date.getD (year, month, day)
  let isDate := reading.date.all fun (year, month, day) =>
    Calendar.dateOf (Calendar.daysTo year month day) = (year, month.toNat, day.toNat)
  let ofDay : Int :=
    match reading.time with
    | some time => time
    | none =>
        if reading.date.isSome then 0 else (seconds - days * 86400) * second + fraction
  let start := Calendar.daysTo year (month + reading.months) day + reading.days
  let total := start * 86400 * second + ofDay - reading.zone * 60 * second + reading.nanoseconds
  if isDate then some ⟨total / second, (total % second).toNat⟩ else none

def momentOf? (now : Nat) (text : Text) : Option Calendar.Moment :=
  let trimmed := text.dropWhile (· = ' ')
  match trimmed with
  | '@' :: rest =>
      let (isNegative, body) :=
        match rest with
        | '-' :: body => (true, body)
        | body => (false, body)
      let whole := body.takeWhile isDigit
      let after := body.drop whole.length
      let digits : Text :=
        match after with
        | '.' :: digits => digits
        | _ => []
      let isPlain := after.isEmpty || (after.head? = some '.' && digits.all isDigit)
      if whole.isEmpty || !isPlain then none
      else
        let size : Int := Decimal.value whole * second + fractionOf digits
        let total := if isNegative then -size else size
        some ⟨total / second, (total % second).toNat⟩
  | trimmed =>
      (read (2 * trimmed.length + 4) ⟨none, none, 0, none, 0, 0, 0⟩
        (tokens (trimmed.length + 1) trimmed)).bind fun reading =>
          reading.moment (Int.ofNat (now / 1000000), now % 1000000 * 1000)

def read? (now : Nat) (text : Text) : Option Nat :=
  (momentOf? now text).map fun moment =>
    (moment.seconds * 1000000 + Int.ofNat (moment.fraction / 1000)).toNat

/-- The time that digits tell: the year perhaps, the month, the day, the hour, the minute, and the
second after a point. -/
def readStamp? (now : Nat) (text : Text) : Option Nat :=
  let digits := text.takeWhile isDigit
  let after := text.drop digits.length
  let seconds? : Option Nat :=
    match after with
    | [] => some 0
    | ['.', first, last] =>
        if isDigit first && isDigit last then some (Decimal.value [first, last]) else none
    | _ => none
  let (thisYear, _, _) := Calendar.dateOf (Int.ofNat (now / 1000000 / 86400))
  let split? : Option (Int × Text) :=
    if digits.length = 8 then some (thisYear, digits)
    else if digits.length = 10 then some (wholeYear (digits.take 2), digits.drop 2)
    else if digits.length = 12 then some (Decimal.value (digits.take 4), digits.drop 4)
    else none
  match split?, seconds? with
  | some (year, rest), some seconds =>
      let part (place : Nat) : Nat := Decimal.value ((rest.drop place).take 2)
      let days := Calendar.daysTo year (part 0) (part 2)
      if Calendar.dateOf days ≠ (year, part 0, part 2) || 23 < part 4 || 59 < part 6 then none
      else
        some ((days * 86400 + Int.ofNat ((part 4 * 60 + part 6) * 60 + seconds)).toNat * 1000000)
  | _, _ => none

end Dates

def standardPattern? (between precision : Text) : Option Text :=
  let day := words "%Y-%m-%d"
  let time (pattern : String) : Text := day ++ between ++ words pattern ++ words "%:z"
  match String.ofList precision with
  | "" | "date" => some day
  | "hours" => some (time "%H")
  | "minutes" => some (time "%H:%M")
  | "seconds" => some (time "%H:%M:%S")
  | "ns" => some (time (if between = ['T'] then "%H:%M:%S,%N" else "%H:%M:%S.%N"))
  | _ => none

def date (name : Text) (arguments : List Text) : Running Unit :=
  withOptions 1 [textual 'd' "date", flag 'u' "utc", longOnly 'u' "universal" .nothing,
    textual 'r' "reference", flag 'R' "rfc-email", ⟨'I', "iso-8601", .ownText, true⟩,
    longOnly '\x03' "rfc-3339" .text, textual 's' "set", textual 'f' "file",
    longOnly '\x04' "debug" .nothing] name arguments fun options operands => do
      let machine ← get
      let now := FileTree.startTime + machine.clock
      let usual := words "%a %b %e %H:%M:%S %Z %Y"
      let pattern? : Except Text Text :=
        match operands, optionText? options 'I', optionText? options '\x03' with
        | ('+' :: pattern) :: _, _, _ => .ok pattern
        | _, some precision, _ =>
            (standardPattern? ['T'] precision).elim
              (.error (words "invalid argument " ++ cited precision ++ words " for '--iso-8601'"))
              .ok
        | _, _, some precision =>
            (standardPattern? [' '] precision).elim
              (.error (words "invalid argument " ++ cited precision ++ words " for '--rfc-3339'"))
              .ok
        | _, _, _ =>
            .ok (if hasOption options 'R' then words "%a, %d %b %Y %H:%M:%S %z" else usual)
      let moment? : Except Text Calendar.Moment :=
        match optionText? options 'd', optionText? options 'r' with
        | some text, _ =>
            (Dates.momentOf? now text).elim (.error (words "invalid date " ++ cited text)) .ok
        | none, some text =>
            match machine.tree.find machine.directory (pathOf text) with
            | .error error => .error (named text ++ words ": " ++ Machine.plainWording error)
            | .ok (_, node) =>
                let time := ((machine.tree.fileOf? node).map (·.modified)).getD 0
                .ok ⟨Int.ofNat (time / 1000000), time % 1000000 * 1000⟩
        | none, none => .ok ⟨Int.ofNat (now / 1000000), now % 1000000 * 1000⟩
      match operands with
      | _ :: extra :: _ => extraOperand name extra
      | operands =>
          let wrong? := operands.find? fun operand => operand.head? ≠ some '+'
          match wrong?, pattern?, moment? with
          | some text, _, _ => blame 1 name (words "invalid date " ++ cited text)
          | none, .error fault, _ => misuse 1 name [fault]
          | none, _, .error fault => blame 1 name fault
          | none, .ok pattern, .ok moment => do
              succeed
              say (Calendar.shown true moment (8 * pattern.length + 8) pattern ++ ['\n'])

end ArtifactTools.Shell.Native
