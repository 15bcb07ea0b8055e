import ArtifactTools.Shell.Machine

/-! Points of time by the calendar, counted from the beginning of the year 1970. -/

namespace ArtifactTools.Shell.Calendar

def dateOf (days : Int) : Int × Nat × Nat :=
  let shifted := days + 719468
  let era := shifted / 146097
  let dayOfEra := (shifted - era * 146097).toNat
  let yearOfEra :=
    (dayOfEra - dayOfEra / 1460 + dayOfEra / 36524 - dayOfEra / 146096) / 365
  let dayOfYear := dayOfEra - (365 * yearOfEra + yearOfEra / 4 - yearOfEra / 100)
  let monthFromMarch := (5 * dayOfYear + 2) / 153
  let day := dayOfYear - (153 * monthFromMarch + 2) / 5 + 1
  let month := if monthFromMarch < 10 then monthFromMarch + 3 else monthFromMarch - 9
  let year : Int := yearOfEra + era * 400
  (if month ≤ 2 then year + 1 else year, month, day)

/-- So many days after the first one of 1970 is a date; months and days may go beyond their usual
numbers. -/
def daysTo (year month day : Int) : Int :=
  let year := year + (month - 1) / 12
  let month := (month - 1) % 12 + 1
  let shifted := if month ≤ 2 then year - 1 else year
  let era := shifted / 400
  let yearOfEra := shifted - era * 400
  let fromMarch := (month + 9) % 12
  let dayOfYear := (153 * fromMarch + 2) / 5
  let dayOfEra := yearOfEra * 365 + yearOfEra / 4 - yearOfEra / 100 + dayOfYear
  era * 146097 + dayOfEra - 719468 + day - 1

def dayNames : List String :=
  ["Sunday", "Monday", "Tuesday", "Wednesday", "Thursday", "Friday", "Saturday"]

def monthNames : List String :=
  ["January", "February", "March", "April", "May", "June", "July", "August", "September",
    "October", "November", "December"]

structure Moment where
  seconds : Int
  fraction : Nat
  deriving DecidableEq, Repr

structure FieldShape where
  mark : Option Char
  width : Option Nat

def FieldShape.number (shape : FieldShape) (pad : Char) (width : Nat) (value : Int) : Text :=
  let digits := Decimal.digits value.natAbs
  let sign : Text := if value < 0 then ['-'] else []
  let pad :=
    match shape.mark with
    | some '_' => ' '
    | some '0' => '0'
    | _ => pad
  let width := if shape.mark = some '-' then 0 else shape.width.getD width
  let filling := List.replicate (width - sign.length - digits.length) pad
  if pad = '0' then sign ++ filling ++ digits else filling ++ sign ++ digits

def FieldShape.name (shape : FieldShape) (text : Text) : Text :=
  let text :=
    match shape.mark with
    | some '^' | some '#' => text.map Char.toUpper
    | _ => text
  let pad := if shape.mark = some '0' then '0' else ' '
  List.replicate ((shape.width.getD 0) - text.length) pad ++ text

def weekOf (days : Int) : Int × Int :=
  let thursday := days - (days + 3) % 7 + 3
  let (year, _, _) := dateOf thursday
  (year, (thursday - daysTo year 1 1) / 7 + 1)

def fieldOf (moment : Moment) (shape : FieldShape) (letter : Char) : Text ⊕ String :=
  let days := moment.seconds / 86400
  let second := (moment.seconds - days * 86400).toNat
  let (year, month, day) := dateOf days
  let weekday := ((days + 4) % 7).toNat
  let dayOfYear := days - daysTo year 1 1
  let hour := second / 3600
  let half := if hour % 12 = 0 then 12 else hour % 12
  let named (names : List String) (index : Nat) : Text := (names.getD index "").toList
  let two (value : Int) : Text ⊕ String := .inl (shape.number '0' 2 value)
  let (weekYear, week) := weekOf days
  match letter with
  | 'Y' => .inl (shape.number '0' 4 year)
  | 'C' => two (year / 100)
  | 'y' => two (year % 100)
  | 'G' => .inl (shape.number '0' 4 weekYear)
  | 'g' => two (weekYear % 100)
  | 'V' => two week
  | 'U' => two ((dayOfYear + 7 - weekday) / 7)
  | 'W' => two ((dayOfYear + 7 - (weekday + 6) % 7) / 7)
  | 'm' => two month
  | 'd' => two day
  | 'e' => .inl (shape.number ' ' 2 day)
  | 'H' => two hour
  | 'I' => two half
  | 'k' => .inl (shape.number ' ' 2 hour)
  | 'l' => .inl (shape.number ' ' 2 half)
  | 'M' => two (second / 60 % 60)
  | 'S' => two (second % 60)
  | 's' => .inl (shape.number '0' 1 moment.seconds)
  | 'j' => .inl (shape.number '0' 3 (dayOfYear + 1))
  | 'q' => .inl (shape.number '0' 1 ((month + 2) / 3))
  | 'A' => .inl (shape.name (named dayNames weekday))
  | 'a' => .inl (shape.name ((named dayNames weekday).take 3))
  | 'B' => .inl (shape.name (named monthNames (month - 1)))
  | 'b' | 'h' => .inl (shape.name ((named monthNames (month - 1)).take 3))
  | 'u' => .inl (shape.number '0' 1 (if weekday = 0 then 7 else weekday))
  | 'w' => .inl (shape.number '0' 1 weekday)
  | 'p' =>
      let text := words (if hour < 12 then "AM" else "PM")
      .inl (if shape.mark = some '#' then text.map Char.toLower else shape.name text)
  | 'P' => .inl (shape.name (words (if hour < 12 then "am" else "pm")))
  | 'Z' =>
      let text := words "UTC"
      .inl (if shape.mark = some '#' then text.map Char.toLower else shape.name text)
  | 'z' => .inl (words "+0000")
  | 'n' => .inl ['\n']
  | 't' => .inl ['\t']
  | '%' => .inl ['%']
  | 'F' => .inr "%Y-%m-%d"
  | 'T' | 'X' => .inr "%H:%M:%S"
  | 'R' => .inr "%H:%M"
  | 'D' | 'x' => .inr "%m/%d/%y"
  | 'c' => .inr "%a %b %e %H:%M:%S %Y"
  | 'r' => .inr "%I:%M:%S %p"
  | letter => .inl ['%', letter]

/-- A point of time, as letters after percent signs ask; `withFractions` its parts of a second are
told as well. -/
def shown (withFractions : Bool) (moment : Moment) : Nat → Text → Text
  | 0, _ | _, [] => []
  | fuel + 1, '%' :: rest =>
      let marks := rest.takeWhile fun letter => "-_0^#".contains letter
      let after := rest.drop marks.length
      let digits := after.takeWhile isDigit
      let after := after.drop digits.length
      let colons := after.takeWhile (· = ':')
      let after := after.drop colons.length
      let shape : FieldShape :=
        ⟨marks.getLast?, if digits.isEmpty then none else some (Decimal.value digits)⟩
      match after with
      | [] => '%' :: rest
      | letter :: others =>
          let field : Text :=
            if letter = 'N' && withFractions then
              let all := Decimal.padZeros 9 (Decimal.digits moment.fraction)
              if shape.mark = some '-' then
                (all.reverse.dropWhile (· = '0')).reverse
              else all.take (shape.width.getD 9)
            else if letter = 'z' && !colons.isEmpty then
              if colons.length = 1 then words "+00:00"
              else if colons.length = 2 then words "+00:00:00"
              else words "+00"
            else
              match fieldOf moment shape letter with
              | .inl text => text
              | .inr pattern => shape.name (shown withFractions moment fuel (words pattern))
          field ++ shown withFractions moment fuel others
  | fuel + 1, character :: rest => character :: shown withFractions moment fuel rest

def text (seconds : Int) (fuel : Nat) (pattern : Text) : Text :=
  shown false ⟨seconds, 0⟩ fuel pattern

end ArtifactTools.Shell.Calendar
