import ArtifactTools.Shell.Machine

/-! What is shown for a choice among items, and of the time that a command has taken. -/

namespace ArtifactTools.Shell.Menu

def width : Nat := 80

def tabWidth : Nat := 8

def indent : Nat → Nat → Nat → Text
  | 0, _, _ => []
  | fuel + 1, start, stop =>
      if stop ≤ start then []
      else if start / tabWidth < stop / tabWidth then
        '\t' :: indent fuel (start / tabWidth * tabWidth + tabWidth) stop
      else ' ' :: indent fuel (start + 1) stop

def row (items : List Text) (rows numberWidth itemWidth : Nat) :
    Nat → Nat → Nat → Nat → Text
  | 0, _, _, _ => []
  | fuel + 1, width, index, position =>
      let digits := Decimal.digits (index + 1)
      let item := items.getD index []
      let text := List.replicate (width - digits.length) ' ' ++ digits ++ [')', ' '] ++ item
      if items.length ≤ index + rows then text
      else
        text ++ indent (2 * itemWidth) (position + text.length) (position + itemWidth) ++
          row items rows numberWidth itemWidth fuel numberWidth (index + rows)
            (position + itemWidth)

def text (items : List Text) : Text :=
  let count := items.length
  let digitsOf (number : Nat) : Nat := (Decimal.digits number).length
  let numberWidth := digitsOf count
  let itemWidth := (items.map (·.length)).foldl max 0 + numberWidth + 4
  let columns := max (width / itemWidth) 1
  let rows := (count + columns - 1) / columns
  let columns := (count + rows - 1) / rows
  let rows := if rows = 1 then columns else rows
  (List.range rows).flatMap fun index =>
    row items rows numberWidth itemWidth (count + 1) (digitsOf rows) index 0 ++ ['\n']

def times (isShort : Bool) (milliseconds : Nat) : Text :=
  let seconds := milliseconds / 1000
  let part := Decimal.padZeros 3 (Decimal.digits (milliseconds % 1000))
  if isShort then
    words "real " ++ Decimal.digits seconds ++ '.' :: part.take 2 ++
      words "\nuser 0.00\nsys 0.00\n"
  else
    words "\nreal\t" ++ Decimal.digits (seconds / 60) ++ 'm' :: Decimal.digits (seconds % 60) ++
      '.' :: part ++ words "s\nuser\t0m0.000s\nsys\t0m0.000s\n"

end ArtifactTools.Shell.Menu
