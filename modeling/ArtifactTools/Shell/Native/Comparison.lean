import ArtifactTools.Shell.Native.Files

/-! The program that tells where two files begin to differ. -/

namespace ArtifactTools.Shell.Native

/-- Runs a program with its options and operands. Where its usage is told its name comes first
everywhere. -/
def withNamedOptions (kinds : List OptionKind) (name : Text) (arguments : List Text)
    (action : List (Char × Text) → List Text → Running Unit) : Running Unit :=
  match readOptions false (kinds ++ commonKinds) arguments with
  | .error fault => complain 2 [name ++ words ": " ++ fault, name ++ words ": " ++ usageHint name]
  | .ok (found, operands) =>
      if found.any fun entry => entry.1 < '\x03' then succeed else action found operands

def misuseNamed (name fault : Text) : Running Unit :=
  complain 2 [name ++ words ": " ++ fault, name ++ words ": " ++ usageHint name]

namespace Comparison

inductive Telling where
  | first
  | all
  | nothing
  deriving DecidableEq, Repr

/-- How two files are compared: what is told, whether octets are shown, how many octets of each are
passed over, and how many are compared at most. -/
structure Request where
  telling : Telling
  showsOctets : Bool
  skips : Nat × Nat
  limit : Option Nat

def shownOctet (character : Char) : Text :=
  let code := character.toNat
  let low := code % 128
  (if 128 ≤ code then ['M', '-'] else []) ++
    (if low < 32 then ['^', Char.ofNat (low + 64)]
    else if low = 127 then ['^', '?']
    else [Char.ofNat low])

def octalText (character : Char) : Text :=
  let digits := Format.digitsInBase 8 false 3 character.toNat
  List.replicate (3 - digits.length) ' ' ++ digits

/-- The octets in which two texts differ, each with its number and that of its line, up to the end of
the shorter one. -/
def differences : Nat → Nat → Text → Text → List (Nat × Nat × Char × Char)
  | number, line, first :: firsts, second :: seconds =>
      let rest (_ : Unit) : List (Nat × Nat × Char × Char) :=
        differences (number + 1) (if first = '\n' then line + 1 else line) firsts seconds
      if first = second then rest () else (number, line, first, second) :: rest ()
  | _, _, _, _ => []

def difference? : Nat → Nat → Text → Text → Option (Nat × Nat × Char × Char)
  | number, line, first :: firsts, second :: seconds =>
      if first = second then
        difference? (number + 1) (if first = '\n' then line + 1 else line) firsts seconds
      else some (number, line, first, second)
  | _, _, _, _ => none

def endText (telling : Telling) (file text : Text) : Text :=
  let start := words "EOF on " ++ file
  if text.isEmpty then start ++ words " which is empty"
  else
    let after := start ++ words " after byte " ++ Decimal.digits text.length
    let endsLine := text.getLast? = some '\n'
    let line := text.count '\n' + (if endsLine then 0 else 1)
    if telling = .all then after
    else after ++ words (if endsLine then ", line " else ", in line ") ++ Decimal.digits line

def Request.lines (request : Request) (files : Text × Text) (width : Nat) (first second : Text) :
    Text :=
  let shown (octet : Char) : Text := octalText octet ++ ' ' :: shownOctet octet
  let aligned (text : Text) : Text := List.replicate (width - text.length) ' ' ++ text
  match request.telling with
  | .nothing => []
  | .first =>
      match difference? 1 1 first second with
      | none => []
      | some (number, line, octet, other) =>
          files.1 ++ ' ' :: files.2 ++ words " differ: " ++
            words (if request.showsOctets then "byte " else "char ") ++ Decimal.digits number ++
            words ", line " ++ Decimal.digits line ++
            (if request.showsOctets then words " is " ++ shown octet ++ ' ' :: shown other
            else []) ++ ['\n']
  | .all =>
      (differences 1 1 first second).flatMap fun (number, _, octet, other) =>
        let start := aligned (Decimal.digits number) ++ ' ' :: octalText octet ++ [' ']
        if request.showsOctets then
          let own := shownOctet octet
          start ++ own ++ List.replicate (4 - own.length) ' ' ++ ' ' :: shown other ++ ['\n']
        else start ++ octalText other ++ ['\n']

def compare (request : Request) (files : Text × Text) (width : Nat) (isSeen : Bool)
    (first second : Text) : Running Unit := do
  let hasDifference := (difference? 1 1 first second).isSome
  let endsEarly := first.length ≠ second.length &&
    (request.telling = .all && isSeen || !hasDifference)
  if endsEarly && request.telling ≠ .nothing then
    let (file, shorter) :=
      if first.length < second.length then (files.1, first) else (files.2, second)
    let telling := if isSeen then request.telling else .all
    blame 1 (words "cmp") (endText telling file shorter)
  if isSeen then say (request.lines files width first second)
  modify fun machine => machine.fail (if hasDifference || endsEarly then 1 else 0)

def readSkips (text : Text) : Except Text (Nat × Nat) :=
  let invalid (text : Text) : Text := words "invalid --ignore-initial value " ++ cited text
  let first := text.takeWhile (· ≠ ':')
  match sizeOf? first, text.drop first.length with
  | none, _ => .error (invalid text)
  | some size, [] => .ok (size, size)
  | some size, rest =>
      match sizeOf? (rest.drop 1) with
      | some other => .ok (size, other)
      | none => .error (invalid (rest.drop 1))

def isUnseen (machine : Machine) : Bool :=
  (machine.openFile? 1).any fun found => found.2.target = .device .sink

def sizeOfOperand? (machine : Machine) (operand : Text) : Option Nat :=
  let ofNode (node : Node) : Option Nat := (machine.tree.fileOf? node).map (·.size)
  if operand = ['-'] then
    match (machine.openFile? 0).map fun found => found.2.target with
    | some (Target.file number) => ofNode (Node.file number)
    | _ => none
  else
    match machine.tree.find machine.directory (pathOf operand) with
    | .ok (_, node) => ofNode node
    | .error _ => none

def compareFiles (request : Request) (name first second : Text) : Running Unit := do
  let refused (operand : Text) (error : HostError) : Running Unit :=
    if request.telling = .nothing && error ≠ .isDirectory then
      modify fun machine => machine.fail 2
    else blame 2 name (operand ++ words ": " ++ Machine.plainWording error)
  succeed
  let machine ← get
  if first = second && request.skips.1 = request.skips.2 then
    if first ≠ ['-'] then
      if let .error error := machine.openToRead first then refused first error
  else
    match if first = ['-'] then none else machine.unreadable? first,
        if second = ['-'] then none else machine.unreadable? second with
    | some error, _ => refused first error
    | none, some error => refused second error
    | none, none =>
        match ← contentOf first with
        | .error error => refused first error
        | .ok content =>
            match ← contentOf second with
            | .error error => refused second error
            | .ok other =>
                let part (text : Text) (skip : Nat) : Text :=
                  match request.limit with
                  | some most => (text.drop skip).take most
                  | none => text.drop skip
                let content := part content request.skips.1
                let other := part other request.skips.2
                let sizes := [(first, request.skips.1), (second, request.skips.2)].filterMap
                  fun (operand, skip) => (sizeOfOperand? machine operand).map (· - skip)
                let most := (sizes ++ request.limit.toList).foldl min (Nat.pow 2 63 - 1)
                compare request (first, second) (Decimal.digits most).length
                  (!isUnseen machine) content other

end Comparison

def compareOctets (name : Text) (arguments : List Text) : Running Unit :=
  withNamedOptions [flag 'b' "print-bytes", flag 'c' "print-chars", textual 'i' "ignore-initial",
    flag 'l' "verbose", textual 'n' "bytes", flag 's' "quiet", longOnly 's' "silent" .nothing,
    flag 'v' ""] name arguments fun options operands => do
      let isAll := hasOption options 'l'
      let isSilent := hasOption options 's'
      let skips := ((optionText? options 'i').map Comparison.readSkips).getD (.ok (0, 0))
      let limit? := (optionText? options 'n').map fun text => (text, sizeOf? text)
      let ofOperand (index : Nat) : Except Text (Option Nat) :=
        match operands[index]? with
        | none => .ok none
        | some text =>
            match sizeOf? text with
            | some size => .ok (some size)
            | none => .error (words "invalid --ignore-initial value " ++ cited text)
      if hasOption options 'v' then succeed
      else
        match limit?, skips, ofOperand 2, ofOperand 3 with
        | some (text, none), _, _, _ =>
            misuseNamed name (words "invalid --bytes value " ++ cited text)
        | _, .error fault, _, _ => misuseNamed name fault
        | limit?, .ok skips, first, second => do
            if isAll && isSilent then
              misuseNamed name (words "options -l and -s are incompatible")
            else
              match operands, first, second with
              | [], _, _ => misuseNamed name (words "missing operand after " ++ cited name)
              | _, .error fault, _ | _, _, .error fault => misuseNamed name fault
              | _ :: _ :: _ :: _ :: extra :: _, _, _ =>
                  misuseNamed name (words "extra operand " ++ cited extra)
              | file :: others, .ok first?, .ok second? =>
                  Comparison.compareFiles
                    { telling := if isAll then .all else if isSilent then .nothing else .first
                      showsOctets := hasOption options 'b' || hasOption options 'c'
                      skips := (first?.getD skips.1, second?.getD skips.2)
                      limit := limit?.bind (·.2) }
                    name file (others.head?.getD ['-'])

end ArtifactTools.Shell.Native
