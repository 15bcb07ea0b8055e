import ArtifactTools.Digest.Basic
import ArtifactTools.Digest.Brief
import ArtifactTools.Digest.Long
import ArtifactTools.Shell.Native.Files

/-! Programs that sum up what files hold, and that check files against such summaries. -/

namespace ArtifactTools.Shell.Native

structure Summary where
  label : String
  bits : Nat
  octets : Octets → Octets

namespace Summary

def ofAnyLength (bits : Nat) : Summary := ⟨"BLAKE2b", bits, Digest.ofAnyLength bits⟩

def all : List Summary :=
  [⟨"MD5", 128, Digest.ofFour⟩, ⟨"SHA1", 160, Digest.ofFive⟩,
    ⟨"SHA224", 224, Digest.Kind.bits224.digest 224⟩,
    ⟨"SHA256", 256, Digest.Kind.bits256.digest 256⟩,
    ⟨"SHA384", 384, Digest.Kind.bits384.digest 384⟩,
    ⟨"SHA512", 512, Digest.Kind.bits512.digest 512⟩, ofAnyLength 512]

def ofLabel? (label : Text) : Option Summary := all.find? fun summary => words summary.label = label

def isElastic (summary : Summary) : Bool := summary.label = "BLAKE2b"

def shownLabel (summary : Summary) : Text :=
  words summary.label ++
    (if summary.isElastic && summary.bits < 512 then '-' :: Decimal.digits summary.bits else [])

end Summary

/-- How a summary is written: as digits or in base sixty-four, with its label or after the name of a
file, with a mark of files that are no text, and with what at its end. -/
structure SummaryForm where
  isRaw : Bool
  usesBase64 : Bool
  isLabelled : Bool
  isBinary : Bool
  ending : Text

def base64Digits : Text := "ABCDEFGHIJKLMNOPQRSTUVWXYZabcdefghijklmnopqrstuvwxyz0123456789+/".toList

def inBase64 : Octets → Text
  | [] => []
  | [first] => quantum 2 (first.toNat * 65536) ++ ['=', '=']
  | [first, second] => quantum 3 (first.toNat * 65536 + second.toNat * 256) ++ ['=']
  | first :: second :: third :: rest =>
      quantum 4 (first.toNat * 65536 + second.toNat * 256 + third.toNat) ++ inBase64 rest
where
  quantum (count number : Nat) : Text :=
    (List.range count).map fun index =>
      base64Digits.getD (number / Nat.pow 64 (3 - index) % 64) '='

def breaksLine (name : Text) : Bool := name.any fun character => "\\\n\r".contains character

def unbroken (name : Text) : Text :=
  name.flatMap fun character =>
    match character with
    | '\\' => ['\\', '\\']
    | '\n' => ['\\', 'n']
    | '\r' => ['\\', 'r']
    | character => [character]

def broken? : Text → Option Text
  | [] => some []
  | '\\' :: 'n' :: rest => (broken? rest).map ('\n' :: ·)
  | '\\' :: 'r' :: rest => (broken? rest).map ('\r' :: ·)
  | '\\' :: '\\' :: rest => (broken? rest).map ('\\' :: ·)
  | '\\' :: _ => none
  | character :: rest => (broken? rest).map (character :: ·)

theorem broken?_unbroken (name : Text) : broken? (unbroken name) = some name := by
  induction name with
  | nil => rfl
  | cons character rest ih =>
      unfold unbroken at ih ⊢
      rw [List.flatMap_cons]
      split <;> simp_all [broken?]

def lineName (name : Text) (isMarked : Bool) : Text := if isMarked then unbroken name else name

def SummaryForm.line (form : SummaryForm) (summary : Summary) (file : Text) (octets : Octets) :
    Text :=
  let isMarked := form.ending = ['\n'] && breaksLine file
  let shown := lineName file isMarked
  let digits := if form.usesBase64 then inBase64 octets else Digest.hexadecimal octets
  if form.isRaw then Text.ofOctets octets
  else
    (if isMarked then ['\\'] else []) ++
      (if form.isLabelled then
        summary.shownLabel ++ words " (" ++ shown ++ words ") = " ++ digits
      else digits ++ ' ' :: (if form.isBinary then '*' else ' ') :: shown) ++ form.ending

/-! Checking. -/

structure Check where
  isSilent : Bool
  isQuiet : Bool
  warns : Bool
  isStrict : Bool
  ignoresMissing : Bool

structure Expectation where
  summary : Summary
  digits : Text
  file : Text

def isWhite (character : Char) : Bool := character = ' ' || character = '\t'

def Summary.hasDigits (summary : Summary) (acceptsBase64 : Bool) (digits : Text) : Bool :=
  (digits.length * 4 = summary.bits &&
    digits.all fun digit => (Hexadecimal.value? digit).isSome) ||
  (acceptsBase64 && digits.length = (summary.bits / 8 + 2) / 3 * 4 &&
    digits.all fun digit => base64Digits.contains digit || digit = '=')

def readLabelled (summary : Summary) (acceptsBase64 isMarked : Bool) (text : Text) :
    Option Expectation := do
  let text := if text.head? = some ' ' then text.drop 1 else text
  guard (text.head? = some '(')
  let (digits, before) := (text.drop 1).reverse.span (· ≠ ')')
  let file := (before.drop 1).reverse
  guard (!before.isEmpty)
  let digits := digits.reverse.dropWhile isWhite
  guard (digits.head? = some '=')
  let digits := (digits.drop 1).dropWhile isWhite
  guard (summary.hasDigits acceptsBase64 digits)
  let file ← if isMarked then broken? file else some file
  return ⟨summary, digits, file⟩

/-- The summary that a line begins with the label of, and what follows the label. A length may stand
in it. -/
def labelOf? (summaries : List Summary) (line : Text) : Option (Option Summary × Text) := do
  let summary ← summaries.find? fun summary =>
    let label := words summary.label
    label.isPrefixOf line &&
      ((line.drop label.length).head?.all fun next => " (-".contains next)
  let rest := line.drop (words summary.label).length
  match summary.isElastic, rest with
  | true, '-' :: rest =>
      let digits := rest.takeWhile isDigit
      let bits := Decimal.value digits
      let isLength := !digits.isEmpty && bits % 8 = 0 && 0 < bits && bits ≤ 512
      return (if isLength then some (.ofAnyLength bits) else none, rest.drop digits.length)
  | _, rest => return (some summary, rest)

/-- Reads a line of summaries. Lines of an old form have one blank after the digits, and the first
line decides about the form. -/
def readExpectation (summaries : List Summary) (needsLabel acceptsBase64 : Bool)
    (isOld : Option Bool) (line : Text) : Option Expectation × Option Bool :=
  let line := line.dropWhile isWhite
  let isMarked := line.head? = some '\\'
  let line := if isMarked then line.drop 1 else line
  match labelOf? summaries line with
  | some (none, _) => (none, isOld)
  | some (some summary, rest) =>
      (readLabelled summary acceptsBase64 isMarked rest, isOld)
  | none =>
      let digits := line.takeWhile fun character => !isWhite character
      let rest := line.drop (digits.length + 1)
      let found? : Option Summary := summaries.head?.bind fun summary =>
        let summary :=
          if summary.isElastic && digits.length % 2 = 0 && 0 < digits.length &&
              digits.length ≤ 128 then
            Summary.ofAnyLength (4 * digits.length)
          else summary
        if summary.hasDigits acceptsBase64 digits then some summary else none
      let hasMark := rest.head?.any fun mark => mark = ' ' || mark = '*'
      let looksOld := rest.length = 1 || !hasMark
      match found? with
      | none => (none, isOld)
      | some summary =>
          if needsLabel || digits.length = line.length then (none, isOld)
          else if looksOld && isOld = some false then (none, isOld)
          else
            let file := if looksOld || isOld = some true then rest else rest.drop 1
            ((if isMarked then broken? file else some file).map fun file =>
              ⟨summary, digits, file⟩,
              if looksOld then some true else isOld.or (some false))

structure Checked where
  isProper : Bool
  isMatched : Bool
  misformed : Nat
  mismatched : Nat
  unread : Nat

def countWarning (count : Nat) (one many : String) : List Text :=
  if count = 0 then []
  else [words "WARNING: " ++ Decimal.digits count ++ words (if count = 1 then one else many)]

def isSameSummary (digits : Text) (octets : Octets) : Bool :=
  digits.map Char.toLower = Digest.hexadecimal octets || digits = inBase64 octets

def checkFile (name : Text) (check : Check) (expected : Expectation) (checked : Checked) :
    Running Checked := do
  let isMarked := breaksLine expected.file
  let start := (if isMarked then ['\\'] else []) ++ lineName expected.file isMarked
  let tell (outcome : String) : Running Unit :=
    if check.isSilent then return () else say (start ++ words (": " ++ outcome ++ "\n"))
  let checked := { checked with isProper := true }
  match ← contentOf expected.file with
  | .error error =>
      if check.ignoresMissing && error = .missing then return checked
      else
        blameFile 1 name expected.file error
        tell "FAILED open or read"
        return { checked with unread := checked.unread + 1 }
  | .ok content =>
      if isSameSummary expected.digits (expected.summary.octets content.toOctets) then
        if !check.isQuiet then tell "OK"
        return { checked with isMatched := true }
      else
        tell "FAILED"
        return { checked with mismatched := checked.mismatched + 1 }

def checkLines (name source label : Text) (check : Check)
    (read : Option Bool → Text → Option Expectation × Option Bool) :
    List (Text × Nat) → Option Bool → Checked → Running Checked
  | [], _, checked => return checked
  | (line, number) :: rest, isOld, checked => do
      let line := if line.getLast? = some '\r' then line.dropLast else line
      if line.isEmpty || line.head? = some '#' then
        checkLines name source label check read rest isOld checked
      else
        match read isOld line with
        | (none, isOld) => do
            if check.warns then
              blame 1 name (named source ++ words ": " ++ Decimal.digits number ++
                words ": improperly formatted " ++ label ++ words " checksum line")
            checkLines name source label check read rest isOld
              { checked with misformed := checked.misformed + 1 }
        | (some expected, isOld) => do
            let checked ← checkFile name check expected checked
            checkLines name source label check read rest isOld checked

def checkAll (name : Text) (check : Check) (label : Text)
    (read : Option Bool → Text → Option Expectation × Option Bool) (operand : Text) :
    Running Bool := do
  let isInput := operand = ['-']
  let source := if isInput then words "standard input" else operand
  match ← contentOf operand with
  | .error error => do
      if error = .isDirectory then
        blame 1 name (named source ++ words ": read error")
      else blameFile 1 name operand error
      return false
  | .ok content => do
      let read (isOld : Option Bool) (line : Text) : Option Expectation × Option Bool :=
        let (expected?, isOld) := read isOld line
        (expected?.filter fun expected => !(isInput && expected.file = ['-']), isOld)
      let lines := (splitLines '\n' content).zipIdx 1
      let checked ← checkLines name source label check read lines none ⟨false, false, 0, 0, 0⟩
      let isVerified := checked.isMatched || !check.ignoresMissing
      let warnings : List Text :=
        if !checked.isProper then
          [named source ++ words ": no properly formatted checksum lines found"]
        else if check.isSilent then []
        else
          countWarning checked.misformed " line is improperly formatted"
            " lines are improperly formatted" ++
          countWarning checked.unread " listed file could not be read"
            " listed files could not be read" ++
          countWarning checked.mismatched " computed checksum did NOT match"
            " computed checksums did NOT match" ++
          (if isVerified then [] else [named source ++ words ": no file was verified"])
      complain 1 (warnings.map (name ++ words ": " ++ ·))
      return checked.isProper && isVerified && checked.mismatched = 0 && checked.unread = 0 &&
        (!check.isStrict || checked.misformed = 0)

/-! The programs. -/

def checkingKinds : List OptionKind :=
  [flag 'b' "binary", flag 'c' "check", flag 't' "text", flag 'w' "warn", flag 'z' "zero",
    longOnly '\x03' "ignore-missing" .nothing, longOnly '\x04' "quiet" .nothing,
    longOnly '\x05' "status" .nothing, longOnly '\x06' "strict" .nothing,
    longOnly '\x07' "tag" .nothing]

def Check.ofOptions (options : List (Char × Text)) : Check :=
  let latest := ((options.map (·.1)).filter fun key => "w\x04\x05".contains key).getLast?
  ⟨latest = some '\x05', latest = some '\x04', latest = some 'w', hasOption options '\x06',
    hasOption options '\x03'⟩

def checkingFault? (options : List (Char × Text)) : Option Text :=
  let check := Check.ofOptions options
  let meaningless (wanted : Bool) (option : String) : Option Text :=
    if wanted then
      some (words ("the --" ++ option ++ " option is meaningful only when verifying checksums"))
    else none
  if hasOption options 'c' then none
  else
    (meaningless check.ignoresMissing "ignore-missing").orElse fun _ =>
      (meaningless check.isSilent "status").orElse fun _ =>
        (meaningless check.warns "warn").orElse fun _ =>
          (meaningless check.isQuiet "quiet").orElse fun _ =>
            meaningless check.isStrict "strict"

def forContents (name : Text) (operands : List Text) (act : Text → Text → Running Unit) :
    Running Unit := do
  for operand in operands do
    withContent operand (act operand) (blameFile 1 name operand)

def checkOperands (name label : Text) (options : List (Char × Text))
    (read : Option Bool → Text → Option Expectation × Option Bool) (operands : List Text) :
    Running Unit := do
  succeed
  let mut isWell := true
  for operand in operands do
    isWell := (← checkAll name (.ofOptions options) label read operand) && isWell
  modify fun machine => machine.fail (if isWell then 0 else 1)

def summaryLength (text : Text) : Except (List Text) Nat :=
  let invalid := words "invalid length: " ++ cited text
  match sizeOf? text with
  | none => .error [invalid]
  | some length =>
      if length % 8 ≠ 0 then .error [invalid, words "length is not a multiple of 8"]
      else if 512 < length then
        .error [invalid, words "maximum digest length for 'BLAKE2b' is 512 bits"]
      else .ok (if length = 0 then 512 else length)

def summarize (label : String) (name : Text) (arguments : List Text) : Running Unit :=
  let usual := (Summary.ofLabel? (words label)).getD (.ofAnyLength 512)
  let kinds := if usual.isElastic then textual 'l' "length" :: checkingKinds else checkingKinds
  withOptions 1 kinds name arguments fun options operands => do
    let isChecking := hasOption options 'c'
    let modes := (options.map (·.1)).filter fun key => "bt\x07".contains key
    let isTagged := hasOption options '\x07'
    let isText := modes.getLast? = some 't'
    let operands : List Text := if operands.isEmpty then [['-']] else operands
    match ((optionText? options 'l').map summaryLength).getD (.ok usual.bits) with
    | .error faults => complain 1 (faults.map (name ++ words ": " ++ ·))
    | .ok bits =>
        let summary := if usual.isElastic then Summary.ofAnyLength bits else usual
        if isTagged && isText then misuse 1 name [words "--tag does not support --text mode"]
        else if isChecking && hasOption options 'z' then
          misuse 1 name [words "the --zero option is not supported when verifying checksums"]
        else if isChecking && isTagged then
          misuse 1 name [words "the --tag option is meaningless when verifying checksums"]
        else if isChecking && !modes.isEmpty then
          misuse 1 name [words
            "the --binary and --text options are meaningless when verifying checksums"]
        else if let some fault := checkingFault? options then misuse 1 name [fault]
        else if isChecking then
          checkOperands name (words label) options
            (readExpectation [summary] false false) operands
        else
          let form : SummaryForm :=
            ⟨false, false, isTagged, modes.getLast?.any (· ≠ 't'), lineEnd options⟩
          succeed
          forContents name operands fun operand content =>
            say (form.line summary operand (summary.octets content.toOctets))

def sumLine (sum : Text) (width blockSize length : Nat) (operand? : Option Text) : Text :=
  let blocks := Decimal.digits ((length + blockSize - 1) / blockSize)
  sum ++ ' ' :: List.replicate (width - blocks.length) ' ' ++ blocks ++
    ((operand?.map (' ' :: ·)).getD [])

def plainSumLine (kind : String) (content : Text) (operand? : Option Text) : Text :=
  let octets := content.toOctets
  match kind with
  | "bsd" =>
      sumLine (Decimal.padZeros 5 (Decimal.digits (Digest.turningSum octets))) 5 1024
        octets.length operand?
  | "sysv" => sumLine (Decimal.digits (Digest.foldedSum octets)) 0 512 octets.length operand?
  | _ => sumLine (Decimal.digits (Digest.cyclicSum octets)) 0 1 octets.length operand?

def plainSumOctets (kind : String) (content : Text) : Octets :=
  let octets := content.toOctets
  match kind with
  | "bsd" => Digest.bigOctets 2 (Digest.turningSum octets)
  | "sysv" => Digest.bigOctets 2 (Digest.foldedSum octets)
  | _ => Digest.bigOctets 4 (Digest.cyclicSum octets)

def sum (name : Text) (arguments : List Text) : Running Unit :=
  withOptions 1 [flag 'r' "", flag 's' "sysv"] name arguments fun options operands => do
    let latest := ((options.map (·.1)).filter fun key => "rs".contains key).getLast?
    let kind := if latest = some 's' then "sysv" else "bsd"
    let inputs : List Text := if operands.isEmpty then [['-']] else operands
    succeed
    forContents name inputs fun operand content =>
      say (plainSumLine kind content (if operands.isEmpty then none else some operand) ++ ['\n'])

def sumNames : List (String × Option String) :=
  [("bsd", none), ("sysv", none), ("crc", none), ("md5", some "MD5"), ("sha1", some "SHA1"),
    ("sha224", some "SHA224"), ("sha256", some "SHA256"), ("sha384", some "SHA384"),
    ("sha512", some "SHA512"), ("blake2b", some "BLAKE2b")]

def checksum (name : Text) (arguments : List Text) : Running Unit :=
  withOptions 1 (checkingKinds ++ [textual 'a' "algorithm", textual 'l' "length",
    longOnly '\x08' "base64" .nothing, longOnly '\x0b' "raw" .nothing,
    longOnly '\x0c' "untagged" .nothing, longOnly '\x0e' "debug" .nothing]) name arguments
    fun options operands => do
      let chosen? := optionText? options 'a'
      let chosen := (chosen?.map String.ofList).getD "crc"
      let isChecking := hasOption options 'c'
      let isUntagged :=
        ((options.map (·.1)).filter fun key => "\x07\x0c".contains key).getLast? = some '\x0c'
      let modes := (options.map (·.1)).filter fun key => "bt".contains key
      let isRaw := hasOption options '\x0b'
      let inputs : List Text := if operands.isEmpty then [['-']] else operands
      let isPlain := ["bsd", "sysv", "crc"].contains chosen
      match sumNames.lookup chosen, (optionText? options 'l').map summaryLength with
      | none, _ =>
          complain 1 ([name ++ words ": invalid argument " ++ cited (chosen?.getD []) ++
            words " for " ++ cited (words "--algorithm"), words "Valid arguments are:"] ++
            (sumNames.map fun entry => words "  - " ++ cited (words entry.1)) ++
            [words "  - 'sm3'", usageHint name])
      | _, some (.error faults) => complain 1 (faults.map (name ++ words ": " ++ ·))
      | some label?, length? =>
          let bits? := length?.bind fun length => length.toOption
          let elastic := Summary.ofAnyLength (bits?.getD 512)
          let summary := (label?.bind fun label => Summary.ofLabel? (words label)).getD elastic
          let summary := if summary.isElastic then elastic else summary
          if bits?.any (· ≠ 512) && chosen ≠ "blake2b" then
            blame 1 name (words "--length is only supported with --algorithm=blake2b")
          else if isChecking && isPlain && chosen?.isSome then
            blame 1 name
              (words "--check is not supported with --algorithm=\x7bbsd,sysv,crc\x7d")
          else if isRaw && hasOption options '\x08' then
            misuse 1 name [words "--base64 and --raw are mutually exclusive"]
          else if modes.getLast? = some 't' && !isUntagged then
            misuse 1 name [words "--text mode is only supported with --untagged"]
          else if isChecking && hasOption options 'z' then
            misuse 1 name [words "the --zero option is not supported when verifying checksums"]
          else if isChecking && !modes.isEmpty then
            misuse 1 name [words
              "the --binary and --text options are meaningless when verifying checksums"]
          else if let some fault := checkingFault? options then misuse 1 name [fault]
          else if isRaw && 1 < inputs.length then
            blame 1 name (words "the --raw option is not supported with multiple files")
          else if isChecking then
            let summaries := if chosen?.isSome then [summary] else Summary.all
            let label := if chosen?.isSome then words summary.label else words "CRC"
            checkOperands name label options
              (readExpectation summaries chosen?.isNone true) inputs
          else
            succeed
            forContents name inputs fun operand content => do
              if isPlain then
                if isRaw then say (Text.ofOctets (plainSumOctets chosen content))
                else
                  let shown? := if operands.isEmpty then none else some operand
                  say (plainSumLine chosen content shown? ++ lineEnd options)
              else
                let form : SummaryForm :=
                  ⟨isRaw, hasOption options '\x08', !isUntagged, modes.getLast? = some 'b',
                    lineEnd options⟩
                say (form.line summary operand (summary.octets content.toOctets))

end ArtifactTools.Shell.Native
