import ArtifactTools.Regex.Basic
import ArtifactTools.Shell.Native.Basic

/-! The program that replaces, removes or squeezes characters. Its sets are written as characters,
ranges, classes, and repeated characters. -/

namespace ArtifactTools.Shell.Native.Translation

inductive Item where
  | one (character : Char)
  | range (low high : Char)
  | kind (name : String)
  | alike (character : Char)
  | repeated (character : Char) (count : Option Nat)
  deriving DecidableEq, Repr

structure Written where
  character : Char
  isProtected : Bool
  deriving DecidableEq, Repr

def Written.is (written : Written) (character : Char) : Bool :=
  written.character = character && !written.isProtected

def unescape (name : Text) : Nat → Text → List Written × List Text
  | 0, _ | _, [] => ([], [])
  | _ + 1, ['\\'] =>
      ([⟨'\\', false⟩],
        [name ++ words ": warning: an unescaped backslash at end of string is not portable"])
  | fuel + 1, '\\' :: letter :: rest =>
      let digits := ((letter :: rest).take 3).takeWhile Format.isOctal
      if !digits.isEmpty then
        let isLarge := 3 ≤ digits.length && '4' ≤ letter
        let used := if isLarge then digits.take 2 else digits
        let (others, told) := unescape name fuel ((letter :: rest).drop used.length)
        let warning : List Text :=
          if isLarge then
            [name ++ words ": warning: the ambiguous octal escape \\" ++ digits ++
              words " is being\n\tinterpreted as the 2-byte sequence \\0" ++ used ++ words ", " ++
              digits.drop 2]
          else []
        (⟨Format.octalCharacter used, true⟩ :: others, warning ++ told)
      else
        let (others, told) := unescape name fuel rest
        let character :=
          if letter = 'e' then 'e' else (Format.controlCharacter? letter).getD letter
        (⟨character, true⟩ :: others, told)
  | fuel + 1, character :: rest =>
      let (others, told) := unescape name fuel rest
      (⟨character, false⟩ :: others, told)

def textOf (written : List Written) : Text := written.map (·.character)

def untilClosing? (mark : Char) (written : List Written) : Option (Text × List Written) :=
  let place? := (List.range written.length).find? fun index =>
    (written[index]?.any (·.is mark)) && (written[index + 1]?.any (·.is ']'))
  place?.map fun place => (textOf (written.take place), written.drop (place + 2))

def repetition? (written : List Written) : Except Text (Option (Item × List Written)) :=
  match written with
  | first :: star :: rest =>
      let digits := rest.takeWhile fun next => !next.isProtected && next.character ≠ ']'
      let after := rest.drop digits.length
      if !star.is '*' || !(after.head?.any (·.is ']')) then .ok none
      else
        let text := textOf digits
        let base := if text.head? = some '0' then 8 else 10
        let isNumber := text.all fun digit =>
          isDigit digit && (base = 10 || Format.isOctal digit)
        if !isNumber then
          .error (words "invalid repeat count " ++ cited text ++ words " in [c*n] construct")
        else
          let count := text.foldl (fun sum digit => sum * base + Decimal.digitValue digit) 0
          .ok (some (.repeated first.character (if count = 0 then none else some count),
            after.drop 1))
  | _ => .ok none

def isRepetition (written : List Written) : Bool :=
  match written with
  | star :: rest =>
      star.is '*' && ((rest.dropWhile fun next => isDigit next.character).head?.any (·.is ']'))
  | [] => false

def shown (character : Char) : Text :=
  if isPrintable character then if character = '\\' then ['\\', '\\'] else [character]
  else escaped character

def items : Nat → List Written → Except Text (List Item)
  | 0, _ => .ok []
  | _ + 1, [] => .ok []
  | fuel + 1, first :: rest => do
      let plain : Except Text (List Item) := do
        let repeated? ← if first.is '[' && 2 ≤ rest.length then repetition? rest else pure none
        match repeated? with
        | some (item, after) => return item :: (← items fuel after)
        | none =>
            match rest with
            | hyphen :: last :: after =>
                if hyphen.is '-' then
                  if last.character < first.character then
                    throw (words "range-endpoints of '" ++ shown first.character ++ ['-'] ++
                      shown last.character ++
                      words "' are in reverse collating sequence order")
                  return .range first.character last.character :: (← items fuel after)
                else return .one first.character :: (← items fuel rest)
            | _ => return .one first.character :: (← items fuel rest)
      match rest with
      | mark :: inside =>
          if first.is '[' && (mark.is ':' || mark.is '=') && !inside.isEmpty then
            match untilClosing? mark.character inside with
            | none => plain
            | some (name, after) =>
                if name.isEmpty then
                  throw (words (if mark.is ':' then "missing character class name '[::]'"
                    else "missing equivalence class character '[==]'"))
                else if mark.is ':' then
                  if (RegexMember.kinds.lookup (String.ofList name)).isSome then
                    return .kind (String.ofList name) :: (← items fuel after)
                  else if isRepetition inside then plain
                  else throw (words "invalid character class " ++ cited name)
                else
                  match name with
                  | [character] => return .alike character :: (← items fuel after)
                  | _ =>
                      if isRepetition inside then plain
                      else
                        throw (name.flatMap shown ++
                          words ": equivalence class operand must be a single character")
          else plain
      | [] => plain

def allCharacters : Text := (List.range 256).map Char.ofNat

def charactersOfKind (name : String) : Text :=
  allCharacters.filter fun character =>
    (RegexMember.kinds.lookup name).any fun test => test character

def Item.characters (filling : Nat) : Item → Text
  | .one character | .alike character => [character]
  | .range low high =>
      (List.range (high.toNat - low.toNat + 1)).map fun step => Char.ofNat (low.toNat + step)
  | .kind name => charactersOfKind name
  | .repeated character count => List.replicate (count.getD filling) character

def characters (length : Nat) (set : List Item) : Text :=
  let others := (set.flatMap (Item.characters 0)).length
  set.flatMap (Item.characters (length - others))

def isFilling : Item → Bool
  | .repeated _ none => true
  | _ => false

def isCase : Item → Bool
  | .kind "upper" | .kind "lower" => true
  | _ => false

def isKind : Item → Bool
  | .kind _ => true
  | _ => false

def casePlaces (length : Nat) (set : List Item) : List Nat :=
  let filling := length - (set.flatMap (Item.characters 0)).length
  let step (state : Nat × List Nat) (item : Item) : Nat × List Nat :=
    (state.1 + (item.characters filling).length,
      if isCase item then state.2 ++ [state.1] else state.2)
  (set.foldl step (0, [])).2

structure Request where
  complements : Bool
  deletes : Bool
  squeezes : Bool
  truncates : Bool

def sets (request : Request) (first : List Item) (second : Option (List Item)) :
    Except Text (Text × Option Text) := do
  let given := characters 0 first
  let domain :=
    if request.complements then allCharacters.filter fun character => !given.contains character
    else given
  if first.any isFilling then
    throw (words "the [c*] repeat construct may not appear in string1")
  match second with
  | none => return (domain, none)
  | some second => do
      if 1 < second.countP isFilling then
        throw (words "only one [c*] repeat construct may appear in string2")
      if request.deletes then
        if second.any isFilling then
          throw (words "the [c*] construct may appear in string2 only when translating")
        return (domain, some (characters 0 second))
      let isAlike : Item → Bool
        | .alike _ => true
        | _ => false
      if second.any isAlike then
        throw (words "[=c=] expressions may not appear in string2\nwhen translating")
      if second.any fun item => isKind item && !isCase item then
        throw (words
          "when translating, the only character classes that may appear in\nstring2 are 'upper' " ++
            words "and 'lower'")
      let length := domain.length
      let aligned := casePlaces length second
      if !aligned.isEmpty && !request.complements &&
          !(aligned.all fun place => (casePlaces 0 first).contains place) then
        throw (words "misaligned [:upper:] and/or [:lower:] construct")
      let image := characters length second
      if image.length < length && !request.truncates then
        if image.isEmpty then
          throw (words "when not truncating set1, string2 must be non-empty")
        if second.getLast?.any isKind then
          throw (words
            "when translating with string1 longer than string2,\nthe latter string must not end " ++
              words "with a character class")
      let last := image.getLast?.getD ' '
      let filled :=
        if request.truncates then image
        else image ++ List.replicate (length - image.length) last
      if request.complements && first.any isKind && (filled.eraseDups.length ≠ 1) then
        throw (words
          "when translating with complemented character classes,\nstring2 must map all " ++
            words "characters in the domain to one")
      return (domain, some filled)

def squeeze (set : Text) : Option Char → Text → Text
  | _, [] => []
  | former, character :: rest =>
      if former = some character && set.contains character then squeeze set former rest
      else character :: squeeze set (some character) rest

/-- A text with the characters of one set in the place of those of another; of a character that is
there twice the last place counts. -/
def replace (domain image text : Text) : Text :=
  let pairs := (domain.zip image).reverse
  text.map fun character => (pairs.lookup character).getD character

def apply (request : Request) (domain : Text) (image : Option Text) (text : Text) : Text :=
  let kept :=
    if request.deletes then text.filter fun character => !domain.contains character else text
  let changed :=
    match image with
    | some image => if request.deletes then kept else replace domain image kept
    | none => kept
  if request.squeezes then squeeze (image.getD domain) none changed else changed

end ArtifactTools.Shell.Native.Translation

namespace ArtifactTools.Shell.Native

open Translation in
def translate (name : Text) (arguments : List Text) : Running Unit :=
  withLeadingOptions 1 [flag 'c' "complement", flag 'C' "", flag 'd' "delete",
    flag 's' "squeeze-repeats", flag 't' "truncate-set1"] name arguments fun options operands => do
      let deletes := hasOption options 'd'
      let squeezes := hasOption options 's'
      let isTranslating := !deletes && operands.length = 2
      let request : Request :=
        ⟨hasOption options 'c' || hasOption options 'C', deletes, squeezes,
          hasOption options 't' && isTranslating⟩
      let least := if deletes = squeezes then 2 else 1
      let most := if deletes && !squeezes then 1 else 2
      let prefixed (fault : Text) : Text := name ++ words ": " ++ fault
      if operands.isEmpty then missingOperand name
      else if operands.length < least then
        complain 1 [prefixed (words "missing operand after " ++ cited (operands.headD [])),
          words (if squeezes then
            "Two strings must be given when both deleting and squeezing repeats."
            else "Two strings must be given when translating."), usageHint name]
      else if most < operands.length then
        complain 1 ([prefixed (words "extra operand " ++ cited (operands.getD most []))] ++
          (if operands.length = 2 then
            [words "Only one string may be given when deleting without squeezing repeats."]
          else []) ++ [usageHint name])
      else
        let read (text : Text) : List Written × List Text := unescape name (text.length + 1) text
        let itemsOf (written : List Written) : Except Text (List Item) :=
          items (written.length + 1) written
        let (first, told) := read (operands.headD [])
        let second? := operands[1]?.map read
        complain 0 (told ++ (second?.map (·.2)).getD [])
        let result : Except Text (Text × Option Text) := do
          let first ← itemsOf first
          let second ← second?.mapM fun second => itemsOf second.1
          sets request first second
        match result with
        | .error fault => blame 1 name fault
        | .ok (domain, image) => do
            let content ← Running.readAll 0
            say (apply request domain image content)

end ArtifactTools.Shell.Native
