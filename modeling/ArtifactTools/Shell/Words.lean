import ArtifactTools.Shell.Braces
import ArtifactTools.Shell.Checks
import ArtifactTools.Shell.Calls
import ArtifactTools.Shell.Redirections

/-! What words come to: the texts, the fields and the numbers that they stand for, and the
assignments and redirections that they are part of. -/

namespace ArtifactTools.Shell.Run

open Expansion Running

/-- Begins a process that writes what a file holds, or reads what is written to it, and gives the
name of the file. -/
def openChannel (isRead : Bool) (body : Command) : Running Text := do
  let (pipe, before) := (← get).newPipe []
  let number := 63 - before.channels.length
  let own : OpenFile := if isRead then .reading (.pipe pipe) else .writing (.pipe pipe) false
  let other : OpenFile := if isRead then .writing (.pipe pipe) false else .reading (.pipe pipe)
  set { before.attach number own with channels := number :: before.channels }
  let start (machine : Machine) : Machine :=
    { (machine.detach number).attach (if isRead then 1 else 0) other with channels := [] }
  let child ← fork start (.command .last [] body)
  modify fun machine => { machine with latestJob := some child }
  return words "/dev/fd/" ++ Decimal.digits number

/-- The output of a command that runs in a subshell, without the ends of lines at its end. In the
extended dialect what is read from a file and goes nowhere is the output. -/
def capture (body : Command) : Running Text := do
  let status := (← get).status
  let (pipe, machine) := (← get).newPipe []
  let reader := machine.freeFrom hidden
  set (machine.attach reader (.reading (.pipe pipe)))
  let start (machine : Machine) : Machine :=
    let child := (machine.detach reader).attach 1 (.writing (.pipe pipe) false)
    let child := { child with nesting := child.nesting + 1 }
    if child.isExtended && !child.hasFeature "inherit_errexit" then child.turn .errexit false
    else child
  let task : Task :=
    match machine.isExtended, body with
    | true, .simple line [] [] [⟨descriptor, .read, word⟩] =>
        .content line ⟨descriptor, .read, word⟩
    | _, body => .command .last [] body
  let child ← fork start task
  let content ← readAll reader
  if (← get).isCut then Running.wait .nothing
  modify fun machine => machine.detach reader
  let ending ← awaitChild child
  modify Machine.reap
  conclude ending
  modify fun machine => { machine with captured := some machine.status, status }
  return dropEnds (content.filter (· ≠ '\x00'))

mutual

def expandPart : Nat → Part → Running (List Glyph)
  | 0, _ => throw .stopped
  | fuel + 1, part => do
      match part with
      | .text characters true => return .hold :: characters.map Glyph.exact
      | .text characters false => return characters.map Glyph.bare
      | .parameter name isQuoted => do
          draw name
          let machine ← get
          match parameterGlyphs machine name isQuoted with
          | some value => return value
          | none =>
              if machine.has .nounset then lackingName machine name
              return glyphs isQuoted []
      | .command body isQuoted => return glyphs isQuoted (← capture body)
      | .reference written name isIndirect selection use isQuoted =>
          expandReference fuel written name isIndirect selection use isQuoted
      | .list _ => return []
      | .channel isRead body => return glyphs false (← openChannel isRead body)
      | .arithmetic expression isQuoted => do
          let isExtended := (← get).isExtended
          let found ← expand fuel (if isExtended then withoutMarks expression else expression)
          let machine ← get
          let text := joinedText machine found
          if isExtended then
            return glyphs isQuoted (Decimal.intDigits (← calculate [] text))
          let lookup (name : Text) : Text := (parameter? machine name).getD []
          match Arithmetic.evaluate ⟨lookup, []⟩ text with
          | .ok (number, scope) => do
              scope.assigned.reverse.forM fun (name, value) =>
                assign name (Decimal.intDigits value)
              return glyphs isQuoted (Decimal.intDigits number)
          | .error .quotientTooLarge => die Signal.floatingPoint
          | .error fault => abandon (arithmeticMessage text fault)
      | .modified name modifier word isQuoted => expandModified fuel name modifier word isQuoted
termination_by structural fuel => fuel

def expandReference : Nat → Text → Text → Bool → Selection → Use → Bool → Running (List Glyph)
  | 0, _, _, _, _, _, _ => throw .stopped
  | fuel + 1, written, name, isIndirect, selection, use, isQuoted => do
      let shown := References.shownName written name
      let use : Use :=
        match selection with
        | .element [] => .malformed
        | _ => use
      match use with
      | .malformed => abandon (['$', '\x7b'] ++ written ++ words "\x7d: bad substitution")
      | .namesFrom isJoined =>
          let machine ← get
          return severalGlyphs machine isJoined isQuoted (References.namesFrom machine name)
      | use => do
          let (name, inside, subject) ←
            if isIndirect then indirectSubject fuel name selection
            else subjectOf fuel name selection
          useSubject fuel shown name inside subject use isQuoted
termination_by structural fuel => fuel

def subjectOf : Nat → Text → Selection → Running (Text × Option Text × References.Subject)
  | 0, _, _ => throw .stopped
  | fuel + 1, name, selection => do
      draw name
      let machine ← get
      let (target, inner) := Machine.splitSubscript (machine.referent name)
      match name, selection, inner with
      | ['@'], _, _ => return (name, none, .many machine.arguments.list false)
      | ['*'], _, _ => return (name, none, .many machine.arguments.list true)
      | name, .whole, none =>
          return (if isName name then target else name, none, .one (parameter? machine name))
      | _, .whole, some inside => do
          let value ← elementOf target inside
          return (target, some inside, .one value)
      | _, .every isJoined, _ =>
          let values := ((machine.lookup? target).map (·.values)).getD []
          return (target, none, .many values isJoined)
      | _, .element subscript, _ => do
          let inside ← textWithin fuel false subscript
          let value ← elementOf target inside
          return (target, some inside, .one value)
termination_by structural fuel => fuel

def indirectSubject : Nat → Text → Selection →
    Running (Text × Option Text × References.Subject)
  | 0, _, _ => throw .stopped
  | fuel + 1, name, selection => do
      let own := ((← get).bindings.lookup name).filter fun entry => entry.has .reference
      match own with
      | some entry => return (name, none, .one entry.value)
      | none => do
          let (_, _, subject) ← subjectOf fuel name selection
          let machine ← get
          let text? : Option Text :=
            match subject with
            | .one value => value
            | .many values _ => some (([' '] : Text).intercalate values)
          match text? with
          | none =>
              if machine.has .nounset then lackingName machine name
              else abandon (name ++ words ": invalid indirect expansion")
          | some text =>
              match References.target? text with
              | none => abandon (text ++ words ": invalid variable name")
              | some (target, none) => subjectOf fuel target .whole
              | some (target, some ['@']) => subjectOf fuel target (.every false)
              | some (target, some ['*']) => subjectOf fuel target (.every true)
              | some (target, some inside) =>
                  subjectOf fuel target (.element [.text inside true])
termination_by structural fuel => fuel

def useSubject : Nat → Text → Text → Option Text → References.Subject → Use → Bool →
    Running (List Glyph)
  | 0, _, _, _, _, _, _ => throw .stopped
  | fuel + 1, shown, name, inside, subject, use, isQuoted => do
      let machine ← get
      let needsValue : Bool :=
        match use with
        | .modified (.default _) _ | .modified (.assign _) _ | .modified (.alternative _) _
        | .modified (.demand _) _ | .subscripts => false
        | _ => true
      if needsValue && machine.has .nounset && (subject matches .one none) then
        lackingName machine shown
      let finish (subject : References.Subject) : List Glyph :=
        match subject with
        | .one value => glyphs isQuoted (value.getD [])
        | .many values isJoined => severalGlyphs machine isJoined isQuoted values
      let entry := (machine.lookup? name).getD .unset
      match use with
      | .length =>
          let length :=
            match subject with
            | .one value => (value.getD []).length
            | .many values _ => values.length
          return glyphs isQuoted (Decimal.digits length)
      | .subscripts =>
          match subject with
          | .many _ isJoined => return finish (.many entry.keys isJoined)
          | .one _ => return finish (.many entry.keys false)
      | .modified modifier word => useModified fuel shown name inside subject modifier word isQuoted
      | .slice offset count => do
          let mark := name ++ words ": "
          let offset ← calculate mark (← textWithin fuel false offset)
          let count ←
            match count with
            | none => pure none
            | some word => do
                let text ← textWithin fuel false word
                pure (some (text, ← calculate mark text))
          let size := count.map (·.2)
          let negative : Running (List Glyph) :=
            abandon ((count.map (·.1)).getD [] ++ words ": substring expression < 0")
          let isList := !isSpecialParameter (name.head?.getD ' ')
          match subject with
          | .one value =>
              match References.slice (value.getD []) offset size with
              | .ok text => return finish (.one (some text))
              | .error () => negative
          | .many _ isJoined => do
              if size.any (· < 0) then negative
              else if isList then
                let found := References.sliceElements (entry.toElements false) offset
                  (size.map Int.toNat)
                return finish (.many found isJoined)
              else
                match References.slice (machine.name :: machine.arguments.list) offset size with
                | .ok found => return finish (.many found isJoined)
                | .error () => negative
      | .substitute place pattern replacement => do
          let pattern ← expand fuel (withoutTildes machine false true pattern)
          let replacement ← expand fuel (withoutTildes machine false true replacement)
          let machine ← get
          let isLiteral := !machine.hasFeature "patsub_replacement"
          let replacement :=
            if isLiteral then (Glyph.text replacement).map Glyph.exact else replacement
          let fits := Pattern.extendedTest (machine.hasFeature "extglob")
            (machine.hasFeature "nocasematch") pattern
          return finish (subject.map
            (References.substitute place (Glyph.text pattern).isEmpty fits replacement))
      | .recase recasing isEverywhere pattern => do
          let found ← expand fuel (withoutTildes machine false true pattern)
          let fits : Text → Bool :=
            if pattern.isEmpty then fun _ => true
            else Pattern.extendedTest (machine.hasFeature "extglob") false found
          return finish (subject.map (References.recase recasing isEverywhere fits))
      | .transform letter => return finish (References.transform machine name entry letter subject)
      | _ => return finish subject
termination_by structural fuel => fuel

def useModified : Nat → Text → Text → Option Text → References.Subject → Modifier → Word → Bool →
    Running (List Glyph)
  | 0, _, _, _, _, _, _, _ => throw .stopped
  | fuel + 1, shown, name, inside, subject, modifier, word, isQuoted => do
      let machine ← get
      let present : List Glyph :=
        match subject with
        | .one value => glyphs isQuoted (value.getD [])
        | .many values isJoined => severalGlyphs machine isJoined isQuoted values
      let expandWord : Running (List Glyph) :=
        expand fuel (if isQuoted then word else withoutTildes machine false true word)
      let instead : Running (List Glyph) := do
        let found ← expandWord
        return if isQuoted then .hold :: found else found.map loosen
      let cut (change : (Text → Bool) → Text → Text) : Running (List Glyph) := do
        let found ← expandWord
        let fits := fitting (← get) found
        match subject.map (change fits) with
        | .one value => return glyphs isQuoted (value.getD [])
        | .many values isJoined => return severalGlyphs machine isJoined isQuoted values
      match modifier with
      | .default orEmpty => if subject.isMissing orEmpty then instead else return present
      | .alternative orEmpty =>
          if subject.isMissing orEmpty then
            return (match subject with
              | .one _ => glyphs isQuoted []
              | .many _ _ => if isQuoted then [.hold] else [])
          else instead
      | .assign orEmpty =>
          if subject.isMissing orEmpty then do
            let found ← expandWord
            let machine ← get
            let text := joinedText machine found
            if !isName name then abandon ('$' :: name ++ words ": cannot assign in this way")
            accept (Assigning.assign machine name inside false text)
            return glyphs isQuoted text
          else return present
      | .demand orEmpty =>
          if subject.isMissing orEmpty then do
            let found ← expandWord
            let message : Text :=
              if word.isEmpty then
                words (if orEmpty then "parameter null or not set" else "parameter not set")
              else joinedText machine found
            lacking (shown ++ words ": " ++ message)
          else return present
      | .cutEnd longest =>
          cut fun fits text => text.take (Pattern.restCount longest fits text)
      | .cutStart longest =>
          cut fun fits text => text.drop (Pattern.startCount longest fits text)
      | _ => return present
termination_by structural fuel => fuel

def expandModified : Nat → Text → Modifier → Word → Bool → Running (List Glyph)
  | 0, _, _, _, _ => throw .stopped
  | fuel + 1, name, modifier, word, isQuoted => do
      let machine ← get
      let value := parameterGlyphs machine name isQuoted
      let text := joinedText machine (value.getD [])
      let present := value.getD (glyphs isQuoted [])
      let needsValue : Bool :=
        match modifier with
        | .length | .cutEnd _ | .cutStart _ => true
        | _ => false
      if needsValue && value.isNone && machine.has .nounset then abandon (unsetMessage name)
      let expandWord : Running (List Glyph) :=
        expand fuel (if isQuoted then word else withoutTildes machine false true word)
      let instead : Running (List Glyph) := do
        let found ← expandWord
        return if isQuoted then .hold :: found else found.map loosen
      match modifier with
      | .length => return glyphs isQuoted (Decimal.digits text.length)
      | .default orEmpty => if isMissing orEmpty value then instead else return present
      | .alternative orEmpty =>
          if isMissing orEmpty value then return glyphs isQuoted [] else instead
      | .assign orEmpty =>
          if isMissing orEmpty value then
            let found := joinedText machine (← expandWord)
            assign name found
            return glyphs isQuoted found
          else return present
      | .demand orEmpty =>
          if isMissing orEmpty value then
            let found ← expandWord
            if word.isEmpty then
              abandon (unsetMessage name ++ (if orEmpty then words " or null" else []))
            else abandon (name ++ words ": " ++ joinedText machine found)
          else return present
      | .cutEnd longest =>
          let found ← expandWord
          return Glyph.takeMany (Pattern.restCount longest (fitting machine found) text) present
      | .cutStart longest =>
          let found ← expandWord
          return Glyph.dropMany (Pattern.startCount longest (fitting machine found) text) present
      | .malformed => abandon (words "Bad substitution")
termination_by structural fuel => fuel

def expand : Nat → Word → Running (List Glyph)
  | 0, _ => throw .stopped
  | _ + 1, [] => return []
  | fuel + 1, part :: rest => do
      let first ← expandPart fuel part
      let others ← expand fuel rest
      return first ++ others
termination_by structural fuel => fuel

def textWithin : Nat → Bool → Word → Running Text
  | 0, _, _ => throw .stopped
  | fuel + 1, inAssignment, word => do
      let machine ← get
      let word := if machine.isExtended then joinStars word else word
      let found ← expand fuel (withoutTildes machine inAssignment true word)
      return joinedText (← get) found
termination_by structural fuel => fuel

end

def wordDepth : Nat := Nat.pow 2 60

def glyphsOf (word : Word) : Running (List Glyph) := expand wordDepth word

def textOf (inAssignment : Bool) (word : Word) : Running Text :=
  textWithin wordDepth inAssignment word

/-- The fields that a word becomes. In the extended dialect tildes are replaced in what looks like an
assignment as in one. -/
def fieldsOf (word : Word) : Running (List Text) := do
  let machine ← get
  let word :=
    match if machine.isExtended then splitAssignment? word else none with
    | some (name, value) =>
        .text (name ++ ['=']) false :: withoutTildes machine true true value
    | none => withoutTildes machine false true word
  let found ← glyphsOf word
  let machine ← get
  let parts := Fields.split (Fields.separators machine) found
  if machine.has .noglob then return parts.map Glyph.text
  if machine.isExtended then
    let globbing := Fields.Globbing.extended machine
    let found ← parts.mapM fun part =>
      let paths := Fields.paths? globbing machine.tree machine.directory part
      match paths.map (·.filter fun path => !Fields.isIgnored machine path) with
      | none => return [Glyph.text part]
      | some [] =>
          if machine.hasFeature "failglob" then
            abandon (words "no match: " ++ Glyph.text part)
          else return if machine.hasFeature "nullglob" then [] else [Glyph.text part]
      | some found => return found
    return found.flatten
  return parts.flatMap (Fields.texts machine.tree machine.directory)

def fields : List Word → Running (List Text)
  | [] => return []
  | word :: rest => do
      let first ← fieldsOf word
      let others ← fields rest
      return first ++ others

def entries : List ListItem → Running (List Entry)
  | [] => return []
  | item :: rest => do
      let first ←
        match item with
        | .plain word => do
            let found ← fields (Braces.expand word)
            pure (found.map fun value => (⟨none, false, value⟩ : Entry))
        | .placed subscript appends word => do
            let inside ← textOf false subscript
            let value ← textOf true word
            pure [(⟨some inside, appends, value⟩ : Entry)]
      let others ← entries rest
      return first ++ others

/-- An assignment among the arguments of a command that declares variables. What a list holds is
kept beside its text. -/
def declaration : Assignment → Running Text
  | .to name subscript appends value => do
      let start ←
        match subscript with
        | none => pure name
        | some subscript => do
            let inside ← textOf false subscript
            pure (name ++ '[' :: inside ++ [']'])
      let start := start ++ (if appends then ['+', '='] else ['='])
      match value with
      | [.list items] => do
          let found ← entries items
          let shown := found.map fun entry =>
            (entry.subscript.map fun inside => '[' :: inside ++ [']', '=']).getD [] ++
              Quoting.single entry.value
          let text := start ++ '(' :: (shown.intersperse [' ']).flatten ++ [')']
          modify fun machine => { machine with lists := (text, found) :: machine.lists }
          return text
      | value => do
          let text ← textOf true value
          return start ++ text

def argumentsOf : Bool → List Word → Running (List Text)
  | _, [] => return []
  | takesAssignments, word :: rest => do
      let first ←
        match takesAssignments, (← get).isExtended with
        | false, _ => fieldsOf word
        | true, true =>
            match Assignment.ofWord? word with
            | some assignment => do
                let text ← declaration assignment
                pure [text]
            | none => fieldsOf word
        | true, false =>
            match splitAssignment? word with
            | some (name, value) => do
                let value ← textOf true value
                pure [name ++ '=' :: value]
            | none => fieldsOf word
      let others ← argumentsOf takesAssignments rest
      return first ++ others

def targets : List (Redirection Word) → Running (List (Redirection Goal))
  | [] => return []
  | redirection :: rest => do
      let isText : Bool :=
        match redirection.kind with
        | .document | .textLine => true
        | _ => false
      let isExtended := (← get).isExtended
      let target? : Option Text ←
        if isExtended && !isText then do
          match ← fields (Braces.expand redirection.target) with
          | [target] => pure (some target)
          | _ => pure none
        else do
          let target ← textOf false redirection.target
          pure (some target)
      if !isExtended && redirection.kind = .duplicate &&
          (target?.bind (Redirections.source? .plain)).isNone then
        modify fun machine => { machine with line := machine.reached }
        abandon (words "Syntax error: Bad fd number")
      let others ← targets rest
      let goal : Goal := ⟨target?, Redirections.written redirection.target⟩
      return ⟨redirection.descriptor, redirection.kind, goal⟩ :: others

def trace (text : Text) (before : Machine) : Running Unit := do
  let machine ← get
  if machine.has .xtrace && !machine.isTracing then
    let mark := (machine.valueOf? "PS4".toList).getD []
    set { machine with isTracing := true }
    let mark ←
      match (Grammar.double (mark.length + 64) .document true false).run
          (.ofText machine.dialect mark 1 machine.aliases) with
      | .ok (word, _) => do pure (joinedText machine (← glyphsOf word))
      | .error _ => pure mark
    let nested := if machine.isExtended then machine.nesting else 0
    let line := (mark.take 1).flatMap (List.replicate (nested + 1)) ++ mark.drop 1 ++ text ++
      ['\n']
    modify fun after =>
      writeAs before line { after with isTracing := false, captured := machine.captured }

def traceText (text : Text) : Running Unit := do
  let machine ← get
  if machine.isExtended then trace text machine

def traceParts (parts : List Word) (start : String) (ending : String) : Running Unit := do
  let text := ((parts.map Redirections.written).intersperse [' ']).flatten
  traceText (words start ++ text ++ words ending)

/-- Assigns one value, and gives the assignment as it is traced. One that is refused ends the line,
unless it is made for a command. -/
def assignOne : Bool → Bool → Assignment → Running Text
  | isExported, survives, .to name subscript appends value => do
      if !(← get).isExtended then
        let value ← textOf true value
        assign name value
        if isExported then
          modify fun machine =>
            machine.putVariable name { machine.variableOf name with exported := true }
        return name ++ '=' :: value
      let settle (answer : Bool × Machine) : Running Unit := do
        if survives then set answer.2 else accept answer
      let sign : Text := if appends then ['+', '='] else ['=']
      match value, subscript with
      | [.list items], none => do
          let found ← entries items
          settle (Assigning.assignList (← get) name appends found)
          return name ++ sign ++ Redirections.writtenItems items
      | [.list _], some subscript => do
          let inside ← textOf false subscript
          abandon (name ++ '[' :: inside ++ words "]: cannot assign list to array member")
      | value, subscript => do
          let inside ←
            match subscript with
            | none => pure none
            | some word => some <$> textOf false word
          let value ← textOf true value
          settle (Assigning.assign (← get) name inside appends value)
          if isExported then
            modify fun machine =>
              machine.putVariable name { machine.variableOf name with exported := true }
          let place := (inside.map fun inside => '[' :: inside ++ [']']).getD []
          return name ++ place ++ sign ++ Quoting.traced value

def assignAll : Bool → Bool → List Assignment → Running (List Text)
  | _, _, [] => return []
  | isExported, survives, first :: rest => do
      let text ← assignOne isExported survives first
      let others ← assignAll isExported survives rest
      return text :: others

def fitsAny : Text → List Word → Running Bool
  | _, [] => return false
  | subject, pattern :: rest => do
      let found ← glyphsOf (withoutTildes (← get) false true pattern)
      if fitting (← get) found subject then return true
      fitsAny subject rest

def fitsSome : Text → List (List Word × Command × ArmEnd) → Running Bool
  | _, [] => return false
  | subject, (patterns, _) :: rest => do
      if ← fitsAny subject patterns then return true
      fitsSome subject rest

def computed (expression : Word) : Running (Option Int) := do
  let text ← textOf false (withoutMarks expression)
  traceText (words "(( " ++ text ++ words " ))")
  match ← attempt (calculate (words "((: ") text) with
  | .ok value => return some value
  | .error .line => return none
  | .error leave => throw leave

/-- The status of a condition: zero where it holds, one where it does not, and two where it cannot be
read. -/
def holds (condition : Condition) : Running Nat := do
  let ofBool (value : Bool) : Nat := if value then 0 else 1
  match condition with
  | .negation condition => do
      let status ← holds condition
      return if status = 0 then 1 else if status = 1 then 0 else status
  | .both first second => do
      let status ← holds first
      if status ≠ 0 then return status else holds second
  | .either first second => do
      let status ← holds first
      if status ≠ 1 then return status else holds second
  | .word operand => do
      let text ← textOf false operand
      traceText (words "[[ -n " ++ Checks.shown text ++ words " ]]")
      return ofBool !text.isEmpty
  | .unary operator operand => do
      let text ← textOf false operand
      traceText (words "[[ " ++ operator ++ ' ' :: Checks.shown text ++ words " ]]")
      let machine ← get
      return ofBool (Checks.unary machine operator text)
  | .binary operator first second => do
      let name := String.ofList operator
      let first ← textOf false first
      if name = "==" || name = "=" || name = "!=" then
        let found ← glyphsOf (withoutTildes (← get) false true (joinStars second))
        let machine ← get
        let fits := Pattern.extendedTest true (machine.hasFeature "nocasematch") found
        traceText (words "[[ " ++ Checks.shown first ++ ' ' :: operator ++ ' ' ::
          Checks.shownPattern found ++ words " ]]")
        return ofBool (fits first != (name = "!="))
      else if name = "=~" then
        let found ← glyphsOf (withoutTildes (← get) false true second)
        traceText (words "[[ " ++ Checks.shown first ++ words " =~ " ++
          Checks.shown (Glyph.text found) ++ words " ]]")
        let (status, machine) := Checks.search (← get) first found
        set machine
        return status
      else
        let second ← textOf false second
        traceText (words "[[ " ++ Checks.shown first ++ ' ' :: operator ++ ' ' ::
          Checks.shown second ++ words " ]]")
        match Checks.comparison? name with
        | some compare => do
            let value ← attempt (do
              let first ← calculate (words "[[: ") first
              let second ← calculate (words "[[: ") second
              return compare first second)
            match value with
            | .ok value => return ofBool value
            | .error .line => return 1
            | .error leave => throw leave
        | none => return ofBool (Checks.binary (← get) first name second)

def gather (found : List Text) (rest : List Word) : Running (List Text × List Word) := do
  match found, rest with
  | [], word :: rest => gather (← fieldsOf word) rest
  | found, rest => return (found, rest)

def finishCall (call : Call) (rest : List Word) : Running Call := do
  let takesAssignments :=
    if (← get).isExtended then
      Grammar.declaringCommands.contains (String.ofList call.name)
    else Builtin.takesAssignments call.name
  let others ← argumentsOf takesAssignments rest
  let found := call.words ++ others
  return { call with printed := call.printed ++ found, words := found }

def passOptions : Nat → Call → List Word → Running (Option (Call × List Word))
  | 0, _, _ => throw .stopped
  | fuel + 1, call, rest => do
      let (found, rest) ← gather call.words rest
      match found with
      | [] => return none
      | option :: others =>
          let passed := { call with printed := call.printed ++ [option], words := others }
          match option with
          | ['-', '-'] => do
              let (found, rest) ← gather others rest
              return if found.isEmpty then none else some ({ passed with words := found }, rest)
          | '-' :: letter :: letters =>
              if (letter :: letters).all (· = 'p') then
                passOptions fuel { passed with isUsual := true } rest
              else return none
          | _ => return some ({ call with words := found }, rest)
termination_by structural fuel => fuel

def findCall : Nat → Call → List Word → Running Call
  | 0, _, _ => throw .stopped
  | fuel + 1, call, rest => do
      let (found, rest) ← gather call.words rest
      let call := { call with words := found }
      match found with
      | name :: others => do
          let machine ← get
          let isShadowed := !call.isPlain && (machine.functions.lookup name).isSome
          if name = words "command" && !isShadowed then
            let passed :=
              { call with printed := call.printed ++ [name], words := others, isPlain := true }
            match ← passOptions fuel passed rest with
            | some (call, rest) => findCall fuel call rest
            | none => finishCall { call with isPlain := true } rest
          else if machine.isExtended && name = words "builtin" && !isShadowed then
            let (others, rest) ← gather others rest
            let others := if others.head? = some ['-', '-'] then others.drop 1 else others
            if others.isEmpty then finishCall { call with isPlain := true } rest
            else
              findCall fuel
                { call with
                  printed := call.printed ++ [name]
                  words := others
                  isPlain := true
                  isOwn := true } rest
          else finishCall call rest
      | [] => return call
termination_by structural fuel => fuel

def callOf (words : List Word) : Running Call :=
  findCall wordDepth ⟨[], [], false, false, false⟩ words

end ArtifactTools.Shell.Run
