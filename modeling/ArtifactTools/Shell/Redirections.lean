import ArtifactTools.Shell.Opening

/-! Redirections whose targets have been expanded, or could not be. -/

namespace ArtifactTools.Shell.Redirections

open Running

def written (word : Word) : Text :=
  word.flatMap fun part =>
    match part with
    | .text characters _ => characters
    | .parameter name _ => '$' :: name
    | .reference text .. => ['$', '\x7b'] ++ text ++ ['\x7d']
    | _ => []

def writtenItems (items : List ListItem) : Text :=
  let shown := items.map fun item =>
    match item with
    | .plain word => written word
    | .placed subscript _ word => '[' :: written subscript ++ [']', '='] ++ written word
  '(' :: (shown.intersperse [' ']).flatten ++ [')']

def refusal (machine : Machine) (isRead : Bool) (target : Text) (error : HostError) : Text :=
  if machine.isExtended then target ++ words ": " ++ Machine.plainWording error
  else if isRead then
    words "cannot open " ++ target ++ words ": " ++ Machine.wording "No such file" error
  else
    words "cannot create " ++ target ++ words ": " ++
      Machine.wording "Directory nonexistent" error

def isProtected (machine : Machine) (kind : RedirectionKind) (target : Text) : Bool :=
  match kind, machine.has .noclobber, machine.tree.find machine.directory ⟨target.toOctets⟩ with
  | .write, true, .ok (_, .file _) | .write, true, .ok (_, .native _) => true
  | _, _, _ => false

def openPath (descriptor : Nat) (kind : RedirectionKind) (target : Text) :
    Running (Option Text) := do
  let machine ← get
  match kind with
  | .read =>
      match ← openToRead descriptor target with
      | .ok () => return none
      | .error error => return some (refusal machine true target error)
  | kind =>
      if isProtected machine kind target then
        return some (if machine.isExtended then target ++ words ": cannot overwrite existing file"
          else words "cannot create " ++ target ++ words ": File exists")
      let appends := kind = .append || kind = .appendBoth
      match ← openToWrite descriptor target
          ⟨appends || kind = .readWrite, appends, kind = .readWrite⟩ with
      | .ok () => return none
      | .error error => return some (refusal machine false target error)

inductive Source where
  | closed
  | open (number : Nat) (isMoved : Bool)

def source? (dialect : Dialect) (target : Text) : Option Source :=
  match dialect, target with
  | _, ['-'] => some .closed
  | .plain, [digit] => if isDigit digit then some (.open (Decimal.digitValue digit) false) else none
  | .plain, _ => none
  | .extended, target =>
      let digits := target.takeWhile isDigit
      if digits.isEmpty then none
      else
        match target.drop digits.length with
        | [] => some (.open (Decimal.value digits) false)
        | ['-'] => some (.open (Decimal.value digits) true)
        | _ => none

def ambiguous (target : Text) : Text := target ++ words ": ambiguous redirect"

def duplicate (descriptor source : Nat) (isMoved : Bool) (written : Text) :
    Running (Option Text) := do
  match (← get).duplicate descriptor source with
  | some machine => do
      set (if isMoved && source ≠ descriptor then machine.detach source else machine)
      return none
  | none => return some (written ++ words ": Bad file descriptor")

def openBoth (kind : RedirectionKind) (target : Text) : Running (Option Text) := do
  match ← openPath 1 kind target with
  | none => duplicate 2 1 false ['1']
  | some message => return some message

def applyTo (descriptor : Nat) (kind : RedirectionKind) (target written : Text) :
    Running (Option Text) := do
  match kind with
  | .document | .textLine => do
      let (pipe, machine) := (← get).newPipe target
      set (machine.attach descriptor (.reading (.pipe pipe)))
      return none
  | .duplicate | .duplicateOrBoth => do
      let machine ← get
      match source? machine.dialect target with
      | some (.open source isMoved) =>
          duplicate descriptor source isMoved
            (if written.head? = some '$' then written else Decimal.digits source)
      | some .closed => do
          set (machine.detach descriptor)
          return none
      | none =>
          if kind = .duplicateOrBoth then openBoth .writeBoth target
          else if machine.isExtended then return some (ambiguous written)
          else
            set (machine.detach descriptor)
            return none
  | .writeBoth | .appendBoth => openBoth kind target
  | kind => openPath descriptor kind target

/-- Applies a redirection, or tells what is wrong with it. A variable gets the number of a free
descriptor, but where one is closed it says which. -/
def apply (redirection : Redirection Goal) : Running (Option Text) := do
  let goal := redirection.target
  match goal.text with
  | none => return some (ambiguous goal.written)
  | some target =>
      match redirection.descriptor with
      | .number descriptor => applyTo descriptor redirection.kind target goal.written
      | .variable name => do
          let machine ← get
          let closes := redirection.kind = .duplicate && target = ['-']
          if closes then
            let value := (machine.valueOf? name).getD []
            if value.isEmpty || !value.all isDigit then return some (ambiguous name)
            else applyTo (Decimal.value value) redirection.kind target goal.written
          else
            let descriptor := machine.freeFrom 10
            match ← applyTo descriptor redirection.kind target goal.written with
            | none => do
                modify fun machine => machine.setVariable name (Decimal.digits descriptor)
                return none
            | message => return message

def applyAll : List (Redirection Goal) → Running (Option Text)
  | [] => return none
  | redirection :: rest => do
      match ← apply redirection with
      | none => applyAll rest
      | message => return message

/-- Runs an action after redirections, which hold no longer than that. What the descriptors referred
to is kept. -/
def within {α : Type} (goals : List (Redirection Goal)) (refused : Text → Running α)
    (action : Running α) : Running α := do
  let before ← get
  let descriptors := before.descriptors
  let kept := before.kept
  let restore (machine : Machine) : Machine := { machine with descriptors, kept }
  set { before with kept := descriptors ++ kept }
  restoring (do
    match ← applyAll goals with
    | none => action
    | some message => refused message) restore

end ArtifactTools.Shell.Redirections
