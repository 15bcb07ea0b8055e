import ArtifactTools.Shell.Calculation

/-! Values of variables in the extended dialect. What is wrong with an assignment is told at once;
every step says whether it has been done. -/

namespace ArtifactTools.Shell.Assigning

def refused (machine : Machine) (message : Option Text) : Bool × Machine :=
  match message with
  | some text => (false, machine.complain text)
  | none => (false, machine)

def invalidName (name : Text) : Text := ('\x60' :: name) ++ words "': not a valid identifier"

def badSubscript (name subscript : Text) : Text :=
  name ++ '[' :: subscript ++ words "]: bad array subscript"

def calculate (machine : Machine) (text : Text) : Option Int × Machine :=
  match Calculation.evaluate machine text with
  | (.ok number, machine) => (some number, machine)
  | (.error fault, machine) => (none, (refused machine fault.message?).2)

def key (machine : Machine) (name subscript : Text) : Option Key × Machine :=
  let elements := (machine.variableOf name).toElements false
  let bad : Option Key × Machine := (none, machine.complain (badSubscript name subscript))
  if subscript.isEmpty then bad
  else if elements.isNamed then (some (.name subscript), machine)
  else if subscript = ['@'] || subscript = ['*'] then bad
  else
    match calculate machine subscript with
    | (none, machine) => (none, machine)
    | (some number, machine) =>
        match Machine.numberedKey? elements number with
        | some key => (some key, machine)
        | none => (none, machine.complain (badSubscript name subscript))

def put (machine : Machine) (name : Text) (key : Option Key) (appends : Bool) (value : Text) :
    Bool × Machine :=
  let entry := machine.variableOf name
  let old : Text :=
    match key with
    | none => entry.text?.getD []
    | some key => ((entry.toElements false).get? key).getD []
  let store (machine : Machine) (value : Text) : Bool × Machine :=
    match machine.put name key value with
    | .ok machine => (true, machine)
    | .error message => refused machine (some message)
  if entry.isReadOnly then refused machine (some (Machine.readOnlyMessage name))
  else if entry.has .integer then
    match calculate machine value with
    | (none, machine) => (false, machine)
    | (some number, machine) =>
        if !appends then store machine (Decimal.intDigits number)
        else
          match calculate machine old with
          | (none, machine) => (false, machine)
          | (some before, machine) =>
              store machine (Decimal.intDigits (Arithmetic.wrap (before + number)))
  else store machine (if appends then old ++ value else value)

def assign (machine : Machine) (name : Text) (subscript : Option Text) (appends : Bool)
    (value : Text) : Bool × Machine :=
  let (name, subscript) :=
    match subscript, Machine.splitSubscript (machine.referent name) with
    | none, (target, inside) => (target, inside)
    | some inside, _ => (machine.referent name, some inside)
  if !isName name then refused machine (some (invalidName name))
  else
    match subscript with
    | none => put machine name none appends value
    | some inside =>
        if (machine.variableOf name).isReadOnly then
          refused machine (some (Machine.readOnlyMessage name))
        else
          match key machine name inside with
          | (none, machine) => (false, machine)
          | (some key, machine) => put machine name (some key) appends value

def assignTo (machine : Machine) (target value : Text) : Bool × Machine :=
  let (name, subscript) := Machine.splitSubscript target
  if !isName name then refused machine (some (invalidName target))
  else assign machine name subscript false value

def putNumbered (name : Text) : Nat → List Entry → Machine → Bool × Machine
  | _, [], machine => (true, machine)
  | place, entry :: rest, machine =>
      let place? : Option Nat × Machine :=
        match entry.subscript with
        | none => (some place, machine)
        | some inside =>
            match calculate machine inside with
            | (none, machine) => (none, machine)
            | (some number, machine) =>
                match Machine.numberedKey? ((machine.variableOf name).toElements false) number with
                | some (.number place) => (some place, machine)
                | _ =>
                    let written := '[' :: inside ++ ']' :: '=' :: entry.value
                    (none, machine.complain (written ++ words ": bad array subscript"))
      match place? with
      | (none, machine) => (false, machine)
      | (some place, machine) =>
          match put machine name (some (.number place)) entry.appends entry.value with
          | (true, machine) => putNumbered name (place + 1) rest machine
          | answer => answer

def paired : List Entry → List Entry
  | [] => []
  | [name] => [⟨some name.value, false, []⟩]
  | name :: value :: rest => ⟨some name.value, false, value.value⟩ :: paired rest

def putNamed (name : Text) : List Entry → Machine → Bool × Machine
  | [], machine => (true, machine)
  | entry :: rest, machine =>
      match entry.subscript with
      | none =>
          refused machine (some (name ++ words ": " ++ entry.value ++
            words ": must use subscript when assigning associative array"))
      | some inside =>
          match put machine name (some (.name inside)) entry.appends entry.value with
          | (true, machine) => putNamed name rest machine
          | answer => answer

def assignList (machine : Machine) (name : Text) (appends : Bool) (entries : List Entry) :
    Bool × Machine :=
  let name := (Machine.splitSubscript (machine.referent name)).1
  let entry := machine.variableOf name
  if entry.isReadOnly then refused machine (some (Machine.readOnlyMessage name))
  else
    let old := entry.toElements false
    let start := if appends then old else .empty old.isNamed
    let machine := machine.putVariable name { entry with value := some [], elements := some start }
    if old.isNamed then
      let isPaired := entries.head?.any fun entry => entry.subscript.isNone
      putNamed name (if isPaired then paired entries else entries) machine
    else putNumbered name start.next entries machine

def setList (machine : Machine) (name : Text) (values : List Text) : Bool × Machine :=
  assignList machine name false (values.map fun value => ⟨none, false, value⟩)

def forget (machine : Machine) (name : Text) (subscript : Option Text) : Bool × Machine :=
  match subscript with
  | none => (true, (machine.forget name).noticingLoss name)
  | some inside =>
      let entry := machine.variableOf name
      match entry.elements with
      | none => (true, machine)
      | some elements =>
          let cleared (elements : Elements) (machine : Machine) : Bool × Machine :=
            (true, machine.putVariable name { entry with elements := some elements })
          if (inside = ['@'] || inside = ['*']) && !elements.isNamed then
            cleared (.empty false) machine
          else
            match key machine name inside with
            | (none, machine) => (false, machine)
            | (some key, machine) => cleared (elements.erase key) machine

end ArtifactTools.Shell.Assigning
