import ArtifactTools.Shell.Machine

/-! What the shell's own commands have in common: they take arguments, change the machine and have a
status, or are misused. What they say is written when they have ended. -/

namespace ArtifactTools.Shell

abbrev Doing := ExceptT Text (StateM Machine)

namespace Doing

def misuse {α : Type} (message : Text) : Doing α := throw message

def ofExcept {α : Type} : Except Text α → Doing α
  | .ok value => return value
  | .error message => throw message

def say (text : Text) : Doing Unit :=
  modify fun machine => { machine with output := machine.output ++ text }

def sayLine (text : Text) : Doing Unit := say (text ++ ['\n'])

def complain (message : Text) : Doing Unit := modify fun machine => machine.complain message

def remark (text : Text) : Doing Unit :=
  modify fun machine =>
    let machine := machine.writeLines
    (machine.write 2 (text ++ ['\n'])).getD machine

def options (allowed : List (Char × Bool)) (arguments : List Text) :
    Doing (List (Char × Text) × List Text) :=
  ofExcept (readOptions allowed arguments)

def number (text : Text) : Doing Nat :=
  match Machine.readNumber? text with
  | some number => return number
  | none => misuse (Machine.illegalNumber text)

def assign (name value : Text) : Doing Unit := do
  set (← ofExcept ((← get).assign name value))

end Doing

/-- Text between quotes as a script may have it; quotes of the one kind stand between those of the
other. -/
def quote : Nat → Text → Text
  | 0, _ => []
  | fuel + 1, text =>
      let plain := text.takeWhile (· ≠ '\'')
      let after := text.drop plain.length
      let marks := after.takeWhile (· = '\'')
      let rest := after.drop marks.length
      let inside := '\'' :: plain ++ ['\'']
      if marks.isEmpty then inside
      else
        inside ++ '"' :: marks ++ ['"'] ++ (if rest.isEmpty then [] else quote fuel rest)

def quoted (text : Text) : Text := quote (text.length + 1) text

end ArtifactTools.Shell
