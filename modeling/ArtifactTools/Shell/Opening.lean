import ArtifactTools.Shell.Running

/-! Opening what paths lead to. A pipe with a name is opened when somebody has opened its other end
as well. -/

namespace ArtifactTools.Shell

namespace Machine

def openToRead (machine : Machine) (path : Text) : Except HostError OpenFile :=
  match machine.tree.find machine.directory ⟨path.toOctets⟩ with
  | .error error => .error error
  | .ok (_, node) =>
      if !machine.tree.permits node FileTree.readBit then .error .denied
      else
        match machine.targetOf? node with
        | some target => .ok (.reading target)
        | none => .error .missing

/-- How a file is opened to be written to: as it is, at its end, or emptied, and whether it can be
read as well. -/
structure Access where
  keeps : Bool
  appends : Bool
  reads : Bool

def openToWrite (machine : Machine) (path : Text) (access : Access) :
    Except HostError (OpenFile × Machine) :=
  match machine.tree.openForWriting machine.directory ⟨path.toOctets⟩ access.keeps
      machine.fileMode with
  | .error error => .error error
  | .ok (node, tree) =>
      if !tree.permits node FileTree.writeBit && machine.tree.files.length = tree.files.length then
        .error .denied
      else
        match machine.targetOf? node with
        | none => .error .missing
        | some .directory => .error .isDirectory
        | some target =>
            let file := { OpenFile.writing target access.appends with isReadable := access.reads }
            let tree :=
              match node, target with
              | .device (.descriptor _), .file number =>
                  if access.keeps then tree else tree.modifyContent number (·.replace [])
              | _, _ => tree
            .ok (file, machine.withTree tree)

def namesPipe (machine : Machine) (path : Text) : Bool :=
  match machine.tree.find machine.directory ⟨path.toOctets⟩ with
  | .ok (_, .pipe _ _) => true
  | _ => false

end Machine

namespace Running

def install (descriptor : Nat) (file : OpenFile) (isNamed : Bool) : Running Unit := do
  modify fun machine => machine.attach descriptor file
  if let (true, some pipe) := (isNamed, file.target.pipe?) then
    let machine ← get
    let counted := machine.world.pipes[pipe]?
    if file.isReadable && !file.isWritable then
      if !machine.isWritten pipe then
        wait (.writer pipe ((counted.map (·.writings)).getD 0))
    else if file.isWritable && !file.isReadable then
      if !machine.isRead pipe then
        wait (.reader pipe ((counted.map (·.readings)).getD 0))

def openToRead (descriptor : Nat) (path : Text) : Running (Except HostError Unit) := do
  let machine ← get
  match machine.openToRead path with
  | .error error => return .error error
  | .ok file => do
      install descriptor file (machine.namesPipe path)
      return .ok ()

def openToWrite (descriptor : Nat) (path : Text) (access : Machine.Access) :
    Running (Except HostError Unit) := do
  let machine ← get
  match machine.openToWrite path access with
  | .error error => return .error error
  | .ok (file, after) => do
      set after
      install descriptor file (machine.namesPipe path)
      return .ok ()

def wholeFile (path : Text) : Running (Except HostError Text) := do
  let descriptor := (← get).freeFrom 10
  match ← openToRead descriptor path with
  | .error error => return .error error
  | .ok () => do
      let isDirectory := (← get).holdsDirectory descriptor
      let content ← if isDirectory then pure [] else readAll descriptor
      modify fun machine => machine.detach descriptor
      return if isDirectory then .error .isDirectory else .ok content

def writeFile (path text : Text) : Running (Except HostError Unit) := do
  let descriptor := (← get).freeFrom 10
  match ← openToWrite descriptor path ⟨false, false, false⟩ with
  | .error error => return .error error
  | .ok () => do
      modify fun machine => (machine.write descriptor text).getD machine
      settleOutput
      modify fun machine => machine.detach descriptor
      return .ok ()

end Running

namespace Machine

def unreadable? (machine : Machine) (path : Text) : Option HostError :=
  match machine.openToRead path with
  | .error error => some error
  | .ok file => if file.target = .directory then some .isDirectory else none

end Machine

end ArtifactTools.Shell
