import ArtifactTools.Settings.Kind

/-! The settings of one transformer: its declared options with their current values, in the order in
which their keys were first declared. Each operation that can fail leaves the store as it was when
it does. -/

namespace ArtifactTools.Settings

structure Entry where
  descriptor : Descriptor
  value : Value
  deriving DecidableEq, Repr

def Entry.key (entry : Entry) : String := entry.descriptor.key

def Entry.initial (descriptor : Descriptor) : Entry := ⟨descriptor, descriptor.default⟩

structure Store where
  entries : List Entry
  deriving DecidableEq, Repr

namespace Store

def empty : Store := ⟨[]⟩

def find? (store : Store) (key : String) : Option Entry :=
  store.entries.find? fun entry => entry.key == key

def size (store : Store) : Nat := store.entries.length

def keys (store : Store) : List String := store.entries.map (·.key)

def descriptors (store : Store) : List Descriptor := store.entries.map (·.descriptor)

def descriptor? (store : Store) (key : String) : Option Descriptor :=
  (store.find? key).map (·.descriptor)

def get? (store : Store) (key : String) : Option Value := (store.find? key).map (·.value)

def getBool? (store : Store) (key : String) : Option Bool :=
  match store.get? key with
  | some (.bool value) => some value
  | _ => none

def getInteger? (store : Store) (key : String) : Option Int64 :=
  match store.get? key with
  | some (.integer value) => some value
  | _ => none

def getText? (store : Store) (key : String) : Option String :=
  match store.get? key with
  | some (.text value) => some value
  | _ => none

def replace (entry : Entry) : List Entry → List Entry
  | [] => []
  | other :: rest => if other.key = entry.key then entry :: rest else other :: replace entry rest

theorem map_key_replace (entry : Entry) (entries : List Entry) :
    (replace entry entries).map (·.key) = entries.map (·.key) := by
  induction entries with
  | nil => rfl
  | cons other rest ih =>
      simp only [replace]
      split
      · next same => simp [same]
      · simp [ih]

def put (store : Store) (entry : Entry) : Store :=
  match store.find? entry.key with
  | some _ => ⟨replace entry store.entries⟩
  | none => ⟨store.entries ++ [entry]⟩

/-- Declares a setting at its default. A key declared before keeps its place and loses its value. -/
def register (store : Store) (descriptor : Descriptor) : Except TransformerError Store :=
  match descriptor.validate with
  | .error error => .error error
  | .ok () => .ok (store.put (.initial descriptor))

def registerAll : Store → List Descriptor → Except TransformerError Store
  | store, [] => .ok store
  | store, descriptor :: rest =>
      match store.register descriptor with
      | .error error => .error error
      | .ok store => store.registerAll rest

def ofDescriptors (descriptors : List Descriptor) : Except TransformerError Store :=
  empty.registerAll descriptors

def set (store : Store) (key : String) (value : Value) : Except SettingsError Store :=
  match store.find? key with
  | none => .error (.unknownKey key)
  | some entry =>
      if entry.descriptor.kind.accepts value then
        .ok ⟨replace ⟨entry.descriptor, value⟩ store.entries⟩
      else .error (.kindMismatch key entry.descriptor.kind.display value.describe)

def readFor (descriptor : Descriptor) (key raw : String) : Except SettingsError Value :=
  match descriptor.kind.read? raw with
  | some value => .ok value
  | none => .error (.kindMismatch key descriptor.kind.display s!"\"{raw}\"")

def setText (store : Store) (key raw : String) : Except SettingsError Store :=
  match store.descriptor? key with
  | none => .error (.unknownKey key)
  | some descriptor =>
      match readFor descriptor key raw with
      | .error error => .error error
      | .ok value => store.set key value

def reset (store : Store) (key : String) : Except SettingsError Store :=
  match store.find? key with
  | none => .error (.unknownKey key)
  | some entry => .ok ⟨replace (.initial entry.descriptor) store.entries⟩

end Store

end ArtifactTools.Settings
