import ArtifactTools.Text.Quoted
import ArtifactTools.Transformer

/-! Registries. A registry owns transformers in the order of their registration and finds them by id
and by name, of which no two are alike. An entry is never removed or replaced, so a handle, which
is a position in one registry, stays good. -/

namespace ArtifactTools

structure Handle where
  registry : UInt32
  index : UInt32
  deriving DecidableEq, Repr

def Handle.compare (first second : Handle) : Ordering :=
  (Ord.compare first.registry second.registry).then (Ord.compare first.index second.index)

structure Ref where
  handle : Handle
  transformer : Transformer

namespace Ref

/-- References are the same if they name the same place. -/
def isSame (first second : Ref) : Bool := first.handle = second.handle

def isSameInstance (first second : Ref) : Bool :=
  first.transformer.serial = second.transformer.serial

end Ref

structure Registry where
  number : UInt32
  entries : List Transformer
  byId : List (String × Nat)
  byName : List (String × Nat)

namespace Registry

def empty (number : UInt32) : Registry := ⟨number, [], [], []⟩

def size (registry : Registry) : Nat := registry.entries.length

def refOf (registry : Registry) (index : Nat) (transformer : Transformer) : Ref :=
  ⟨⟨registry.number, UInt32.ofNat index⟩, transformer⟩

def refAt? (registry : Registry) (index : Nat) : Option Ref :=
  registry.entries[index]?.map (registry.refOf index)

def indexOf? (registry : Registry) (id : String) : Option Nat := registry.byId.lookup id

def findById? (registry : Registry) (id : String) : Option Ref :=
  (registry.byId.lookup id).bind registry.refAt?

def findByName? (registry : Registry) (name : String) : Option Ref :=
  (registry.byName.lookup name).bind registry.refAt?

def get? (registry : Registry) (handle : Handle) : Option Ref :=
  if handle.registry = registry.number then registry.refAt? handle.index.toNat else none

def containsId (registry : Registry) (id : String) : Bool := (registry.byId.lookup id).isSome

def containsName (registry : Registry) (name : String) : Bool :=
  (registry.byName.lookup name).isSome

def insert (registry : Registry) (transformer : Transformer) :
    Except TransformerError (Ref × Registry) :=
  if registry.containsId transformer.id then .error (.duplicateIdentifier transformer.id)
  else if registry.containsName transformer.name then .error (.duplicateName transformer.name)
  else
    let index := registry.entries.length
    .ok (registry.refOf index transformer,
      { registry with
        entries := registry.entries ++ [transformer]
        byId := (transformer.id, index) :: registry.byId
        byName := (transformer.name, index) :: registry.byName })

def register (registry : Registry) (serial : Nat) (draft : Draft) :
    Except TransformerError (Ref × Registry) :=
  match draft.build serial with
  | .error error => .error error
  | .ok transformer => registry.insert transformer

def selectFrom (registry : Registry) (accepts : Transformer → Bool) (index : Nat) :
    List Transformer → List Ref
  | [] => []
  | transformer :: rest =>
      if accepts transformer then
        registry.refOf index transformer :: registry.selectFrom accepts (index + 1) rest
      else registry.selectFrom accepts (index + 1) rest

def allMatching (registry : Registry) (accepts : Transformer → Bool) : List Ref :=
  registry.selectFrom accepts 0 registry.entries

def all (registry : Registry) : List Ref := registry.allMatching fun _ => true

def ofType (registry : Registry) (type : TransformerType) : List Ref :=
  registry.allMatching fun transformer => transformer.type = type

def applicableTo (registry : Registry) (name : String) : List Ref :=
  registry.allMatching fun transformer => transformer.accepts name

def withStore (registry : Registry) (index : Nat) (store : Settings.Store) : Registry :=
  { registry with
    entries := registry.entries.modify index fun transformer => { transformer with store } }

def exportSettings (registry : Registry) : Settings.Persisted :=
  Dictionary.ofList
    ((registry.allMatching Transformer.hasSettings).map fun ref =>
      (ref.transformer.id, ref.transformer.store.snapshot))

/-- Applies persisted settings in ascending order of the ids. Ids that are not registered are
passed over; values that cannot be applied are named with their id. -/
def importSettings (registry : Registry) :
    List (String × Json.Members) → Registry × List (String × SettingsError)
  | [] => (registry, [])
  | (id, members) :: rest =>
      match (registry.indexOf? id).bind fun index =>
          registry.entries[index]?.map fun transformer => (index, transformer) with
      | none => registry.importSettings rest
      | some (index, transformer) =>
          let (store, errors) := transformer.store.apply members.entries
          let (registry, problems) := (registry.withStore index store).importSettings rest
          (registry, errors.map (fun error => (id, error)) ++ problems)

def diagnostic (registry : Registry) (number : String) : String :=
  let ids := registry.entries.map fun transformer => Quoted.quote transformer.id
  "TransformerRegistry \x7b id: " ++ number ++ ", transformers: [" ++ ", ".intercalate ids ++
    "] \x7d"

end Registry

def Ref.diagnostic (ref : Ref) (number : String) : String :=
  "TransformerRef \x7b id: " ++ Quoted.quote ref.transformer.id ++ ", name: " ++
    Quoted.quote ref.transformer.name ++ ", handle: TransformerHandle \x7b registry: " ++ number ++
    ", index: " ++ Decimal.ofNat ref.handle.index.toNat ++ " \x7d \x7d"

end ArtifactTools
