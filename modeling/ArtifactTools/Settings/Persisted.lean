import ArtifactTools.Json.Printer
import ArtifactTools.Settings.Store

/-! Settings as they are kept between runs: for each transformer id the values under its keys, as
JSON. Values that cannot be applied are passed over and named. -/

namespace ArtifactTools.Settings

abbrev Persisted := Dictionary Json.Members

namespace Store

def snapshot (store : Store) : Json.Members :=
  Dictionary.ofList (store.entries.map fun entry => (entry.key, entry.value.toJson))

def applyValue (store : Store) (key : String) (raw : Json.Value) : Except SettingsError Store :=
  match Value.ofJson? raw with
  | some value => store.set key value
  | none =>
      let expected := ((store.descriptor? key).map (·.kind.display)).getD "a scalar"
      .error (.kindMismatch key expected raw.compactText)

/-- Applies values in ascending order of their keys; the problems are those of the values that were
passed over. -/
def apply (store : Store) : List (String × Json.Value) → Store × List SettingsError
  | [] => (store, [])
  | (key, raw) :: rest =>
      match store.applyValue key raw with
      | .ok store => store.apply rest
      | .error error =>
          let (store, errors) := store.apply rest
          (store, error :: errors)

end Store

def persistedEntries? (budget : Nat) :
    List (Option String × Json.Document) → Option (List (String × Json.Members))
  | [] => some []
  | (id, document) :: rest =>
      match id, document.members? budget, persistedEntries? budget rest with
      | some id, some members, some entries => some ((id, members) :: entries)
      | _, _, _ => none

/-- Reads persisted settings; of entries under one id the last counts. -/
def Persisted.ofDocument? (budget : Nat) : Json.Document → Option Persisted
  | .object members =>
      if budget = 0 then none
      else (persistedEntries? (budget - 1) members).map Dictionary.ofList
  | _ => none

def Persisted.parse? (text : String) : Option Persisted :=
  (Json.read? text).bind (Persisted.ofDocument? Json.nestingLimit)

def Persisted.toJson (persisted : Persisted) : Json.Value :=
  .object (persisted.entries.map fun entry => (entry.1, .object entry.2.entries))

end ArtifactTools.Settings
