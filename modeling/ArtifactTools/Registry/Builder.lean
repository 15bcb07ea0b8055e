import ArtifactTools.Conversion.Tools
import ArtifactTools.Registry
import ArtifactTools.Viewer

/-! Building registries. A builder lists families of transformers, which register in turn. Each new
registry and each transformer has a number of its own. -/

namespace ArtifactTools

structure Numbering where
  registry : UInt32
  serial : Nat
  deriving DecidableEq, Repr

def Numbering.first : Numbering := ⟨0, 0⟩

structure Family where
  name : String
  drafts : Environment → List Draft

namespace Family

def viewers : Family := ⟨"viewers", fun _ => Viewer.drafts⟩

def converters : Family :=
  ⟨"converters", fun environment => (Conversion.converters environment).map Converter.draft⟩

end Family

def Registry.registerAll (registry : Registry) (serial : Nat) :
    List Draft → Except TransformerError Registry × Nat
  | [] => (.ok registry, serial)
  | draft :: rest =>
      match registry.register serial draft with
      | .error error => (.error error, serial + 1)
      | .ok (_, registry) => registry.registerAll (serial + 1) rest

/-- What came of building: the registry or the first refusal, how many families began to register,
and the numbers that are free now. -/
structure Build where
  result : Except TransformerError Registry
  familiesStarted : Nat
  numbering : Numbering

structure Builder where
  families : List Family

namespace Builder

def builtin : Builder := ⟨[Family.viewers, Family.converters]⟩

def names (builder : Builder) : List String := builder.families.map (·.name)

def registerFamilies (environment : Environment) (registry : Registry) (serial started : Nat) :
    List Family → Except TransformerError Registry × Nat × Nat
  | [] => (.ok registry, serial, started)
  | family :: rest =>
      match registry.registerAll serial (family.drafts environment) with
      | (.error error, serial) => (.error error, serial, started + 1)
      | (.ok registry, serial) => registerFamilies environment registry serial (started + 1) rest

def build (builder : Builder) (environment : Environment) (numbering : Numbering) : Build :=
  let (result, serial, started) :=
    registerFamilies environment (.empty numbering.registry) numbering.serial 0 builder.families
  { result := result.map fun registry =>
      (registry.importSettings environment.config.settings.entries).1
    familiesStarted := started
    numbering := ⟨numbering.registry + 1, serial⟩ }

end Builder

end ArtifactTools
