import ArtifactTools.Config.File
import ArtifactTools.Registry.Builder

/-! The registry that a whole process shares. It is published once and never replaced; who asks for
it before anyone has published one gets the built-in families under the default configuration. -/

namespace ArtifactTools

structure Shared where
  published : Option Registry
  numbering : Numbering

namespace Shared

def vacant : Shared := ⟨none, .first⟩

def checkVacant (shared : Shared) : Except TransformerError Unit :=
  match shared.published with
  | some _ => .error .alreadyInitialized
  | none => .ok ()

def publish (shared : Shared) (registry : Registry) : Except TransformerError Shared :=
  match shared.published with
  | some _ => .error .alreadyInitialized
  | none => .ok { shared with published := some registry }

def start (shared : Shared) (builder : Builder) (environment : Environment) :
    Except TransformerError Registry × Shared :=
  match shared.checkVacant with
  | .error error => (.error error, shared)
  | .ok () =>
      let build := builder.build environment shared.numbering
      let shared := { shared with numbering := build.numbering }
      match build.result with
      | .error error => (.error error, shared)
      | .ok registry =>
          match shared.publish registry with
          | .error error => (.error error, shared)
          | .ok shared => (.ok registry, shared)

def defaultConfig (host : Host) : Config :=
  match Config.loadOrDefault host none with
  | .ok config => config
  | .error _ => .default

/-- The published registry; without one the built-in families are built and published. -/
def obtain (shared : Shared) (host : Host) (launcher : Config → Launcher) :
    Except TransformerError Registry × Shared :=
  match shared.published with
  | some registry => (.ok registry, shared)
  | none =>
      let config := defaultConfig host
      shared.start Builder.builtin ⟨config, launcher config⟩

def update (shared : Shared) (registry : Registry) : Shared :=
  { shared with published := shared.published.map fun _ => registry }

end Shared

end ArtifactTools
