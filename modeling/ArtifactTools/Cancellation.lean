/-! Cancellation flags. Clones of a flag share one signal, which once raised stays raised. -/

namespace ArtifactTools

structure Signals where
  raised : List Bool
  deriving DecidableEq, Repr

structure CancelFlag where
  signal : Nat
  deriving DecidableEq, Repr

namespace Signals

def none : Signals := ⟨[]⟩

def newFlag (signals : Signals) : CancelFlag × Signals :=
  (⟨signals.raised.length⟩, ⟨signals.raised ++ [false]⟩)

def cancel (signals : Signals) (flag : CancelFlag) : Signals :=
  ⟨signals.raised.set flag.signal true⟩

def isCancelled (signals : Signals) (flag : CancelFlag) : Bool :=
  signals.raised.getD flag.signal false

end Signals

end ArtifactTools
