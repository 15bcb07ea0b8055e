import ArtifactTools.Process

/-! Waiting for a child process. The child is looked at again and again; the first look that settles
the matter decides how the wait ends, and what is done to the child on the way is on record. However
the wait ends, the child is collected, and it is killed only while it has not been. -/

namespace ArtifactTools.Supervision

inductive ExitStatus where
  | code (value : Int)
  | signalled
  deriving DecidableEq, Repr

inductive ChildState where
  | running
  | exited (status : ExitStatus)
  | unknown (cause : HostError)
  deriving DecidableEq, Repr

structure Observation where
  child : ChildState
  cancelled : Bool
  now : Instant
  deriving DecidableEq, Repr

inductive Act where
  | kill
  | collect
  deriving DecidableEq, Repr

/-- The keeper of a child: what it has done so far, and whether the child has been collected. -/
structure Keeper where
  acts : List Act
  collected : Bool
  deriving DecidableEq, Repr

namespace Keeper

def fresh : Keeper := ⟨[], false⟩

def see (keeper : Keeper) : Keeper := ⟨keeper.acts ++ [.collect], true⟩

def kill (keeper : Keeper) : Keeper := ⟨keeper.acts ++ [.kill, .collect], true⟩

def release (keeper : Keeper) : Keeper := if keeper.collected then keeper else keeper.kill

theorem collected_release (keeper : Keeper) : keeper.release.collected = true := by
  simp only [release]
  split
  · assumption
  · rfl

end Keeper

inductive Ending where
  | exited (status : ExitStatus)
  | waitFailed (cause : HostError)
  | cancelled
  | timedOut
  deriving DecidableEq, Repr

def isReached (deadline : Option Instant) (now : Instant) : Bool :=
  match deadline with
  | none => false
  | some point => point.nanoseconds ≤ now.nanoseconds

/-- What one look settles. An exit counts before everything else, a cancellation before the
deadline. -/
def judge (deadline : Option Instant) (observation : Observation) : Option Ending :=
  match observation.child with
  | .exited status => some (.exited status)
  | .unknown cause => some (.waitFailed cause)
  | .running =>
      if observation.cancelled then some .cancelled
      else if isReached deadline observation.now then some .timedOut
      else none

def Keeper.settle (keeper : Keeper) : Ending → Keeper
  | .exited _ => keeper.see
  | .waitFailed _ => keeper
  | .cancelled | .timedOut => keeper.kill

/-- Waits through the observations, and lets the child go at the end. While no observation settles
the matter there is no end. -/
def wait (deadline : Option Instant) (keeper : Keeper) :
    List Observation → Option (Ending × Keeper)
  | [] => none
  | observation :: rest =>
      match judge deadline observation with
      | some ending => some (ending, (keeper.settle ending).release)
      | none => wait deadline keeper rest

/-- The answer of a launch. A process that a signal ended has no code of its own and counts as `-1`;
only the code zero is a success. -/
def answer (timeout : Duration) (errorText : String) (duration : Duration) :
    Ending → Except ProcessError Output
  | .exited (.code value) =>
      if value = 0 then .ok ⟨value, errorText, duration⟩ else .error (.nonZeroExit value errorText)
  | .exited .signalled => .error (.nonZeroExit (-1) errorText)
  | .waitFailed cause => .error (.waitFailed cause)
  | .cancelled => .error .cancelled
  | .timedOut => .error (.timeout timeout.seconds)

def effectiveTimeout (default : Duration) (limits : Limits) : Duration :=
  limits.timeout.getD default

/-- What a launch answers after these looks, and the keeper that has let the child go. The error
output and the duration are those at the end. -/
def supervise (default : Duration) (limits : Limits) (start : Instant) (errorText : String)
    (duration : Duration) (looks : List Observation) :
    Option (Except ProcessError Output × Keeper) :=
  let timeout := effectiveTimeout default limits
  (wait (start.after? timeout) .fresh looks).map fun ended =>
    (answer timeout errorText duration ended.1, ended.2)

end ArtifactTools.Supervision
