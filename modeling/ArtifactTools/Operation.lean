import ArtifactTools.Config
import ArtifactTools.Failure

/-! What a transformer can be asked to do, what it answers, and the services that it works with. -/

namespace ArtifactTools

inductive ConversionStatus where
  | completed (exitCode : Int) (duration : Duration)
  | skipped (reason : String)
  | failed (message : String)
  | nothingToDo
  deriving DecidableEq, Repr

namespace ConversionStatus

/-- Only a tool that ran to a successful end is a success. -/
def isSuccess : ConversionStatus → Bool
  | .completed .. => true
  | _ => false

def display : ConversionStatus → String
  | .completed exitCode duration =>
      s!"completed (exit code {Decimal.ofInt exitCode}, {duration.text}s)"
  | .skipped reason => s!"skipped: {reason}"
  | .failed message => s!"failed: {message}"
  | .nothingToDo => "nothing to do"

end ConversionStatus

inductive Operation where
  | view (octets : Octets)
  | decompile (className : String) (octets : Octets)
  | disassemble (className : String) (octets : Octets)
  | compile (sourceName source : String)
  | assemble (sourceName source : String)
  | convert (input output : Path) (limits : Limits)
  deriving DecidableEq, Repr

def Operation.kind : Operation → String
  | .view _ => "view"
  | .decompile .. => "decompile"
  | .disassemble .. => "disassemble"
  | .compile .. => "compile"
  | .assemble .. => "assemble"
  | .convert .. => "convert"

inductive Outcome where
  | text (content : String)
  | octets (content : Octets)
  | converted (status : ConversionStatus)
  deriving DecidableEq, Repr

structure Services where
  host : Host
  launches : List Launch
  reports : Reports
  deriving DecidableEq, Repr

def Services.ofHost (host : Host) : Services := ⟨host, [], []⟩

def Services.report (services : Services) (failure : Failure) : Services :=
  { services with reports := services.reports.add failure }

/-- Launches through a launcher; the launch is on record whatever comes of it. -/
def Services.launch (services : Services) (launcher : Launcher) (launch : Launch) :
    Except ProcessError Output × Services :=
  let (answer, host) := launcher services.launches services.host launch
  (answer, { services with host, launches := services.launches ++ [launch] })

structure Environment where
  config : Config
  launcher : Launcher

end ArtifactTools
