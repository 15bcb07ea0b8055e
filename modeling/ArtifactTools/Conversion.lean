import ArtifactTools.Text.Quoted
import ArtifactTools.Transformer

/-! Converters: transformers that have an external tool turn one file into another. What a converter
would do is its plan. Carrying out a plan fails only where the conversion is unimplemented; every
other failure is reported and becomes a status. -/

namespace ArtifactTools

/-- A conversion that is decided at once, or a tool to run, perhaps after the directory of the
output has been made. -/
inductive Plan where
  | settled (result : Except ConversionError ConversionStatus)
  | tool (template : Template) (preparesOutput : Bool)

structure Strategy where
  accepts : String → Bool
  plan : Config → Host → Path → Path → Plan

structure Converter where
  id : String
  name : String
  strategy : Strategy
  environment : Environment

namespace Conversion

def prepareOutput (host : Host) (output : Path) : Except HostError Unit × Host :=
  match output.parent? with
  | none => (.ok (), host)
  | some parent => host.makeDirectories parent

def runTool (launcher : Launcher) (template : Template) (limits : Limits) (services : Services) :
    Except ConversionError ConversionStatus × Services :=
  match services.launch launcher ⟨template, limits⟩ with
  | (.ok output, services) => (.ok (.completed output.exitCode output.duration), services)
  | (.error error, services) => (.error (.process error), services)

def carryOut (launcher : Launcher) (output : Path) (limits : Limits) (services : Services) :
    Plan → Except ConversionError ConversionStatus × Services
  | .settled result => (result, services)
  | .tool template false => runTool launcher template limits services
  | .tool template true =>
      match prepareOutput services.host output with
      | (.error cause, host) => (.error (.preparation cause), { services with host })
      | (.ok (), host) => runTool launcher template limits { services with host }

def recover (id : String) (services : Services) :
    Except ConversionError ConversionStatus → Response × Services
  | .ok status => (.outcome (.converted status), services)
  | .error (.unimplemented reason) => (.unimplemented reason, services)
  | .error error =>
      (.outcome (.converted (.failed error.message)),
        services.report (.transformer (.transformationFailed id (.conversion error))))

end Conversion

namespace Converter

def convert (converter : Converter) (input output : Path) (limits : Limits) (services : Services) :
    Response × Services :=
  let plan := converter.strategy.plan converter.environment.config services.host input output
  let (result, services) :=
    Conversion.carryOut converter.environment.launcher output limits services plan
  Conversion.recover converter.id services result

def behaviour (converter : Converter) : Behaviour := fun _ operation services =>
  match operation with
  | .convert input output limits => converter.convert input output limits services
  | _ => (.unsupported, services)

def draft (converter : Converter) : Draft :=
  ⟨converter.id, converter.name, .other, [], converter.strategy.accepts, converter.behaviour⟩

def diagnostic (converter : Converter) : String :=
  "Converter \x7b id: " ++ Quoted.quote converter.id ++ ", name: " ++ Quoted.quote converter.name ++
    ", .. \x7d"

end Converter

end ArtifactTools
