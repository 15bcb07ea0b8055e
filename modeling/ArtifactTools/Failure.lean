import ArtifactTools.Path
import ArtifactTools.Text.Decimal

/-! What can go wrong. Every failure is a cause with its data; its wording stands in one place, and
the failures behind it can be listed from the outermost to the innermost. -/

namespace ArtifactTools

inductive HostError where
  | missing
  | denied
  | alreadyExists
  | notDirectory
  | isDirectory
  | notExecutableFormat
  | nameTooLong
  | tooManyArguments
  | busy
  | tooManyLinks
  | nulInPath
  | nulInArgument
  | notUtf8
  | other (text : String)
  deriving DecidableEq, Repr

def HostError.message : HostError → String
  | .missing => "No such file or directory (os error 2)"
  | .denied => "Permission denied (os error 13)"
  | .alreadyExists => "File exists (os error 17)"
  | .notDirectory => "Not a directory (os error 20)"
  | .isDirectory => "Is a directory (os error 21)"
  | .notExecutableFormat => "Exec format error (os error 8)"
  | .nameTooLong => "File name too long (os error 36)"
  | .tooManyArguments => "Argument list too long (os error 7)"
  | .busy => "Text file busy (os error 26)"
  | .tooManyLinks => "Too many levels of symbolic links (os error 40)"
  | .nulInPath => "file name contained an unexpected NUL byte"
  | .nulInArgument => "nul byte found in provided data"
  | .notUtf8 => "stream did not contain valid UTF-8"
  | .other text => text

inductive SettingsError where
  | unknownKey (key : String)
  | kindMismatch (key expected actual : String)
  deriving DecidableEq, Repr

def SettingsError.message : SettingsError → String
  | .unknownKey key => s!"unknown setting '{key}'"
  | .kindMismatch key expected actual => s!"setting '{key}' expects {expected}, got {actual}"

inductive ProcessError where
  | spawnFailed (program : Path) (cause : HostError)
  | waitFailed (cause : HostError)
  | timeout (seconds : Nat)
  | cancelled
  | nonZeroExit (exitCode : Int) (errorText : String)
  deriving DecidableEq, Repr

def ProcessError.message : ProcessError → String
  | .spawnFailed program cause => s!"failed to spawn '{program.display}': {cause.message}"
  | .waitFailed cause => s!"failed to wait for process: {cause.message}"
  | .timeout seconds => s!"process timed out after {Decimal.ofNat seconds} seconds"
  | .cancelled => "process was cancelled"
  | .nonZeroExit exitCode errorText =>
      s!"process exited with status {Decimal.ofInt exitCode}: {errorText}"

def ProcessError.code : ProcessError → String
  | .spawnFailed .. => "PROCESS_001"
  | .waitFailed _ => "PROCESS_002"
  | .timeout _ => "PROCESS_003"
  | .cancelled => "PROCESS_004"
  | .nonZeroExit .. => "PROCESS_005"

inductive ConversionError where
  | process (error : ProcessError)
  | preparation (cause : HostError)
  | unimplemented (message : String)
  deriving DecidableEq, Repr

def ConversionError.message : ConversionError → String
  | .process error => error.message
  | .preparation cause => s!"failed to prepare conversion: {cause.message}"
  | .unimplemented message => message

inductive JsonError where
  | malformed
  | unexpected (expected : String)
  deriving DecidableEq, Repr

def JsonError.message : JsonError → String
  | .malformed => "the text is not valid JSON"
  | .unexpected expected => s!"expected {expected}"

inductive ConfigError where
  | read (path : Path) (cause : HostError)
  | parse (path : Path) (cause : JsonError)
  | write (path : Path) (cause : HostError)
  deriving DecidableEq, Repr

def ConfigError.message : ConfigError → String
  | .read path cause => s!"failed to read config from {path.display}: {cause.message}"
  | .parse path cause => s!"failed to parse config {path.display}: {cause.message}"
  | .write path cause => s!"failed to write config to {path.display}: {cause.message}"

structure NormalizeError where
  reason : String
  deriving DecidableEq, Repr

def NormalizeError.message (error : NormalizeError) : String :=
  s!"failed to normalize bytecode: {error.reason}"

mutual

inductive TransformerError where
  | invalidIdentifier (value reason : String)
  | duplicateIdentifier (id : String)
  | duplicateName (name : String)
  | unsupportedConfiguration (key reason : String)
  | transformationFailed (transformer : String) (source : Failure)
  | unimplementedOperation (transformer reason : String)
  | unsupportedOperation (transformer operation : String)
  | alreadyInitialized

inductive Failure where
  | transformer (error : TransformerError)
  | settings (error : SettingsError)
  | process (error : ProcessError)
  | conversion (error : ConversionError)
  | normalize (error : NormalizeError)
  | config (error : ConfigError)
  | host (error : HostError)

end

mutual

def TransformerError.message : TransformerError → String
  | .invalidIdentifier value reason => s!"invalid identifier '{value}': {reason}"
  | .duplicateIdentifier id => s!"transformer id '{id}' already exists"
  | .duplicateName name => s!"transformer name '{name}' already exists"
  | .unsupportedConfiguration key reason => s!"unsupported setting '{key}': {reason}"
  | .transformationFailed transformer source =>
      s!"transformer '{transformer}' failed: {source.message}"
  | .unimplementedOperation transformer reason =>
      s!"transformer '{transformer}' is not implemented: {reason}"
  | .unsupportedOperation transformer operation =>
      s!"transformer '{transformer}' does not support {operation} operations"
  | .alreadyInitialized => "the transformer registry is already initialized"

def Failure.message : Failure → String
  | .transformer error => error.message
  | .settings error => error.message
  | .process error => error.message
  | .conversion error => error.message
  | .normalize error => error.message
  | .config error => error.message
  | .host error => error.message

end

def TransformerError.code : TransformerError → String
  | .invalidIdentifier .. => "HELIOS_001"
  | .duplicateIdentifier _ => "HELIOS_002"
  | .duplicateName _ => "HELIOS_003"
  | .unsupportedConfiguration .. => "HELIOS_004"
  | .transformationFailed .. => "HELIOS_005"
  | .unimplementedOperation .. => "HELIOS_006"
  | .unsupportedOperation .. => "HELIOS_007"
  | .alreadyInitialized => "HELIOS_008"

def Failure.code? : Failure → Option String
  | .transformer error => some error.code
  | .process error => some error.code
  | _ => none

def ProcessError.causes : ProcessError → List String
  | .spawnFailed _ cause | .waitFailed cause => [cause.message]
  | _ => []

/-- A process error inside a conversion error speaks for both: only what is behind it follows. -/
def ConversionError.causes : ConversionError → List String
  | .process error => error.causes
  | .preparation cause => [cause.message]
  | .unimplemented _ => []

def ConfigError.causes : ConfigError → List String
  | .read _ cause | .write _ cause => [cause.message]
  | .parse _ cause => [cause.message]

mutual

def TransformerError.causes : TransformerError → List String
  | .transformationFailed _ source => source.message :: source.causes
  | _ => []

def Failure.causes : Failure → List String
  | .transformer error => error.causes
  | .process error => error.causes
  | .conversion error => error.causes
  | .config error => error.causes
  | .settings _ | .normalize _ | .host _ => []

end

def Failure.chain (failure : Failure) : List String := failure.message :: failure.causes

/-! Reports of failures that were recovered from: a text that a user can paste into an issue. -/

def reportOpening : String :=
  "An error occurred while performing this task. Please open an issue with the details below.\n\n"

def productVersion : String := "helios-transformers version 0.1.0"

def Failure.report (failure : Failure) : String :=
  let causes := failure.causes.map fun cause => s!"  caused by: {cause}\n"
  reportOpening ++ productVersion ++ "\n" ++ failure.message ++ "\n" ++ String.join causes

abbrev Reports := List String

def Reports.add (reports : Reports) (failure : Failure) : Reports := reports ++ [failure.report]

end ArtifactTools
