import ArtifactTools.Identity
import ArtifactTools.Operation

/-! Transformers: stages that inspect an artifact or turn it into another. A transformer begins as a
draft. Only a draft with a legal id, a legal name and valid settings becomes a transformer, so each
transformer that exists is well-formed. -/

namespace ArtifactTools

inductive TransformerType where
  | decompiler
  | disassembler
  | compiler
  | assembler
  | custom
  | other
  deriving DecidableEq, Repr

namespace TransformerType

def all : List TransformerType :=
  [.decompiler, .disassembler, .compiler, .assembler, .custom, .other]

def text : TransformerType → String
  | .decompiler => "decompiler"
  | .disassembler => "disassembler"
  | .compiler => "compiler"
  | .assembler => "assembler"
  | .custom => "custom"
  | .other => "other"

def read? (text : String) : Option TransformerType := all.find? fun type => type.text == text

def unknownMessage (text : String) : String := s!"unknown transformer type '{text}'"

/-- A type is the string of its text, or an object with that text over null. -/
def ofDocument? : Json.Document → Option TransformerType
  | .string (some text) => read? text
  | .object [(some text, .null)] => read? text
  | _ => none

def parse? (text : String) : Option TransformerType := (Json.read? text).bind ofDocument?

def toJson (type : TransformerType) : Json.Value := .string type.text

end TransformerType

inductive Response where
  | outcome (outcome : Outcome)
  | failed (cause : Failure)
  | unimplemented (reason : String)
  | unsupported

abbrev Behaviour := Settings.Store → Operation → Services → Response × Services

structure Draft where
  id : String
  name : String
  type : TransformerType
  descriptors : List Settings.Descriptor
  accepts : String → Bool
  behaviour : Behaviour

/-- The serial number tells apart transformers that look alike. -/
structure Transformer where
  serial : Nat
  id : String
  name : String
  type : TransformerType
  store : Settings.Store
  accepts : String → Bool
  behaviour : Behaviour

/-- The first fault counts: that of the id, then of the name, then of the first bad setting. -/
def Draft.build (draft : Draft) (serial : Nat) : Except TransformerError Transformer :=
  match Identity.checkId draft.id with
  | .error error => .error error
  | .ok () =>
      match Identity.checkName draft.name with
      | .error error => .error error
      | .ok () =>
          match Settings.Store.ofDescriptors draft.descriptors with
          | .error error => .error error
          | .ok store =>
              .ok ⟨serial, draft.id, draft.name, draft.type, store, draft.accepts, draft.behaviour⟩

namespace Transformer

def hasSettings (transformer : Transformer) : Bool := 0 < transformer.store.size

def answer (transformer : Transformer) (operation : Operation) :
    Response → Except TransformerError Outcome
  | .outcome outcome => .ok outcome
  | .failed cause => .error (.transformationFailed transformer.id cause)
  | .unimplemented reason => .error (.unimplementedOperation transformer.id reason)
  | .unsupported => .error (.unsupportedOperation transformer.id operation.kind)

def run (transformer : Transformer) (operation : Operation) (services : Services) :
    Except TransformerError Outcome × Services :=
  let (response, services) := transformer.behaviour transformer.store operation services
  (transformer.answer operation response, services)

def fixBytes (transformer : Transformer) (normalize : Octets → Except NormalizeError Octets)
    (octets : Octets) : Except TransformerError Octets :=
  (normalize octets).mapError fun error =>
    .transformationFailed transformer.id (.normalize error)

end Transformer

end ArtifactTools
