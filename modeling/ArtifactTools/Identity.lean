import ArtifactTools.Failure

/-! Which ids and names a transformer may have. -/

namespace ArtifactTools.Identity

def isIdCharacter (character : Char) : Bool :=
  ('0' ≤ character && character ≤ '9') || ('a' ≤ character && character ≤ 'z') ||
    character = '-' || character = '.' || character = '_'

def checkId (id : String) : Except TransformerError Unit :=
  if id.isEmpty then .error (.invalidIdentifier id "id must not be empty")
  else if id.toList.all isIdCharacter then .ok ()
  else
    .error (.invalidIdentifier id
      "id must only contain lowercase letters, digits, '-', '.', or '_'")

def checkName (name : String) : Except TransformerError Unit :=
  if name.isEmpty then .error (.invalidIdentifier name "name must not be empty") else .ok ()

end ArtifactTools.Identity
