/-! White space as Unicode defines it, and text without the white space at its ends. -/

namespace ArtifactTools.Blank

def isBlank (character : Char) : Bool :=
  let code := character.toNat
  (0x09 ≤ code && code ≤ 0x0D) || code = 0x20 || code = 0x85 || code = 0xA0 || code = 0x1680 ||
    (0x2000 ≤ code && code ≤ 0x200A) || code = 0x2028 || code = 0x2029 || code = 0x202F ||
    code = 0x205F || code = 0x3000

def trimLeft (characters : List Char) : List Char := characters.dropWhile isBlank

def trimRight (characters : List Char) : List Char := (trimLeft characters.reverse).reverse

def trim (text : String) : String := String.ofList (trimRight (trimLeft text.toList))

end ArtifactTools.Blank
