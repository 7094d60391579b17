/-!
# ASCII letters

Names of headers, methods and media types are compared without regard to the case of the letters
from A to Z; all other characters are compared as they are.
-/

namespace MockHttp.Text

/-- The text with the letters from A to Z in lower case. -/
def asciiLower (s : String) : String :=
  String.ofList (s.toList.map Char.toLower)

/-- The text with the letters from a to z in upper case. -/
def asciiUpper (s : String) : String :=
  String.ofList (s.toList.map Char.toUpper)

/-- The texts are equal up to the case of the letters from A to Z. -/
def sameName (s t : String) : Bool :=
  asciiLower s == asciiLower t

end MockHttp.Text
