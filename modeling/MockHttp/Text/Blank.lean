import MockHttp.Unicode.Word

/-!
# Blank text

White space around a text, white space being that of Unicode.
-/

namespace MockHttp.Text

def isBlank (c : Char) : Bool :=
  Unicode.whiteSpace.contains c.toNat

/-- The characters without the white space before and after them. -/
def trimChars (cs : List Char) : List Char :=
  ((cs.dropWhile isBlank).reverse.dropWhile isBlank).reverse

/-- The text without the white space before and after it. -/
def trim (s : String) : String :=
  String.ofList (trimChars s.toList)

end MockHttp.Text
