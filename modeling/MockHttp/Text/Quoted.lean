import MockHttp.Unicode.Property

/-!
# Quoted text

Text between quotation marks as values show themselves: quotation marks and backslashes are
escaped, and so is every character that cannot be seen on its own.
-/

namespace MockHttp.Text

open Unicode

/-- The sets of characters that show nothing of their own, the blank aside. -/
def invisible : List Ranges :=
  [Category.control, Category.format, Category.privateUse, Category.spaceSeparator,
    Category.lineSeparator, Category.paragraphSeparator]

/-- The sets of characters that join the character before them. -/
def joining : List Ranges :=
  [Category.nonspacingMark, Category.enclosingMark,
    [(0x9BE, 0x9BE), (0x9D7, 0x9D7), (0xB3E, 0xB3E), (0xB57, 0xB57), (0xBBE, 0xBBE),
      (0xBD7, 0xBD7), (0xCC2, 0xCC2), (0xCD5, 0xCD6), (0xD3E, 0xD3E), (0xD57, 0xD57),
      (0xDCF, 0xDCF), (0xDDF, 0xDDF), (0x1B35, 0x1B35), (0x200C, 0x200C), (0x302E, 0x302F),
      (0xFF9E, 0xFF9F), (0xE0020, 0xE007F)]]

/-- The character can be seen on its own. -/
def isVisible (c : Char) : Bool :=
  let n := c.toNat
  if n < 0x7F then 0x20 ≤ n
  else
    !(invisible.any (·.contains n)) && !(joining.any (·.contains n)) &&
      Property.allAssigned.any (·.contains n)

def quoteChar (c : Char) : List Char :=
  match c with
  | '"' => ['\\', '"']
  | '\\' => ['\\', '\\']
  | '\n' => ['\\', 'n']
  | '\r' => ['\\', 'r']
  | '\t' => ['\\', 't']
  | '\x00' => ['\\', '0']
  | c =>
    if isVisible c then [c]
    else ['\\', 'u', '\x7B'] ++ Nat.toDigits 16 c.toNat ++ ['\x7D']

def quoted (s : String) : String :=
  String.ofList ('"' :: s.toList.flatMap quoteChar ++ ['"'])

def listed (items : List String) : String :=
  "[" ++ ", ".intercalate items ++ "]"

end MockHttp.Text
