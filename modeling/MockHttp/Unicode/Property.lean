import MockHttp.Unicode.Category
import MockHttp.Unicode.Script

/-!
# Properties by name

`Property` lists the character properties that an expression can name, `Property.holds` decides
them, and `Property.ofName?` reads a name. Names are compared loosely: case, blanks, hyphens and
underscores do not count.
-/

namespace MockHttp.Unicode

/-- A set of characters that has a name. -/
inductive Property where
  /-- Every character. -/
  | any
  /-- Every character below U+0080. -/
  | ascii
  /-- The characters that some general category other than "unassigned" holds. -/
  | assigned
  /-- The characters of these ranges. -/
  | ranges (sets : List Ranges)
  deriving DecidableEq, Repr

namespace Property

def letter : List Ranges :=
  [Category.uppercaseLetter, Category.lowercaseLetter, Category.titlecaseLetter,
    Category.modifierLetter, Category.otherLetter]

/-- Letters that come in two cases or three. -/
def casedLetter : List Ranges :=
  [Category.uppercaseLetter, Category.lowercaseLetter, Category.titlecaseLetter]

def mark : List Ranges :=
  [Category.nonspacingMark, Category.spacingMark, Category.enclosingMark]

def number : List Ranges :=
  [decimalDigit, Category.letterNumber, Category.otherNumber]

def punctuation : List Ranges :=
  [Category.connectorPunctuation, Category.dashPunctuation, Category.openPunctuation,
    Category.closePunctuation, Category.initialPunctuation, Category.finalPunctuation,
    Category.otherPunctuation]

def symbol : List Ranges :=
  [Category.mathSymbol, Category.currencySymbol, Category.modifierSymbol, Category.otherSymbol]

def separator : List Ranges :=
  [Category.spaceSeparator, Category.lineSeparator, Category.paragraphSeparator]

/-- Controls, format characters and private use characters. -/
def assignedOther : List Ranges :=
  [Category.control, Category.format, Category.privateUse]

def allAssigned : List Ranges :=
  letter ++ mark ++ number ++ punctuation ++ symbol ++ separator ++ assignedOther

def holds : Property → Char → Bool
  | any, _ => true
  | ascii, c => c.toNat < 0x80
  | assigned, c => allAssigned.any (·.contains c.toNat)
  | ranges sets, c => sets.any (·.contains c.toNat)

/-- A name as names are compared. -/
def looseName (name : List Char) : List Char :=
  (name.filter fun c => !(c == ' ' || c == '_' || c == '-' || c == '\t')).map Char.toLower

/-- The general categories by short and long name, each with the sets it joins and whether they
are left out instead. -/
def categoryNames : List (String × String × List Ranges × Bool) := [
  ("l", "letter", letter, true), ("lc", "casedletter", casedLetter, true),
  ("lu", "uppercaseletter", [Category.uppercaseLetter], true),
  ("ll", "lowercaseletter", [Category.lowercaseLetter], true),
  ("lt", "titlecaseletter", [Category.titlecaseLetter], true),
  ("lm", "modifierletter", [Category.modifierLetter], true),
  ("lo", "otherletter", [Category.otherLetter], true),
  ("m", "mark", mark, true), ("m", "combiningmark", mark, true),
  ("mn", "nonspacingmark", [Category.nonspacingMark], true),
  ("mc", "spacingmark", [Category.spacingMark], true),
  ("me", "enclosingmark", [Category.enclosingMark], true),
  ("n", "number", number, true), ("nd", "decimalnumber", [decimalDigit], true),
  ("nd", "digit", [decimalDigit], true),
  ("nl", "letternumber", [Category.letterNumber], true),
  ("no", "othernumber", [Category.otherNumber], true),
  ("p", "punctuation", punctuation, true), ("p", "punct", punctuation, true),
  ("pc", "connectorpunctuation", [Category.connectorPunctuation], true),
  ("pd", "dashpunctuation", [Category.dashPunctuation], true),
  ("ps", "openpunctuation", [Category.openPunctuation], true),
  ("pe", "closepunctuation", [Category.closePunctuation], true),
  ("pi", "initialpunctuation", [Category.initialPunctuation], true),
  ("pf", "finalpunctuation", [Category.finalPunctuation], true),
  ("po", "otherpunctuation", [Category.otherPunctuation], true),
  ("s", "symbol", symbol, true), ("sm", "mathsymbol", [Category.mathSymbol], true),
  ("sc", "currencysymbol", [Category.currencySymbol], true),
  ("sk", "modifiersymbol", [Category.modifierSymbol], true),
  ("so", "othersymbol", [Category.otherSymbol], true),
  ("z", "separator", separator, true),
  ("zs", "spaceseparator", [Category.spaceSeparator], true),
  ("zl", "lineseparator", [Category.lineSeparator], true),
  ("zp", "paragraphseparator", [Category.paragraphSeparator], true),
  ("cc", "control", [Category.control], true), ("cc", "cntrl", [Category.control], true),
  ("cf", "format", [Category.format], true),
  ("co", "privateuse", [Category.privateUse], true), ("cs", "surrogate", [], true),
  ("c", "other",
    letter ++ mark ++ number ++ punctuation ++ symbol ++ separator, false),
  ("cn", "unassigned", allAssigned, false)]

def scriptNames : List (String × String × Ranges) := [
  ("latn", "latin", Script.latin), ("grek", "greek", Script.greek),
  ("cyrl", "cyrillic", Script.cyrillic), ("armn", "armenian", Script.armenian),
  ("hebr", "hebrew", Script.hebrew), ("arab", "arabic", Script.arabic),
  ("deva", "devanagari", Script.devanagari), ("thai", "thai", Script.thai),
  ("geor", "georgian", Script.georgian), ("hang", "hangul", Script.hangul),
  ("hira", "hiragana", Script.hiragana), ("kana", "katakana", Script.katakana),
  ("hani", "han", Script.han)]

/-- The sets named by what their characters are used for. -/
def plainNames : List (String × String × Property) := [
  ("any", "any", .any), ("ascii", "ascii", .ascii), ("assigned", "assigned", .assigned),
  ("alpha", "alphabetic", .ranges [alphabetic]), ("lower", "lowercase", .ranges [lowercase]),
  ("upper", "uppercase", .ranges [uppercase]), ("space", "whitespace", .ranges [whiteSpace]),
  ("wspace", "whitespace", .ranges [whiteSpace])]

/-- A general category by its loose name, with whether its characters are those of the property
(`true`) or all others (`false`). -/
def category? (name : String) : Option (Property × Bool) :=
  (categoryNames.find? fun entry => entry.1 == name || entry.2.1 == name).map
    fun entry => (.ranges entry.2.2.1, entry.2.2.2)

/-- A script by its loose name. -/
def script? (name : String) : Option (Property × Bool) :=
  (scriptNames.find? fun entry => entry.1 == name || entry.2.1 == name).map
    fun entry => (.ranges [entry.2.2], true)

/-- A property that is neither a category nor a script by its loose name. -/
def plain? (name : String) : Option (Property × Bool) :=
  (plainNames.find? fun entry => entry.1 == name || entry.2.1 == name).map
    fun entry => (entry.2.2, true)

/-- A name as names are compared, without the syllable `is` before it. -/
def bareName (name : List Char) : String :=
  match looseName name with
  | 'i' :: 's' :: rest => String.ofList (if rest == ['c'] then ['i', 's', 'c'] else rest)
  | loose => String.ofList loose

/-- The property that the text names, as `NAME`, as `KIND=NAME`, as `KIND:NAME` or as `KIND!=NAME`,
with whether its characters are those of the property (`true`) or all others (`false`). -/
def ofName? (text : List Char) : Option (Property × Bool) :=
  let name := text.takeWhile fun c => !(c == '=' || c == ':')
  match text.dropWhile fun c => !(c == '=' || c == ':') with
  | [] =>
    let loose := bareName name
    (plain? loose).or ((category? loose).or (script? loose))
  | sign :: value =>
    let differs := sign == '=' && name.getLast? == some '!'
    let kind := if differs then name.dropLast else name
    let found := match bareName kind with
      | "gc" | "generalcategory" => category? (bareName value)
      | "sc" | "script" | "scx" | "scriptextensions" => script? (bareName value)
      | _ => none
    found.map fun (p, inside) => (p, inside != differs)

end Property

end MockHttp.Unicode
