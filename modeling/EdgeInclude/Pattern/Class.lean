import EdgeInclude.Text.Age
import EdgeInclude.Text.Boundary
import EdgeInclude.Text.Property
import EdgeInclude.Text.Script

/-!
# Named classes of characters

The classes that patterns refer to by name: general categories, scripts and
other properties of Unicode, and the classes of ASCII characters.

A model of the queries for classes of characters of the package `regex_syntax`.
-/

namespace EdgeInclude

namespace CharSet

/-! ## Classes of ASCII characters -/

/-- White space within ASCII. -/
def asciiSpace : CharSet := .ofTable "9-D 20"

/-- The characters of numbers within ASCII. -/
def asciiDigit : CharSet := .ofTable "30-39"

/-- The classes of ASCII characters with their names. -/
def asciiClasses : List (String × CharSet) :=
  [("alnum", .ofTable "30-39 41-5A 61-7A"),
    ("alpha", .ofTable "41-5A 61-7A"),
    ("ascii", .ofTable "0-7F"),
    ("blank", .ofTable "9 20"),
    ("cntrl", .ofTable "0-1F 7F"),
    ("digit", asciiDigit),
    ("graph", .ofTable "21-7E"),
    ("lower", .ofTable "61-7A"),
    ("print", .ofTable "20-7E"),
    ("punct", .ofTable "21-2F 3A-40 5B-60 7B-7E"),
    ("space", asciiSpace),
    ("upper", .ofTable "41-5A"),
    ("word", .ofTable "30-39 41-5A 5F 61-7A"),
    ("xdigit", .ofTable "30-39 41-46 61-66")]

/-- The class of ASCII characters with a name. -/
def asciiNamed? (name : Text) : Option CharSet :=
  (asciiClasses.find? fun entry => entry.1.toList == name).map (·.2)

/-! ## Names -/

/-- A name without regard to case, spaces, hyphens, underscores and characters outside
    ASCII. -/
def plainName (name : Text) : Text :=
  (name.filter fun c => c.toNat < 0x80 && !(c == ' ' || c == '-' || c == '_')).map Char.toLower

/-- The name of a property or of one of its values, without a leading `is`. The name `isc` is
    not that of the class `c`. -/
def normalName (name : Text) : Text :=
  match name with
  | i :: s :: rest =>
    if i.toLower = 'i' ∧ s.toLower = 's' then
      let plain := plainName rest
      if plain = ['c'] then "isc".toList else plain
    else plainName name
  | _ => plainName name

/-- The first of some entries that is known by a name. -/
def findNamed? (names : α → List String) (entries : List α) (name : Text) : Option α :=
  entries.find? fun entry => (names entry).any fun n => normalName n.toList == name

/-! ## General categories -/

/-- The categories and groups of categories, with their names. -/
def categories : List (List String × List Category) :=
  [(["L", "Letter"], Category.letters),
    (["LC", "Cased_Letter"], [.uppercaseLetter, .lowercaseLetter, .titlecaseLetter]),
    (["Lu", "Uppercase_Letter"], [.uppercaseLetter]),
    (["Ll", "Lowercase_Letter"], [.lowercaseLetter]),
    (["Lt", "Titlecase_Letter"], [.titlecaseLetter]),
    (["Lm", "Modifier_Letter"], [.modifierLetter]),
    (["Lo", "Other_Letter"], [.otherLetter]),
    (["M", "Mark", "Combining_Mark"], Category.marks),
    (["Mn", "Nonspacing_Mark"], [.nonspacingMark]),
    (["Mc", "Spacing_Mark"], [.spacingMark]),
    (["Me", "Enclosing_Mark"], [.enclosingMark]),
    (["N", "Number"], Category.numbers),
    (["Nd", "Decimal_Number", "digit"], [.decimalNumber]),
    (["Nl", "Letter_Number"], [.letterNumber]),
    (["No", "Other_Number"], [.otherNumber]),
    (["P", "Punctuation", "punct"], Category.punctuation),
    (["Pc", "Connector_Punctuation"], [.connectorPunctuation]),
    (["Pd", "Dash_Punctuation"], [.dashPunctuation]),
    (["Ps", "Open_Punctuation"], [.openPunctuation]),
    (["Pe", "Close_Punctuation"], [.closePunctuation]),
    (["Pi", "Initial_Punctuation"], [.initialPunctuation]),
    (["Pf", "Final_Punctuation"], [.finalPunctuation]),
    (["Po", "Other_Punctuation"], [.otherPunctuation]),
    (["S", "Symbol"], Category.symbols),
    (["Sm", "Math_Symbol"], [.mathSymbol]),
    (["Sc", "Currency_Symbol"], [.currencySymbol]),
    (["Sk", "Modifier_Symbol"], [.modifierSymbol]),
    (["So", "Other_Symbol"], [.otherSymbol]),
    (["Z", "Separator"], Category.separators),
    (["Zs", "Space_Separator"], [.spaceSeparator]),
    (["Zl", "Line_Separator"], [.lineSeparator]),
    (["Zp", "Paragraph_Separator"], [.paragraphSeparator]),
    (["Cc", "Control", "cntrl"], [.control]),
    (["Cf", "Format"], [.format]),
    (["Co", "Private_Use"], [.privateUse])]

/-- The characters outside of all categories of assigned characters that are shown. -/
def others : CharSet :=
  compl (Category.charsOf (Category.letters ++ Category.marks ++ Category.numbers ++
    Category.punctuation ++ Category.symbols ++ Category.separators))

/-- The characters of a general category, or of a group of categories, with a normalised
    name. -/
def category? (name : Text) : Option CharSet :=
  if name = "any".toList then some all
  else if name = "assigned".toList then some Category.assigned
  else if name = "ascii".toList then some ascii
  else if name = "cn".toList ∨ name = "unassigned".toList then some Category.assigned.compl
  else if name = "c".toList ∨ name = "other".toList then some others
  else (findNamed? (·.1) categories name).map fun entry => Category.charsOf entry.2

/-! ## Other properties -/

/-- The characters of a script with a normalised name. -/
def script? (name : Text) : Option CharSet :=
  (findNamed? Script.names Script.all name).map Script.chars

/-- The characters that are used in a script with a normalised name. -/
def scriptUse? (name : Text) : Option CharSet :=
  (findNamed? Script.names Script.all name).map Script.uses

/-- The code points that were assigned in the version of Unicode with a normalised name, such as
    `6.0` or `v60`. -/
def age? (name : Text) : Option CharSet :=
  (Age.versions.find? fun entry =>
      entry.1.toList == name || 'v' :: entry.1.toList.filter (· != '.') == name).bind
    fun entry => Age.upTo? entry.1

/-- The characters of a class of boundaries with a normalised name. -/
def boundary? (classes : List BoundaryClass) (name : Text) : Option CharSet :=
  (findNamed? BoundaryClass.names classes name).map BoundaryClass.chars

/-- The characters that have a property with a normalised name. The names of three categories
    are those of properties without a class, too. -/
def property? (name : Text) : Option CharSet :=
  if name = "cf".toList ∨ name = "sc".toList ∨ name = "lc".toList then none
  else (findNamed? Property.names Property.all name).map Property.chars

/-! ## Looking up -/

/-- The class with a name: a property, a category or a script. -/
def named? (name : Text) : Option CharSet :=
  let name := normalName name
  (property? name <|> category? name) <|> script? name

/-- The properties that have values, each with its names and the class of a value. -/
def valuedProperties : List (List String × (Text → Option CharSet)) :=
  [(["gc", "General_Category"], category?),
    (["sc", "Script"], script?),
    (["scx", "Script_Extensions"], scriptUse?),
    (["age"], age?),
    (["GCB", "Grapheme_Cluster_Break"], boundary? BoundaryClass.graphemes),
    (["WB", "Word_Break"], boundary? BoundaryClass.words),
    (["SB", "Sentence_Break"], boundary? BoundaryClass.sentences)]

/-- The class of the characters for which a property has a value. -/
def valued? (property value : Text) : Option CharSet :=
  (findNamed? (·.1) valuedProperties (normalName property)).bind fun entry =>
    entry.2 (normalName value)

end CharSet

end EdgeInclude
