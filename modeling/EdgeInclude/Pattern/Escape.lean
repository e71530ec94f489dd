import EdgeInclude.Pattern.Class
import EdgeInclude.Pattern.Normal

/-!
# Escapes in patterns

What a backslash and the characters after it stand for in a pattern: a
character, a class of characters or an assertion. An escape without a meaning
makes the pattern invalid, and so do references to earlier groups.

A model of how the package `regex_syntax` reads escapes.
-/

namespace EdgeInclude

/-- A set of ASCII characters with the letters of the other case. -/
def CharSet.anyAsciiCase (s : CharSet) : CharSet :=
  s.union (.ofCodes ((List.range 26).flatMap fun i =>
    let upper := 'A'.toNat + i
    let lower := 'a'.toNat + i
    if s.containsCode upper || s.containsCode lower then [upper, lower] else []))

namespace Pattern

/-! ## Flags -/

/-- The flags in force at a place of a pattern. -/
structure Flags where
  ignoreCase : Bool := false
  multiLine : Bool := false
  dotAll : Bool := false
  swapGreed : Bool := false
  unicode : Bool := true
  crlf : Bool := false
  verbose : Bool := false

/-- What follows blanks and comments; a comment reaches from `#` to the end of the line. -/
def skipBlanks (inComment : Bool) : Text → Text
  | [] => []
  | c :: cs =>
    if inComment then skipBlanks (c != '\n') cs
    else if Text.isBlank c then skipBlanks false cs
    else if c = '#' then skipBlanks true cs
    else c :: cs

/-- What follows the blanks and comments that verbose patterns may hold. -/
def Flags.skip (f : Flags) (s : Text) : Text := if f.verbose then skipBlanks false s else s

/-- A set under the flag that ignores case. -/
def Flags.cased (f : Flags) (s : CharSet) : CharSet :=
  if !f.ignoreCase then s else if f.unicode then s.anyCase else s.anyAsciiCase

/-- A class with the characters of the other case, and then its complement if `negated` says so.
    Without Unicode a class holds ASCII characters only. -/
def Flags.class? (f : Flags) (negated : Bool) (s : CharSet) : Option CharSet :=
  let s := (f.cased s).negateIf negated
  if f.unicode || (!negated && s.isAscii) then some s else none

/-- What a character or an escape stands for. -/
inductive Primitive where
  | literal (c : Char)
  | chars (s : CharSet)
  | assertion (a : Assertion)

/-! ## Code points -/

/-- Reads exactly `n` hexadecimal digits. -/
def readHexDigits (f : Flags) : Nat → Text → Option (List Nat × Text)
  | 0, s => some ([], s)
  | n + 1, s =>
    match f.skip s with
    | [] => none
    | c :: cs => do
      let d ← Text.hexDigit? c
      let (ds, rest) ← readHexDigits f n cs
      return (d :: ds, rest)

/-- Reads the text up to a closing brace, without the blanks and comments that verbose patterns
    may hold. -/
def readBraced (f : Flags) : (fuel : Nat) → Text → Option (Text × Text)
  | 0, _ => none
  | fuel + 1, s =>
    match f.skip s with
    | [] => none
    | '\x7d' :: rest => some ([], rest)
    | c :: cs => (readBraced f fuel cs).map fun (inner, rest) => (c :: inner, rest)

/-- Reads what stands in braces after the opening one. -/
def inBraces (f : Flags) (s : Text) : Option (Text × Text) := readBraced f (s.length + 1) s

/-- The character with the given code. -/
def charOfCode? (n : Nat) : Option Char := if n.isValidChar then some (Char.ofNat n) else none

/-- Reads a code of `digits` hexadecimal digits, or of any number of them in braces. Two digits
    are a byte, which without Unicode has to be an ASCII character. -/
def readCode (f : Flags) (digits : Nat) (s : Text) : Option (Primitive × Text) := do
  match f.skip s with
  | '\x7b' :: cs =>
    let (inner, rest) ← inBraces f cs
    let n ← Text.readNumber? 16 Text.hexDigit? inner
    return (.literal (← charOfCode? n), rest)
  | cs =>
    let (ds, rest) ← readHexDigits f digits cs
    let c ← charOfCode? (Text.ofDigits 16 ds)
    if digits = 2 ∧ f.unicode = false ∧ 0x7F < c.toNat then none
    return (.literal c, rest)

/-! ## Classes -/

/-- The class that the text between the braces of a property says, and whether it stands for
    its complement. -/
def propertyOf? (s : Text) : Option (Bool × CharSet) :=
  match Text.splitFirst ['!', '='] s with
  | some (property, value) => (CharSet.valued? property value).map (true, ·)
  | none =>
    match Text.splitFirst [':'] s <|> Text.splitFirst ['='] s with
    | some (property, value) => (CharSet.valued? property value).map (false, ·)
    | none => (CharSet.named? s).map (false, ·)

/-- Reads a property of characters, one letter or a text in braces. -/
def readProperty (f : Flags) (negated : Bool) (s : Text) : Option (Primitive × Text) := do
  if !f.unicode then none
  let (name, rest) ←
    match f.skip s with
    | '\x7b' :: cs => inBraces f cs
    | '\\' :: _ => none
    | c :: cs => some ([c], cs)
    | [] => none
  let (other, chars) ← propertyOf? name
  return (.chars ((f.cased chars).negateIf (negated != other)), rest)

/-- The class of a letter such as the `d` of `\d`; a capital letter stands for the
    complement, which is a set of characters in Unicode only. -/
def letterClass? (f : Flags) (c : Char) : Option CharSet :=
  let chars : CharSet :=
    if c.toLower = 'd' then if f.unicode then Category.decimalNumbers else CharSet.asciiDigit
    else if c.toLower = 's' then if f.unicode then Property.whiteSpace else CharSet.asciiSpace
    else Assertion.wordChars f.unicode
  if c.isLower then some chars
  else if f.unicode then some chars.compl
  else none

/-! ## Assertions -/

/-- The edge of a word with a name between braces after `\b`. -/
def namedEdge? (name : Text) : Option WordEdge :=
  if name = "start".toList then some .start
  else if name = "end".toList then some .finish
  else if name = "start-half".toList then some .startHalf
  else if name = "end-half".toList then some .finishHalf
  else none

/-- Reads what follows `\b`: a name in braces, or nothing. Braces that do not start with a
    letter or hyphen say how often the boundary is repeated. -/
def readEdge (f : Flags) (s : Text) : Option (WordEdge × Text) :=
  match s with
  | '\x7b' :: cs =>
    match f.skip cs with
    | [] => none
    | c :: cs =>
      if c.isAlpha || c == '-' then do
        let (name, rest) ← inBraces f (c :: cs)
        return (← namedEdge? name, rest)
      else some (.boundary, s)
  | _ => some (.boundary, s)

/-! ## Escapes -/

/-- The control characters with an escape of one letter. -/
def controlEscape? (c : Char) : Option Char :=
  if c = 'a' then some '\x07'
  else if c = 'f' then some '\x0c'
  else if c = 't' then some '\t'
  else if c = 'n' then some '\n'
  else if c = 'r' then some '\r'
  else if c = 'v' then some '\x0b'
  else none

/-- The assertions with an escape of one character. -/
def assertionEscape? (f : Flags) (c : Char) : Option Assertion :=
  if c = 'A' then some .textStart
  else if c = 'z' then some .textEnd
  else if c = 'B' then some (.word .noBoundary f.unicode)
  else if c = '<' then some (.word .start f.unicode)
  else if c = '>' then some (.word .finish f.unicode)
  else none

/-- Reads an escape after its backslash. -/
def readEscape (f : Flags) : Text → Option (Primitive × Text)
  | [] => none
  | c :: cs =>
    if c = 'x' then readCode f 2 cs
    else if c = 'u' then readCode f 4 cs
    else if c = 'U' then readCode f 8 cs
    else if c = 'p' || c = 'P' then readProperty f (c == 'P') cs
    else if c.toLower = 'd' || c.toLower = 's' || c.toLower = 'w' then
      (letterClass? f c).map fun s => (.chars s, cs)
    else if c = 'b' then
      (readEdge f cs).map fun (edge, rest) => (.assertion (.word edge f.unicode), rest)
    else
      match controlEscape? c, assertionEscape? f c with
      | some d, _ => some (.literal d, cs)
      | none, some a => some (.assertion a, cs)
      | none, none =>
        if c.toNat < 128 && !c.isAlphanum then some (.literal c, cs) else none

end Pattern

end EdgeInclude
