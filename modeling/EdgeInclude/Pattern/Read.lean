import EdgeInclude.Pattern.Set

/-!
# Reading patterns

The pattern that a text says. A text that says none is invalid: an unbalanced
bracket or parenthesis, a repetition of nothing, an unknown escape or flag, a
reference to an earlier group, or an assertion that looks around.

A model of the parser of the package `regex_syntax`.
-/

namespace EdgeInclude

/-- A pattern as far as it has been read, with the depth to which the text that says it is
    nested. -/
structure Draft where
  pattern : Pattern
  depth : Nat := 0

namespace Pattern

/-- The place that has been reached in a pattern: the text that is left, the flags in force,
    and the number and names of the remembered groups so far. -/
structure Cursor where
  rest : Text
  flags : Flags
  groups : Nat := 0
  names : List Text := []

/-! ## Flags -/

/-- Sets the flag with a letter. -/
def Flags.set? (f : Flags) (letter : Char) (on : Bool) : Option Flags :=
  if letter = 'i' then some { f with ignoreCase := on }
  else if letter = 'm' then some { f with multiLine := on }
  else if letter = 's' then some { f with dotAll := on }
  else if letter = 'U' then some { f with swapGreed := on }
  else if letter = 'u' then some { f with unicode := on }
  else if letter = 'R' then some { f with crlf := on }
  else if letter = 'x' then some { f with verbose := on }
  else none

/-- Reads the letters of flags, without repetition; those after a hyphen are cleared. `seen`
    holds the letters and the hyphen read so far, the last one first. -/
def readFlags (f : Flags) (seen : Text) : Text → Option (Flags × Text × Text)
  | [] => none
  | c :: cs =>
    if c = ':' || c = ')' then
      if seen.head? = some '-' then none else some (f, seen, c :: cs)
    else if c ∈ seen then none
    else if c = '-' then readFlags f ('-' :: seen) cs
    else
      match f.set? c (!seen.contains '-') with
      | none => none
      | some f => readFlags f (c :: seen) cs

/-! ## Groups -/

/-- Whether the name of a group is well formed. -/
def isGroupName : Text → Bool
  | [] => false
  | c :: cs =>
    (Text.alphabetic.contains c || c == '_') &&
      cs.all fun c =>
        Text.isAlphanumeric c || c == '_' || c == '.' || c == '[' || c == ']'

/-- What an opening parenthesis begins. -/
inductive Opening where
  /-- Nothing: flags are set for what follows. -/
  | flags (f : Flags)
  /-- A group, remembered under an index or not, with the flags in force inside. -/
  | group (index : Option Nat) (inner : Cursor)

/-- Begins a remembered group with a name. -/
def openNamed? (cur : Cursor) (s : Text) : Option (Opening × Text) := do
  let (name, rest) ← Text.splitFirst ['>'] s
  if !isGroupName name || cur.names.contains name then none
  return (.group (some (cur.groups + 1))
    { cur with groups := cur.groups + 1, names := name :: cur.names }, rest)

/-- Begins a group that is not remembered, or sets flags. -/
def openFlags? (cur : Cursor) (s : Text) : Option (Opening × Text) := do
  let (f, seen, rest) ← readFlags cur.flags [] s
  match rest with
  | ')' :: rest => if seen.isEmpty then none else return (.flags f, rest)
  | _ :: rest => return (.group none { cur with flags := f }, rest)
  | [] => none

/-- Reads what follows an opening parenthesis. -/
def readOpening? (cur : Cursor) (s : Text) : Option (Opening × Text) :=
  match cur.flags.skip s with
  | '?' :: '=' :: _ => none
  | '?' :: '!' :: _ => none
  | '?' :: '<' :: '=' :: _ => none
  | '?' :: '<' :: '!' :: _ => none
  | '?' :: 'P' :: '<' :: rest => openNamed? cur rest
  | '?' :: '<' :: rest => openNamed? cur rest
  | '?' :: rest => openFlags? cur rest
  | rest => some (.group (some (cur.groups + 1)) { cur with groups := cur.groups + 1 }, rest)

/-! ## Repetition -/

/-- Reads decimal digits; in verbose patterns blanks and comments may follow each of them. -/
def readDigits (f : Flags) : (fuel : Nat) → Text → Text × Text
  | 0, s => ([], s)
  | _ + 1, [] => ([], [])
  | fuel + 1, c :: cs =>
    if c.isDigit then
      let (digits, rest) := readDigits f fuel (f.skip cs)
      (c :: digits, rest)
    else ([], c :: cs)

/-- Reads a decimal number between blanks, if there is one. -/
def readCount (f : Flags) (s : Text) : Option Nat × Text :=
  let (digits, rest) := readDigits f s.length (Text.trimStart s)
  (Text.readNumber? 10 Text.decimalDigit? digits, Text.trimStart rest)

/-- What the bounds of a repetition do not reach. -/
def boundLimit : Nat := 0x100000000

/-- Reads the bounds of a repetition after the opening brace. The bounds fit 32 bits. -/
def readBounds? (f : Flags) (s : Text) : Option (Nat × Option Nat × Text) := do
  let (low, rest) := readCount f (f.skip s)
  let low ← low
  if boundLimit ≤ low then none
  match rest with
  | '\x7d' :: rest => return (low, some low, rest)
  | ',' :: rest =>
    match f.skip rest with
    | '\x7d' :: rest => return (low, none, rest)
    | rest =>
      let (high, rest) := readCount f rest
      let high ← high
      if boundLimit ≤ high || high < low then none
      match rest with
      | '\x7d' :: rest => return (low, some high, rest)
      | _ => none
  | _ => none

/-- Reads the repetition operator at the start of a text: the bounds, and the text after
    them. The blanks after a closing brace may be passed over. -/
def readOperator? (f : Flags) : Text → Option (Nat × Option Nat × Text)
  | '?' :: rest => some (0, some 1, rest)
  | '*' :: rest => some (0, none, rest)
  | '+' :: rest => some (1, none, rest)
  | '\x7b' :: rest => (readBounds? f rest).map fun (low, high, rest) => (low, high, f.skip rest)
  | _ => none

/-- Whether a text begins with a repetition operator. -/
def beginsOperator (c : Char) : Bool := c == '?' || c == '*' || c == '+' || c == '\x7b'

/-- Reads a repetition of the last item. -/
def readRepetition? (f : Flags) (items : List (Option Draft)) (s : Text) :
    Option (Draft × List (Option Draft) × Text) := do
  match items with
  | some item :: items =>
    let (low, high, rest) ← readOperator? f s
    let (greedy, rest) :=
      match rest with
      | '?' :: rest => (false, rest)
      | rest => (true, rest)
    let p := repeated item.pattern low high (greedy != f.swapGreed)
    return ({ pattern := p, depth := item.depth + 1 }, items, rest)
  | _ => none

/-! ## Items -/

/-- All characters but line feeds. -/
def withoutLineFeed : CharSet := (CharSet.single '\n').compl

/-- All characters but those that end lines. -/
def withoutLineEnds : CharSet := (CharSet.ofTable "A D").compl

/-- The pattern of a dot. -/
def dot? (f : Flags) : Option Pattern :=
  if !f.unicode then none
  else if f.dotAll then some (set .all)
  else if f.crlf then some (set withoutLineEnds)
  else some (set withoutLineFeed)

/-- The assertion of a caret. -/
def caret (f : Flags) : Assertion :=
  if !f.multiLine then .textStart else if f.crlf then .lineStartCrlf else .lineStart

/-- The assertion of a dollar sign. -/
def dollar (f : Flags) : Assertion :=
  if !f.multiLine then .textEnd else if f.crlf then .lineEndCrlf else .lineEnd

/-- A character or escape as a pattern. -/
def ofPrimitive (f : Flags) : Primitive → Pattern
  | .literal c => ofSet (f.cased (.single c))
  | .chars s => ofSet s
  | .assertion a => assertion a

/-- Reads a single character, escape, dot, assertion or set. -/
def readItem? (f : Flags) : Text → Option (Draft × Text)
  | [] => none
  | '\\' :: cs => (readEscape f cs).map fun (p, rest) => ({ pattern := ofPrimitive f p }, rest)
  | '[' :: cs =>
    (readSet f (2 * cs.length + 2) cs).map fun (s, rest) =>
      ({ pattern := ofSet s.chars, depth := s.depth }, rest)
  | '.' :: cs => (dot? f).map fun p => ({ pattern := p }, cs)
  | '^' :: cs => some ({ pattern := assertion (caret f) }, cs)
  | '$' :: cs => some ({ pattern := assertion (dollar f) }, cs)
  | c :: cs => some ({ pattern := ofPrimitive f (.literal c) }, cs)

/-! ## Patterns -/

/-- The depth of what holds some parts; a single part needs nothing to hold it. -/
def depthOver : (depths : List Nat) → Nat
  | [] => 0
  | [n] => n
  | depths => depths.foldl max 0 + 1

/-- The sequence of the items read, the last of which comes first. Flags are items without a
    pattern. -/
def ofItems (items : List (Option Draft)) : Draft where
  pattern := ofParts (items.reverse.filterMap (·.map Draft.pattern))
  depth := depthOver (items.map fun item => (item.map Draft.depth).getD 0)

/-- The alternatives read, the last of which comes first. -/
def ofBranches (branches : List Draft) : Draft where
  pattern := ofOptions (branches.reverse.map Draft.pattern)
  depth := depthOver (branches.map Draft.depth)

/-- A group, remembered under an index or not. -/
def ofGroup (index : Option Nat) (inner : Draft) : Draft where
  pattern :=
    match index with
    | some i => group i inner.pattern
    | none => inner.pattern
  depth := inner.depth + 1

/-- Reads alternatives up to the end of the text or of the group. `branches` holds the
    alternatives and `items` the items read so far, the last ones first. -/
def readOptions : (fuel : Nat) → Cursor → (branches : List Draft) →
    (items : List (Option Draft)) → Option (Draft × Cursor)
  | 0, _, _, _ => none
  | fuel + 1, cur, branches, items =>
    let rest := cur.flags.skip cur.rest
    match rest with
    | [] => some (ofBranches (ofItems items :: branches), { cur with rest := [] })
    | ')' :: _ => some (ofBranches (ofItems items :: branches), { cur with rest := rest })
    | '|' :: rest => readOptions fuel { cur with rest := rest } (ofItems items :: branches) []
    | '(' :: rest =>
      match readOpening? cur rest with
      | none => none
      | some (.flags f, rest) =>
        readOptions fuel { cur with rest := rest, flags := f } branches (none :: items)
      | some (.group index inner, rest) =>
        match readOptions fuel { inner with rest := rest } [] [] with
        | some (p, after) =>
          match after.rest with
          | ')' :: rest =>
            readOptions fuel { after with rest := rest, flags := cur.flags } branches
              (some (ofGroup index p) :: items)
          | _ => none
        | none => none
    | c :: cs =>
      if beginsOperator c then
        match readRepetition? cur.flags items rest with
        | none => none
        | some (item, items, rest) =>
          readOptions fuel { cur with rest := rest } branches (some item :: items)
      else
        match readItem? cur.flags (c :: cs) with
        | none => none
        | some (item, rest) =>
          readOptions fuel { cur with rest := rest } branches (some item :: items)

/-- The greatest depth to which patterns may be nested. -/
def maxDepth : Nat := 250

/-- The pattern that a text says, read with or without regard to case (`RegexBuilder::build`, which
    `condition::compare` calls). -/
def ofText? (ignoreCase : Bool) (s : Text) : Option Pattern := do
  let start : Cursor := { rest := s, flags := { ignoreCase := ignoreCase } }
  let (draft, cur) ← readOptions (s.length + 1) start [] []
  if cur.rest.isEmpty && draft.depth ≤ maxDepth then return draft.pattern else none

end Pattern

end EdgeInclude
