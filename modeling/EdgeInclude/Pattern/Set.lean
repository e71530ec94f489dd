import EdgeInclude.Pattern.Escape

/-!
# Sets in brackets

Reading the sets of characters that patterns write in brackets: characters,
ranges, classes and further sets, and the intersection, difference and symmetric
difference of what stands before and after an operator. How deeply brackets and
operators are nested is counted along.

A model of how the package `regex_syntax` reads bracketed classes.
-/

namespace EdgeInclude

namespace Pattern

/-! ## Sets being read -/

/-- An operator between the parts of a set. -/
inductive SetOperator where
  | intersection
  | difference
  | symmetricDifference

/-- Combines the set before an operator and the set after it. -/
def SetOperator.apply (f : Flags) (s t : CharSet) : SetOperator → CharSet
  | intersection => (f.cased s).inter (f.cased t)
  | difference => (f.cased s).diff (f.cased t)
  | symmetricDifference => (f.cased s).symmDiff (f.cased t)

/-- A set with the depth to which what says it is nested. -/
structure NestedSet where
  chars : CharSet
  depth : Nat := 0

/-- A set being read: what stands before the last operator, with that operator, and the items
    read since, the last one first. -/
structure SetReading where
  before : Option (NestedSet × SetOperator) := none
  items : List NestedSet := []

/-- Adds an item to a set being read. -/
def SetReading.add (r : SetReading) (s : NestedSet) : SetReading :=
  { r with items := s :: r.items }

/-- The items read since the last operator; several are nested in their union. -/
def SetReading.operand (r : SetReading) : NestedSet :=
  match r.items with
  | [] => { chars := .empty }
  | [s] => s
  | items =>
    { chars := .unions (items.map (·.chars))
      depth := (items.map (·.depth)).foldl max 0 + 1 }

/-- The set that has been read. -/
def SetReading.set (f : Flags) (r : SetReading) : NestedSet :=
  match r.before with
  | none => r.operand
  | some (s, op) =>
    { chars := op.apply f s.chars r.operand.chars, depth := max s.depth r.operand.depth + 1 }

/-- Goes on after an operator. -/
def SetReading.operate (f : Flags) (r : SetReading) (op : SetOperator) : SetReading where
  before := some (r.set f, op)

/-! ## Items -/

/-- Reads the name of an ASCII class after `[:`, up to `:]`. The class itself is missing if it
    may not stand under the flags. -/
def readAsciiClass? (f : Flags) (s : Text) : Option (Option CharSet × Text) := do
  let (negated, named) :=
    match s with
    | '^' :: cs => (true, cs)
    | cs => (false, cs)
  let name := named.takeWhile (· != ':')
  match named.dropWhile (· != ':') with
  | ':' :: ']' :: rest => return (f.class? negated (← CharSet.asciiNamed? name), rest)
  | _ => none

/-- Reads a character, an escape or a class inside of brackets. -/
def readSetItem (f : Flags) : Text → Option (Primitive × Text)
  | [] => none
  | '\\' :: cs => readEscape f cs
  | c :: cs => some (.literal c, cs)

/-- Whether a character may stand in a set. -/
def Flags.admits (f : Flags) (c : Char) : Bool := f.unicode || c.toNat < 0x80

/-- The characters that an item stands for; an assertion stands for none. -/
def Primitive.chars? (f : Flags) : Primitive → Option NestedSet
  | literal c => if f.admits c then some { chars := .single c } else none
  | chars s => some { chars := s }
  | assertion _ => none

/-- The characters between two items. -/
def rangeOf? (f : Flags) : (first last : Primitive) → Option NestedSet
  | .literal a, .literal b =>
    if a ≤ b && f.admits a && f.admits b then some { chars := .range a b } else none
  | _, _ => none

/-- The next character past blanks. In a verbose pattern a `#` hides itself, but not the rest of
    the comment that it begins. -/
def Flags.peek? (f : Flags) (s : Text) : Option Char :=
  if f.verbose then
    match Text.trimStart s with
    | '#' :: cs => (Text.trimStart cs).head?
    | cs => cs.head?
  else s.head?

/-- Reads an item or a range. A hyphen before the closing bracket or another hyphen makes no
    range. -/
def readSetRange (f : Flags) (s : Text) : Option (NestedSet × Text) := do
  let (first, rest) ← readSetItem f s
  match f.skip rest with
  | [] => none
  | '-' :: cs =>
    if f.peek? cs = some ']' || f.peek? cs = some '-' then return (← first.chars? f, '-' :: cs)
    let (last, rest) ← readSetItem f (f.skip cs)
    return (← rangeOf? f first last, rest)
  | rest => return (← first.chars? f, rest)

/-! ## Sets -/

/-- Reads hyphens at the start of a set, which stand for themselves. -/
def readHyphens (f : Flags) : (fuel : Nat) → Text → SetReading → SetReading × Text
  | 0, s, r => (r, s)
  | fuel + 1, '-' :: cs, r => readHyphens f fuel (f.skip cs) (r.add { chars := .single '-' })
  | _ + 1, s, r => (r, s)

/-- Reads what may stand at the start of a set only: a caret that negates it, hyphens, and a
    closing bracket that stands for itself. -/
def readSetStart (f : Flags) (s : Text) : Bool × SetReading × Text :=
  let (negated, s) :=
    match f.skip s with
    | '^' :: cs => (true, f.skip cs)
    | cs => (false, cs)
  match readHyphens f s.length s {} with
  | (r, ']' :: cs) =>
    match s with
    | '-' :: _ => (negated, r, ']' :: cs)
    | _ => (negated, r.add { chars := .single ']' }, f.skip cs)
  | (r, cs) => (negated, r, cs)

/-- A set that has been read as a whole. -/
def closeSet? (f : Flags) (negated : Bool) (r : SetReading) : Option NestedSet :=
  let inner := r.set f
  (f.class? negated inner.chars).map fun chars => { chars := chars, depth := inner.depth + 1 }

mutual

/-- Reads a set after its opening bracket. -/
def readSet (f : Flags) : (fuel : Nat) → Text → Option (NestedSet × Text)
  | 0, _ => none
  | fuel + 1, s =>
    let (negated, r, rest) := readSetStart f s
    match readSetItems f fuel rest r with
    | none => none
    | some (r, rest) => (closeSet? f negated r).map (·, rest)

/-- Reads the items of a set up to its closing bracket. -/
def readSetItems (f : Flags) : (fuel : Nat) → Text → SetReading → Option (SetReading × Text)
  | 0, _, _ => none
  | fuel + 1, s, r =>
    match f.skip s with
    | [] => none
    | ']' :: cs => some (r, cs)
    | '&' :: '&' :: cs => readSetItems f fuel cs (r.operate f .intersection)
    | '-' :: '-' :: cs => readSetItems f fuel cs (r.operate f .difference)
    | '~' :: '~' :: cs => readSetItems f fuel cs (r.operate f .symmetricDifference)
    | '[' :: cs =>
      match (Text.after? [':'] cs).bind (readAsciiClass? f) with
      | some (none, _) => none
      | some (some chars, rest) => readSetItems f fuel rest (r.add { chars := chars })
      | none =>
        match readSet f fuel cs with
        | none => none
        | some (s, rest) => readSetItems f fuel rest (r.add s)
    | cs =>
      match readSetRange f cs with
      | none => none
      | some (s, rest) => readSetItems f fuel rest (r.add s)

end

end Pattern

end EdgeInclude
