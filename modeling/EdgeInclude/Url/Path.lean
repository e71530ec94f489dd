import EdgeInclude.Url.Host

/-!
# Paths

The paths of URLs: segments with slashes between them. Segments that mean the
place itself or the place above it are carried out while a path is read.

A model of how the package `url` reads paths.
-/

namespace EdgeInclude

/-- The kind of a scheme: with rules of its own, `file`, or neither. -/
inductive SchemeKind where
  | special
  | file
  | other
  deriving DecidableEq

namespace SchemeKind

/-- The kind of the scheme with a name. -/
def ofName (name : Text) : SchemeKind :=
  if name ∈ ["http".toList, "https".toList, "ws".toList, "wss".toList, "ftp".toList] then special
  else if name = "file".toList then file
  else other

/-- Whether a backslash counts as a slash. -/
def isSpecial (k : SchemeKind) : Bool := k != other

/-- Whether a character separates the segments of a path. -/
def isSlash (k : SchemeKind) (c : Char) : Bool := c == '/' || (k.isSpecial && c == '\\')

end SchemeKind

namespace Path

/-! ## Segments -/

/-- Characters that are percent-encoded in paths. -/
def encodedInPath (c : Char) : Bool := " \"#<>?`\x7b\x7d".toList.contains c

/-- Whether a segment means the place above. -/
def isDoubleDot (s : Text) : Bool :=
  ["..".toList, "%2e.".toList, ".%2e".toList, "%2e%2e".toList].contains (s.map Char.toLower)

/-- Whether a segment means the place itself. -/
def isSingleDot (s : Text) : Bool := [['.'], "%2e".toList].contains (s.map Char.toLower)

/-- Whether a text names a drive in its normal form, as a letter and a colon. -/
def isNormalDrive (s : Text) : Bool :=
  match s with
  | [c, ':'] => c.isAlpha
  | _ => false

/-- Whether a text names a drive, as a letter and a colon or a bar. -/
def isDrive (s : Text) : Bool :=
  match s with
  | [c, d] => c.isAlpha && (d == ':' || d == '|')
  | _ => false

/-- Whether a segment that names a drive comes after the slash at the start of a path. -/
def startsWithDrive (path : Text) : Bool :=
  match path with
  | _ :: c :: d :: rest =>
    isDrive [c, d] && (rest.head?.map fun e => "/\\?#".toList.contains e).getD true
  | _ => false

/-! ## Going up -/

/-- A path up to its last slash, that included, and the text after it. -/
def splitLast (path : Text) : Text × Text :=
  match Text.splitLast '/' path with
  | some (before, last) => (before ++ ['/'], last)
  | none => ([], path)

/-- A path without the slash at its end, unless that is the first one or the one after a
    drive. -/
def dropSlash (path : Text) : Text :=
  match Text.beforeSuffix? ['/'] path with
  | none => path
  | some before =>
    match Text.splitLast '/' before with
    | none => path
    | some (_, last) => if startsWithDrive ('/' :: last ++ ['/']) then path else before

/-- A path without the text after its last slash. The name of a drive stays. -/
def dropLast (k : SchemeKind) (path : Text) : Text :=
  let (before, last) := splitLast path
  if k = .file ∧ isNormalDrive last then path else before

/-- A path with a slash at its end. -/
def withSlash (path : Text) : Text := if path.getLast? = some '/' then path else path ++ ['/']

/-! ## Reading -/

/-- A path being read: its text so far, and whether it named a drive, which leaves no room for
    a host. -/
structure Progress where
  text : Text
  hasDrive : Bool := false

/-- Adds a segment, and the slash after it if there is one. -/
def addSegment (k : SchemeKind) (p : Progress) (s : Text) (slash : Bool) : Progress :=
  let s := Host.percentEncode encodedInPath s
  let ending := if slash then ['/'] else []
  if isDoubleDot s then
    let above := dropLast k (dropSlash p.text)
    { p with text := if slash then withSlash above else above }
  else if isSingleDot s then { p with text := withSlash p.text }
  else if k = .file ∧ p.text.length = 1 ∧ isDrive s then
    { text := p.text ++ s.take 1 ++ ':' :: ending, hasDrive := true }
  else { p with text := p.text ++ s ++ ending }

/-- Adds the segments of a path. -/
def addSegments (k : SchemeKind) (p : Progress) : (segments : List Text) → Progress
  | [] => p
  | [s] => addSegment k p s false
  | s :: rest => addSegments k (addSegment k p s true) rest

/-- Reads what follows a given beginning of a path. The path of a file has a single slash at
    its start. -/
def readFrom (k : SchemeKind) (beginning s : Text) : Progress :=
  let p := addSegments k { text := beginning } (s.splitOnP k.isSlash)
  if k = .file then { p with text := '/' :: p.text.dropWhile (· == '/') } else p

/-- Reads the path after a host. Only where the scheme has no rules for paths may it be
    empty. -/
def readAfterHost (k : SchemeKind) (s : Text) : Progress :=
  match s with
  | [] => if k.isSpecial then readFrom k ['/'] [] else { text := [] }
  | c :: cs =>
    if k.isSpecial then readFrom k ['/'] (if k.isSlash c then cs else s)
    else readFrom k (if c = '/' then [] else ['/']) s

end Path

end EdgeInclude
