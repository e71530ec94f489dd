import EdgeInclude.Url.Path

/-!
# URLs

Reading absolute URLs and writing them in their normal form. A text that is not
an absolute URL is none: one without a scheme, without a host where the scheme
asks for one, or with a host or a port that cannot be.

A model of `Url` of the package `url`, as `fetch::HttpFetcher` uses it.
-/

namespace EdgeInclude

/-- The part of a URL that says where to ask: user, password, host and port. -/
structure Authority where
  user : Text := []
  password : Option Text := none
  host : Option Host := none
  port : Option Nat := none
  deriving DecidableEq

/-- An absolute URL (`url::Url`). The path of one without an authority is without structure unless
    it starts with a slash. -/
structure Url where
  scheme : Text
  authority : Option Authority
  path : Text
  query : Option Text
  fragment : Option Text
  deriving DecidableEq

namespace Url

/-! ## Parts -/

/-- Reads a scheme and the colon after it. Schemes are in lower case. -/
def readScheme? (s : Text) : Option (Text × Text) :=
  match s with
  | [] => none
  | c :: _ =>
    if !c.isAlpha then none
    else
      let isPart := fun c : Char => c.isAlphanum || c == '+' || c == '-' || c == '.'
      match s.dropWhile isPart with
      | ':' :: rest => some ((s.takeWhile isPart).map Char.toLower, rest)
      | _ => none

/-- The port that a scheme has without saying so. -/
def defaultPort? (scheme : Text) : Option Nat :=
  if scheme = "http".toList ∨ scheme = "ws".toList then some 80
  else if scheme = "https".toList ∨ scheme = "wss".toList then some 443
  else if scheme = "ftp".toList then some 21
  else none

/-- The greatest port. -/
def maxPort : Nat := 65535

/-- Reads the port after a colon, and what follows it. An empty port and the one of the scheme
    are not kept. -/
def readPort? (scheme s : Text) : Option (Option Nat × Text) :=
  let rest := s.dropWhile Char.isDigit
  match rest with
  | c :: _ => if c == '/' || c == '\\' then kept rest else none
  | [] => kept rest
where
  /-- The port without those that go without saying. -/
  kept (rest : Text) : Option (Option Nat × Text) :=
    match Text.readNumber? 10 Text.decimalDigit? (s.takeWhile Char.isDigit) with
    | none => some (none, rest)
    | some n =>
      if maxPort < n then none
      else some (if defaultPort? scheme = some n then none else some n, rest)

/-- Characters that are percent-encoded in user names and passwords. -/
def encodedInUser (c : Char) : Bool := " \"#<>?`\x7b\x7d/:;=@[\\]^|".toList.contains c

/-- The user name and password before the `@` of an authority. -/
def readUser (s : Text) : Text × Option Text :=
  match Text.splitFirst [':'] s with
  | none => (Host.percentEncode encodedInUser s, none)
  | some (user, password) =>
    (Host.percentEncode encodedInUser user,
      if password.isEmpty then none else some (Host.percentEncode encodedInUser password))

/-- Splits a host from what follows it; colons in brackets belong to the host. -/
def splitHost (k : SchemeKind) (inBrackets : Bool) : Text → Text × Text
  | [] => ([], [])
  | c :: cs =>
    if (c = ':' ∧ inBrackets = false) ∨ k.isSlash c then ([], c :: cs)
    else
      let inBrackets := if c = '[' then true else if c = ']' then false else inBrackets
      let (host, rest) := splitHost k inBrackets cs
      (c :: host, rest)

/-- Reads a host. Only where the scheme has no rules for hosts may it be empty. -/
def readHost? (k : SchemeKind) (s : Text) : Option (Option Host) :=
  if s.isEmpty then if k.isSpecial then none else some none
  else (if k.isSpecial then Host.readDomain? s else Host.readOpaque? s).map some

/-- Reads the host and port of an authority, and what follows them. Without a host there is
    neither a user nor a colon. -/
def readPlace? (k : SchemeKind) (scheme user : Text) (password : Option Text) (s : Text) :
    Option (Authority × Text) := do
  let (hostText, rest) := splitHost k false s
  let host ← readHost? k hostText
  let hasUser := !user.isEmpty || password.isSome
  if host.isNone && (hasUser || rest.head? == some ':') then none
  match rest with
  | ':' :: portText =>
    let (port, rest) ← readPort? scheme portText
    return (⟨user, password, host, port⟩, rest)
  | _ => return (⟨user, password, host, none⟩, rest)

/-- Reads an authority, and the path that follows it. If nothing stands before its `@`, then
    something has to stand after it, unless the URL `ends` there. -/
def readAuthority? (k : SchemeKind) (scheme : Text) (ends : Bool) (s : Text) :
    Option (Authority × Text) :=
  let authority := s.takeWhile (!k.isSlash ·)
  let path := s.dropWhile (!k.isSlash ·)
  match Text.splitLast '@' authority with
  | none => readPlace? k scheme [] none s
  | some ([], place) =>
    if place.isEmpty && !(path.isEmpty && ends) then none
    else readPlace? k scheme [] none (place ++ path)
  | some (before, place) =>
    let (user, password) := readUser before
    readPlace? k scheme user password (place ++ path)

/-! ## Query and fragment -/

/-- Characters that are percent-encoded in queries. -/
def encodedInQuery (k : SchemeKind) (c : Char) : Bool :=
  " \"#<>".toList.contains c || (k.isSpecial && c == '\'')

/-- Characters that are percent-encoded in fragments. -/
def encodedInFragment (c : Char) : Bool := " \"<>`".toList.contains c

/-- Splits a query and a fragment off a text. -/
def splitEnds (s : Text) : Text × Option Text × Option Text :=
  let (main, fragment) :=
    match Text.splitFirst ['#'] s with
    | some (main, fragment) => (main, some fragment)
    | none => (s, none)
  match Text.splitFirst ['?'] main with
  | some (main, query) => (main, some query, fragment)
  | none => (main, none, fragment)

/-! ## URLs -/

/-- Reads what follows the two slashes of a URL: authority and path. -/
def readHierarchy? (k : SchemeKind) (scheme : Text) (ends : Bool) (s : Text) :
    Option (Option Authority × Text) :=
  (readAuthority? k scheme ends s).map fun (authority, rest) =>
    (some authority, (Path.readAfterHost k rest).text)

/-- Reads what follows the two slashes of a file's URL. The local host and the one before a
    drive are none. -/
def readFileHierarchy? (s : Text) : Option (Option Authority × Text) :=
  let hostText := s.takeWhile (!SchemeKind.file.isSlash ·)
  let rest := s.dropWhile (!SchemeKind.file.isSlash ·)
  let withoutHost := fun s => some (some {}, (Path.readFrom .file ['/'] s).text)
  if Path.isDrive hostText then withoutHost s
  else if hostText.isEmpty then withoutHost rest
  else
    match Host.readDomain? hostText with
    | none => none
    | some (.domain name) => if name = "localhost".toList then withoutHost rest else
      withHost (.domain name) rest
    | some host => withHost host rest
where
  /-- Reads the path after a host. -/
  withHost (host : Host) (rest : Text) : Option (Option Authority × Text) :=
    let path := Path.readAfterHost .file rest
    some (some { host := if path.hasDrive then none else some host }, path.text)

/-- Reads what follows the scheme of a file's URL. -/
def readFile? (s : Text) : Option (Option Authority × Text) :=
  let isSlash := SchemeKind.file.isSlash
  match s with
  | a :: b :: rest =>
    if isSlash a && isSlash b then readFileHierarchy? rest
    else some (some {}, (Path.readFrom .file (if isSlash a then [] else ['/']) s).text)
  | s => some (some {}, (Path.readFrom .file ['/'] s).text)

/-- Reads what follows the scheme of a URL up to its query and fragment; the URL `ends` where
    it has neither. -/
def readMain? (k : SchemeKind) (scheme : Text) (ends : Bool) (s : Text) :
    Option (Option Authority × Text) :=
  match k with
  | .special => readHierarchy? k scheme ends (s.dropWhile k.isSlash)
  | .file => readFile? s
  | .other =>
    match s with
    | '/' :: '/' :: rest => readHierarchy? k scheme ends rest
    | '/' :: rest => some (none, (Path.readFrom k ['/'] rest).text)
    | s => some (none, Host.percentEncode (fun _ => false) s)

/-- A text without the controls and spaces at its ends, and without tabs and line breaks. -/
def cleaned (s : Text) : Text :=
  let atEnd := fun c : Char => c.toNat ≤ 0x20
  let s := ((s.dropWhile atEnd).reverse.dropWhile atEnd).reverse
  s.filter fun c => !(c == '\t' || c == '\n' || c == '\r')

/-- Reads an absolute URL (`Url::parse`). -/
def parse? (s : Text) : Option Url := do
  let (scheme, rest) ← readScheme? (cleaned s)
  let k := SchemeKind.ofName scheme
  let (main, query, fragment) := splitEnds rest
  let (authority, path) ← readMain? k scheme (query.isNone && fragment.isNone) main
  return {
    scheme := scheme
    authority := authority
    path := path
    query := query.map (Host.percentEncode (encodedInQuery k))
    fragment := fragment.map (Host.percentEncode encodedInFragment) }

/-! ## Writing -/

/-- A user name and password as they stand before a host. -/
def userText (a : Authority) : Text :=
  if a.user.isEmpty && a.password.isNone then []
  else a.user ++ ((a.password.map (':' :: ·)).getD []) ++ ['@']

/-- An authority as it stands in a URL. -/
def authorityText (a : Authority) : Text :=
  '/' :: '/' :: userText a ++ (a.host.map Host.toText).getD [] ++
    ((a.port.map fun n => ':' :: Text.ofNat n).getD [])

/-- What stands between the colon of a URL and its query. Two slashes at the start of a path
    would be those of an authority. -/
def mainText (u : Url) : Text :=
  match u.authority, u.path with
  | some a, path => authorityText a ++ path
  | none, '/' :: '/' :: path => '/' :: '.' :: '/' :: '/' :: path
  | none, path => path

/-- A URL in its normal form (`Url::as_str`). -/
def toText (u : Url) : Text :=
  u.scheme ++ ':' :: u.mainText ++ ((u.query.map ('?' :: ·)).getD []) ++
    ((u.fragment.map ('#' :: ·)).getD [])

/-- A URL without its user name and password. -/
def withoutUser (u : Url) : Url :=
  { u with authority := u.authority.map fun a => { a with user := [], password := none } }

end Url

end EdgeInclude
