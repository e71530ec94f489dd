import EdgeInclude.Text.Percent
import EdgeInclude.Url.Domain.Basic

/-!
# Hosts

The hosts of URLs: addresses in brackets, numeric addresses, domains and, under
schemes without rules of their own, any text.

A model of `Host` of the package `url`.
-/

namespace EdgeInclude

/-- The host of a URL (`url::Host`). -/
inductive Host where
  | domain (name : Text)
  | ipv4 (address : Nat)
  | ipv6 (pieces : List Nat)
  deriving DecidableEq

namespace Host

/-! ## Percent-encoding -/

/-- The two digits of a byte in upper-case hexadecimal. -/
def hexByte (b : UInt8) : Text :=
  let digits := (Nat.toDigits 16 b.toNat).map Char.toUpper
  if digits.length < 2 then '0' :: digits else digits

/-- A text in which the characters of a set, controls and all characters outside ASCII are
    percent-encoded. -/
def percentEncode (special : Char → Bool) (s : Text) : Text :=
  s.flatMap fun c =>
    if c.toNat ≤ 0x1F || 0x7F ≤ c.toNat || special c then
      (Text.utf8 [c]).flatMap fun b => '%' :: hexByte b
    else [c]

/-! ## Numeric addresses -/

/-- Reads a number of a numeric address: decimal, octal after `0` or hexadecimal after `0x`. -/
def readPart? : Text → Option Nat
  | [] => none
  | ['0'] => some 0
  | ['0', 'x'] => some 0
  | ['0', 'X'] => some 0
  | '0' :: 'x' :: digits => Text.readNumber? 16 Text.hexDigit? digits
  | '0' :: 'X' :: digits => Text.readNumber? 16 Text.hexDigit? digits
  | '0' :: digits =>
    Text.readNumber? 8 (fun c => (Text.decimalDigit? c).filter (· < 8)) digits
  | digits => Text.readNumber? 10 Text.decimalDigit? digits

/-- The parts of a domain, without an empty one at its end. -/
def partsOf (domain : Text) : List Text :=
  let parts := domain.splitOn '.'
  if parts.getLast? = some [] then parts.dropLast else parts

/-- Whether a domain ends in a number, and so has to be a numeric address. -/
def endsInNumber (domain : Text) : Bool :=
  match (partsOf domain).getLast? with
  | none => false
  | some last => (!last.isEmpty && last.all Char.isDigit) || (readPart? last).isSome

/-- The address that numbers stand for; the last one fills all the bytes that are left. -/
def combineParts : (bytesLeft : Nat) → List Nat → Option Nat
  | _, [] => none
  | left, [n] => if n < 256 ^ left then some n else none
  | left, n :: ns =>
    if n < 256 then (combineParts (left - 1) ns).map (n * 256 ^ (left - 1) + ·) else none

/-- Reads a numeric address of up to four numbers. -/
def readIpv4? (domain : Text) : Option Nat := do
  let parts := partsOf domain
  if 4 < parts.length then none
  combineParts 4 (← parts.mapM readPart?)

/-! ## Addresses in brackets -/

/-- Reads a decimal number below 256 without leading zeros. -/
def readByte? (s : Text) : Option Nat :=
  match s with
  | '0' :: _ :: _ => none
  | s => (Text.readNumber? 10 Text.decimalDigit? s).filter (· < 256)

/-- Reads the last 32 bits of an address, written as four decimal numbers. -/
def readEmbedded? (s : Text) : Option (List Nat) :=
  match (s.splitOn '.').mapM readByte? with
  | some [a, b, c, d] => some [a * 256 + b, c * 256 + d]
  | _ => none

/-- Reads the groups of one side of an address; only the last may be a numeric address. -/
def readGroups? (last : Bool) : List Text → Option (List Nat)
  | [] => some []
  | [s] =>
    if last && s.contains '.' then readEmbedded? s
    else if 4 < s.length then none
    else (Text.readNumber? 16 Text.hexDigit? s).map ([·])
  | s :: rest => do
    if 4 < s.length then none
    let n ← Text.readNumber? 16 Text.hexDigit? s
    return n :: (← readGroups? last rest)

/-- The groups of one side of an address; an empty side has none. -/
def sideGroups (s : Text) : List Text := if s.isEmpty then [] else s.splitOn ':'

/-- Reads an address of eight groups, of which a run may be left out. -/
def readIpv6? (s : Text) : Option (List Nat) := do
  match Text.splitFirst [':', ':'] s with
  | none =>
    let groups ← readGroups? true (s.splitOn ':')
    if groups.length = 8 then return groups else none
  | some (left, right) =>
    let before ← readGroups? false (sideGroups left)
    let after ← readGroups? true (sideGroups right)
    if before.length + after.length < 8 then
      return before ++ List.replicate (8 - before.length - after.length) 0 ++ after
    else none

/-- The place and length of the first longest run of at least two zeros. -/
def zeroRun (pieces : List Nat) : Nat × Nat :=
  let runAt := fun i => ((pieces.drop i).takeWhile (· == 0)).length
  (List.range pieces.length).foldl
    (fun best i => if best.2 < runAt i && 2 ≤ runAt i then (i, runAt i) else best) (0, 0)

/-- Groups in hexadecimal with colons between them. -/
def joinGroups (pieces : List Nat) : Text :=
  Text.joinWith [':'] (pieces.map (Nat.toDigits 16))

/-- An address of eight groups in its shortest form. -/
def ipv6Text (pieces : List Nat) : Text :=
  let (place, length) := zeroRun pieces
  if length = 0 then joinGroups pieces
  else joinGroups (pieces.take place) ++ [':', ':'] ++ joinGroups (pieces.drop (place + length))

/-! ## Hosts -/

/-- Characters that no host may hold. -/
def forbidden (c : Char) : Bool :=
  c.toNat = 0 || c == '\t' || c == '\n' || c == '\r' || " #/:<>?@[\\]^|".toList.contains c

/-- Reads a host in brackets. -/
def readBracketed? (s : Text) : Option Host :=
  (Text.beforeSuffix? [']'] s).bind fun inner => (readIpv6? inner).map ipv6

/-- Reads the host of a URL whose scheme has rules for hosts. -/
def readDomain? (s : Text) : Option Host :=
  match s with
  | '[' :: rest => readBracketed? rest
  | s =>
    (Domain.toAscii? s.percentDecode).bind fun name =>
      if endsInNumber name then (readIpv4? name).map ipv4 else some (.domain name)

/-- Reads the host of a URL whose scheme has no such rules. -/
def readOpaque? (s : Text) : Option Host :=
  match s with
  | '[' :: rest => readBracketed? rest
  | s => if s.any forbidden then none else some (.domain (percentEncode (fun _ => false) s))

/-- A host as it stands in a URL. -/
def toText : Host → Text
  | domain name => name
  | ipv4 n =>
    Text.joinWith ['.']
      ([n / 0x1000000, n / 0x10000 % 256, n / 0x100 % 256, n % 256].map Text.ofNat)
  | ipv6 pieces => '[' :: ipv6Text pieces ++ [']']

end Host

end EdgeInclude
