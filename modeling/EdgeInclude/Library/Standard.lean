import EdgeInclude.Library.Basic
import EdgeInclude.Entity.Reference
import EdgeInclude.Text.Case

/-!
# The standard library

The functions that every document can call unless it is given others: case and
white space, character references, searching, cutting and joining of texts,
integers, lists and random numbers.

Arithmetic is done on integers of 64 bits: every sum, product and remainder is
checked, and one that leaves the range is a fault, as is a cut outside a text or
the removal of an item that a list does not have.

A model of the functions of the module `functions` and of the default
`FunctionRegistry`.
-/

namespace EdgeInclude

namespace Library

/-! ## Arguments -/

/-- The refusal of a call with a wrong number of arguments (`functions::check_arity`). -/
def wrongCount (name : String) : Except CallError Value :=
  .error (.refused ("wrong number of arguments to '" ++ name ++ "'").toList)

/-- The refusal of an argument of the wrong kind. -/
def wrongKind (name : String) : CallError :=
  .refused ("incorrect type passed to '" ++ name ++ "'").toList

/-- An argument that is an integer, or a text of one between blanks (`functions::integer_arg`). -/
def integerArg (name : String) : Value → Except CallError Int64
  | .integer n => .ok n
  | .string s =>
    match Integer.parse? s.trim with
    | some n => .ok n
    | none => .error (wrongKind name)
  | _ => .error (wrongKind name)

/-! ## Checked steps -/

/-- A number that a computation passes through, which has to be in range. -/
def checked (n : Int) : Except CallError Int :=
  if Integer.InRange n then .ok n else .error (.fault .overflow)

/-- A number as the integer that it is. -/
def checkedInteger (n : Int) : Except CallError Value := do
  let n ← checked n
  return .integer (Int64.ofInt n)

/-- The characters of a text from position `first` up to, not including, `last`. -/
def slice (s : Text) (first last : Int) : Except CallError Text :=
  if 0 ≤ first ∧ first ≤ last ∧ last ≤ s.length then
    .ok ((s.take last.toNat).drop first.toNat)
  else .error (.fault .slice)

/-- The remainder of a random number. -/
def remainder (n m : Nat) : Except CallError Nat :=
  if m = 0 then .error (.fault .division) else .ok (n % m)

/-- A number moved to the nearest one between `low` and `high`. -/
def clamp (low high n : Int) : Int := max low (min n high)

/-! ## Texts -/

/-- A function of one argument that maps its text (`functions::lower`, `upper`, `lstrip`, `rstrip`,
    `strip`, `html_encode`, `html_decode` and `string`). -/
def textFunction (name : String) (f : Text → Text) : Function
  | [s] => .ok (.string (f s.display))
  | _ => wrongCount name

/-- A function without arguments that yields a fixed text (`functions::literal`). -/
def constant (name : String) (value : Text) : Function
  | [] => .ok (.string value)
  | _ => wrongCount name

/-- Replaces a text in another, everywhere or as often as an integer says; a negative integer sets
    no limit (`functions::replace`). -/
def replace : Function
  | [s, needle, value] => .ok (.string (Text.replace needle.display value.display none s.display))
  | [s, needle, value, .integer count] =>
    let limit := if 0 ≤ count.toInt then some count.toInt.toNat else none
    .ok (.string (Text.replace needle.display value.display limit s.display))
  | [_, _, _, _] => .error (wrongKind "replace")
  | _ => wrongCount "replace"

/-- The number of characters in front of a place in a text, with -1 for no place
    (`functions::char_position`). -/
def position (s : Text) : Option Nat → Except CallError Value
  | some n => do
    let front ← slice s 0 n
    checkedInteger front.length
  | none => .ok (.integer (-1))

/-- The position of the first place of a text in another (`functions::index`). -/
def index : Function
  | [s, needle] => position s.display (Text.firstPosition? needle.display s.display)
  | _ => wrongCount "index"

/-- The position of the last place of a text in another (`functions::rindex`). -/
def rindex : Function
  | [s, needle] => position s.display (Text.lastPosition? needle.display s.display)
  | _ => wrongCount "rindex"

/-- A position in a text of the given length, counted from the end if it is negative. -/
def fromEnd (length n : Int) : Except CallError Int := do
  if n < 0 then
    let n ← checked (length + n)
    return max n 0
  else return min n length

/-- A position counted from the start of a text of the given length, which may lie outside of
    it. -/
def fromStart (length i : Int) : Except CallError Int :=
  if 0 ≤ i then .ok i else checked (length + i)

/-- The part of a text from a position on. -/
def substrFrom (s : Text) (i : Int) : Except CallError Text := do
  let first ← fromEnd s.length i
  slice s first s.length

/-- The part of a text that starts at `i`, of length `j`; if `j` is not positive, the part up
    to `-j` characters before the end. -/
def substrOf (s : Text) (i j : Int) : Except CallError Text := do
  let start ← fromStart s.length i
  if j ≤ 0 then
    let stop ← checked (s.length + j)
    let a := clamp 0 s.length start
    let b := clamp 0 s.length stop
    slice s (min a b) (max a b)
  else
    let start ← fromEnd s.length start
    let stop ← checked (start + j)
    slice s start (min stop s.length)

/-- A part of a text by position and, optionally, length (`functions::substr`). -/
def substr : Function
  | [s, i] => do
    let i ← integerArg "substr" i
    return .string (← substrFrom s.display i.toInt)
  | [s, i, j] => do
    let i ← integerArg "substr" i
    let j ← integerArg "substr" j
    return .string (← substrOf s.display i.toInt j.toInt)
  | _ => wrongCount "substr"

/-! ## Integers -/

/-- The integer in range that a text of digits stands for, and 0 for any other text. -/
def digitsOrZero (digits : Text) : Int :=
  match (Text.readNumber? 10 Text.decimalDigit? digits).bind fun n => Integer.ofInt? n with
  | some n => n.toInt
  | none => 0

/-- The sign that a number begins with, as a factor, and the text behind it. A number need not
    have a sign. -/
def splitSign : Text → Int × Text
  | '-' :: rest => (-1, rest)
  | '+' :: rest => (1, rest)
  | rest => (1, rest)

/-- The integer at the start of a text, read after blanks; 0 if there is none in range. -/
def leadingInteger (s : Text) : Except CallError Value :=
  let (sign, rest) := splitSign s.trimStart
  checkedInteger (sign * digitsOrZero (rest.takeWhile Char.isDigit))

/-- A value as an integer (`functions::int`). -/
def int : Function
  | [.integer n] => .ok (.integer n)
  | [v] => leadingInteger v.display
  | _ => wrongCount "int"

/-- The number of characters, items or entries of a value that has any (`functions::len`). -/
def len : Function
  | [.string s] => checkedInteger s.length
  | [.list items] => checkedInteger items.length
  | [.dictionary entries] => checkedInteger entries.length
  | [_] => .ok .null
  | _ => wrongCount "len"

/-- A number from 0 up to, not including, a ceiling, drawn from a random `word`
    (`functions::rand`). -/
def rand (word : UInt64) : Function
  | [] => do
    let n ← remainder word.toNat 100000000
    checkedInteger n
  | [v] => do
    let ceiling ← integerArg "rand" v
    if ceiling.toInt ≤ 0 then return .integer 0
    else
      let n ← remainder word.toNat ceiling.toInt.toNat
      checkedInteger n
  | _ => wrongCount "rand"

/-! ## Lists -/

/-- The items of a list as one text, with a space or the given text between each two
    (`functions::join`). -/
def join : Function
  | [.list items] => .ok (.string (Text.joinWith [' '] (Value.displayAll items)))
  | [.list items, separator] =>
    .ok (.string (Text.joinWith separator.display (Value.displayAll items)))
  | [_] => .error (wrongKind "join")
  | [_, _] => .error (wrongKind "join")
  | _ => wrongCount "join"

/-- Items without the one at a position, which they have to have. -/
def remove (items : List Value) (n : Nat) : Except CallError (List Value) :=
  if n < items.length then .ok (items.eraseIdx n) else .error (.fault .slice)

/-- A list without the item at a position, if it has one there (`functions::list_delitem`). -/
def listDelete : Function
  | [.list items, i] => do
    let i ← integerArg "list_delitem" i
    if 0 ≤ i.toInt ∧ i.toInt < items.length then
      return .list (← remove items i.toInt.toNat)
    else return .list items
  | [_, _] => .error (wrongKind "list_delitem")
  | _ => wrongCount "list_delitem"

/-! ## The library -/

/-- The standard functions, with random numbers drawn from `word` (the default of
    `functions::FunctionRegistry`). -/
def standard (word : UInt64) : Library where
  entries :=
    [("lower".toList, textFunction "lower" Text.lower),
      ("upper".toList, textFunction "upper" Text.upper),
      ("lstrip".toList, textFunction "lstrip" Text.trimStart),
      ("rstrip".toList, textFunction "rstrip" Text.trimEnd),
      ("strip".toList, textFunction "strip" Text.trim),
      ("html_encode".toList, textFunction "html_encode" Entity.encode),
      ("html_decode".toList, textFunction "html_decode" Entity.lenient),
      ("replace".toList, replace),
      ("join".toList, join),
      ("index".toList, index),
      ("rindex".toList, rindex),
      ("substr".toList, substr),
      ("dollar".toList, constant "dollar" ['$']),
      ("dquote".toList, constant "dquote" ['"']),
      ("squote".toList, constant "squote" ['\'']),
      ("int".toList, int),
      ("str".toList, textFunction "str" id),
      ("len".toList, len),
      ("list_delitem".toList, listDelete),
      ("rand".toList, rand word)]

end Library

end EdgeInclude
