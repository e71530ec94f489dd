import EdgeInclude.Expression.Basic
import EdgeInclude.Text.Letter

/-!
# Tokens of argument lists

Reading the text of a parenthesised argument list as tokens, up to the
parenthesis that closes it.

A model of `expression::lex_arguments` and of the readers that it calls.
-/

namespace EdgeInclude

/-- Why a call cannot be read. -/
inductive ReadError where
  | unexpectedCharacter (c : Char)
  | unclosedArguments
  | unclosedString
  | invalidNumber
  | unclosedVariable
  | danglingDollar
  | unexpectedInArguments
  | unexpectedStart
  | unexpectedEnd
  | missingArguments
  | trailingTokens
  deriving DecidableEq

/-- The wording of a read error (the messages of `ExpressionParseError`). -/
def ReadError.message : ReadError → Text
  | unexpectedCharacter c => "unexpected character '".toList ++ [c, '\'']
  | unclosedArguments => "unexpected eof in argument list".toList
  | unclosedString => "unexpected eof while parsing string".toList
  | invalidNumber => "invalid number".toList
  | unclosedVariable => "unterminated variable".toList
  | danglingDollar => "unexpected character following '$'".toList
  | unexpectedInArguments => "unexpected token in arg list".toList
  | unexpectedStart => "unexpected token starting expression".toList
  | unexpectedEnd => "unexpected end of tokens".toList
  | missingArguments => "unexpected token following identifier".toList
  | trailingTokens => "expected end of call".toList

/-- A token of an argument list (`expression::Token`). -/
inductive Token where
  | integer (n : Int64)
  | string (s : Text)
  | reference (ref : Reference)
  | name (s : Text)
  | opening
  | closing
  | comma
  deriving DecidableEq

/-! ## Variables -/

/-- Characters of keys: letters and numbers of any script, and the underscore. -/
def isKeyChar (c : Char) : Bool := Text.isAlphanumeric c || c == '_'

/-- The text between the parentheses of a reference (the end of `expression::get_variable`). Only
    `name{key}` with a non-empty key of key characters has a key; any other text is a name as a
    whole. -/
def Reference.ofText (s : Text) : Reference :=
  match Text.splitLast '\x7b' s with
  | none => ⟨s, none⟩
  | some (name, rest) =>
    match Text.beforeSuffix? ['\x7d'] rest with
    | none => ⟨s, none⟩
    | some key => if !key.isEmpty && key.all isKeyChar then ⟨name, some key⟩ else ⟨s, none⟩

/-- Reads a reference whose opening parenthesis has been read, up to the first closing one
    (`expression::get_variable`). -/
def readReference? (s : Text) : Option (Reference × Text) :=
  (Text.splitFirst [')'] s).map fun (inner, rest) => (Reference.ofText inner, rest)

/-! ## Strings -/

/-- Reads a string up to its closing quote; a backslash takes the next character as it
    is. -/
def readPlainString : Text → Except ReadError (Text × Text)
  | [] => .error .unclosedString
  | '\'' :: cs => .ok ([], cs)
  | '\\' :: [] => .error .unclosedString
  | '\\' :: c :: cs => (readPlainString cs).map fun (s, rest) => (c :: s, rest)
  | c :: cs => (readPlainString cs).map fun (s, rest) => (c :: s, rest)

/-- Reads a raw string up to three quotes in a row. -/
def readRawString : Text → Except ReadError (Text × Text)
  | [] => .error .unclosedString
  | '\'' :: '\'' :: '\'' :: cs => .ok ([], cs)
  | c :: cs => (readRawString cs).map fun (s, rest) => (c :: s, rest)

/-- Reads a string whose first quote has been read (`expression::get_string`). -/
def readString : Text → Except ReadError (Text × Text)
  | '\'' :: '\'' :: cs => readRawString cs
  | '\'' :: cs => .ok ([], cs)
  | cs => readPlainString cs

/-! ## Numbers and names -/

/-- The longest name at the start of a text, and what follows it (`expression::get_identifier`). -/
def readName (s : Text) : Text × Text := (s.takeWhile Text.isNameChar, s.dropWhile Text.isNameChar)

/-- Characters that a name may start with. -/
def isNameStart (c : Char) : Bool := c.isAlpha || c == '_'

/-- Reads an integer: an optional minus sign and all the digits that follow
    (`expression::get_integer`). -/
def readInteger (s : Text) : Except ReadError (Int64 × Text) :=
  let (sign, rest) :=
    match s with
    | '-' :: rest => (['-'], rest)
    | rest => ([], rest)
  match Integer.parse? (sign ++ rest.takeWhile Char.isDigit) with
  | some n => .ok (n, rest.dropWhile Char.isDigit)
  | none => .error .invalidNumber

/-! ## Argument lists -/

/-- Reads the next token, or only a blank, from a text that is not at its end (one round of
    `expression::lex_arguments`). -/
def readToken (c : Char) (cs : Text) : Except ReadError (Option Token × Text) :=
  if c = '(' then .ok (some .opening, cs)
  else if c = ')' then .ok (some .closing, cs)
  else if c = ',' then .ok (some .comma, cs)
  else if c = '\'' then (readString cs).map fun (s, rest) => (some (.string s), rest)
  else if c = '$' then
    match cs with
    | '(' :: cs =>
      match readReference? cs with
      | some (ref, rest) => .ok (some (.reference ref), rest)
      | none => .error .unclosedVariable
    | d :: _ =>
      if isNameStart d then .ok (some (.name (readName cs).1), (readName cs).2)
      else .error .danglingDollar
    | [] => .error .danglingDollar
  else if c.isDigit || c == '-' then
    (readInteger (c :: cs)).map fun (n, rest) => (some (.integer n), rest)
  else if Text.isBlank c then .ok (none, cs)
  else .error (.unexpectedCharacter c)

/-- Reads tokens up to the parenthesis that closes the list, where `depth` parentheses are open (the
    loop of `expression::lex_arguments`). Every step reads a character, so `fuel` steps suffice for
    a shorter text. -/
def readTokens : (fuel depth : Nat) → Text → Except ReadError (List Token × Text)
  | 0, _, _ => .error .unclosedArguments
  | _ + 1, _, [] => .error .unclosedArguments
  | fuel + 1, depth, c :: cs =>
    match readToken c cs with
    | .error e => .error e
    | .ok (none, rest) => readTokens fuel depth rest
    | .ok (some token, rest) =>
      if token = .closing ∧ depth ≤ 1 then .ok ([token], rest)
      else
        let depth :=
          match token with
          | .opening => depth + 1
          | .closing => depth - 1
          | _ => depth
        (readTokens fuel depth rest).map fun (tokens, rest) => (token :: tokens, rest)

end EdgeInclude
