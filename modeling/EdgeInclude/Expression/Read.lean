import EdgeInclude.Expression.Token

/-!
# Reading expressions

An expression in a document starts with a dollar sign: `$(name)`,
`$(name{key})`, or `$name(…)` with the name of a library function. What looks
like a call of a library function but cannot be read as one is refused, with
the reason; any other dollar sign is plain text.

A model of what `expression::try_evaluate_interpolated` reads before it
evaluates, with `expression::parse_call`, `expression::parse_expr` and
`expression::parse_arguments`.
-/

namespace EdgeInclude

namespace Expr

mutual

/-- Reads an argument from tokens (`expression::parse_expr`). The fuel bounds the number of
    tokens. -/
def ofTokens : Nat → List Token → Except ReadError (Expr × List Token)
  | 0, _ => .error .unexpectedEnd
  | _ + 1, [] => .error .unexpectedEnd
  | _ + 1, .integer n :: rest => .ok (.integer n, rest)
  | _ + 1, .string s :: rest => .ok (.string s, rest)
  | _ + 1, .reference ref :: rest => .ok (.reference ref, rest)
  | fuel + 1, .name f :: rest => callOfTokens fuel f rest
  | _ + 1, _ :: _ => .error .unexpectedStart

/-- Reads the argument list of a call of `f` (`expression::parse_arguments`). -/
def callOfTokens : Nat → Text → List Token → Except ReadError (Expr × List Token)
  | 0, _, _ => .error .missingArguments
  | _ + 1, f, .opening :: .closing :: rest => .ok (.call f [], rest)
  | fuel + 1, f, .opening :: rest =>
    (argumentsOfTokens fuel rest).map fun (args, rest) => (.call f args, rest)
  | _ + 1, _, _ => .error .missingArguments

/-- Reads arguments with commas between them, and the parenthesis after the last (the loop of
    `expression::parse_arguments`). -/
def argumentsOfTokens : Nat → List Token → Except ReadError (List Expr × List Token)
  | 0, _ => .error .unexpectedEnd
  | fuel + 1, tokens =>
    match ofTokens fuel tokens with
    | .error e => .error e
    | .ok (arg, .closing :: rest) => .ok ([arg], rest)
    | .ok (arg, .comma :: rest) =>
      (argumentsOfTokens fuel rest).map fun (args, rest) => (arg :: args, rest)
    | .ok _ => .error .unexpectedInArguments

end

/-- Reads the argument list of a call of `f` from the text after its name
    (`expression::lex_arguments` and `expression::parse_call`). -/
def readCall (f s : Text) : Except ReadError (Expr × Text) :=
  match readTokens (s.length + 1) 0 s with
  | .error e => .error e
  | .ok (tokens, rest) =>
    match callOfTokens (3 * tokens.length + 3) f tokens with
    | .error e => .error e
    | .ok (e, []) => .ok (e, rest)
    | .ok _ => .error .trailingTokens

/-- What stands at a place of a document. -/
inductive Reading where
  /-- No expression. -/
  | plain
  /-- A call that cannot be read. -/
  | refused (reason : ReadError)
  /-- An expression and the text after it. -/
  | expression (e : Expr) (rest : Text)

/-- Reads the expression at the start of a text, where `known` says which names are those of
    functions (`expression::try_evaluate_interpolated`). -/
def read (known : Text → Bool) : Text → Reading
  | '$' :: '(' :: cs =>
    match readReference? cs with
    | some (ref, rest) => .expression (.reference ref) rest
    | none => .plain
  | '$' :: c :: cs =>
    if isNameStart c then
      let (f, rest) := readName (c :: cs)
      if known f && rest.head? == some '(' then
        match readCall f rest with
        | .ok (e, rest) => .expression e rest
        | .error reason => .refused reason
      else .plain
    else .plain
  | _ => .plain

end Expr

end EdgeInclude
