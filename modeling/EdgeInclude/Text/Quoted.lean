import EdgeInclude.Text.Letter

/-!
# Quoted texts

Texts in double quotes, in which every character that cannot be shown as it is
stands as an escape.
-/

namespace EdgeInclude

namespace Text

/-- The escape `\u` with the code point in hexadecimal between braces. -/
def codeEscape (c : Char) : Text :=
  ['\\', 'u', '\x7b'] ++ Nat.toDigits 16 c.toNat ++ ['\x7d']

/-- A character as it stands inside double quotes. -/
def quotedChar (c : Char) : Text :=
  if c = '\x00' then ['\\', '0']
  else if c = '\t' then ['\\', 't']
  else if c = '\r' then ['\\', 'r']
  else if c = '\n' then ['\\', 'n']
  else if c = '"' then ['\\', '"']
  else if c = '\\' then ['\\', '\\']
  else if isGraphemeExtend c || !isPrintable c then codeEscape c
  else [c]

/-- A text in double quotes (the `Debug` of `str`). -/
def quoted (s : Text) : Text := '"' :: s.flatMap quotedChar ++ ['"']

end Text

end EdgeInclude
