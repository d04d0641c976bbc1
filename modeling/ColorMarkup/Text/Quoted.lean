import ColorMarkup.Text
import ColorMarkup.Unicode.ClusterBreak
import ColorMarkup.Unicode.Printable

/-!
# Quoted texts

A text quoted for a reader: in double quotes, on one line, and with every character that would not
be seen by itself written as an escape.  This file holds `escape`, the quoted form of one character,
and `quoted`, that of a text.
-/

namespace ColorMarkup.Text

/-- The code point of `c` in braces, in hexadecimal digits without leading zeros. -/
def codePointEscape (c : Char) : Text :=
  ['\\', 'u', '\x7b'] ++ Nat.toDigits 16 c.toNat ++ ['\x7d']

/-- One character as it stands between the quotes: the quote, the backslash and the common controls
have short escapes; combining characters and those that do not print show their code point. -/
def escape (c : Char) : Text :=
  if c = '\x00' then ['\\', '0']
  else if c = '\t' then ['\\', 't']
  else if c = '\r' then ['\\', 'r']
  else if c = '\n' then ['\\', 'n']
  else if c = '\\' then ['\\', '\\']
  else if c = '"' then ['\\', '"']
  else if Unicode.isPrintable c && !Unicode.isCombining c then [c]
  else codePointEscape c

/-- The quoted form of a text. -/
def quoted (text : Text) : Text :=
  '"' :: text.flatMap escape ++ ['"']

end ColorMarkup.Text
