/-
# Quoted text in messages

A text as a message quotes it: in double quotes, with escapes for the quote, the backslash, the common
controls and every character that is not visible.

* `escapeChar`: one character.
* `quoted`: a whole text.
-/
import HttpResource.Text.Visible

namespace HttpResource

namespace Text

/-- A code point as an escape in hexadecimal digits, without leading zeros. -/
def codePointEscape (c : Char) : List Char :=
  ['\\', 'u', '\x7b'] ++ Nat.toDigits 16 c.toNat ++ ['\x7d']

/-- How a character is shown inside double quotes. -/
def escapeChar (c : Char) : List Char :=
  if c = '\x00' then ['\\', '0']
  else if c = '\t' then ['\\', 't']
  else if c = '\r' then ['\\', 'r']
  else if c = '\n' then ['\\', 'n']
  else if c = '\x22' then ['\\', '\x22']
  else if c = '\\' then ['\\', '\\']
  else if isVisible c then [c]
  else codePointEscape c

def quoted (s : String) : String :=
  String.ofList (['\x22'] ++ s.toList.flatMap escapeChar ++ ['\x22'])

end Text

end HttpResource
