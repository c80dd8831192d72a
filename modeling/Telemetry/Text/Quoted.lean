import Telemetry.Text.Printable

/-!
# Quoted text

A text between double quotes, as error messages show it: what cannot be seen
as it stands is written as an escape.

* `escape`: one character; the usual short escapes, and the code point in
  hexadecimal for a character that is unprintable or attaches itself to the
  one before it;
* `quoted`: the whole text with its quotes.
-/

namespace Telemetry.Text

/-- A code point as an escape with lower-case hexadecimal digits. -/
def escapeCode (c : Char) : List Char :=
  ['\\', 'u', '\x7b'] ++ Nat.toDigits 16 c.toNat ++ ['\x7d']

/-- A character of a quoted text. -/
def escape (c : Char) : List Char :=
  if c = '\x00' then ['\\', '0']
  else if c = '\t' then ['\\', 't']
  else if c = '\r' then ['\\', 'r']
  else if c = '\n' then ['\\', 'n']
  else if c = '"' ∨ c = '\\' then ['\\', c]
  else if isExtending c || isUnprintable c then escapeCode c
  else [c]

/-- The text between double quotes, with escapes. -/
def quoted (s : String) : String :=
  String.ofList ('"' :: s.toList.flatMap escape ++ ['"'])

end Telemetry.Text
