import MessageBus.Text.Hidden

/-!
# Quoted text

How names are shown in a diagnostic: between quotation marks, with an escape for the mark, the
backslash and the control characters that have a short one. Any other character that does not show
is written as its number.
-/

set_option autoImplicit false

namespace MessageBus

/-- The number of a character in hexadecimal digits, between braces. -/
def numberEscape (c : Char) : List Char :=
  ['\\', 'u', '\x7b'] ++ Nat.toDigits 16 c.toNat ++ ['\x7d']

/-- The quoted form of one character. -/
def quoteChar (c : Char) : List Char :=
  if c == '"' then ['\\', '"']
  else if c == '\\' then ['\\', '\\']
  else if c == '\n' then ['\\', 'n']
  else if c == '\r' then ['\\', 'r']
  else if c == '\t' then ['\\', 't']
  else if c == '\x00' then ['\\', '0']
  else if isHidden c then numberEscape c
  else [c]

/-- A text between quotation marks. -/
def quoted (s : String) : String :=
  String.ofList ('"' :: s.toList.flatMap quoteChar ++ ['"'])

end MessageBus
