import MessageBus.Json

/-!
# Writing JSON

The compact form: no blanks, fields in order, and escapes only where they are needed.
-/

set_option autoImplicit false

namespace MessageBus.Json

/-- A hexadecimal digit, in lower case. -/
def hexChar (n : Nat) : Char := if n < 10 then Char.ofNat (0x30 + n) else Char.ofNat (0x57 + n)

/-- The form of one character inside a string: the mark, the backslash and the control characters
are escaped. -/
def escapeChar (c : Char) : List Char :=
  if c == '"' then ['\\', '"']
  else if c == '\\' then ['\\', '\\']
  else if c == '\x08' then ['\\', 'b']
  else if c == '\x0c' then ['\\', 'f']
  else if c == '\n' then ['\\', 'n']
  else if c == '\r' then ['\\', 'r']
  else if c == '\t' then ['\\', 't']
  else if c.toNat < 0x20 then
    ['\\', 'u', '0', '0', hexChar (c.toNat / 16), hexChar (c.toNat % 16)]
  else [c]

/-- A string between quotation marks. -/
def writeString (s : String) : String := String.ofList ('"' :: s.toList.flatMap escapeChar ++ ['"'])

/-- The digits after the point, with the point in front of them: so many, and the number they
spell. -/
def writeFraction : Option (Nat × Nat) → String
  | some (count, value) =>
    "." ++ String.ofList (List.replicate (count - (toString value).length) '0') ++ toString value
  | none => ""

/-- The exponent, with its mark. -/
def writeExponent : Option Int → String
  | some e => "e" ++ toString e
  | none => ""

/-- A number as it was written. -/
def writeNumber (n : Numeral) : String :=
  (if n.negative then "-" else "") ++ toString n.whole ++ writeFraction n.fraction ++
    writeExponent n.exponent

mutual

/-- The compact form of a value. What is unreadable has none and is written as `null`. -/
def write : Json → String
  | .null => "null"
  | .bool true => "true"
  | .bool false => "false"
  | .number n => writeNumber n
  | .string s => writeString s
  | .array items => "[" ++ writeItems items ++ "]"
  | .object fields => "\x7b" ++ writeFields fields ++ "\x7d"
  | .unreadable => "null"

/-- Values with commas between them. -/
def writeItems : List Json → String
  | [] => ""
  | [v] => write v
  | v :: rest => write v ++ "," ++ writeItems rest

/-- Fields with commas between them. -/
def writeFields : List (String × Json) → String
  | [] => ""
  | [(k, v)] => writeString k ++ ":" ++ write v
  | (k, v) :: rest => writeString k ++ ":" ++ write v ++ "," ++ writeFields rest

end

end MessageBus.Json
