import MessageBus.Json
import MessageBus.Text.Utf8

/-!
# JSON tokens

The lexical half of reading JSON: bytes become punctuation, words, numbers and strings. Blanks are
space, tab, line feed and carriage return. A string may hold any byte from `0x20` on and any `\u`
escape; it spells a text only if its bytes do and its surrogate escapes come in pairs.
-/

set_option autoImplicit false

namespace MessageBus.Json

/-- The tokens of a JSON text. A string that spells no text is `string none`. -/
inductive Token where
  | openArray
  | closeArray
  | openObject
  | closeObject
  | comma
  | colon
  | null
  | bool (b : Bool)
  | number (n : Numeral)
  | string (s : Option String)
deriving DecidableEq, Inhabited, Repr

/-! ## Strings -/

/-- What a string literal is made of: plain bytes and escaped code units. -/
inductive Piece where
  | byte (b : UInt8)
  | unit (u : UInt16)

/-- The value of a hexadecimal digit. -/
def hexDigit? (b : UInt8) : Option UInt16 :=
  if 0x30 ≤ b && b ≤ 0x39 then some (b - 0x30).toUInt16
  else if 0x61 ≤ b && b ≤ 0x66 then some (b - 0x57).toUInt16
  else if 0x41 ≤ b && b ≤ 0x46 then some (b - 0x37).toUInt16
  else none

/-- The value of four hexadecimal digits. -/
def hexUnit? (a b c d : UInt8) : Option UInt16 := do
  return ((← hexDigit? a) <<< 12) ||| ((← hexDigit? b) <<< 8) ||| ((← hexDigit? c) <<< 4) |||
    (← hexDigit? d)

/-- The byte that a one-letter escape stands for. -/
def escaped? (e : UInt8) : Option UInt8 :=
  if e == 0x22 then some 0x22        -- quotation mark
  else if e == 0x5C then some 0x5C   -- backslash
  else if e == 0x2F then some 0x2F   -- slash
  else if e == 0x62 then some 0x08   -- b
  else if e == 0x66 then some 0x0C   -- f
  else if e == 0x6E then some 0x0A   -- n
  else if e == 0x72 then some 0x0D   -- r
  else if e == 0x74 then some 0x09   -- t
  else none

/-- The pieces of a string up to its closing mark, last piece first, and what follows the mark. -/
def scanString (done : List Piece) : Bytes → Option (List Piece × Bytes)
  | [] => none
  | 0x5C :: 0x75 :: a :: b :: c :: d :: rest =>
    match hexUnit? a b c d with
    | some u => scanString (.unit u :: done) rest
    | none => none
  | 0x5C :: e :: rest =>
    match escaped? e with
    | some b => scanString (.byte b :: done) rest
    | none => none
  | 0x22 :: rest => some (done, rest)
  | b :: rest => if b < 0x20 || b == 0x5C then none else scanString (.byte b :: done) rest

/-- The bytes that pieces spell; a surrogate without its partner spells nothing. -/
def spell : List Piece → Option Bytes
  | [] => some []
  | .byte b :: rest => (spell rest).map (b :: ·)
  | .unit u :: .unit v :: rest =>
    if 0xD800 ≤ u && u < 0xDC00 then
      if 0xDC00 ≤ v && v < 0xE000 then
        let n := 0x10000 + (u.toNat - 0xD800) * 0x400 + (v.toNat - 0xDC00)
        (spell rest).map (String.utf8EncodeChar (Char.ofNat n) ++ ·)
      else none
    else if 0xDC00 ≤ u && u < 0xE000 then none
    else (spell (.unit v :: rest)).map (String.utf8EncodeChar (Char.ofNat u.toNat) ++ ·)
  | .unit u :: rest =>
    if 0xD800 ≤ u && u < 0xE000 then none
    else (spell rest).map (String.utf8EncodeChar (Char.ofNat u.toNat) ++ ·)

/-- The text of a string literal, from its pieces. -/
def textOf (pieces : List Piece) : Option String := (spell pieces).bind Utf8.decode?

/-! ## Numbers -/

/-- A decimal digit. -/
def isDigit (b : UInt8) : Bool := 0x30 ≤ b && b ≤ 0x39

/-- The number that digits spell. -/
def digitsValue (bs : Bytes) : Nat := bs.foldl (fun n b => 10 * n + (b.toNat - 0x30)) 0

/-- The digits at the front, and the rest. -/
def spanDigits (bs : Bytes) : Bytes × Bytes := (bs.takeWhile isDigit, bs.dropWhile isDigit)

/-- The digits of an exponent, behind its mark and its sign. -/
def scanPower (negative : Bool) (bs : Bytes) : Option (Option Int × Bytes) :=
  match spanDigits bs with
  | ([], _) => none
  | (ds, rest) =>
    let n : Int := digitsValue ds
    some (some (if negative then -n else n), rest)

/-- The exponent of a number, if one begins here. -/
def scanExponent (bs : Bytes) : Option (Option Int × Bytes) :=
  match bs with
  | e :: rest =>
    if e == 0x65 || e == 0x45 then
      match rest with
      | 0x2D :: r => scanPower true r
      | 0x2B :: r => scanPower false r
      | r => scanPower false r
    else some (none, bs)
  | [] => some (none, [])

/-- The fraction of a number, if one begins here. -/
def scanFraction (bs : Bytes) : Option (Option (Nat × Nat) × Bytes) :=
  match bs with
  | 0x2E :: rest =>
    match spanDigits rest with
    | ([], _) => none
    | (ds, rest) => some (some (ds.length, digitsValue ds), rest)
  | _ => some (none, bs)

/-- The number at the front: no digit stands before or after a leading zero. -/
def scanNumber (negative : Bool) (bs : Bytes) : Option (Numeral × Bytes) := do
  let (whole, rest) ← match spanDigits bs with
    | ([], _) => none
    | (0x30 :: _ :: _, _) => none
    | (ds, rest) => some (digitsValue ds, rest)
  let (fraction, rest) ← scanFraction rest
  let (exponent, rest) ← scanExponent rest
  return ({ negative, whole, fraction, exponent }, rest)

/-! ## Tokens -/

/-- A blank between tokens. -/
def isBlank (b : UInt8) : Bool := b == 0x20 || b == 0x09 || b == 0x0A || b == 0x0D

/-- The token at the front of bytes that begin with no blank, and the rest. -/
def scanToken (bs : Bytes) : Option (Token × Bytes) :=
  match bs with
  | 0x5B :: rest => some (.openArray, rest)
  | 0x5D :: rest => some (.closeArray, rest)
  | 0x7B :: rest => some (.openObject, rest)
  | 0x7D :: rest => some (.closeObject, rest)
  | 0x2C :: rest => some (.comma, rest)
  | 0x3A :: rest => some (.colon, rest)
  | 0x22 :: rest => (scanString [] rest).map fun r => (.string (textOf r.1.reverse), r.2)
  | 0x6E :: 0x75 :: 0x6C :: 0x6C :: rest => some (.null, rest)
  | 0x74 :: 0x72 :: 0x75 :: 0x65 :: rest => some (.bool true, rest)
  | 0x66 :: 0x61 :: 0x6C :: 0x73 :: 0x65 :: rest => some (.bool false, rest)
  | 0x2D :: rest => (scanNumber true rest).map fun r => (.number r.1, r.2)
  | _ => (scanNumber false bs).map fun r => (.number r.1, r.2)

/-- The tokens of some bytes, after those already found (last one first). Each token takes at least
one byte, so the number of bytes bounds the work. -/
def scanAll (done : List Token) : Nat → Bytes → Option (List Token)
  | fuel, bs =>
    match bs.dropWhile isBlank with
    | [] => some done.reverse
    | b :: rest =>
      match fuel with
      | 0 => none
      | fuel + 1 =>
        match scanToken (b :: rest) with
        | some (t, rest) => scanAll (t :: done) fuel rest
        | none => none

/-- The tokens of some bytes. -/
def tokens? (bs : Bytes) : Option (List Token) := scanAll [] bs.length bs

end MessageBus.Json
