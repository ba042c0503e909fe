/-!
# Text as bytes

Wire strings are bytes that mostly, but not always, spell text. `Utf8.encode` writes text,
`Utf8.decode?` reads bytes that spell text, and `Utf8.decodeLossy` reads any bytes, putting `U+FFFD`
for every longest piece that begins no character.
-/

set_option autoImplicit false

namespace MessageBus

/-- Raw bytes, as they stand in a message body or a long string. -/
abbrev Bytes := List UInt8

namespace Utf8

/-- The bytes of a text. -/
def encode (s : String) : Bytes := s.toByteArray.data.toList

/-- The text that some bytes spell, if they spell one. -/
def decode? (bs : Bytes) : Option String := String.fromUTF8? ⟨bs.toArray⟩

theorem decode?_encode (s : String) : decode? (encode s) = some s := by
  simp only [decode?, encode, String.fromUTF8?, Array.toArray_toList]
  exact dif_pos s.isValidUTF8

/-! ## Reading bytes that may not be text -/

/-- The range in which the second byte of a character lies, given the first, and the number of
bytes after it. -/
def lead? (b : UInt8) : Option (UInt8 × UInt8 × Nat) :=
  if b < 0xC2 then none
  else if b < 0xE0 then some (0x80, 0xBF, 0)
  else if b == 0xE0 then some (0xA0, 0xBF, 1)
  else if b == 0xED then some (0x80, 0x9F, 1)
  else if b < 0xF0 then some (0x80, 0xBF, 1)
  else if b == 0xF0 then some (0x90, 0xBF, 2)
  else if b < 0xF4 then some (0x80, 0xBF, 2)
  else if b == 0xF4 then some (0x80, 0x8F, 2)
  else none

/-- How many of the bytes, at most `n`, go on with the character begun. -/
def countTrailing : Nat → Bytes → Nat
  | n + 1, b :: bs => if 0x80 ≤ b && b ≤ 0xBF then countTrailing n bs + 1 else 0
  | _, _ => 0

/-- What the bytes begin with. -/
inductive Piece where
  /-- A character with so many bytes after its first one. -/
  | character (more : Nat)
  /-- The start of a character, broken off after so many bytes more. -/
  | broken (more : Nat)
  /-- The start of a character, cut off by the end of the bytes after so many bytes more. -/
  | cut (more : Nat)

/-- The first piece of nonempty bytes. -/
def firstPiece (b : UInt8) (rest : Bytes) : Piece :=
  if b < 0x80 then .character 0
  else
    match lead? b with
    | none => .broken 0
    | some (low, high, more) =>
      match rest with
      | [] => .cut 0
      | c :: rest' =>
        if low ≤ c && c ≤ high then
          let n := countTrailing more rest'
          if n == more then .character (n + 1)
          else if rest'.length == n then .cut (n + 1)
          else .broken (n + 1)
        else .broken 0

/-- The first piece of some bytes that is no character, after `before` bytes: where it begins, and
its length unless the end of the bytes cut it off. -/
def findFault (before : Nat) : Nat → Bytes → Option (Nat × Option Nat)
  | 0, _ => none
  | _, [] => none
  | fuel + 1, b :: rest =>
    match firstPiece b rest with
    | .character n => findFault (before + n + 1) fuel (rest.drop n)
    | .broken n => some (before, some (n + 1))
    | .cut _ => some (before, none)

/-- Where some bytes fail to spell a text. -/
def fault? (bs : Bytes) : Option (Nat × Option Nat) := findFault 0 bs.length bs

/-- The bytes with `U+FFFD` for each piece that is no character. -/
def mend : Nat → Bytes → Bytes
  | 0, _ => []
  | _, [] => []
  | fuel + 1, b :: rest =>
    match firstPiece b rest with
    | .character n => b :: rest.take n ++ mend fuel (rest.drop n)
    | .broken n | .cut n => 0xEF :: 0xBF :: 0xBD :: mend fuel (rest.drop n)

/-- The text of any bytes: what is no character becomes `U+FFFD`. -/
def decodeLossy (bs : Bytes) : String :=
  match decode? bs with
  | some s => s
  | none => (decode? (mend bs.length bs)).getD ""

theorem decodeLossy_encode (s : String) : decodeLossy (encode s) = s := by
  simp [decodeLossy, decode?_encode]

end Utf8

end MessageBus
