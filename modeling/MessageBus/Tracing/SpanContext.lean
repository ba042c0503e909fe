import MessageBus.Text.Blank

/-!
# Span contexts

What identifies a span across processes: the trace, the span, and the vendors' state. A span context
travels as two texts, `traceparent` and `tracestate`; this module writes and reads both.
-/

set_option autoImplicit false

namespace MessageBus

/-- The vendors' entries that travel with a trace, in order. -/
abbrev TraceState := List (String × String)

/-- The identity of a span. A trace id has 128 bits, a span id 64; neither is zero. -/
structure SpanContext where
  trace : Nat
  span : Nat
  state : TraceState := []
deriving DecidableEq, Inhabited, Repr

/-- The span a piece of work happens under, if any. -/
abbrev TraceContext := Option SpanContext

/-! ## Hexadecimal numbers -/

/-- The lower-case hexadecimal digits of a number, padded to a width. -/
def hexPadded (width n : Nat) : String :=
  let digits := Nat.toDigits 16 n
  String.ofList (List.replicate (width - digits.length) '0' ++ digits)

/-- The value of a hexadecimal digit of either case. -/
def hexValue? (c : Char) : Option Nat :=
  if '0' ≤ c && c ≤ '9' then some (c.toNat - '0'.toNat)
  else if 'a' ≤ c && c ≤ 'f' then some (c.toNat - 'a'.toNat + 10)
  else if 'A' ≤ c && c ≤ 'F' then some (c.toNat - 'A'.toNat + 10)
  else none

/-- A hexadecimal number of at most so many bits: digits of either case after an optional `+`. -/
def parseHex (bits : Nat) (cs : List Char) : Option Nat := do
  let digits := match cs with
    | '+' :: rest => rest
    | _ => cs
  if digits.isEmpty then none
  let n ← digits.foldlM (fun n c => (hexValue? c).map (16 * n + ·)) 0
  if n < 1 <<< bits then some n else none

/-! ## The vendors' state -/

namespace TraceState

/-- The text of the state. -/
def text (s : TraceState) : String := String.intercalate "," (s.map fun e => e.1 ++ "=" ++ e.2)

/-- A character that may stand in the key of an entry; `@` has a place of its own. -/
def isKeyChar (c : Char) : Bool :=
  ('a' ≤ c && c ≤ 'z') || ('0' ≤ c && c ≤ '9') || c == '_' || c == '-' || c == '*' || c == '/'

/-- A character with which a key, or the vendor part of a key, begins. -/
def isKeyStart (c : Char) : Bool := ('a' ≤ c && c ≤ 'z') || ('0' ≤ c && c ≤ '9')

/-- A key: at most 256 bytes of key characters that begin with a letter or digit. One `@` may stand
before the vendor, at most 13 bytes that begin with a letter or digit. -/
def isKey (key : List Char) : Bool :=
  (String.ofList key).utf8ByteSize ≤ 256 &&
    key.all (fun c => isKeyChar c || c == '@') &&
    key.head?.all isKeyStart &&
    match key.dropWhile (· != '@') with
    | [] => true
    | _ :: vendor => vendor.length ≤ 13 && !vendor.contains '@' && vendor.head?.all isKeyStart

/-- A value: at most 256 bytes without separators. -/
def isValue (value : List Char) : Bool :=
  (String.ofList value).utf8ByteSize ≤ 256 && !value.contains ',' && !value.contains '='

/-- One entry. The value begins after every `=` that stands in a row. -/
def parseEntry (entry : List Char) : Option (String × String) :=
  let key := entry.takeWhile (· != '=')
  match entry.dropWhile (· != '=') with
  | [] => none
  | rest =>
    let value := rest.dropWhile (· == '=')
    if isKey key && isValue value then some (String.ofList key, String.ofList value) else none

/-- The state of a text; one entry that is none makes it empty. -/
def parse (s : String) : TraceState :=
  ((splitTerminated ',' s.toList).mapM parseEntry).getD []

end TraceState

/-! ## The parent -/

namespace SpanContext

/-- The header that carries trace and span. -/
def parentKey : String := "traceparent"

/-- The header that carries the vendors' state. -/
def stateKey : String := "tracestate"

/-- The trace id as it is written. -/
def traceText (c : SpanContext) : String := hexPadded 32 c.trace

/-- The span id as it is written. -/
def spanText (c : SpanContext) : String := hexPadded 16 c.span

/-- The text of trace and span, in version 0 and marked as sampled. -/
def parentText (c : SpanContext) : String := "00-" ++ c.traceText ++ "-" ++ c.spanText ++ "-01"

/-- An id: a hexadecimal number without uppercase letters. -/
def parseId (bits : Nat) (cs : List Char) : Option Nat :=
  if cs.any (fun c => 'A' ≤ c && c ≤ 'Z') then none else parseHex bits cs

/-- Trace and span of a text, where they may still be zero: at least four parts, version below `ff`;
version 0 has exactly four parts and flags of at most 2. -/
def parseParent (s : String) : Option (Nat × Nat) := do
  match splitTerminated '-' (trimBlanks s.toList) with
  | version :: trace :: span :: flags :: more =>
    let version ← parseHex 8 version
    if version > 254 || (version == 0 && !more.isEmpty) then none
    let trace ← parseId 128 trace
    let span ← parseId 64 span
    let flags ← parseHex 8 flags
    if version == 0 && flags > 2 then none
    some (trace, span)
  | _ => none

end SpanContext

end MessageBus
