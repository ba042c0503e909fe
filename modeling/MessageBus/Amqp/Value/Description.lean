import MessageBus.Amqp.Value
import MessageBus.Decimal.Shortest
import MessageBus.Text.Quoted

/-!
# Header values in diagnostics

A diagnostic shows a header value as the name of its kind with what it holds in parentheses. Bytes
are shown as their numbers and a table as its keys with their values, in the order of the keys.
Floating-point numbers are shown with the fewest digits that tell them from all others.
-/

set_option autoImplicit false

namespace MessageBus.Amqp

/-- What is shown between two marks, with commas. -/
def listed (left right : String) (items : List String) : String :=
  left ++ String.intercalate ", " items ++ right

/-- How bytes are shown. -/
def describeBytes (bs : Bytes) : String := listed "[" "]" (bs.map fun b => toString b.toNat)

/-- How a short text is shown. -/
def describeShort (s : String) : String := "ShortString(" ++ quoted s ++ ")"

/-! ## Floating-point numbers -/

/-- How a decimal is shown. From `10^-4` up to `10^16` its digits stand around the point, with at
least one on either side; a smaller or greater one has an exponent. -/
def describeDecimal (d : Decimal.Numeral10) : String :=
  let digits := toString d.digits
  let zeros (n : Int) := String.ofList (List.replicate n.toNat '0')
  let leading := d.exponent + digits.length - 1
  let (first, rest) := digits.toList.splitAt (max 1 (leading + 1).toNat)
  if leading < -4 ∨ 16 ≤ leading then
    let (first, rest) := digits.toList.splitAt 1
    String.ofList (first ++ if rest.isEmpty then [] else '.' :: rest) ++ "e" ++ toString leading
  else if 0 ≤ d.exponent then digits ++ zeros d.exponent ++ ".0"
  else if 0 ≤ leading then String.ofList (first ++ '.' :: rest)
  else "0." ++ zeros (-leading - 1) ++ digits

/-- How the floating-point number is shown that some bits spell. -/
def describeFloat (l : Decimal.Layout) (bits : Nat) : String :=
  let signed (negative : Bool) (s : String) := if negative then "-" ++ s else s
  match Decimal.Reading.ofBits l bits with
  | .notANumber => "NaN"
  | .infinity negative => signed negative "inf"
  | .zero negative => signed negative "0.0"
  | .finite negative b => signed negative (describeDecimal b.shortest)

/-! ## Values -/

namespace Value

mutual

/-- How a header value is shown. -/
def describe : Value → String
  | .bool b => "Boolean(" ++ toString b ++ ")"
  | .int8 n => "ShortShortInt(" ++ toString n.toInt ++ ")"
  | .uint8 n => "ShortShortUInt(" ++ toString n.toNat ++ ")"
  | .int16 n => "ShortInt(" ++ toString n.toInt ++ ")"
  | .uint16 n => "ShortUInt(" ++ toString n.toNat ++ ")"
  | .int32 n => "LongInt(" ++ toString n.toInt ++ ")"
  | .uint32 n => "LongUInt(" ++ toString n.toNat ++ ")"
  | .int64 n => "LongLongInt(" ++ toString n.toInt ++ ")"
  | .timestamp n => "Timestamp(" ++ toString n.toNat ++ ")"
  | .float b => "Float(" ++ describeFloat .single b.toNat ++ ")"
  | .double b => "Double(" ++ describeFloat .double b.toNat ++ ")"
  | .decimal s n =>
    "DecimalValue(DecimalValue \x7b scale: " ++ toString s.toNat ++ ", value: " ++
      toString n.toNat ++ " \x7d)"
  | .shortString s => "ShortString(" ++ describeShort s ++ ")"
  | .longString bs => "LongString(LongString(" ++ describeBytes bs ++ "))"
  | .byteArray bs => "ByteArray(ByteArray(" ++ describeBytes bs ++ "))"
  | .array items => "FieldArray(FieldArray(" ++ listed "[" "]" (describeItems items) ++ "))"
  | .table entries =>
    "FieldTable(FieldTable(" ++ listed "\x7b" "\x7d" (describeEntries entries) ++ "))"
  | .void => "Void"

/-- How some header values are shown. -/
def describeItems : List Value → List String
  | [] => []
  | v :: rest => describe v :: describeItems rest

/-- How the entries of a table are shown. -/
def describeEntries : List (String × Value) → List String
  | [] => []
  | (k, v) :: rest => (describeShort k ++ ": " ++ describe v) :: describeEntries rest

end

end Value

/-- How a header table is shown. -/
def Table.describe (t : Table) : String := listed "\x7b" "\x7d" (Value.describeEntries t.entries)

end MessageBus.Amqp
