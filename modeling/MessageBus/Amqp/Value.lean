import MessageBus.Dict
import MessageBus.Text.Utf8

/-!
# Header values

The values that header tables and declaration arguments hold, each with the width it has on the
wire. Short strings and keys are text; long strings are bytes.
-/

set_option autoImplicit false

namespace MessageBus.Amqp

/-- A value of a header table. Floating-point values are kept as their bits. -/
inductive Value where
  | bool (b : Bool)
  | int8 (n : Int8)
  | uint8 (n : UInt8)
  | int16 (n : Int16)
  | uint16 (n : UInt16)
  | int32 (n : Int32)
  | uint32 (n : UInt32)
  | int64 (n : Int64)
  | timestamp (n : UInt64)
  | float (bits : UInt32)
  | double (bits : UInt64)
  | decimal (scale : UInt8) (value : UInt32)
  | shortString (s : String)
  | longString (bs : Bytes)
  | byteArray (bs : Bytes)
  | array (items : List Value)
  | table (entries : List (String × Value))
  | void
deriving Inhabited

/-- The long string that spells a text. -/
def Value.ofText (s : String) : Value := .longString (Utf8.encode s)

/-- A header table, or the arguments of a declaration. -/
abbrev Table := Dict Value

end MessageBus.Amqp
