import MessageBus.Text.Utf8

/-!
# Logins

How a client shows a broker who it is: the mechanism it names, and the response that goes with it.
-/

set_option autoImplicit false

namespace MessageBus.Amqp

/-- A way to log in. -/
inductive Mechanism where
  /-- The user and the password, each behind a null character. -/
  | plain
  /-- Somebody else vouches for the client. -/
  | external
  /-- The user and the password as the entries of a table. -/
  | amqPlain
  /-- A demonstration, in which the password would follow later. -/
  | demo
deriving DecidableEq, Inhabited, Repr

/-- A user and a password, and how they are shown. -/
structure Login where
  mechanism : Mechanism := .plain
  user : String
  password : String
deriving DecidableEq, Inhabited, Repr

namespace Mechanism

/-- The name of a mechanism in the options of an address. -/
def optionName : Mechanism → String
  | plain => "plain"
  | external => "external"
  | amqPlain => "amqplain"
  | demo => "rabbit-cr-demo"

/-- The name of a mechanism on the wire. -/
def wireName : Mechanism → String
  | plain => "PLAIN"
  | external => "EXTERNAL"
  | amqPlain => "AMQPLAIN"
  | demo => "RABBIT-CR-DEMO"

end Mechanism

namespace Login

/-- The four bytes of a length, the highest one first. -/
def lengthBytes (n : Nat) : Bytes :=
  [n >>> 24, n >>> 16, n >>> 8, n].map Nat.toUInt8

/-- An entry of a table on the wire: a key, whose length is one byte, and a long string. -/
def wireEntry (key value : String) : Bytes :=
  let key := Utf8.encode key
  let value := Utf8.encode value
  key.length.toUInt8 :: key ++ 0x53 :: lengthBytes value.length ++ value

/-- The response of a client. -/
def response (l : Login) : Bytes :=
  match l.mechanism with
  | .plain => 0 :: Utf8.encode l.user ++ 0 :: Utf8.encode l.password
  | .external => []
  | .amqPlain => wireEntry "LOGIN" l.user ++ wireEntry "PASSWORD" l.password
  | .demo => Utf8.encode l.user

end Login

end MessageBus.Amqp
