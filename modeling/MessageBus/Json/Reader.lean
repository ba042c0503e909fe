import MessageBus.Json.Token

/-!
# Reading JSON

The grammar half of reading: tokens become a tree. The reader keeps the containers that are open as
a list, so any depth of nesting is read.
-/

set_option autoImplicit false

namespace MessageBus.Json

/-- A container that is open: the values or entries it has so far (last one first), and for an
object the key whose value is being read. -/
inductive Frame where
  | array (done : List Json)
  | object (done : List (Option String × Json)) (key : Option String)

/-- What the reader waits for. -/
inductive Place where
  /-- A value; right after `[` the array may also end. -/
  | value (mayClose : Bool)
  /-- A key of an object with these entries; right after the opening the object may also end. -/
  | key (done : List (Option String × Json)) (mayClose : Bool)
  /-- The colon after a key. -/
  | colon (done : List (Option String × Json)) (key : Option String)
  /-- A value is complete. -/
  | after (v : Json)

/-- The object of some entries (last one first): one key that spells no text makes the whole object
unreadable. -/
def objectOf (entries : List (Option String × Json)) : Json :=
  match entries.reverse.mapM fun e => e.1.map fun k => (k, e.2) with
  | some fields => .object fields
  | none => .unreadable

/-- One token read at a place, with the open containers, innermost first. -/
def readToken (t : Token) (opened : List Frame) : Place → Option (List Frame × Place)
  | .value mayClose =>
    match t with
    | .null => some (opened, .after .null)
    | .bool b => some (opened, .after (.bool b))
    | .number n => some (opened, .after (.number n))
    | .string (some s) => some (opened, .after (.string s))
    | .string none => some (opened, .after .unreadable)
    | .openArray => some (.array [] :: opened, .value true)
    | .openObject => some (opened, .key [] true)
    | .closeArray =>
      match opened, mayClose with
      | .array done :: opened, true => some (opened, .after (.array done.reverse))
      | _, _ => none
    | _ => none
  | .key done mayClose =>
    match t with
    | .string k => some (opened, .colon done k)
    | .closeObject => if mayClose then some (opened, .after (objectOf done)) else none
    | _ => none
  | .colon done k =>
    match t with
    | .colon => some (.object done k :: opened, .value false)
    | _ => none
  | .after v =>
    match t, opened with
    | .comma, .array done :: opened => some (.array (v :: done) :: opened, .value false)
    | .closeArray, .array done :: opened => some (opened, .after (.array (v :: done).reverse))
    | .comma, .object done k :: opened => some (opened, .key ((k, v) :: done) false)
    | .closeObject, .object done k :: opened => some (opened, .after (objectOf ((k, v) :: done)))
    | _, _ => none

/-- The tree of the tokens that are left: one value, and nothing after it. -/
def readTokens (opened : List Frame) (place : Place) : List Token → Option Json
  | [] =>
    match opened, place with
    | [], .after v => some v
    | _, _ => none
  | t :: rest =>
    match readToken t opened place with
    | some (opened, place) => readTokens opened place rest
    | none => none

/-- The JSON value that some bytes spell. -/
def read? (bs : Bytes) : Option Json := (tokens? bs).bind (readTokens [] (.value false))

end MessageBus.Json
