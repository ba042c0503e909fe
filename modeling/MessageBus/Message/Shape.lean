import MessageBus.Dict
import MessageBus.Message

/-!
# Shapes of message fields

The codec of a record whose fields have shapes. `encode` turns a record into JSON, `decode` reads
one back, opening no more containers than it is allowed. A record is read from an object, whose
unknown keys are passed over, or from an array with exactly its fields in order.
-/

set_option autoImplicit false

namespace MessageBus

/-- What a field may hold. -/
inductive Shape where
  | text
  | flag
  | integer (low high : Int)
  | list (item : Shape)
  | dictionary (item : Shape)
  | optional (item : Shape)
  /-- A record of the type being described. -/
  | again
deriving DecidableEq, Inhabited, Repr

/-- The fields of a record, in order. -/
abbrev RecordShape := List (String × Shape)

namespace RecordShape

/-! ## Writing -/

mutual

/-- The JSON form of a datum. -/
def encode (r : RecordShape) : Datum → Json
  | .text s => .string s
  | .flag b => .bool b
  | .integer n => .ofInt n
  | .list items => .array (encodeList r items)
  | .dictionary entries => .object (encodeEntries r entries)
  | .absent => .null
  | .present d => encode r d
  | .record fields => .object (encodeFields r r fields)

/-- The JSON forms of the items of a list. -/
def encodeList (r : RecordShape) : List Datum → List Json
  | [] => []
  | d :: rest => encode r d :: encodeList r rest

/-- The JSON forms of the entries of a dictionary. -/
def encodeEntries (r : RecordShape) : List (String × Datum) → List (String × Json)
  | [] => []
  | (k, d) :: rest => (k, encode r d) :: encodeEntries r rest

/-- The JSON forms of the fields of a record, each under its name. -/
def encodeFields (r : RecordShape) : RecordShape → List Datum → List (String × Json)
  | (k, _) :: names, d :: rest => (k, encode r d) :: encodeFields r names rest
  | _, _ => []

end

/-! ## Reading -/

/-- How a value inside a container is read; `none` where no further container may be opened. -/
abbrev Inner := Option (Shape → Json → Option Datum)

/-- The value of a field of an object: a field that is optional may be missing, and no field may be
given twice. -/
def decodeField (inner : Shape → Json → Option Datum) (fields : List (String × Json)) :
    String × Shape → Option Datum
  | (name, shape) =>
    match fields.filter (·.1 == name), shape with
    | [(_, v)], _ => inner shape v
    | [], .optional _ => some .absent
    | _, _ => none

/-- A record, read from an object or an array. -/
def decodeRecord (r : RecordShape) (inner : Shape → Json → Option Datum) : Json → Option Datum
  | .object fields => (r.mapM (decodeField inner fields)).map .record
  | .array items =>
    if items.length = r.length then
      ((r.zip items).mapM fun e => inner e.1.2 e.2).map .record
    else none
  | _ => none

/-- The entries of a dictionary; of a key given twice the last value stays. -/
def decodeEntries (inner : Json → Option Datum) (fields : List (String × Json)) :
    Option (List (String × Datum)) := do
  return (Dict.ofList (← fields.mapM fun e => (inner e.2).map fun d => (e.1, d))).entries

/-- One value, with `inner` for the values inside a container. -/
def decodeLevel (r : RecordShape) (inner : Inner) : Shape → Json → Option Datum
  | .text, .string s => some (.text s)
  | .flag, .bool b => some (.flag b)
  | .integer low high, .number n => do
    let i ← n.integer?
    if low ≤ i ∧ i ≤ high then some (.integer i) else none
  | .list item, .array items => do return .list (← items.mapM ((← inner) item))
  | .dictionary item, .object fields => do
    return .dictionary (← decodeEntries ((← inner) item) fields)
  | .optional _, .null => some .absent
  | .optional item, j => (decodeLevel r inner item j).map .present
  | .again, j => do decodeRecord r (← inner) j
  | _, _ => none

/-- A value of a shape in which at most so many containers are open at once. -/
def decode (r : RecordShape) : Nat → Shape → Json → Option Datum
  | 0 => decodeLevel r none
  | n + 1 => decodeLevel r (some (decode r n))

end RecordShape

/-! ## Types of messages -/

/-- A datum is a value of a shape. -/
inductive Fits (r : RecordShape) : Shape → Datum → Prop where
  | text (s : String) : Fits r .text (.text s)
  | flag (b : Bool) : Fits r .flag (.flag b)
  | integer {low high n : Int} (h : low ≤ n ∧ n ≤ high) : Fits r (.integer low high) (.integer n)
  | list {item : Shape} {items : List Datum} (h : ∀ d ∈ items, Fits r item d) :
      Fits r (.list item) (.list items)
  | dictionary {item : Shape} {entries : List (String × Datum)}
      (hsorted : (entries.map Prod.fst).Pairwise (· < ·)) (h : ∀ e ∈ entries, Fits r item e.2) :
      Fits r (.dictionary item) (.dictionary entries)
  | absent (item : Shape) : Fits r (.optional item) .absent
  | present {item : Shape} {d : Datum} (h : Fits r item d) : Fits r (.optional item) (.present d)
  | record {fields : List Datum} (hlength : fields.length = r.length)
      (h : ∀ e ∈ r.zip fields, Fits r e.1.2 e.2) : Fits r .again (.record fields)

namespace RecordShape

/-- The codec of a record. -/
def codec (r : RecordShape) : Codec where
  IsValue fields := Fits r .again (.record fields)
  encode fields := .ok (r.encode (.record fields))
  decode n j :=
    match r.decode n .again j with
    | some (.record fields) => some fields
    | _ => none

/-- The text that a field holds. -/
def textAt (r : RecordShape) (name : String) (fields : List Datum) : String :=
  match ((r.map Prod.fst).zip fields).lookup name with
  | some (.text s) => s
  | _ => ""

end RecordShape

/-- The messages of a name whose fields have shapes; one of the fields may hold their id. -/
def MessageType.ofShape (name : String) (r : RecordShape) (idField : Option String := none) :
    MessageType where
  name
  codec := r.codec
  id fields := (idField.map fun field => r.textAt field fields).getD ""

/-- The same, where no message can be written. -/
def MessageType.unwritable (t : MessageType) : MessageType :=
  { t with codec := { t.codec with encode := fun fields => .error ("refused " ++ t.id fields) } }

end MessageBus
