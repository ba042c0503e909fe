import MessageBus.Metadata
import MessageBus.Proofs.Dict

/-!
# Metadata in header tables

Metadata that are written into a header table replace the headers of their own keys and no others,
and are read back as they were. A table that somebody else has written gives the metadata of the
headers that say something metadata can hold, and what was read once is read again as it is. What a
value says, whatever its kind and width, is its `Content`. Main statement: `header_law`.
-/

set_option autoImplicit false

namespace MessageBus

/-! ## What values say -/

/-- What a value of metadata says. -/
inductive Content where
  | flag (b : Bool)
  | integer (n : Int)
  | text (s : String)
deriving DecidableEq

/-- What a value of metadata says, apart from its kind. -/
def HeaderValue.content : HeaderValue → Content
  | shortText s | text s => .text s
  | bool b => .flag b
  | int16 n => .integer n.toInt
  | int32 n => .integer n.toInt
  | int64 n => .integer n.toInt
  | uint16 n => .integer n.toNat
  | uint32 n => .integer n.toNat
  | uint64 n => .integer n.toNat

/-- What a header says, if metadata can hold it: flags, integers, timestamps and both kinds of
strings are held; fractions, byte arrays, and what is made of other values are not. -/
def Amqp.Value.content? : Amqp.Value → Option Content
  | .bool b => some (.flag b)
  | .int8 n => some (.integer n.toInt)
  | .int16 n => some (.integer n.toInt)
  | .int32 n => some (.integer n.toInt)
  | .int64 n => some (.integer n.toInt)
  | .uint8 n => some (.integer n.toNat)
  | .uint16 n => some (.integer n.toNat)
  | .uint32 n => some (.integer n.toNat)
  | .timestamp n => some (.integer n.toNat)
  | .shortString s => some (.text s)
  | .longString bs => some (.text (Utf8.decodeLossy bs))
  | .float _ | .double _ | .decimal _ _ | .byteArray _ | .array _ | .table _ | .void => none

namespace HeaderValue

/-- A header is read exactly if metadata can hold what it says, and says the same afterwards: eight
bits are widened to sixteen without a change. -/
theorem content_ofAmqp? (v : Amqp.Value) : (ofAmqp? v).map content = v.content? := by
  cases v with
  | int8 n => simp [ofAmqp?, content, Amqp.Value.content?]
  | uint8 n => simp [ofAmqp?, content, Amqp.Value.content?]
  | _ => rfl

/-- A header that is written says what the value said. -/
theorem content?_toAmqp (v : HeaderValue) : v.toAmqp.content? = some v.content := by
  rw [← content_ofAmqp?, ofAmqp?_toAmqp, Option.map_some]

end HeaderValue

/-! ## Writing and reading -/

namespace Metadata

theorem entries_writeTo (m : Metadata) :
    (m.writeTo .empty).entries = m.entries.map fun e => (e.1, e.2.toAmqp) := by
  refine Dict.entries_ofList ?_
  rw [List.map_map]
  exact m.sorted

/-- Metadata are read from the headers they were written to. -/
theorem ofTable_writeTo (m : Metadata) : ofTable (m.writeTo .empty) = m := by
  refine Dict.ext ?_
  have himage (e : String × HeaderValue) :
      Dict.image HeaderValue.ofAmqp? (e.1, e.2.toAmqp) = some e := by
    rw [Dict.image, HeaderValue.ofAmqp?_toAmqp, Option.map_some]
  rw [ofTable, Dict.entries_filterMap, entries_writeTo, List.filterMap_map]
  calc m.entries.filterMap (Dict.image HeaderValue.ofAmqp? ∘ fun e => (e.1, e.2.toAmqp))
      = m.entries.filterMap some := List.filterMap_congr fun e _ => himage e
    _ = m.entries := List.filterMap_some

/-- At a key of the metadata stands what was written there, at any other key what stood there. -/
theorem get?_writeTo (m : Metadata) (t : Amqp.Table) (k : String) :
    (m.writeTo t).get? k = ((m.get? k).map HeaderValue.toAmqp).or (t.get? k) := by
  have hnodup : ((m.entries.map fun e => (e.1, e.2.toAmqp)).map Prod.fst).Nodup := by
    rw [List.map_map]
    exact m.nodup_keys
  have hfind : ((m.entries.map fun e => (e.1, e.2.toAmqp)).find? (·.1 == k)).map Prod.snd =
      (m.get? k).map HeaderValue.toAmqp := by
    rw [List.find?_map, Dict.get?, Option.map_map, Option.map_map]
    rfl
  rw [writeTo, Dict.get?_insertAll hnodup, hfind]

/-- What holds of metadata and of a header table, whatever they are. -/
structure HeaderLaw (m : Metadata) (t : Amqp.Table) : Prop where
  /-- Writing sets the headers of all keys of the metadata and leaves every other header alone. -/
  written (k : String) : (m.writeTo t).get? k = ((m.get? k).map HeaderValue.toAmqp).or (t.get? k)
  /-- What is written says what the metadata say. -/
  faithful (k : String) (v : HeaderValue) (h : m.get? k = some v) :
    ((m.writeTo t).get? k).bind Amqp.Value.content? = some v.content
  /-- What was written on its own is read back. -/
  readBack : ofTable (m.writeTo .empty) = m
  /-- The keys that are read are those of the headers that metadata can hold, and they say the
  same. -/
  read (k : String) :
    ((ofTable t).get? k).map HeaderValue.content = (t.get? k).bind Amqp.Value.content?
  /-- What was read is read again as it is, once it was written. -/
  settled : ofTable ((ofTable t).writeTo .empty) = ofTable t

theorem header_law (m : Metadata) (t : Amqp.Table) : HeaderLaw m t where
  written := m.get?_writeTo t
  faithful k v h := by
    rw [get?_writeTo, h, Option.map_some, Option.some_or, Option.bind_some,
      HeaderValue.content?_toAmqp]
  readBack := m.ofTable_writeTo
  read k := by
    rw [ofTable, Dict.get?_filterMap, Option.map_bind]
    exact congrArg (t.get? k).bind (funext HeaderValue.content_ofAmqp?)
  settled := (ofTable t).ofTable_writeTo

end Metadata

end MessageBus
