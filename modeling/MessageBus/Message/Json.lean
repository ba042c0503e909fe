import MessageBus.Json.Access
import MessageBus.Message.Catalogue
import MessageBus.Serializer

/-!
# Messages as JSON

A message is described by the name of a type of the catalogue and by its fields. Its form shows its
name, its id, the types it can be read as, and its text.
-/

set_option autoImplicit false

namespace MessageBus

namespace Message

/-- The message that a value describes. -/
def ofJson? (j : Json) : Option Message := do
  let t ← Catalogue.find? (j.textAt "type")
  return ⟨t, ← t.codec.decode MessageType.maxOpen (j.fieldOrEmpty "fields")⟩

/-- The form of a message. -/
def form (m : Message) : Json :=
  .object [("name", .string m.name), ("id", .string m.id), ("is", .array [.string m.name]),
    ("json", match m.write with
      | .ok text => .string text
      | .error _ => .null)]

end Message

/-- The types that a value registers, in a field of its own; without one the usual ones. -/
def Registry.ofJson (j : Json) : Registry :=
  match j.field? "registry" with
  | none => ⟨Catalogue.usual⟩
  | some names => ⟨names.items.filterMap fun n => Catalogue.find? n.text⟩

end MessageBus
