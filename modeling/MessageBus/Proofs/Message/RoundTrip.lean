import Mathlib.Data.List.Forall2
import MessageBus.Json.Access
import MessageBus.Message.Shape
import MessageBus.Proofs.Dict
import MessageBus.Proofs.Json.RoundTrip
import MessageBus.Serializer

/-!
# Messages there and back

A codec is faithful if it reads what it writes (`Codec.Faithful`). A message of such a type is read
from its bytes as it was, unless it opens more containers than a reader allows: see
`deserialize_serialize`. The codec of a record takes its own JSON form apart again
(`decode_encode`), where none of its shapes is optional twice over.
-/

set_option autoImplicit false

namespace MessageBus

/-! ## Containers that are open at once -/

namespace Json

theorem depth_le_depthOfItems {v : Json} {items : List Json} (h : v ∈ items) :
    v.depth ≤ depthOfItems items := by
  induction items with
  | nil => cases h
  | cons w items ih =>
    rw [depthOfItems]
    rcases List.mem_cons.1 h with rfl | h
    · exact Nat.le_max_left _ _
    · exact Nat.le_trans (ih h) (Nat.le_max_right _ _)

theorem depth_le_depthOfFields {e : String × Json} {fields : List (String × Json)}
    (h : e ∈ fields) : e.2.depth ≤ depthOfFields fields := by
  induction fields with
  | nil => cases h
  | cons f fields ih =>
    rw [depthOfFields]
    rcases List.mem_cons.1 h with rfl | h
    · exact Nat.le_max_left _ _
    · exact Nat.le_trans (ih h) (Nat.le_max_right _ _)

end Json

/-! ## Records that are read back -/

/-- Whether a shape allows for nothing. -/
def Shape.isOptional : Shape → Bool
  | .optional _ => true
  | _ => false

/-- Whether nothing and something can be told apart everywhere in a shape. -/
def Shape.isSound : Shape → Bool
  | .list item | .dictionary item => item.isSound
  | .optional item => !item.isOptional && item.isSound
  | _ => true

/-- A record whose values can be told apart in JSON. -/
structure RecordShape.Sound (r : RecordShape) : Prop where
  /-- No two fields share a name. -/
  names : (r.map Prod.fst).Nodup
  shapes : ∀ e ∈ r, e.2.isSound = true

namespace RecordShape

variable {r : RecordShape}

theorem encodeList_eq (r : RecordShape) (items : List Datum) :
    encodeList r items = items.map (encode r) := by
  induction items with
  | nil => rfl
  | cons d items ih => rw [encodeList, ih, List.map_cons]

theorem encodeEntries_eq (r : RecordShape) (entries : List (String × Datum)) :
    encodeEntries r entries = entries.map fun e => (e.1, encode r e.2) := by
  induction entries with
  | nil => rfl
  | cons e entries ih => rw [encodeEntries, ih, List.map_cons]

theorem encodeFields_eq (r names : RecordShape) (fields : List Datum) :
    encodeFields r names fields = (names.zip fields).map fun e => (e.1.1, encode r e.2) := by
  induction names generalizing fields with
  | nil => cases fields <;> rfl
  | cons name names ih =>
    cases fields with
    | nil => rfl
    | cons d fields => rw [encodeFields, ih, List.zip_cons_cons, List.map_cons]

/-! ## The JSON form is plain -/

theorem isProper_ofInt (n : Int) : (Numeral.ofInt n).isProper = true := by
  cases n <;> rfl

mutual

theorem isPlain_encode (r : RecordShape) : ∀ d : Datum, (r.encode d).isPlain = true
  | .text _ => rfl
  | .flag _ => rfl
  | .integer n => isProper_ofInt n
  | .list items => arePlain_encodeList r items
  | .dictionary entries => havePlain_encodeEntries r entries
  | .absent => rfl
  | .present d => isPlain_encode r d
  | .record fields => havePlain_encodeFields r r fields

theorem arePlain_encodeList (r : RecordShape) : ∀ items : List Datum,
    Json.arePlain (encodeList r items) = true
  | [] => rfl
  | d :: items => by
    rw [encodeList, Json.arePlain, isPlain_encode r d, arePlain_encodeList r items]
    rfl

theorem havePlain_encodeEntries (r : RecordShape) : ∀ entries : List (String × Datum),
    Json.havePlain (encodeEntries r entries) = true
  | [] => rfl
  | (_, d) :: entries => by
    rw [encodeEntries, Json.havePlain, isPlain_encode r d, havePlain_encodeEntries r entries]
    rfl

theorem havePlain_encodeFields (r : RecordShape) : ∀ (names : RecordShape) (fields : List Datum),
    Json.havePlain (encodeFields r names fields) = true
  | [], [] => rfl
  | [], _ :: _ => rfl
  | _ :: _, [] => rfl
  | _ :: names, d :: fields => by
    rw [encodeFields, Json.havePlain, isPlain_encode r d, havePlain_encodeFields r names fields]
    rfl

end

/-! ## Taking the form apart -/

theorem mapM_of_forall₂ {α β : Type} {f : β → Option α} {bs : List β} {as : List α}
    (h : List.Forall₂ (fun b a => f b = some a) bs as) : bs.mapM f = some as := by
  induction h with
  | nil => rfl
  | cons ha _ ih =>
    rw [List.mapM_cons, ha, ih]
    rfl

theorem mapM_map_of_forall {α β : Type} {f : β → Option α} {g : α → β} {l : List α}
    (h : ∀ a ∈ l, f (g a) = some a) : (l.map g).mapM f = some l :=
  mapM_of_forall₂ (List.forall₂_map_left_iff.2 (List.forall₂_same.2 h))

theorem filter_key {α : Type} {l : List (String × α)} (hnodup : (l.map Prod.fst).Nodup)
    {e : String × α} (he : e ∈ l) : l.filter (·.1 == e.1) = [e] := by
  induction l with
  | nil => cases he
  | cons f l ih =>
    rw [List.map_cons, List.nodup_cons] at hnodup
    rcases List.mem_cons.1 he with rfl | he
    · have hnone : l.filter (·.1 == e.1) = [] := by
        refine List.filter_eq_nil_iff.2 fun f hf heq => hnodup.1 ?_
        rw [← beq_iff_eq.1 heq]
        exact List.mem_map_of_mem hf
      rw [List.filter_cons_of_pos (by simp), hnone]
    · have hne : f.1 ≠ e.1 := by
        intro heq
        rw [heq] at hnodup
        exact hnodup.1 (List.mem_map_of_mem he)
      rw [List.filter_cons_of_neg (by simpa using hne), ih hnodup.2 he]

/-- Nothing but what is optional has no form. -/
theorem encode_ne_null {shape : Shape} {d : Datum} (h : Fits r shape d)
    (hshape : shape.isOptional = false) : r.encode d ≠ .null := by
  cases h <;> first | exact Json.noConfusion | cases hshape

theorem decodeLevel_optional {inner : Inner} {item : Shape} {j : Json} (hj : j ≠ .null) :
    decodeLevel r inner (.optional item) j = (decodeLevel r inner item j).map .present := by
  rw [decodeLevel]
  exact hj

/-- No name stands twice in the form of a record. -/
theorem nodup_encodedNames (hnodup : (r.map Prod.fst).Nodup) {fields : List Datum}
    (hlength : fields.length = r.length) :
    (((r.zip fields).map fun e => (e.1.1, encode r e.2)).map Prod.fst).Nodup := by
  rw [List.map_map, show (Prod.fst ∘ fun e : (String × Shape) × Datum => (e.1.1, encode r e.2)) =
    Prod.fst ∘ Prod.fst from rfl, ← List.map_map, List.map_fst_zip (Nat.le_of_eq hlength.symm)]
  exact hnodup

/-- What is decoded with room for containers is decoded one level down in each of them. -/
theorem decode_succ (r : RecordShape) (n : Nat) (shape : Shape) (j : Json) :
    decode r (n + 1) shape j = decodeLevel r (some (decode r n)) shape j := rfl

/-- A datum that fits is read from its JSON form, if there is room for its containers. -/
theorem decode_encode (hr : r.Sound) {shape : Shape} {d : Datum} (h : Fits r shape d)
    (hshape : shape.isSound = true) (n : Nat) (hdepth : (r.encode d).depth ≤ n) :
    decode r n shape (r.encode d) = some d := by
  induction h generalizing n with
  | text s => cases n <;> rfl
  | flag b => cases n <;> rfl
  | @integer low high i hbounds =>
    cases n <;> simp [decode, decodeLevel, encode, Json.ofInt, hbounds]
  -- a container takes one level of the room, and its members have what is left
  | @list item items _ ih =>
    rw [encode, encodeList_eq, Json.depth] at hdepth
    obtain ⟨n, rfl⟩ : ∃ m, n = m + 1 := ⟨n - 1, by omega⟩
    have hitems : (items.map (encode r)).mapM (decode r n item) = some items := by
      refine mapM_map_of_forall fun d hd => ih d hd hshape n ?_
      have hle := Json.depth_le_depthOfItems (List.mem_map_of_mem (f := encode r) hd)
      omega
    rw [encode, encodeList_eq, decode_succ, decodeLevel]
    simp only [Option.bind_eq_bind, Option.bind_some, hitems]
    rfl
  | @dictionary item entries hsorted _ ih =>
    rw [encode, encodeEntries_eq, Json.depth] at hdepth
    obtain ⟨n, rfl⟩ : ∃ m, n = m + 1 := ⟨n - 1, by omega⟩
    have hentries : (entries.map fun e => (e.1, encode r e.2)).mapM
        (fun e => (decode r n item e.2).map fun d => (e.1, d)) = some entries := by
      refine mapM_map_of_forall fun e he => ?_
      have hle : (encode r e.2).depth ≤ Json.depthOfFields _ := Json.depth_le_depthOfFields
        (List.mem_map_of_mem (f := fun e : String × Datum => (e.1, encode r e.2)) he)
      rw [ih e he hshape n (by omega)]
      rfl
    rw [encode, encodeEntries_eq, decode_succ, decodeLevel]
    simp only [decodeEntries, Option.bind_eq_bind, Option.bind_some, hentries, Option.pure_def,
      Dict.entries_ofList hsorted]
  | absent item => cases n <;> rfl
  | @present item d hd ih =>
    rw [Shape.isSound, Bool.and_eq_true, Bool.not_eq_true'] at hshape
    -- otherwise it would be taken for a datum that is absent
    have hnull : r.encode d ≠ .null := encode_ne_null hd hshape.1
    have hsame := ih hshape.2 n hdepth
    rw [encode]
    cases n <;> (rw [decode] at hsame ⊢; rw [decodeLevel_optional hnull, hsame]; rfl)
  | @record fields hlength _ ih =>
    rw [encode, encodeFields_eq, Json.depth] at hdepth
    obtain ⟨n, rfl⟩ : ∃ m, n = m + 1 := ⟨n - 1, by omega⟩
    have hfield : ∀ e ∈ r.zip fields,
        decodeField (decode r n) ((r.zip fields).map fun e => (e.1.1, encode r e.2)) e.1 =
          some e.2 := by
      rintro ⟨⟨name, shape⟩, d⟩ he
      have hmem : (name, encode r d) ∈ (r.zip fields).map fun e => (e.1.1, encode r e.2) :=
        List.mem_map_of_mem (f := fun e : (String × Shape) × Datum => (e.1.1, encode r e.2)) he
      have hle : (encode r d).depth ≤ Json.depthOfFields _ := Json.depth_le_depthOfFields hmem
      simp only [decodeField, filter_key (nodup_encodedNames hr.names hlength) hmem]
      exact ih ((name, shape), d) he (hr.shapes _ (List.of_mem_zip he).1) n
        (Nat.le_trans hle (by omega))
    have hall : r.mapM (decodeField (decode r n)
        ((r.zip fields).map fun e => (e.1.1, encode r e.2))) = some fields :=
      mapM_of_forall₂ (List.forall₂_iff_zip.2 ⟨hlength.symm, fun he => hfield (_, _) he⟩)
    rw [encode, encodeFields_eq, decode_succ, decodeLevel]
    simp only [Option.bind_eq_bind, Option.bind_some, decodeRecord, hall]
    rfl

end RecordShape

/-! ## Messages -/

/-- A codec that reads what it writes. -/
structure Codec.Faithful (c : Codec) : Prop where
  /-- What it writes can stand in a text, ... -/
  plain : ∀ fields j, c.IsValue fields → c.encode fields = .ok j → j.isPlain = true
  /-- ... and describes what was written, if there is room for all its containers, ... -/
  reads : ∀ fields j n, c.IsValue fields → c.encode fields = .ok j → j.depth ≤ n →
    c.decode n j = some fields
  /-- ... and nothing if there is not. -/
  refuses : ∀ fields j n, c.IsValue fields → c.encode fields = .ok j → n < j.depth →
    c.decode n j = none
  /-- Only messages of the type are read. -/
  values : ∀ n j fields, c.decode n j = some fields → c.IsValue fields

section

variable {m : Message} {j : Json} {e : Encoded}

/-- The text of a message, read. -/
theorem MessageType.read?_write (hc : m.type.codec.Faithful) (hm : m.IsValue)
    (hj : m.json = .ok j) :
    m.type.read? (Utf8.encode j.write) =
      (m.type.codec.decode maxOpen j).map (Message.mk m.type) := by
  rw [read?, Json.read?_encode_write (hc.plain _ _ hm hj), Option.bind_eq_bind, Option.bind_some]
  cases m.type.codec.decode maxOpen j <;> rfl

theorem encode_write_ne_nil (hplain : j.isPlain = true) :
    (Utf8.encode j.write).isEmpty = false := by
  rw [← Bool.not_eq_true, List.isEmpty_iff]
  intro hnil
  have hread := Json.read?_encode_write hplain
  rw [hnil] at hread
  cases hread

theorem exists_json_of_serialize (he : serialize m = .ok e) :
    ∃ j, m.json = .ok j ∧ e = ⟨Utf8.encode j.write, jsonContentType⟩ := by
  unfold serialize Message.write at he
  cases hj : m.json with
  | error reason =>
    rw [hj] at he
    cases he
  | ok j =>
    rw [hj] at he
    exact ⟨j, rfl, (Except.ok.inj he).symm⟩

end

/-- Reading a body that is there, and JSON, of a type that is registered. -/
theorem Registry.deserialize_of_find? {r : Registry} {t : MessageType} {data : Bytes}
    {name contentType : String} (hr : r.find? name = some t) (hdata : data.isEmpty = false)
    (hc : contentType = "" ∨ contentType = jsonContentType) :
    r.deserialize data name contentType =
      match t.read? data with
      | some m => .ok m
      | none =>
        .error (.deserialization s!"type `{name}`: the body is no message of this type") := by
  have hjson : (if contentType.isEmpty then jsonContentType else contentType) =
      jsonContentType := by
    rcases hc with rfl | rfl <;> decide
  unfold deserialize
  simp only [hjson, hdata, hr]
  rfl

/-- A message whose type has a codec that reads what it writes, and in whose text no more containers
are open at once than a reader allows. -/
structure Message.Readable (m : Message) : Prop where
  faithful : m.type.codec.Faithful
  value : m.IsValue
  shallow : ∀ j, m.json = .ok j → j.depth ≤ MessageType.maxOpen

/-- What is written of a readable message is read back, where its type is registered. -/
theorem Registry.deserialize_serialize {r : Registry} {m : Message} {e : Encoded}
    (hr : r.find? m.name = some m.type) (hm : m.Readable) (he : serialize m = .ok e) :
    e.contentType = jsonContentType ∧ r.deserialize e.data m.name e.contentType = .ok m := by
  obtain ⟨j, hj, rfl⟩ := exists_json_of_serialize he
  have hplain : j.isPlain = true := hm.faithful.plain _ _ hm.value hj
  refine ⟨rfl, ?_⟩
  rw [deserialize_of_find? hr (encode_write_ne_nil hplain) (.inr rfl),
    MessageType.read?_write hm.faithful hm.value hj,
    hm.faithful.reads _ _ _ hm.value hj (hm.shallow j hj)]
  rfl

end MessageBus
