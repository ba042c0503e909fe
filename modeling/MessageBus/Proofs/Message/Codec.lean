import Mathlib.Data.List.Nodup
import MessageBus.Message.Catalogue
import MessageBus.Proofs.Json.Nesting
import MessageBus.Proofs.Message.RoundTrip

/-!
# What a registry reads

Reading and writing are inverse to each other as far as a text may be nested, whatever the types of
a registry are, if only their codecs read what they write. Main statement: `codec_law`. The codec of
a record does (`faithful_codec`): what it reads fits its shapes (`fits_of_decode`), and where too
many containers are open at once it reads nothing (`decode_encode_of_lt`).
-/

set_option autoImplicit false

namespace MessageBus

namespace RecordShape

variable {r : RecordShape}

/-! ## What is read fits -/

theorem forall₂_of_mapM {α β : Type} {f : β → Option α} {bs : List β} {as : List α}
    (h : bs.mapM f = some as) : List.Forall₂ (fun b a => f b = some a) bs as := by
  induction bs generalizing as with
  | nil =>
    obtain rfl : [] = as := by simpa using h
    exact .nil
  | cons b bs ih =>
    simp only [List.mapM_cons, Option.pure_def, Option.bind_eq_bind, Option.bind_eq_some_iff,
      Option.some.injEq] at h
    obtain ⟨a, ha, as, has, rfl⟩ := h
    exact .cons ha (ih has)

theorem exists_of_mapM {α β : Type} {f : β → Option α} {bs : List β} {as : List α}
    (h : bs.mapM f = some as) {a : α} (ha : a ∈ as) : ∃ b ∈ bs, f b = some a := by
  induction forall₂_of_mapM h with
  | nil => cases ha
  | @cons b a' bs as hb hrest ih =>
    rcases List.mem_cons.1 ha with rfl | ha
    · exact ⟨b, List.mem_cons_self, hb⟩
    · obtain ⟨b', hb', hread⟩ := ih (mapM_of_forall₂ hrest) ha
      exact ⟨b', List.mem_cons_of_mem b hb', hread⟩

theorem mapM_eq_none {α β : Type} {f : β → Option α} {bs : List β} {b : β} (hb : b ∈ bs)
    (h : f b = none) : bs.mapM f = none := by
  induction bs with
  | nil => cases hb
  | cons b' bs ih =>
    rw [List.mapM_cons]
    rcases List.mem_cons.1 hb with rfl | hb
    · rw [h]
      rfl
    · rw [ih hb]
      cases f b' <;> rfl

theorem fits_record {fields : List Datum} (h : List.Forall₂ (fun e d => Fits r e.2 d) r fields) :
    Fits r .again (.record fields) := by
  obtain ⟨hlength, hfits⟩ := List.forall₂_iff_zip.1 h
  exact .record hlength.symm fun e he => hfits he

/-- What a reader reads fits. -/
abbrev ReadsFitting (r : RecordShape) (f : Shape → Json → Option Datum) : Prop :=
  ∀ shape j d, f shape j = some d → Fits r shape d

theorem fits_of_decodeField {f : Shape → Json → Option Datum} (hf : ReadsFitting r f)
    {fields : List (String × Json)} {e : String × Shape} {d : Datum}
    (h : decodeField f fields e = some d) : Fits r e.2 d := by
  obtain ⟨name, shape⟩ := e
  unfold decodeField at h
  dsimp only at h
  split at h
  · exact hf _ _ _ h
  · obtain rfl := Option.some.inj h
    exact .absent _
  · cases h

theorem fits_of_decodeRecord {f : Shape → Json → Option Datum} (hf : ReadsFitting r f) {j : Json}
    {d : Datum} (h : decodeRecord r f j = some d) : Fits r .again d := by
  unfold decodeRecord at h
  split at h
  · obtain ⟨fields, hfields, rfl⟩ := Option.map_eq_some_iff.1 h
    exact fits_record ((forall₂_of_mapM hfields).imp fun _ _ he => fits_of_decodeField hf he)
  · next items =>
    split at h
    · next hlength =>
      obtain ⟨fields, hfields, rfl⟩ := Option.map_eq_some_iff.1 h
      have hitems : List.Forall₂ (fun e d => Fits r e.1.2 d) (r.zip items) fields :=
        (forall₂_of_mapM hfields).imp fun _ _ he => hf _ _ _ he
      have hnames : (r.zip items).map Prod.fst = r := List.map_fst_zip (Nat.le_of_eq hlength.symm)
      have hall : List.Forall₂ (fun e d => Fits r e.2 d) ((r.zip items).map Prod.fst) fields :=
        List.forall₂_map_left_iff.2 hitems
      rw [hnames] at hall
      exact fits_record hall
    · cases h
  · cases h

theorem fits_of_decodeEntries {f : Json → Option Datum} {item : Shape}
    (hf : ∀ j d, f j = some d → Fits r item d) {fields : List (String × Json)}
    {entries : List (String × Datum)} (h : decodeEntries f fields = some entries) :
    Fits r (.dictionary item) (.dictionary entries) := by
  obtain ⟨es, hes, hentries⟩ := Option.bind_eq_some_iff.1 h
  obtain rfl := Option.some.inj hentries
  have hall : ∀ e ∈ es, Fits r item e.2 := by
    intro e he
    obtain ⟨e', -, hread⟩ := exists_of_mapM hes he
    obtain ⟨d, hd, rfl⟩ := Option.map_eq_some_iff.1 hread
    exact hf _ _ hd
  exact .dictionary (Dict.ofList es).sorted fun e he => hall e (Dict.mem_of_mem_ofList he)

theorem fits_of_decodeLevel {inner : Inner} (hinner : ∀ f, inner = some f → ReadsFitting r f)
    {shape : Shape} {j : Json} {d : Datum} (h : decodeLevel r inner shape j = some d) :
    Fits r shape d := by
  -- by the cases of reading one value
  fun_induction decodeLevel r inner shape j generalizing d with
  | case1 s => exact Option.some.inj h ▸ .text s
  | case2 b => exact Option.some.inj h ▸ .flag b
  | case3 low high n =>
    obtain ⟨i, -, hi⟩ := Option.bind_eq_some_iff.1 h
    split at hi
    · next hbounds => exact Option.some.inj hi ▸ .integer hbounds
    · cases hi
  | case4 item items =>
    obtain ⟨f, hf, h⟩ := Option.bind_eq_some_iff.1 h
    obtain ⟨ds, hds, h⟩ := Option.bind_eq_some_iff.1 h
    refine Option.some.inj h ▸ .list fun d hd => ?_
    obtain ⟨j, -, hread⟩ := exists_of_mapM hds hd
    exact hinner f hf item j d hread
  | case5 item fields =>
    obtain ⟨f, hf, h⟩ := Option.bind_eq_some_iff.1 h
    obtain ⟨es, hes, h⟩ := Option.bind_eq_some_iff.1 h
    exact Option.some.inj h ▸ fits_of_decodeEntries (hinner f hf item) hes
  | case6 item => exact Option.some.inj h ▸ .absent item
  | case7 item j _ ih =>
    obtain ⟨d, hd, rfl⟩ := Option.map_eq_some_iff.1 h
    exact .present (ih hd)
  | case8 j =>
    obtain ⟨f, hf, h⟩ := Option.bind_eq_some_iff.1 h
    exact fits_of_decodeRecord (hinner f hf) h
  | case9 => cases h

/-- What is read of a shape is a value of it. -/
theorem fits_of_decode (n : Nat) : ReadsFitting r (decode r n) := by
  induction n with
  | zero =>
    intro shape j d h
    exact fits_of_decodeLevel (by simp) h
  | succ n ih =>
    intro shape j d h
    refine fits_of_decodeLevel ?_ h
    rintro _ ⟨⟩
    exact ih

/-! ## What is too deep is not read -/

theorem exists_of_lt_depthOfItems {items : List Json} {n : Nat} (h : n < Json.depthOfItems items) :
    ∃ v ∈ items, n < v.depth := by
  induction items with
  | nil => cases h
  | cons v items ih =>
    rw [Json.depthOfItems] at h
    by_cases hv : n < v.depth
    · exact ⟨v, List.mem_cons_self, hv⟩
    · obtain ⟨w, hw, hdepth⟩ := ih (by omega)
      exact ⟨w, List.mem_cons_of_mem v hw, hdepth⟩

theorem exists_of_lt_depthOfFields {fields : List (String × Json)} {n : Nat}
    (h : n < Json.depthOfFields fields) : ∃ e ∈ fields, n < e.2.depth := by
  induction fields with
  | nil => cases h
  | cons e fields ih =>
    rw [Json.depthOfFields] at h
    by_cases he : n < e.2.depth
    · exact ⟨e, List.mem_cons_self, he⟩
    · obtain ⟨f, hf, hdepth⟩ := ih (by omega)
      exact ⟨f, List.mem_cons_of_mem e hf, hdepth⟩

/-- A datum is not read from its JSON form if there is no room for its containers. -/
theorem decode_encode_of_lt (hr : r.Sound) {shape : Shape} {d : Datum} (h : Fits r shape d)
    (hshape : shape.isSound = true) (n : Nat) (hdepth : n < (r.encode d).depth) :
    decode r n shape (r.encode d) = none := by
  induction h generalizing n with
  | text s => cases hdepth
  | flag b => cases hdepth
  | integer _ => cases hdepth
  | absent item => cases hdepth
  -- one of the members has too little room, and a container is not read without all of them
  | @list item items _ ih =>
    rw [encode, encodeList_eq] at hdepth ⊢
    cases n with
    | zero => rfl
    | succ n =>
      obtain ⟨j, hj, hlt⟩ := exists_of_lt_depthOfItems (Nat.lt_of_succ_lt_succ hdepth)
      obtain ⟨d, hd, rfl⟩ := List.mem_map.1 hj
      rw [decode_succ, decodeLevel]
      simp only [Option.bind_eq_bind, Option.bind_some, mapM_eq_none hj (ih d hd hshape n hlt)]
      rfl
  | @dictionary item entries _ _ ih =>
    rw [encode, encodeEntries_eq] at hdepth ⊢
    cases n with
    | zero => rfl
    | succ n =>
      obtain ⟨_, hj, hlt⟩ := exists_of_lt_depthOfFields (Nat.lt_of_succ_lt_succ hdepth)
      obtain ⟨e, he, rfl⟩ := List.mem_map.1 hj
      have hentries : decodeEntries (decode r n item) (entries.map fun e => (e.1, encode r e.2)) =
          none := by
        have hnone : (decode r n item (r.encode e.2)).map (fun d => (e.1, d)) = none := by
          rw [ih e he hshape n hlt, Option.map_none]
        rw [decodeEntries, mapM_eq_none hj hnone]
        rfl
      rw [decode_succ, decodeLevel]
      simp only [Option.bind_eq_bind, Option.bind_some, hentries]
      rfl
  | @present item d hd ih =>
    rw [Shape.isSound, Bool.and_eq_true, Bool.not_eq_true'] at hshape
    have hnull : r.encode d ≠ .null := encode_ne_null hd hshape.1
    have hsame := ih hshape.2 n hdepth
    rw [encode]
    cases n <;> (rw [decode] at hsame ⊢; rw [decodeLevel_optional hnull, hsame]; rfl)
  | @record fields hlength _ ih =>
    rw [encode, encodeFields_eq] at hdepth ⊢
    cases n with
    | zero => rfl
    | succ n =>
      obtain ⟨_, hj, hlt⟩ := exists_of_lt_depthOfFields (Nat.lt_of_succ_lt_succ hdepth)
      obtain ⟨⟨⟨name, shape⟩, d⟩, he, rfl⟩ := List.mem_map.1 hj
      have hname : (name, shape) ∈ r := (List.of_mem_zip he).1
      have hnone : decodeField (decode r n)
          ((r.zip fields).map fun e => (e.1.1, encode r e.2)) (name, shape) = none := by
        simp only [decodeField, filter_key (nodup_encodedNames hr.names hlength) hj]
        exact ih ((name, shape), d) he (hr.shapes _ hname) n hlt
      rw [decode_succ, decodeLevel]
      simp only [Option.bind_eq_bind, Option.bind_some, decodeRecord, mapM_eq_none hname hnone]
      rfl

/-- The codec of a record reads what it writes, if its values can be told apart in JSON. -/
theorem faithful_codec (hr : r.Sound) : r.codec.Faithful where
  plain fields j _ h := by
    obtain rfl := Except.ok.inj h
    exact isPlain_encode r (.record fields)
  reads fields j n hfits h hdepth := by
    obtain rfl := Except.ok.inj h
    simp only [codec, decode_encode hr hfits rfl n hdepth]
  refuses fields j n hfits h hdepth := by
    obtain rfl := Except.ok.inj h
    simp only [codec, decode_encode_of_lt hr hfits rfl n hdepth]
  values n j fields h := by
    unfold codec at h
    dsimp only at h
    split at h
    · next hd =>
      obtain rfl := Option.some.inj h
      exact fits_of_decode n _ _ _ hd
    · cases h

/-- Where something that may be nothing is optional itself, nothing is read of what was there. -/
example : ¬(codec [("x", .optional (.optional .flag))]).Faithful := by
  intro h
  have hvalue : Fits [("x", .optional (.optional .flag))] .again (.record [.present .absent]) := by
    refine .record rfl ?_
    simp only [List.zip_cons_cons, List.zip_nil_right, List.forall_mem_cons]
    exact ⟨.present (.absent _), by simp⟩
  cases h.reads _ _ 1 hvalue rfl (by decide)

end RecordShape

theorem MessageType.faithful_unwritable {t : MessageType} (h : t.codec.Faithful) :
    t.unwritable.codec.Faithful where
  plain _ _ _ he := nomatch he
  reads _ _ _ _ he := nomatch he
  refuses _ _ _ _ he := nomatch he
  values := h.values

/-! ## Registries -/

namespace Registry

variable {r : Registry}

theorem name_of_find? {name : String} {t : MessageType} (h : r.find? name = some t) :
    t.name = name ∧ t ∈ r.types := by
  unfold find? at h
  have hname := List.find?_some h
  exact ⟨beq_iff_eq.1 hname, List.mem_reverse.1 (List.mem_of_find?_eq_some h)⟩

theorem find?_of_mem (hdistinct : (r.types.map MessageType.name).Nodup) {t : MessageType}
    (ht : t ∈ r.types) : r.find? t.name = some t := by
  have hname : (r.find? t.name).isSome = true :=
    List.find?_isSome.2 ⟨t, List.mem_reverse.2 ht, beq_self_eq_true _⟩
  obtain ⟨t', ht'⟩ := Option.isSome_iff_exists.1 hname
  obtain ⟨hsame, hmem⟩ := name_of_find? ht'
  rw [ht', List.inj_on_of_nodup_map hdistinct hmem ht hsame]

/-- Reading the bytes of a message gives the message, unless too many containers are open at once in
them: then it is refused. -/
def ReadsBack (r : Registry) (m : Message) (e : Encoded) (contentType : String) : Prop :=
  ∃ nesting, Json.nesting? e.data = some nesting ∧
    (nesting ≤ MessageType.maxOpen → r.deserialize e.data m.name contentType = .ok m) ∧
    (MessageType.maxOpen < nesting →
      ∃ reason, r.deserialize e.data m.name contentType = .error (.deserialization reason))

theorem readsBack_of_find? {m : Message} {e : Encoded} {contentType : String}
    (hr : r.find? m.name = some m.type) (hcodec : m.type.codec.Faithful) (hm : m.IsValue)
    (he : serialize m = .ok e) (hc : contentType = "" ∨ contentType = e.contentType) :
    r.ReadsBack m e contentType := by
  obtain ⟨j, hj, rfl⟩ := exists_json_of_serialize he
  have hplain := hcodec.plain _ _ hm hj
  have hread := deserialize_of_find? hr (encode_write_ne_nil hplain) hc
  rw [MessageType.read?_write hcodec hm hj] at hread
  refine ⟨j.depth, Json.nesting?_encode_write hplain, ?_, ?_⟩
  · intro hdepth
    rw [hread, hcodec.reads _ _ _ hm hj hdepth]
    rfl
  · intro hdepth
    rw [hread, hcodec.refuses _ _ _ hm hj hdepth]
    exact ⟨_, rfl⟩

/-- A message that was read is one of the type of that name. -/
theorem find?_of_deserialize {data : Bytes} {name contentType : String} {m : Message}
    (h : r.deserialize data name contentType = .ok m) :
    ∃ t, r.find? name = some t ∧ t.read? data = some m := by
  unfold deserialize at h
  dsimp only at h
  generalize (if contentType.isEmpty then jsonContentType else contentType) = c at h
  split_ifs at h
  cases hfind : r.find? name with
  | none =>
    rw [hfind] at h
    cases h
  | some t =>
    simp only [hfind] at h
    cases hread : t.read? data with
    | none =>
      rw [hread] at h
      cases h
    | some m' =>
      rw [hread] at h
      exact ⟨t, rfl, hread.trans (congrArg some (Except.ok.inj h))⟩

/-- A message that was read is one of the type it was read as. -/
theorem type_of_read? {t : MessageType} {bs : Bytes} {m : Message} (h : t.read? bs = some m) :
    m.type = t ∧ (t.codec.Faithful → m.IsValue) := by
  obtain ⟨j, -, h⟩ := Option.bind_eq_some_iff.1 h
  obtain ⟨fields, hfields, h⟩ := Option.bind_eq_some_iff.1 h
  obtain rfl := Option.some.inj h
  exact ⟨rfl, fun hcodec => hcodec.values _ _ _ hfields⟩

/-- What a registry reads and what is written go together. -/
structure CodecLaw (r : Registry) : Prop where
  /-- A message of a registered type that can be written is read back. -/
  written (hdistinct : (r.types.map MessageType.name).Nodup) (m : Message)
      (hregistered : m.type ∈ r.types) (hm : m.IsValue) (e : Encoded) (he : serialize m = .ok e)
      (contentType : String) (hc : contentType = "" ∨ contentType = e.contentType) :
    r.ReadsBack m e contentType
  /-- A message that was read has the name that was asked for, and this is the name of a registered
  type. -/
  named (data : Bytes) (name contentType : String) (m : Message)
      (h : r.deserialize data name contentType = .ok m) : m.name = name ∧ r.contains name = true
  /-- A message that was read is read again from what is written of it. -/
  again (data : Bytes) (name contentType : String) (m : Message)
      (h : r.deserialize data name contentType = .ok m) (e : Encoded) (he : serialize m = .ok e)
      (contentType' : String) (hc : contentType' = "" ∨ contentType' = e.contentType) :
    r.ReadsBack m e contentType'

theorem codec_law (hcodecs : ∀ t ∈ r.types, t.codec.Faithful) : r.CodecLaw where
  written hdistinct m hregistered hm e he contentType hc :=
    readsBack_of_find? (find?_of_mem hdistinct hregistered) (hcodecs m.type hregistered) hm he hc
  named data name contentType m h := by
    obtain ⟨t, ht, hread⟩ := find?_of_deserialize h
    obtain ⟨rfl, -⟩ := type_of_read? hread
    exact ⟨(name_of_find? ht).1, Option.isSome_iff_exists.2 ⟨_, ht⟩⟩
  again data name contentType m h e he contentType' hc := by
    obtain ⟨t, ht, hread⟩ := find?_of_deserialize h
    obtain ⟨rfl, hvalue⟩ := type_of_read? hread
    obtain ⟨rfl, hregistered⟩ := name_of_find? ht
    have hcodec := hcodecs m.type hregistered
    exact readsBack_of_find? ht hcodec (hvalue hcodec) he hc

/-- The codecs of the catalogue read what they write. -/
theorem faithful_catalogue : ∀ t ∈ Catalogue.all, t.codec.Faithful := by
  have hrecord {r : RecordShape} (hnames : (r.map Prod.fst).Nodup)
      (hshapes : ∀ e ∈ r, e.2.isSound = true) : r.codec.Faithful :=
    RecordShape.faithful_codec ⟨hnames, hshapes⟩
  simp only [Catalogue.all, List.forall_mem_cons]
  refine ⟨?_, ?_, ?_, ?_, MessageType.faithful_unwritable ?_, ?_, by simp⟩
  all_goals exact hrecord (by decide) (by decide)

theorem faithful_usual : ∀ t ∈ Catalogue.usual, t.codec.Faithful := by
  intro t ht
  refine faithful_catalogue t ?_
  simp only [Catalogue.usual, Catalogue.all, List.mem_cons, List.not_mem_nil] at ht ⊢
  tauto

/-- The usual registry reads an order back. -/
theorem codec_law_orderCreated :
    let m : Message := ⟨Catalogue.orderCreated, [.text "a1", .integer 7]⟩
    (∀ t ∈ Catalogue.usual, t.codec.Faithful) ∧
      ∃ e, serialize m = .ok e ∧ ReadsBack ⟨Catalogue.usual⟩ m e "" := by
  intro m
  have hvalue : m.IsValue := by
    refine .record rfl ?_
    simp only [m, List.zip_cons_cons, List.zip_nil_right, List.forall_mem_cons]
    exact ⟨.text _, .integer (by decide), by simp⟩
  exact ⟨faithful_usual, _, rfl, (codec_law faithful_usual).written (by decide) m
    List.mem_cons_self hvalue _ rfl "" (.inl rfl)⟩

end Registry

end MessageBus
