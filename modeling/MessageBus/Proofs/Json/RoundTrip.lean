import MessageBus.Json.Reader
import MessageBus.Proofs.Json.Lexing

/-!
# Reading what was written

A value is read from its text as it was, if its numbers can stand in a text: see
`read?_encode_write`. The text of such a value is scanned into the tokens `tokensOf`
(`scans_write`), and these are read back into the value (`readTokens_tokensOf`).
-/

set_option autoImplicit false

namespace MessageBus.Json

mutual

/-- Whether all numbers of a value can stand in a text, and all of it can be read. -/
def isPlain : Json → Bool
  | .number n => n.isProper
  | .array items => arePlain items
  | .object fields => havePlain fields
  | .unreadable => false
  | _ => true

/-- Whether this is so for some values. -/
def arePlain : List Json → Bool
  | [] => true
  | v :: rest => isPlain v && arePlain rest

/-- Whether this is so for the values of some fields. -/
def havePlain : List (String × Json) → Bool
  | [] => true
  | (_, v) :: rest => isPlain v && havePlain rest

end

mutual

/-- The tokens of a written value. -/
def tokensOf : Json → List Token
  | .null => [.null]
  | .bool b => [.bool b]
  | .number n => [.number n]
  | .string s => [.string (some s)]
  | .array items => .openArray :: (itemTokens items ++ [.closeArray])
  | .object fields => .openObject :: (fieldTokens fields ++ [.closeObject])
  | .unreadable => [.null]

/-- The tokens of values with commas between them. -/
def itemTokens : List Json → List Token
  | [] => []
  | [v] => tokensOf v
  | v :: rest => tokensOf v ++ .comma :: itemTokens rest

/-- The tokens of fields with commas between them. -/
def fieldTokens : List (String × Json) → List Token
  | [] => []
  | [(k, v)] => .string (some k) :: .colon :: tokensOf v
  | (k, v) :: rest => .string (some k) :: .colon :: (tokensOf v ++ .comma :: fieldTokens rest)

end

theorem itemTokens_cons_cons (v w : Json) (items : List Json) :
    itemTokens (v :: w :: items) = tokensOf v ++ .comma :: itemTokens (w :: items) := by
  rw [itemTokens]
  simp

theorem fieldTokens_cons_cons (k : String) (v : Json) (e : String × Json)
    (fields : List (String × Json)) :
    fieldTokens ((k, v) :: e :: fields) =
      .string (some k) :: .colon :: (tokensOf v ++ .comma :: fieldTokens (e :: fields)) := by
  rw [fieldTokens]
  simp

/-! ## From bytes to tokens -/

theorem ends_cons {b : UInt8} (hb : isEnd b = true) (rest : Bytes) : Ends (b :: rest) := hb

theorem Scans.mark {b : UInt8} {rest : Bytes} {t : Token} {ts : List Token}
    (hb : isBlank b = false) (ht : scanToken (b :: rest) = some (t, rest)) (h : Scans rest ts) :
    Scans (b :: rest) (t :: ts) :=
  @Scans.token b [] rest t ts hb ht h

theorem encode_arrayText (items : List Json) (rest : Bytes) :
    Utf8.encode (write (.array items)) ++ rest =
      0x5B :: (Utf8.encode (writeItems items) ++ 0x5D :: rest) := by
  simp only [write, Utf8.encode_append, List.append_assoc]
  rfl

theorem encode_objectText (fields : List (String × Json)) (rest : Bytes) :
    Utf8.encode (write (.object fields)) ++ rest =
      0x7B :: (Utf8.encode (writeFields fields) ++ 0x7D :: rest) := by
  simp only [write, Utf8.encode_append, List.append_assoc]
  rfl

theorem encode_itemsText (v w : Json) (items : List Json) (rest : Bytes) :
    Utf8.encode (writeItems (v :: w :: items)) ++ rest =
      Utf8.encode (write v) ++ 0x2C :: (Utf8.encode (writeItems (w :: items)) ++ rest) := by
  simp only [writeItems, Utf8.encode_append, List.append_assoc]
  rfl

theorem encode_fieldText (k : String) (v : Json) (rest : Bytes) :
    Utf8.encode (writeFields [(k, v)]) ++ rest =
      Utf8.encode (writeString k) ++ 0x3A :: (Utf8.encode (write v) ++ rest) := by
  simp only [writeFields, Utf8.encode_append, List.append_assoc]
  rfl

theorem encode_fieldsText (k : String) (v : Json) (e : String × Json)
    (fields : List (String × Json)) (rest : Bytes) :
    Utf8.encode (writeFields ((k, v) :: e :: fields)) ++ rest =
      Utf8.encode (writeString k) ++
        0x3A :: (Utf8.encode (write v) ++
          0x2C :: (Utf8.encode (writeFields (e :: fields)) ++ rest)) := by
  simp only [writeFields, Utf8.encode_append, List.append_assoc]
  rfl

mutual

theorem scans_write : ∀ v : Json, v.isPlain = true → ∀ (rest : Bytes) (ts : List Token), Ends rest →
    Scans rest ts → Scans (Utf8.encode (write v) ++ rest) (tokensOf v ++ ts)
  | .null, _, _, _, _, h => .cons rfl rfl h
  | .bool true, _, _, _, _, h => .cons rfl rfl h
  | .bool false, _, _, _, _, h => .cons rfl rfl h
  | .number _, hplain, _, _, hends, h => h.number hplain hends
  | .string s, _, _, _, _, h => h.string s
  | .array items, hplain, rest, ts, _, h => by
    have hclose : Scans (0x5D :: rest) (.closeArray :: ts) := .mark rfl rfl h
    have hitems := scans_writeItems items hplain _ _ (ends_cons rfl rest) hclose
    rw [encode_arrayText, tokensOf, List.cons_append, List.append_assoc]
    exact .mark rfl rfl hitems
  | .object fields, hplain, rest, ts, _, h => by
    have hclose : Scans (0x7D :: rest) (.closeObject :: ts) := .mark rfl rfl h
    have hfields := scans_writeFields fields hplain _ _ (ends_cons rfl rest) hclose
    rw [encode_objectText, tokensOf, List.cons_append, List.append_assoc]
    exact .mark rfl rfl hfields

theorem scans_writeItems : ∀ items : List Json, arePlain items = true →
    ∀ (rest : Bytes) (ts : List Token), Ends rest → Scans rest ts →
      Scans (Utf8.encode (writeItems items) ++ rest) (itemTokens items ++ ts)
  | [], _, _, _, _, h => h
  | [v], hplain, rest, ts, hends, h => by
    rw [arePlain, Bool.and_eq_true] at hplain
    exact scans_write v hplain.1 rest ts hends h
  | v :: w :: items, hplain, rest, ts, hends, h => by
    rw [arePlain, Bool.and_eq_true] at hplain
    have hrest := scans_writeItems (w :: items) hplain.2 rest ts hends h
    have hcomma : Scans (0x2C :: _) (.comma :: _) := .mark rfl rfl hrest
    rw [encode_itemsText, itemTokens_cons_cons, List.append_assoc]
    exact scans_write v hplain.1 _ _ (ends_cons rfl _) hcomma

theorem scans_writeFields : ∀ fields : List (String × Json), havePlain fields = true →
    ∀ (rest : Bytes) (ts : List Token), Ends rest → Scans rest ts →
      Scans (Utf8.encode (writeFields fields) ++ rest) (fieldTokens fields ++ ts)
  | [], _, _, _, _, h => h
  | [(k, v)], hplain, rest, ts, hends, h => by
    rw [havePlain, Bool.and_eq_true] at hplain
    have hvalue := scans_write v hplain.1 rest ts hends h
    have hcolon : Scans (0x3A :: _) (.colon :: _) := .mark rfl rfl hvalue
    rw [encode_fieldText, fieldTokens]
    exact hcolon.string k
  | (k, v) :: e :: fields, hplain, rest, ts, hends, h => by
    rw [havePlain, Bool.and_eq_true] at hplain
    have hrest := scans_writeFields (e :: fields) hplain.2 rest ts hends h
    have hcomma : Scans (0x2C :: _) (.comma :: _) := .mark rfl rfl hrest
    have hvalue := scans_write v hplain.1 _ _ (ends_cons rfl _) hcomma
    have hcolon : Scans (0x3A :: _) (.colon :: _) := .mark rfl rfl hvalue
    rw [encode_fieldsText, fieldTokens_cons_cons, List.cons_append, List.cons_append,
      List.append_assoc]
    exact hcolon.string k

end

/-! ## From tokens to the value -/

theorem objectOf_reverse (fields : List (String × Json)) :
    objectOf (fields.map fun e => (some e.1, e.2)).reverse = .object fields := by
  have hall : (fields.map fun e => (some e.1, e.2)).mapM
      (fun e : Option String × Json => e.1.map fun k => (k, e.2)) = some fields := by
    induction fields with
    | nil => rfl
    | cons e fields ih => simp_all
  unfold objectOf
  rw [List.reverse_reverse, hall]

mutual

theorem readTokens_tokensOf : ∀ v : Json, v.isPlain = true →
    ∀ (opened : List Frame) (mayClose : Bool) (ts : List Token),
      readTokens opened (.value mayClose) (tokensOf v ++ ts) = readTokens opened (.after v) ts
  | .null, _, _, _, _ => rfl
  | .bool _, _, _, _, _ => rfl
  | .number _, _, _, _, _ => rfl
  | .string _, _, _, _, _ => rfl
  | .array [], _, _, _, _ => rfl
  | .array (v :: items), hplain, opened, mayClose, ts => by
    rw [tokensOf, List.cons_append, List.append_assoc]
    exact readTokens_itemTokens (v :: items) (List.cons_ne_nil _ _) hplain opened [] true ts
  | .object [], _, _, _, _ => rfl
  | .object (e :: fields), hplain, opened, mayClose, ts => by
    have hfields := readTokens_fieldTokens (e :: fields) (List.cons_ne_nil _ _) hplain opened []
      true ts
    rw [List.append_nil, objectOf_reverse] at hfields
    rw [tokensOf, List.cons_append, List.append_assoc]
    exact hfields

theorem readTokens_itemTokens : ∀ items : List Json, items ≠ [] → arePlain items = true →
    ∀ (opened : List Frame) (done : List Json) (mayClose : Bool) (ts : List Token),
      readTokens (.array done :: opened) (.value mayClose)
          (itemTokens items ++ .closeArray :: ts) =
        readTokens opened (.after (.array (done.reverse ++ items))) ts
  | [], hne, _, _, _, _, _ => absurd rfl hne
  | [v], _, hplain, opened, done, mayClose, ts => by
    rw [arePlain, Bool.and_eq_true] at hplain
    have hvalue := readTokens_tokensOf v hplain.1 (.array done :: opened) mayClose
      (.closeArray :: ts)
    rw [itemTokens, hvalue]
    simp [readTokens, readToken]
  | v :: w :: items, _, hplain, opened, done, mayClose, ts => by
    rw [arePlain, Bool.and_eq_true] at hplain
    have hvalue := readTokens_tokensOf v hplain.1 (.array done :: opened) mayClose
      (.comma :: (itemTokens (w :: items) ++ .closeArray :: ts))
    have hrest := readTokens_itemTokens (w :: items) (List.cons_ne_nil _ _) hplain.2 opened
      (v :: done) false ts
    rw [itemTokens_cons_cons, List.append_assoc, List.cons_append, hvalue]
    simp only [readTokens, readToken, hrest, List.reverse_cons, List.append_assoc,
      List.singleton_append]

theorem readTokens_fieldTokens : ∀ fields : List (String × Json), fields ≠ [] →
    havePlain fields = true →
    ∀ (opened : List Frame) (done : List (Option String × Json)) (mayClose : Bool)
      (ts : List Token),
      readTokens opened (.key done mayClose) (fieldTokens fields ++ .closeObject :: ts) =
        readTokens opened
          (.after (objectOf ((fields.map fun e => (some e.1, e.2)).reverse ++ done))) ts
  | [], hne, _, _, _, _, _ => absurd rfl hne
  | [(k, v)], _, hplain, opened, done, mayClose, ts => by
    rw [havePlain, Bool.and_eq_true] at hplain
    have hvalue := readTokens_tokensOf v hplain.1 (.object done (some k) :: opened) false
      (.closeObject :: ts)
    simp only [fieldTokens, List.cons_append, readTokens, readToken, hvalue]
    rfl
  | (k, v) :: e :: fields, _, hplain, opened, done, mayClose, ts => by
    rw [havePlain, Bool.and_eq_true] at hplain
    have hvalue := readTokens_tokensOf v hplain.1 (.object done (some k) :: opened) false
      (.comma :: (fieldTokens (e :: fields) ++ .closeObject :: ts))
    have hrest := readTokens_fieldTokens (e :: fields) (List.cons_ne_nil _ _) hplain.2 opened
      ((some k, v) :: done) false ts
    rw [fieldTokens_cons_cons]
    simp only [List.cons_append, readTokens, readToken, List.append_assoc, hvalue, hrest]
    simp

end

theorem tokens?_encode_write {v : Json} (h : v.isPlain = true) :
    tokens? (Utf8.encode v.write) = some (tokensOf v) := by
  have hscans := scans_write v h [] [] rfl .nil
  rw [List.append_nil, List.append_nil] at hscans
  exact hscans.tokens?

/-- A value that is plain is read from its text as it was. -/
theorem read?_encode_write {v : Json} (h : v.isPlain = true) :
    read? (Utf8.encode v.write) = some v := by
  have hread := readTokens_tokensOf v h [] false []
  rw [List.append_nil] at hread
  rw [read?, tokens?_encode_write h, Option.bind_some, hread]
  rfl

end MessageBus.Json
