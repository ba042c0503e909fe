import Mathlib.Data.List.Basic
import Mathlib.Data.List.Flatten
import MessageBus.Proofs.Json.Lexing
import MessageBus.Text.Percent
import MessageBus.Text.RandomId

/-!
# What decoding leaves as it is

Decoding takes a text without an escape as it is written and makes every other text shorter, so what
it finds is as long as what it was given only if the two are one text (`eq_of_decode?`). Slashes
that were escaped are read like slashes that were not (`decode?_escapeSlashes`).
-/

set_option autoImplicit false

namespace MessageBus

/-- Only the bytes of a text spell it. -/
theorem Utf8.eq_encode_of_decode? {bs : Bytes} {s : String} (h : decode? bs = some s) :
    bs = encode s := by
  unfold decode? String.fromUTF8? at h
  split at h
  · obtain rfl := Option.some.inj h
    simp [encode, String.fromUTF8]
  · cases h

namespace Percent

/-! ## Escapes -/

/-- Whether a text begins with an escape. -/
def opensEscape : List Char → Bool
  | '%' :: x :: y :: _ => isHexDigit x && isHexDigit y
  | _ => false

/-- An escape stands somewhere in a text. -/
def Escapes (s : String) : Prop := ∃ rest ∈ s.toList.tails, opensEscape rest = true

instance (s : String) : Decidable (Escapes s) := inferInstanceAs (Decidable (∃ _ ∈ _, _))

/-- The bytes of some characters. -/
def bytesOf (cs : List Char) : Bytes := cs.flatMap String.utf8EncodeChar

variable {a b : UInt8} {bs rest : Bytes} {c x y : Char} {cs ds : List Char} {s : String}

theorem bytesOf_cons (c : Char) (cs : List Char) :
    bytesOf (c :: cs) = String.utf8EncodeChar c ++ bytesOf cs := rfl

theorem bytesOf_cons_of_lt (h : c.toNat < 0x80) :
    bytesOf (c :: cs) = UInt8.ofNat c.toNat :: bytesOf cs := by
  rw [bytesOf_cons, Utf8.encodeChar_of_lt h, List.singleton_append]

theorem exists_of_opensEscape (h : opensEscape cs = true) :
    ∃ x y rest, cs = '%' :: x :: y :: rest ∧ isHexDigit x = true ∧ isHexDigit y = true := by
  unfold opensEscape at h
  split at h
  · exact ⟨_, _, _, rfl, by simpa using h⟩
  · cases h

theorem isSome_digit?_iff (h : c.toNat < 0x80) :
    (digit? (UInt8.ofNat c.toNat)).isSome = isHexDigit c := by
  have hall : ∀ n < 0x80, (digit? (UInt8.ofNat (Char.ofNat n).toNat)).isSome =
      isHexDigit (Char.ofNat n) := by decide +kernel
  have hc := hall c.toNat h
  rwa [Char.ofNat_toNat] at hc

theorem lt_of_isHexDigit (h : isHexDigit c = true) : c.toNat < 0x80 := by
  have hlower : c.toLower.toNat < 0x80 → c.toNat < 0x80 := by
    delta Char.toLower
    split
    · next hupper => intro _; exact Nat.lt_of_le_of_lt hupper.2 (by decide)
    · exact id
  rw [isHexDigit, Bool.or_eq_true, Bool.and_eq_true, decide_eq_true_eq, decide_eq_true_eq] at h
  rcases h with h | ⟨-, h⟩
  · rw [Char.isDigit, Bool.and_eq_true, decide_eq_true_eq, decide_eq_true_eq] at h
    exact Nat.lt_of_le_of_lt h.2 (by decide)
  · exact hlower (Nat.lt_of_le_of_lt h (by decide))

theorem lt_of_isSome_digit? (h : (digit? b).isSome = true) : b < 0x80 := by
  rw [digit?] at h
  grind

/-- The first byte is a digit only where the first character is. -/
theorem exists_cons_of_digit (h : bytesOf cs = b :: bs) (hb : (digit? b).isSome = true) :
    ∃ x ds, cs = x :: ds ∧ isHexDigit x = true ∧ bytesOf ds = bs := by
  cases cs with
  | nil => cases h
  | cons x ds =>
    by_cases hx : x.toNat < 0x80
    · rw [bytesOf_cons_of_lt hx] at h
      obtain ⟨rfl, rfl⟩ := List.cons.inj h
      exact ⟨x, ds, rfl, isSome_digit?_iff hx ▸ hb, rfl⟩
    · -- a byte of such a character lies beyond every digit
      have hmem : b ∈ String.utf8EncodeChar x := by
        have hne : String.utf8EncodeChar x ≠ [] := String.utf8EncodeChar_ne_nil
        obtain ⟨b', more, hmore⟩ := List.exists_cons_of_ne_nil hne
        rw [bytesOf_cons, hmore] at h
        rw [hmore, (List.cons.inj h).1]
        simp
      have hlow := Utf8.le_of_mem_encodeChar (Nat.le_of_not_lt hx) hmem
      exact absurd (lt_of_isSome_digit? hb) (UInt8.not_lt.2 hlow)

/-! ## Bytes -/

theorem decodeBytes_cons_of_ne (h : a ≠ 0x25) : decodeBytes (a :: bs) = a :: decodeBytes bs := by
  match bs with
  | [] => rfl
  | [b] => simp [decodeBytes]
  | b :: c :: rest => rw [decodeBytes, if_neg h]

theorem decodeBytes_append_of_forall {first : Bytes} (h : ∀ b ∈ first, b ≠ 0x25) :
    decodeBytes (first ++ bs) = first ++ decodeBytes bs := by
  induction first with
  | nil => rfl
  | cons b first ih =>
    rw [List.cons_append, decodeBytes_cons_of_ne (h b (by simp)),
      ih fun b hb => h b (List.mem_cons_of_mem _ hb), List.cons_append]

theorem length_decodeBytes_le (bs : Bytes) : (decodeBytes bs).length ≤ bs.length := by
  fun_induction decodeBytes bs <;> grind

/-! ## Characters -/

/-- A character that begins no escape stays, and what follows it is decoded by itself. -/
theorem decodeBytes_cons (h : opensEscape (c :: cs) = false) :
    decodeBytes (bytesOf (c :: cs)) = String.utf8EncodeChar c ++ decodeBytes (bytesOf cs) := by
  rw [bytesOf_cons]
  by_cases hc : c = '%'
  · subst hc
    change decodeBytes (0x25 :: bytesOf cs) = 0x25 :: decodeBytes (bytesOf cs)
    match hbytes : bytesOf cs with
    | [] => rfl
    | [_] => rfl
    | x :: y :: rest =>
      rw [decodeBytes, if_pos rfl]
      split
      · next hx hy =>
        -- two digits behind the percent sign would be two characters that are digits
        obtain ⟨x, ds, rfl, hx, hrest⟩ := exists_cons_of_digit hbytes (by simp [hx])
        obtain ⟨y, ds, rfl, hy, -⟩ := exists_cons_of_digit hrest (by simp [hy])
        simp [opensEscape, hx, hy] at h
      · rfl
  · refine decodeBytes_append_of_forall fun b hb hpercent => hc ?_
    by_cases hascii : c.toNat < 0x80
    · rw [Utf8.encodeChar_of_lt hascii, List.mem_singleton] at hb
      have hnat : c.toNat % 256 = 0x25 := by
        have := congrArg UInt8.toNat (hb.symm.trans hpercent)
        simpa using this
      refine Char.toNat_inj.1 ?_
      rw [Nat.mod_eq_of_lt (by omega)] at hnat
      exact hnat
    · have hle := Utf8.le_of_mem_encodeChar (Nat.le_of_not_lt hascii) hb
      exact absurd (hpercent ▸ hle) (by decide)

/-- An escape stands for one byte, whatever follows it. -/
theorem exists_decodeBytes_escape (hx : isHexDigit x = true) (hy : isHexDigit y = true) :
    ∃ b, ∀ rest,
      decodeBytes (bytesOf ('%' :: x :: y :: rest)) = b :: decodeBytes (bytesOf rest) := by
  obtain ⟨m, hm⟩ := Option.isSome_iff_exists.1
    ((isSome_digit?_iff (lt_of_isHexDigit hx)).trans hx)
  obtain ⟨n, hn⟩ := Option.isSome_iff_exists.1
    ((isSome_digit?_iff (lt_of_isHexDigit hy)).trans hy)
  refine ⟨16 * m + n, fun rest => ?_⟩
  rw [bytesOf_cons_of_lt (by decide), bytesOf_cons_of_lt (lt_of_isHexDigit hx),
    bytesOf_cons_of_lt (lt_of_isHexDigit hy), decodeBytes, if_pos (by decide), hm, hn]

theorem length_lt_of_opensEscape (h : opensEscape cs = true) :
    (decodeBytes (bytesOf cs)).length < (bytesOf cs).length := by
  obtain ⟨x, y, rest, rfl, hx, hy⟩ := exists_of_opensEscape h
  obtain ⟨b, hb⟩ := exists_decodeBytes_escape hx hy
  have hle := length_decodeBytes_le (bytesOf rest)
  rw [hb, bytesOf_cons_of_lt (by decide), bytesOf_cons_of_lt (lt_of_isHexDigit hx),
    bytesOf_cons_of_lt (lt_of_isHexDigit hy)]
  simp only [List.length_cons]
  omega

/-- Exactly the texts without an escape are left as they are. -/
theorem decodeBytes_eq_iff (cs : List Char) :
    decodeBytes (bytesOf cs) = bytesOf cs ↔ ∀ rest ∈ cs.tails, opensEscape rest = false := by
  induction cs with
  | nil => simp [bytesOf, decodeBytes, opensEscape]
  | cons c cs ih =>
    rw [List.tails, List.forall_mem_cons]
    cases h : opensEscape (c :: cs) with
    | true =>
      have hlt := length_lt_of_opensEscape h
      exact ⟨fun heq => absurd hlt (by rw [heq]; exact Nat.lt_irrefl _), fun h => nomatch h.1⟩
    | false =>
      rw [decodeBytes_cons h, ← ih, bytesOf_cons, List.append_cancel_left_eq]
      exact (and_iff_right rfl).symm

/-! ## Texts -/

theorem encode_eq_bytesOf (s : String) : Utf8.encode s = bytesOf s.toList := Utf8.encode_eq s

theorem decode?_ofList (cs : List Char) :
    decode? (String.ofList cs) = Utf8.decode? (decodeBytes (bytesOf cs)) := by
  rw [decode?, encode_eq_bytesOf, String.toList_ofList]

theorem not_escapes_iff : ¬Escapes s ↔ decodeBytes (Utf8.encode s) = Utf8.encode s := by
  rw [encode_eq_bytesOf, decodeBytes_eq_iff, Escapes]
  simp

/-- A text without an escape is read as it is written. -/
theorem decode?_of_not_escapes (h : ¬Escapes s) : decode? s = some s := by
  rw [decode?, not_escapes_iff.1 h, Utf8.decode?_encode]

theorem bytesOf_injective (h : bytesOf cs = bytesOf ds) : cs = ds := by
  rw [bytesOf, bytesOf, ← Utf8.encode_ofList, ← Utf8.encode_ofList] at h
  have hof := congrArg Utf8.decode? h
  rw [Utf8.decode?_encode, Utf8.decode?_encode] at hof
  exact String.ofList_injective (Option.some.inj hof)

theorem sublist_bytesOf (h : cs.Sublist ds) : (bytesOf cs).Sublist (bytesOf ds) :=
  h.flatMap _

/-- A text that decodes to one of which it is a part is that text, and has no escape. -/
theorem eq_of_decode? (h : decode? (String.ofList cs) = some s) (hsub : cs.Sublist s.toList) :
    cs = s.toList ∧ ¬Escapes s := by
  have hread : decodeBytes (bytesOf cs) = bytesOf s.toList := by
    rw [← encode_eq_bytesOf]
    exact Utf8.eq_encode_of_decode? (decode?_ofList cs ▸ h)
  have hlen : (bytesOf s.toList).length ≤ (bytesOf cs).length :=
    hread ▸ length_decodeBytes_le (bytesOf cs)
  have hbytes : bytesOf cs = bytesOf s.toList := (sublist_bytesOf hsub).eq_of_length_le hlen
  refine ⟨bytesOf_injective hbytes, not_escapes_iff.2 ?_⟩
  rw [encode_eq_bytesOf, ← hbytes, hread, hbytes]

/-! ## Escaped slashes -/

/-- A text with an escape for every slash. -/
def escapeSlashes (cs : List Char) : List Char :=
  cs.flatMap fun c => if c == '/' then ['%', '2', 'f'] else [c]

theorem escapeSlashes_slash (cs : List Char) :
    escapeSlashes ('/' :: cs) = '%' :: '2' :: 'f' :: escapeSlashes cs := rfl

theorem escapeSlashes_cons (h : c ≠ '/') : escapeSlashes (c :: cs) = c :: escapeSlashes cs := by
  simp [escapeSlashes, h]

theorem escapeSlashes_append (cs ds : List Char) :
    escapeSlashes (cs ++ ds) = escapeSlashes cs ++ escapeSlashes ds :=
  List.flatMap_append

theorem slash_not_mem_escapeSlashes (cs : List Char) : '/' ∉ escapeSlashes cs := by
  rw [escapeSlashes, List.mem_flatMap]
  rintro ⟨c, -, hc⟩
  split at hc
  · exact absurd hc (by decide)
  · next hne => exact hne (by rw [List.mem_singleton.1 hc]; simp)

/-- A digit behind which slashes are escaped was there before. -/
theorem exists_cons_of_escapeSlashes (h : escapeSlashes cs = x :: ds) (hx : isHexDigit x = true) :
    ∃ rest, cs = x :: rest ∧ escapeSlashes rest = ds := by
  cases cs with
  | nil => cases h
  | cons c rest =>
    by_cases hc : c = '/'
    · subst hc
      obtain ⟨rfl, -⟩ := List.cons.inj h
      cases hx
    · rw [escapeSlashes_cons hc] at h
      obtain ⟨rfl, rfl⟩ := List.cons.inj h
      exact ⟨rest, rfl, rfl⟩

/-- Escaping the slashes behind a character makes no escape begin with it. -/
theorem opensEscape_escapeSlashes (h : opensEscape (c :: cs) = false) :
    opensEscape (c :: escapeSlashes cs) = false := by
  refine Bool.eq_false_iff.2 fun hopens => ?_
  obtain ⟨x, y, rest, heq, hx, hy⟩ := exists_of_opensEscape hopens
  obtain ⟨rfl, hslashes⟩ := List.cons.inj heq
  obtain ⟨more, rfl, hmore⟩ := exists_cons_of_escapeSlashes hslashes hx
  obtain ⟨more, rfl, -⟩ := exists_cons_of_escapeSlashes hmore hy
  simp [opensEscape, hx, hy] at h

theorem decodeBytes_escapeSlashes (cs : List Char) :
    decodeBytes (bytesOf (escapeSlashes cs)) = decodeBytes (bytesOf cs) := by
  match cs with
  | [] => rfl
  | c :: cs =>
    cases hopens : opensEscape (c :: cs) with
    | true =>
      obtain ⟨x, y, rest, heq, hx, hy⟩ := exists_of_opensEscape hopens
      obtain ⟨rfl, rfl⟩ := List.cons.inj heq
      obtain ⟨b, hb⟩ := exists_decodeBytes_escape hx hy
      have hslash {d : Char} (hd : isHexDigit d = true) : d ≠ '/' := by rintro rfl; cases hd
      rw [escapeSlashes_cons (by decide), escapeSlashes_cons (hslash hx),
        escapeSlashes_cons (hslash hy), hb, hb, decodeBytes_escapeSlashes rest]
    | false =>
      rw [decodeBytes_cons hopens, ← decodeBytes_escapeSlashes cs]
      by_cases hc : c = '/'
      · subst hc
        rfl
      · rw [escapeSlashes_cons hc, decodeBytes_cons (opensEscape_escapeSlashes hopens)]
termination_by cs.length
decreasing_by all_goals simp_all <;> omega

/-- An escaped slash is read like a slash. -/
theorem decode?_escapeSlashes (cs : List Char) :
    decode? (String.ofList (escapeSlashes cs)) = decode? (String.ofList cs) := by
  rw [decode?_ofList, decode?_ofList, decodeBytes_escapeSlashes]

end Percent

end MessageBus
