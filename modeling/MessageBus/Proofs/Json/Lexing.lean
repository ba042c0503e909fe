import Mathlib.Data.List.Basic
import MessageBus.Json.Token
import MessageBus.Json.Writer

/-!
# The tokens of a written text

A string that is written with its escapes is read back as it was (`exists_scanString`), and so is a
number (`scanNumber_write`). `Scans` says that some bytes spell some tokens, one after the
other without blanks between them; it is what `tokens?` finds (`Scans.tokens?`).
-/

set_option autoImplicit false

namespace MessageBus

/-! ## Bytes of a text -/

namespace Utf8

theorem encode_append (s t : String) : encode (s ++ t) = encode s ++ encode t := by
  unfold encode
  rw [String.toByteArray_append]
  simp

/-- The bytes of a text are those of its characters. -/
theorem encode_ofList (cs : List Char) :
    encode (String.ofList cs) = cs.flatMap String.utf8EncodeChar := by
  unfold encode
  rw [String.toByteArray_ofList, List.utf8Encode]
  simp

theorem encode_eq (s : String) : encode s = s.toList.flatMap String.utf8EncodeChar := by
  rw [← encode_ofList, String.ofList_toList]

theorem encodeChar_of_lt {c : Char} (h : c.toNat < 0x80) :
    String.utf8EncodeChar c = [UInt8.ofNat c.toNat] := by
  have hle : c.val.toNat ≤ 127 := Nat.le_of_lt_succ h
  rw [String.utf8EncodeChar, if_pos hle]
  rfl

/-- The bytes of a character that needs more than one are none of the ASCII range. -/
theorem le_of_mem_encodeChar {c : Char} (h : 0x80 ≤ c.toNat) {b : UInt8}
    (hb : b ∈ String.utf8EncodeChar c) : 0x80 ≤ b := by
  have hgt : ¬c.val.toNat ≤ 127 := Nat.not_le_of_lt h
  rw [String.utf8EncodeChar, if_neg hgt] at hb
  have hofNat {n : Nat} (hlow : 0x80 ≤ n) (hhigh : n < 0x100) : (0x80 : UInt8) ≤ UInt8.ofNat n := by
    rw [UInt8.le_iff_toNat_le, UInt8.toNat_ofNat_of_lt' hhigh]
    exact hlow
  split at hb
  · simp only [List.mem_cons, List.not_mem_nil, or_false] at hb
    rcases hb with rfl | rfl <;> exact hofNat (by omega) (by omega)
  · split at hb
    · simp only [List.mem_cons, List.not_mem_nil, or_false] at hb
      rcases hb with rfl | rfl | rfl <;> exact hofNat (by omega) (by omega)
    · simp only [List.mem_cons, List.not_mem_nil, or_false] at hb
      rcases hb with rfl | rfl | rfl | rfl <;> exact hofNat (by omega) (by omega)

end Utf8

/-- Whether a fraction can stand in a text: it has digits, and no more than it says. -/
def Numeral.isFraction : Option (Nat × Nat) → Bool
  | some (count, value) => decide (0 < count) && decide ((Nat.toDigits 10 value).length ≤ count)
  | none => true

/-- Whether a numeral can stand in a text. -/
def Numeral.isProper (n : Numeral) : Bool := isFraction n.fraction

namespace Json

/-! ## Strings -/

/-- A byte that stands for itself. -/
theorem scanString_plain {b : UInt8} (hlow : 0x20 ≤ b) (hmark : b ≠ 0x22) (hslash : b ≠ 0x5C)
    (done : List Piece) (rest : Bytes) :
    scanString done (b :: rest) = scanString (.byte b :: done) rest := by
  rw [scanString.eq_def]
  split
  · next h => cases h
  · next h => exact absurd (List.cons.inj h).1 hslash
  · next h => exact absurd (List.cons.inj h).1 hslash
  · next h => exact absurd (List.cons.inj h).1 hmark
  · next h =>
    obtain ⟨rfl, rfl⟩ := List.cons.inj h
    rw [if_neg]
    simp [UInt8.not_lt.2 hlow, hslash]

theorem scanString_plains {bs : Bytes} (h : ∀ b ∈ bs, 0x20 ≤ b ∧ b ≠ 0x22 ∧ b ≠ 0x5C)
    (done : List Piece) (rest : Bytes) :
    scanString done (bs ++ rest) = scanString ((bs.map .byte).reverse ++ done) rest := by
  induction bs generalizing done with
  | nil => rfl
  | cons b bs ih =>
    obtain ⟨⟨hlow, hmark, hslash⟩, hbs⟩ := List.forall_mem_cons.1 h
    rw [List.cons_append, scanString_plain hlow hmark hslash, ih hbs]
    simp

theorem scanString_escape {e b : UInt8} (he : escaped? e = some b) (done : List Piece)
    (rest : Bytes) : scanString done (0x5C :: e :: rest) = scanString (.byte b :: done) rest := by
  have hu : e ≠ 0x75 := by
    rintro rfl
    cases he
  rw [scanString.eq_def]
  split
  · next h => cases h
  · next h => exact absurd (List.cons.inj (List.cons.inj h).2).1 hu
  · next e' rest' _ h =>
    obtain ⟨rfl, rfl⟩ := List.cons.inj (List.cons.inj h).2
    rw [he]
  · next h => exact absurd (List.cons.inj h).1 (by decide)
  · next _ hplain _ h =>
    obtain ⟨rfl, rfl⟩ := List.cons.inj h
    exact (hplain e rest rfl rfl).elim

theorem spell_bytes (bs : Bytes) (more : List Piece) :
    spell (bs.map .byte ++ more) = (spell more).map (bs ++ ·) := by
  induction bs with
  | nil => simp
  | cons b bs ih =>
    rw [List.map_cons, List.cons_append, spell, ih, Option.map_map]
    rfl

theorem spell_unit {u : UInt16} (hu : u < 0xD800) (more : List Piece) :
    spell (.unit u :: more) =
      (spell more).map (String.utf8EncodeChar (Char.ofNat u.toNat) ++ ·) := by
  have hhigh : ¬0xD800 ≤ u := UInt16.not_le.2 hu
  have hlow : ¬0xDC00 ≤ u := fun h => hhigh (UInt16.le_trans (by decide) h)
  rw [spell.eq_def]
  split
  · next h => cases h
  · next h => cases (List.cons.inj h).1
  · next h =>
    obtain ⟨hunit, rfl⟩ := List.cons.inj h
    obtain rfl := Piece.unit.inj hunit
    rw [if_neg (by simp [hhigh]), if_neg (by simp [hlow])]
  · next h =>
    obtain ⟨hunit, rfl⟩ := List.cons.inj h
    obtain rfl := Piece.unit.inj hunit
    rw [if_neg (by simp [hhigh])]

/-- A control character without a letter of its own is written with its number. -/
theorem hexUnit?_hexChar : ∀ n < 0x20,
    hexUnit? 0x30 0x30 (UInt8.ofNat (hexChar (n / 16)).toNat) (UInt8.ofNat (hexChar (n % 16)).toNat)
        = some (UInt16.ofNat n) ∧
      (hexChar (n / 16)).toNat < 0x80 ∧ (hexChar (n % 16)).toNat < 0x80 := by
  decide

/-- A character is read in pieces, however it was written, and they spell it. -/
def ReadsBack (c : Char) : Prop :=
  ∃ ps : List Piece,
    (∀ done rest, scanString done ((escapeChar c).flatMap String.utf8EncodeChar ++ rest) =
      scanString (ps.reverse ++ done) rest) ∧
    ∀ more, spell (ps ++ more) = (spell more).map (String.utf8EncodeChar c ++ ·)

variable {c : Char}

/-- A character with a letter of its own. -/
theorem readsBack_of_letter {e b : UInt8} (he : escaped? e = some b)
    (hbytes : (escapeChar c).flatMap String.utf8EncodeChar = [0x5C, e])
    (hc : String.utf8EncodeChar c = [b]) : ReadsBack c := by
  refine ⟨[.byte b], fun done rest => ?_, fun more => ?_⟩
  · rw [hbytes]
    exact scanString_escape he done rest
  · rw [hc]
    exact spell_bytes [b] more

/-- Another control character, which is written with its number. -/
theorem readsBack_of_control (hcontrol : c.toNat < 0x20)
    (hescape : escapeChar c =
      ['\\', 'u', '0', '0', hexChar (c.toNat / 16), hexChar (c.toNat % 16)]) : ReadsBack c := by
  obtain ⟨hunit, hhigh, hlow⟩ := hexUnit?_hexChar c.toNat hcontrol
  have hnat : (UInt16.ofNat c.toNat).toNat = c.toNat :=
    UInt16.toNat_ofNat_of_lt' (Nat.lt_trans hcontrol (by decide))
  refine ⟨[.unit (UInt16.ofNat c.toNat)], fun done rest => ?_, fun more => ?_⟩
  · have hbytes : (escapeChar c).flatMap String.utf8EncodeChar =
        [0x5C, 0x75, 0x30, 0x30, UInt8.ofNat (hexChar (c.toNat / 16)).toNat,
          UInt8.ofNat (hexChar (c.toNat % 16)).toNat] := by
      rw [hescape]
      simp only [List.flatMap_cons, List.flatMap_nil, Utf8.encodeChar_of_lt hhigh,
        Utf8.encodeChar_of_lt hlow]
      rfl
    rw [hbytes]
    simp only [List.cons_append, List.nil_append, scanString, hunit]
    rfl
  · rw [List.singleton_append, spell_unit, hnat, Char.ofNat_toNat]
    rw [UInt16.lt_iff_toNat_lt, hnat]
    exact Nat.lt_trans hcontrol (by decide)

/-- The bytes of any other character end no string and begin no escape. -/
theorem isPlain_of_mem_encodeChar (hcontrol : 0x20 ≤ c.toNat) (hquote : c ≠ '"')
    (hslash : c ≠ '\\') {b : UInt8} (hb : b ∈ String.utf8EncodeChar c) :
    0x20 ≤ b ∧ b ≠ 0x22 ∧ b ≠ 0x5C := by
  by_cases hascii : c.toNat < 0x80
  · rw [Utf8.encodeChar_of_lt hascii, List.mem_singleton] at hb
    subst hb
    have hsmall {d : Char} (hd : d.toNat < 0x80) : (UInt8.ofNat d.toNat).toNat = d.toNat :=
      UInt8.toNat_ofNat_of_lt' (Nat.lt_trans hd (by decide))
    have hne {d : Char} (hd : d.toNat < 0x80) (hcd : c ≠ d) :
        UInt8.ofNat c.toNat ≠ UInt8.ofNat d.toNat := by
      intro heq
      have hnat := congrArg UInt8.toNat heq
      rw [hsmall hascii, hsmall hd] at hnat
      exact hcd (Char.toNat_inj.1 hnat)
    refine ⟨?_, hne (d := '"') (by decide) hquote, hne (d := '\\') (by decide) hslash⟩
    rw [UInt8.le_iff_toNat_le, hsmall hascii]
    exact hcontrol
  · have hle := Utf8.le_of_mem_encodeChar (Nat.le_of_not_lt hascii) hb
    refine ⟨UInt8.le_trans (by decide) hle, ?_, ?_⟩
    · rintro rfl
      exact absurd hle (by decide)
    · rintro rfl
      exact absurd hle (by decide)

theorem readsBack (c : Char) : ReadsBack c := by
  by_cases h1 : c = '"'
  · subst h1
    exact readsBack_of_letter (e := 0x22) (b := 0x22) (by decide) (by decide) (by decide)
  by_cases h2 : c = '\\'
  · subst h2
    exact readsBack_of_letter (e := 0x5C) (b := 0x5C) (by decide) (by decide) (by decide)
  by_cases h3 : c = '\x08'
  · subst h3
    exact readsBack_of_letter (e := 0x62) (b := 0x08) (by decide) (by decide) (by decide)
  by_cases h4 : c = '\x0c'
  · subst h4
    exact readsBack_of_letter (e := 0x66) (b := 0x0C) (by decide) (by decide) (by decide)
  by_cases h5 : c = '\n'
  · subst h5
    exact readsBack_of_letter (e := 0x6E) (b := 0x0A) (by decide) (by decide) (by decide)
  by_cases h6 : c = '\r'
  · subst h6
    exact readsBack_of_letter (e := 0x72) (b := 0x0D) (by decide) (by decide) (by decide)
  by_cases h7 : c = '\t'
  · subst h7
    exact readsBack_of_letter (e := 0x74) (b := 0x09) (by decide) (by decide) (by decide)
  by_cases hcontrol : c.toNat < 0x20
  · exact readsBack_of_control hcontrol
      (by simp [escapeChar, h1, h2, h3, h4, h5, h6, h7, hcontrol])
  · have hescape : escapeChar c = [c] := by
      simp [escapeChar, h1, h2, h3, h4, h5, h6, h7, hcontrol]
    refine ⟨(String.utf8EncodeChar c).map .byte, fun done rest => ?_, spell_bytes _⟩
    rw [hescape, List.flatMap_singleton]
    exact scanString_plains (fun b hb =>
      isPlain_of_mem_encodeChar (Nat.le_of_not_lt hcontrol) h1 h2 hb) done rest

/-- The characters of a text, escaped, are read back up to the closing mark. -/
theorem exists_scanString (cs : List Char) : ∃ ps : List Piece,
    (∀ done rest, scanString done
      ((cs.flatMap escapeChar).flatMap String.utf8EncodeChar ++ 0x22 :: rest) =
        some (ps.reverse ++ done, rest)) ∧
    spell ps = some (cs.flatMap String.utf8EncodeChar) := by
  induction cs with
  | nil => exact ⟨[], fun _ _ => rfl, rfl⟩
  | cons c cs ih =>
    obtain ⟨ps, hscan, hspell⟩ := ih
    obtain ⟨qs, hscan', hspell'⟩ := readsBack c
    refine ⟨qs ++ ps, fun done rest => ?_, ?_⟩
    · rw [List.flatMap_cons, List.flatMap_append, List.append_assoc, hscan', hscan,
        List.reverse_append, List.append_assoc]
    · rw [hspell', hspell]
      rfl

/-- A written string, read back. -/
theorem scanToken_writeString (s : String) (rest : Bytes) :
    scanToken (Utf8.encode (writeString s) ++ rest) = some (.string (some s), rest) := by
  obtain ⟨ps, hscan, hspell⟩ := exists_scanString s.toList
  have hbytes : Utf8.encode (writeString s) ++ rest =
      0x22 :: ((s.toList.flatMap escapeChar).flatMap String.utf8EncodeChar ++ 0x22 :: rest) := by
    unfold writeString
    rw [Utf8.encode_ofList]
    simp [Utf8.encodeChar_of_lt]
  have htext : textOf ps = some s := by
    rw [textOf, hspell, Option.bind_some, ← Utf8.encode_eq, Utf8.decode?_encode]
  rw [hbytes, scanToken, hscan]
  simp [htext]

/-! ## Numbers -/

/-- A byte at which a number ends. -/
def isEnd (b : UInt8) : Bool := b == 0x2C || b == 0x5D || b == 0x7D

/-- What follows begins with no byte of a number. -/
def Ends (rest : Bytes) : Prop := rest.head?.all isEnd = true

/-- The byte of a digit. -/
def digitByte (c : Char) : UInt8 := UInt8.ofNat c.toNat

theorem isDigit_bounds {c : Char} (h : c.isDigit = true) : 0x30 ≤ c.toNat ∧ c.toNat ≤ 0x39 := by
  simpa [Char.isDigit, UInt32.le_iff_toNat_le] using h

theorem toNat_digitByte {c : Char} (h : c.isDigit = true) : (digitByte c).toNat = c.toNat :=
  UInt8.toNat_ofNat_of_lt' (Nat.lt_of_le_of_lt (isDigit_bounds h).2 (by decide))

theorem isDigit_digitByte {c : Char} (h : c.isDigit = true) : isDigit (digitByte c) = true := by
  have hbounds := isDigit_bounds h
  have hnat := toNat_digitByte h
  rw [isDigit, Bool.and_eq_true, decide_eq_true_eq, decide_eq_true_eq, UInt8.le_iff_toNat_le,
    UInt8.le_iff_toNat_le, hnat]
  exact hbounds

theorem encode_digits {cs : List Char} (h : ∀ c ∈ cs, c.isDigit = true) :
    Utf8.encode (String.ofList cs) = cs.map digitByte := by
  rw [Utf8.encode_ofList]
  induction cs with
  | nil => rfl
  | cons c cs ih =>
    obtain ⟨hc, hcs⟩ := List.forall_mem_cons.1 h
    rw [List.flatMap_cons, ih hcs,
      Utf8.encodeChar_of_lt (Nat.lt_of_le_of_lt (isDigit_bounds hc).2 (by decide))]
    rfl

theorem digitsValue_eq {cs : List Char} (h : ∀ c ∈ cs, c.isDigit = true) :
    digitsValue (cs.map digitByte) = Nat.ofDigitChars 10 cs 0 := by
  rw [digitsValue, Nat.ofDigitChars_eq_foldl, List.foldl_map]
  generalize 0 = n
  induction cs generalizing n with
  | nil => rfl
  | cons c cs ih =>
    obtain ⟨hc, hcs⟩ := List.forall_mem_cons.1 h
    rw [List.foldl_cons, List.foldl_cons, toNat_digitByte hc]
    exact ih hcs _

/-- Only the number zero is written with a zero in front. -/
theorem eq_zero_of_head?_toDigits (n : Nat) (h : (Nat.toDigits 10 n).head? = some '0') : n = 0 := by
  induction n using Nat.strongRecOn with
  | ind n ih =>
    by_cases hlt : n < 10
    · have hdigit : ∀ d < 10, Nat.digitChar d = '0' → d = 0 := by decide
      rw [Nat.toDigits_of_lt_base hlt] at h
      exact hdigit n hlt (Option.some.inj h)
    · rw [Nat.toDigits_of_base_le (by decide) (Nat.le_of_not_lt hlt),
        List.head?_append_of_ne_nil _ Nat.toDigits_ne_nil] at h
      have hzero := ih (n / 10) (by omega) h
      omega

/-- What follows begins with no digit. -/
def NoDigit (rest : Bytes) : Prop := rest.head?.all (!isDigit ·) = true

/-- What follows begins with neither a digit nor a point. -/
def NoFraction (rest : Bytes) : Prop := rest.head?.all (fun b => !isDigit b && b != 0x2E) = true

theorem NoFraction.noDigit {rest : Bytes} (h : NoFraction rest) : NoDigit rest := by
  cases rest with
  | nil => rfl
  | cons b rest =>
    simp only [NoFraction, List.head?_cons, Option.all_some, Bool.and_eq_true] at h
    exact h.1

theorem Ends.noFraction {rest : Bytes} (h : Ends rest) : NoFraction rest := by
  cases rest with
  | nil => rfl
  | cons b rest =>
    simp only [Ends, List.head?_cons, Option.all_some, isEnd, Bool.or_eq_true, beq_iff_eq] at h
    rcases h with (rfl | rfl) | rfl <;> rfl

theorem spanDigits_append {ds rest : Bytes} (hds : ∀ b ∈ ds, isDigit b = true)
    (hrest : NoDigit rest) : spanDigits (ds ++ rest) = (ds, rest) := by
  have hstop : rest.takeWhile isDigit = [] ∧ rest.dropWhile isDigit = rest := by
    cases rest with
    | nil => exact ⟨rfl, rfl⟩
    | cons b rest =>
      have hnot : isDigit b = false := by simpa [NoDigit] using hrest
      simp [hnot]
  unfold spanDigits
  rw [List.takeWhile_append_of_pos hds, List.dropWhile_append_of_pos hds, hstop.1, hstop.2,
    List.append_nil]

theorem isDigit_of_mem_toDigits {n : Nat} : ∀ c ∈ Nat.toDigits 10 n, c.isDigit = true := fun _ hc =>
  Nat.isDigit_of_mem_toDigits (by decide) (by decide) hc

theorem encode_toString (n : Nat) :
    Utf8.encode (toString n) = (Nat.toDigits 10 n).map digitByte := by
  rw [Nat.toString_eq_ofList_toDigits, encode_digits isDigit_of_mem_toDigits]

theorem isDigit_of_mem_encode {n : Nat} {b : UInt8} (hb : b ∈ Utf8.encode (toString n)) :
    isDigit b = true := by
  rw [encode_toString] at hb
  obtain ⟨c, hc, rfl⟩ := List.mem_map.1 hb
  exact isDigit_digitByte (isDigit_of_mem_toDigits c hc)

theorem exists_encode_toString (n : Nat) :
    ∃ b bs, Utf8.encode (toString n) = b :: bs ∧ isDigit b = true := by
  cases h : Utf8.encode (toString n) with
  | nil =>
    rw [encode_toString, List.map_eq_nil_iff] at h
    exact absurd h Nat.toDigits_ne_nil
  | cons b bs => exact ⟨b, bs, rfl, isDigit_of_mem_encode (n := n) (by rw [h]; simp)⟩

theorem digitsValue_encode (n : Nat) : digitsValue (Utf8.encode (toString n)) = n := by
  rw [encode_toString, digitsValue_eq isDigit_of_mem_toDigits, Nat.ofDigitChars_ten_toDigits]

/-- Zeros in front of a number do not change it. -/
theorem digitsValue_zeros (k : Nat) (bs : Bytes) :
    digitsValue (List.replicate k 0x30 ++ bs) = digitsValue bs := by
  induction k with
  | zero => rfl
  | succ k ih => exact ih

/-- A natural number has no zero in front of its other digits. -/
theorem encode_toString_ne (n : Nat) (b : UInt8) (bs : Bytes) :
    Utf8.encode (toString n) ≠ 0x30 :: b :: bs := by
  intro heq
  rw [encode_toString] at heq
  obtain ⟨c, cs, hcs, hc, hrest⟩ := List.map_eq_cons_iff.1 heq
  have hzero : c = '0' := by
    have hnat := toNat_digitByte (isDigit_of_mem_toDigits c (by rw [hcs]; exact List.mem_cons_self))
    rw [hc] at hnat
    exact Char.toNat_inj.1 hnat.symm
  have hn := eq_zero_of_head?_toDigits n (by rw [hcs, hzero]; rfl)
  rw [hn, Nat.toDigits_zero] at hcs
  obtain rfl : cs = [] := (List.cons.inj hcs).2.symm
  cases hrest

/-! ### Fractions and exponents -/

theorem encode_writeFraction (count value : Nat) :
    Utf8.encode (writeFraction (some (count, value))) =
      0x2E :: (List.replicate (count - (Utf8.encode (toString value)).length) 0x30 ++
        Utf8.encode (toString value)) := by
  have hlength : (Utf8.encode (toString value)).length = (toString value).length := by
    rw [encode_toString, List.length_map, Nat.toString_eq_ofList_toDigits, String.length_ofList]
  have hzeros (k : Nat) :
      Utf8.encode (String.ofList (List.replicate k '0')) = List.replicate k 0x30 := by
    rw [encode_digits (fun c hc => by rw [(List.mem_replicate.1 hc).2]; rfl), List.map_replicate]
    rfl
  rw [hlength, writeFraction, Utf8.encode_append, Utf8.encode_append, hzeros, List.append_assoc]
  rfl

/-- A fraction that is written is read back. -/
theorem scanFraction_write {f : Option (Nat × Nat)} (hf : Numeral.isFraction f = true)
    {rest : Bytes} (hrest : NoFraction rest) :
    scanFraction (Utf8.encode (writeFraction f) ++ rest) = some (f, rest) := by
  cases f with
  | none =>
    rw [writeFraction, show Utf8.encode "" = [] from rfl, List.nil_append]
    unfold scanFraction
    split
    · cases hrest
    · rfl
  | some f =>
    obtain ⟨count, value⟩ := f
    obtain ⟨hcount, hvalue⟩ : 0 < count ∧ (Nat.toDigits 10 value).length ≤ count := by
      simpa [Numeral.isFraction] using hf
    have hle : (Utf8.encode (toString value)).length ≤ count := by
      rwa [encode_toString, List.length_map]
    obtain ⟨ds, hds⟩ : ∃ ds, ds = List.replicate (count - (Utf8.encode (toString value)).length)
        0x30 ++ Utf8.encode (toString value) := ⟨_, rfl⟩
    have hdigits : ∀ b ∈ ds, isDigit b = true := by
      rw [hds]
      intro b hb
      rcases List.mem_append.1 hb with hb | hb
      · rw [(List.mem_replicate.1 hb).2]
        rfl
      · exact isDigit_of_mem_encode hb
    have hlength : ds.length = count := by
      rw [hds, List.length_append, List.length_replicate]
      omega
    have hnumber : digitsValue ds = value := by
      rw [hds, digitsValue_zeros, digitsValue_encode]
    rw [encode_writeFraction, ← hds, List.cons_append, scanFraction,
      spanDigits_append hdigits hrest.noDigit]
    cases ds with
    | nil => exact absurd hlength (Nat.ne_of_lt hcount)
    | cons b bs =>
      dsimp only
      rw [hlength, hnumber]

theorem scanPower_digits (negative : Bool) (n : Nat) {rest : Bytes} (hrest : NoDigit rest) :
    scanPower negative (Utf8.encode (toString n) ++ rest) =
      some (some (if negative then -(n : Int) else n), rest) := by
  have hvalue := digitsValue_encode n
  rw [scanPower, spanDigits_append (fun _ hb => isDigit_of_mem_encode hb) hrest]
  cases h : Utf8.encode (toString n) with
  | nil =>
    obtain ⟨b, bs, hcons, -⟩ := exists_encode_toString n
    rw [h] at hcons
    cases hcons
  | cons b bs =>
    rw [h] at hvalue
    dsimp only
    rw [hvalue]

/-- An exponent that is written is read back. -/
theorem scanExponent_write (e : Option Int) {rest : Bytes} (hends : Ends rest) :
    scanExponent (Utf8.encode (writeExponent e) ++ rest) = some (e, rest) := by
  have hrest := hends.noFraction.noDigit
  cases e with
  | none =>
    rw [writeExponent, show Utf8.encode "" = [] from rfl, List.nil_append]
    unfold scanExponent
    split
    · next e rest =>
      rw [if_neg]
      intro he
      simp only [Ends, List.head?_cons, Option.all_some, isEnd, Bool.or_eq_true,
        beq_iff_eq] at hends he
      rcases he with rfl | rfl <;> simp at hends
    · rfl
  | some e =>
    cases e with
    | ofNat n =>
      have hpower := scanPower_digits false n hrest
      obtain ⟨b, bs, hfirst, hb⟩ := exists_encode_toString n
      have hbytes : Utf8.encode (writeExponent (some (Int.ofNat n))) ++ rest =
          0x65 :: (Utf8.encode (toString n) ++ rest) := by
        rw [writeExponent, Utf8.encode_append]
        rfl
      rw [hbytes, hfirst, List.cons_append]
      rw [hfirst, List.cons_append] at hpower
      rw [scanExponent, if_pos (by decide)]
      · exact hpower
      -- the first digit is no sign
      all_goals
        intro r h
        rw [(List.cons.inj h).1] at hb
        cases hb
    | negSucc n =>
      have hbytes : Utf8.encode (writeExponent (some (Int.negSucc n))) ++ rest =
          0x65 :: 0x2D :: (Utf8.encode (toString (n + 1)) ++ rest) := by
        rw [writeExponent, show toString (Int.negSucc n) = "-" ++ toString (n + 1) from rfl,
          Utf8.encode_append, Utf8.encode_append]
        rfl
      rw [hbytes]
      exact scanPower_digits true (n + 1) hrest

theorem noFraction_writeExponent (e : Option Int) {rest : Bytes} (hends : Ends rest) :
    NoFraction (Utf8.encode (writeExponent e) ++ rest) := by
  cases e with
  | none => exact hends.noFraction
  | some e =>
    rw [writeExponent, Utf8.encode_append]
    rfl

theorem noDigit_writeFraction (f : Option (Nat × Nat)) {rest : Bytes} (hrest : NoFraction rest) :
    NoDigit (Utf8.encode (writeFraction f) ++ rest) := by
  cases f with
  | none => exact hrest.noDigit
  | some f =>
    rw [encode_writeFraction]
    rfl

/-- A number that is written is read back, behind its sign. -/
theorem scanNumber_write {n : Numeral} (hn : n.isProper = true) {rest : Bytes}
    (hends : Ends rest) :
    scanNumber n.negative (Utf8.encode (toString n.whole) ++
        (Utf8.encode (writeFraction n.fraction) ++
          (Utf8.encode (writeExponent n.exponent) ++ rest))) = some (n, rest) := by
  have hexponent := noFraction_writeExponent n.exponent hends
  rw [scanNumber, spanDigits_append (fun _ hb => isDigit_of_mem_encode hb)
    (noDigit_writeFraction n.fraction hexponent)]
  split
  · next h =>
    obtain ⟨b, bs, hcons, -⟩ := exists_encode_toString n.whole
    rw [(Prod.mk.inj h).1] at hcons
    cases hcons
  · next h => exact absurd (Prod.mk.inj h).1 (encode_toString_ne n.whole _ _)
  · next h =>
    obtain ⟨rfl, rfl⟩ := Prod.mk.inj h
    simp only [digitsValue_encode, Option.bind_eq_bind, Option.bind_some,
      scanFraction_write hn hexponent, scanExponent_write n.exponent hends]
    rfl

theorem isBlank_of_isDigit {b : UInt8} (hb : isDigit b = true) : isBlank b = false := by
  rw [← Bool.not_eq_true]
  intro hblank
  simp only [isBlank, Bool.or_eq_true, beq_iff_eq] at hblank
  rcases hblank with ((rfl | rfl) | rfl) | rfl <;> cases hb

theorem scanToken_of_isDigit {b : UInt8} {bs : Bytes} (hb : isDigit b = true) :
    scanToken (b :: bs) = (scanNumber false (b :: bs)).map fun r => (.number r.1, r.2) := by
  have hne {b' : UInt8} {bs' : Bytes} (h : b :: bs = b' :: bs') (hb' : isDigit b' = false) :
      False := by
    rw [(List.cons.inj h).1, hb'] at hb
    cases hb
  rw [scanToken.eq_def]
  split
  case h_12 => rfl
  all_goals
    next h => exact (hne h rfl).elim

/-- The bytes of a written number: a sign, or none, and the parts. -/
theorem encode_writeNumber (n : Numeral) :
    Utf8.encode (writeNumber n) =
      (if n.negative then [0x2D] else []) ++ (Utf8.encode (toString n.whole) ++
        (Utf8.encode (writeFraction n.fraction) ++ Utf8.encode (writeExponent n.exponent))) := by
  rw [writeNumber, Utf8.encode_append, Utf8.encode_append, Utf8.encode_append, List.append_assoc,
    List.append_assoc]
  cases n.negative <;> rfl

/-- A written number, read back. -/
theorem scanToken_writeNumber {n : Numeral} (hn : n.isProper = true) {rest : Bytes}
    (hends : Ends rest) :
    scanToken (Utf8.encode (writeNumber n) ++ rest) = some (.number n, rest) := by
  have hnumber := scanNumber_write hn hends
  rw [encode_writeNumber, List.append_assoc, List.append_assoc, List.append_assoc]
  cases hnegative : n.negative with
  | true =>
    rw [hnegative] at hnumber
    rw [if_pos rfl, List.singleton_append, scanToken, hnumber]
    rfl
  | false =>
    obtain ⟨b, bs, hfirst, hb⟩ := exists_encode_toString n.whole
    rw [hnegative, hfirst, List.cons_append] at hnumber
    rw [if_neg (by simp), List.nil_append, hfirst, List.cons_append, scanToken_of_isDigit hb,
      hnumber]
    rfl

/-! ## Tokens -/

/-- Some bytes spell some tokens, with no blanks between them. -/
inductive Scans : Bytes → List Token → Prop where
  | nil : Scans [] []
  | token {b : UInt8} {bs rest : Bytes} {t : Token} {ts : List Token} (hb : isBlank b = false)
      (ht : scanToken (b :: bs ++ rest) = some (t, rest)) (h : Scans rest ts) :
      Scans (b :: bs ++ rest) (t :: ts)

theorem Scans.scanAll {bs : Bytes} {ts : List Token} (h : Scans bs ts) (done : List Token)
    {fuel : Nat} (hfuel : bs.length ≤ fuel) : scanAll done fuel bs = some (done.reverse ++ ts) := by
  induction h generalizing done fuel with
  | nil =>
    unfold Json.scanAll
    simp
  | @token b bs rest t ts hb ht _ ih =>
    cases fuel with
    | zero => simp at hfuel
    | succ fuel =>
      have hrest : rest.length ≤ fuel := by
        simp only [List.length_append, List.length_cons] at hfuel
        omega
      have hdrop : (b :: bs ++ rest).dropWhile Json.isBlank = b :: bs ++ rest := by
        simp [hb]
      unfold Json.scanAll
      rw [hdrop]
      simp only [List.cons_append] at ht ⊢
      rw [ht]
      simp only
      rw [ih (t :: done) hrest]
      simp

/-- They are the tokens that are found. -/
theorem Scans.tokens? {bs : Bytes} {ts : List Token} (h : Scans bs ts) :
    tokens? bs = some ts := h.scanAll [] (Nat.le_refl _)

/-- Bytes that stand for one token, whatever follows. -/
theorem Scans.cons {first rest : Bytes} {t : Token} {ts : List Token}
    (hfirst : first.head?.any (!isBlank ·) = true)
    (ht : scanToken (first ++ rest) = some (t, rest)) (h : Scans rest ts) :
    Scans (first ++ rest) (t :: ts) := by
  cases first with
  | nil => cases hfirst
  | cons b bs => exact .token (by simpa using hfirst) ht h

theorem Scans.string (s : String) {rest : Bytes} {ts : List Token} (h : Scans rest ts) :
    Scans (Utf8.encode (writeString s) ++ rest) (.string (some s) :: ts) := by
  refine .cons ?_ (scanToken_writeString s rest) h
  unfold writeString
  rw [Utf8.encode_ofList]
  rfl

theorem Scans.number {n : Numeral} (hn : n.isProper = true) {rest : Bytes} {ts : List Token}
    (hends : Ends rest) (h : Scans rest ts) :
    Scans (Utf8.encode (writeNumber n) ++ rest) (.number n :: ts) := by
  refine .cons ?_ (scanToken_writeNumber hn hends) h
  rw [encode_writeNumber]
  cases n.negative with
  | true => rfl
  | false =>
    obtain ⟨b, bs, hfirst, hb⟩ := exists_encode_toString n.whole
    have hblank := isBlank_of_isDigit hb
    rw [hfirst]
    simp [hblank]

end Json

end MessageBus
