import MessageBus.Tracing.Headers
import MessageBus.Tracing.Span

/-!
# Trace contexts from end to end

A span context that is written into the headers of a message is read from them as it was, whatever
they held before: the numbers come back from their hexadecimal digits, and the vendors' entries from
their list. Main statement: `extract_inject`. So the spans of a trace keep its number and its state
across processes, since a span takes both from its parent (`yields_start`).
-/

set_option autoImplicit false

namespace MessageBus

/-! ## Hexadecimal digits -/

/-- A digit as numbers are written. -/
def IsHexDigit (c : Char) : Prop := ∃ n < 16, c = Nat.digitChar n

theorem IsHexDigit.cases {P : Char → Prop} (h : ∀ n < 16, P (Nat.digitChar n)) {c : Char}
    (hc : IsHexDigit c) : P c := by
  obtain ⟨n, hn, rfl⟩ := hc
  exact h n hn

theorem isHexDigit_of_mem_toDigits {n : Nat} : ∀ c ∈ Nat.toDigits 16 n, IsHexDigit c := by
  induction n using Nat.strongRecOn with
  | ind n ih =>
    by_cases hn : n < 16
    · rw [Nat.toDigits_of_lt_base hn]
      exact List.forall_mem_singleton.2 ⟨n, hn, rfl⟩
    · rw [Nat.toDigits_of_base_le (by omega) (by omega)]
      refine List.forall_mem_append.2 ⟨ih _ (by omega), ?_⟩
      exact List.forall_mem_singleton.2 ⟨n % 16, by omega, rfl⟩

theorem hexValue?_digitChar : ∀ n < 16, hexValue? (Nat.digitChar n) = some n := by decide

/-- The number of some digits, after those of another number. -/
def hexFrom (n : Nat) (cs : List Char) : Option Nat :=
  cs.foldlM (fun n c => (hexValue? c).map (16 * n + ·)) n

theorem hexFrom_toDigits (n : Nat) : hexFrom 0 (Nat.toDigits 16 n) = some n := by
  induction n using Nat.strongRecOn with
  | ind n ih =>
    by_cases hn : n < 16
    · rw [Nat.toDigits_of_lt_base hn]
      simp [hexFrom, hexValue?_digitChar n hn]
    · have hrest := ih (n / 16) (by omega)
      rw [hexFrom] at hrest
      rw [Nat.toDigits_of_base_le (by omega) (by omega), hexFrom, List.foldlM_append, hrest]
      simp [hexValue?_digitChar (n % 16) (by omega), Nat.div_add_mod]

theorem hexFrom_replicate (k : Nat) (cs : List Char) :
    hexFrom 0 (List.replicate k '0' ++ cs) = hexFrom 0 cs := by
  induction k with
  | zero => rfl
  | succ k ih => exact ih

theorem toList_hexPadded (width n : Nat) : (hexPadded width n).toList =
    List.replicate (width - (Nat.toDigits 16 n).length) '0' ++ Nat.toDigits 16 n :=
  String.toList_ofList

theorem isHexDigit_of_mem_hexPadded {width n : Nat} :
    ∀ c ∈ (hexPadded width n).toList, IsHexDigit c := by
  rw [toList_hexPadded]
  refine List.forall_mem_append.2 ⟨fun c hc => ?_, isHexDigit_of_mem_toDigits⟩
  exact ⟨0, by decide, List.eq_of_mem_replicate hc⟩

/-- A number is read from its digits. -/
theorem parseHex_hexPadded {bits width n : Nat} (h : n < 1 <<< bits) :
    parseHex bits (hexPadded width n).toList = some n := by
  have hdigits := @isHexDigit_of_mem_hexPadded width n
  have hvalue : hexFrom 0 (hexPadded width n).toList = some n := by
    rw [toList_hexPadded, hexFrom_replicate, hexFrom_toDigits]
  have hne : (hexPadded width n).toList ≠ [] := by
    rw [toList_hexPadded]
    exact List.append_ne_nil_of_right_ne_nil _ Nat.toDigits_ne_nil
  generalize (hexPadded width n).toList = cs at hdigits hvalue hne
  cases cs with
  | nil => exact absurd rfl hne
  | cons c cs =>
    have hplus : c ≠ '+' := (hdigits c List.mem_cons_self).cases (P := (· ≠ '+')) (by decide)
    have hdigits' : parseHex bits (c :: cs) = (hexFrom 0 (c :: cs)).bind fun n =>
        if n < 1 <<< bits then some n else none := by
      unfold parseHex
      split
      · next heq => exact absurd (List.cons.inj heq).1 hplus
      · rfl
    rw [hdigits', hvalue, Option.bind_some, if_pos h]

theorem parseId_hexPadded {bits width n : Nat} (h : n < 1 <<< bits) :
    SpanContext.parseId bits (hexPadded width n).toList = some n := by
  have hlower : (hexPadded width n).toList.any (fun c => 'A' ≤ c && c ≤ 'Z') = false := by
    rw [List.any_eq_false]
    intro c hc
    exact (isHexDigit_of_mem_hexPadded c hc).cases
      (P := fun c => ¬(decide ('A' ≤ c) && decide (c ≤ 'Z')) = true) (by decide)
  rw [SpanContext.parseId, hlower]
  exact parseHex_hexPadded h

/-! ## Pieces between separators -/

/-- Pieces without separators are found again, if the last one is not empty. -/
theorem splitTerminated_intercalate {sep : Char} {pieces : List (List Char)}
    (hsep : ∀ piece ∈ pieces, sep ∉ piece) (hne : pieces ≠ [])
    (hlast : pieces.getLast? ≠ some []) :
    splitTerminated sep ([sep].intercalate pieces) = pieces := by
  have hsplit : ([sep].intercalate pieces).splitOn sep = pieces :=
    List.splitOn_intercalate sep hsep hne
  rw [splitTerminated, hsplit, if_neg (by simpa using hlast)]

theorem trimBlanks_of_ends {cs : List Char} (hfirst : ∀ c, cs.head? = some c → isBlank c = false)
    (hlast : ∀ c, cs.getLast? = some c → isBlank c = false) : trimBlanks cs = cs := by
  have hfront (cs : List Char) (h : ∀ c, cs.head? = some c → isBlank c = false) :
      cs.dropWhile isBlank = cs := by
    cases cs with
    | nil => rfl
    | cons c cs => rw [List.dropWhile_cons_of_neg (by simp [h c rfl])]
  rw [trimBlanks, hfront cs hfirst, hfront, List.reverse_reverse]
  intro c hc
  rw [List.head?_reverse] at hc
  exact hlast c hc

/-! ## The parent -/

namespace SpanContext

/-- A span context that identifies a span: its numbers are not zero and have the width of ids, and
its state consists of entries. -/
structure Valid (c : SpanContext) : Prop where
  trace_ne : c.trace ≠ 0
  trace_lt : c.trace < 1 <<< 128
  span_ne : c.span ≠ 0
  span_lt : c.span < 1 <<< 64
  state : ∀ e ∈ c.state, TraceState.isKey e.1.toList = true ∧ TraceState.isValue e.2.toList = true

theorem toList_parentText (c : SpanContext) : c.parentText.toList =
    ['-'].intercalate [['0', '0'], c.traceText.toList, c.spanText.toList, ['0', '1']] := by
  have hzero : "00-".toList = ['0', '0', '-'] := by decide
  have hdash : "-".toList = ['-'] := by decide
  have hflags : "-01".toList = ['-', '0', '1'] := by decide
  simp [parentText, hzero, hdash, hflags]

/-- Trace and span are read from their text. -/
theorem parseParent_parentText {c : SpanContext} (h : c.Valid) :
    parseParent c.parentText = some (c.trace, c.span) := by
  have htrim : trimBlanks c.parentText.toList = c.parentText.toList := by
    have hends : c.parentText.toList = '0' :: (['0', '-'] ++ c.traceText.toList ++ ['-'] ++
        c.spanText.toList ++ ['-', '0'] ++ ['1']) := by simp [toList_parentText]
    rw [hends]
    refine trimBlanks_of_ends (fun ch hfirst => ?_) fun ch hlast => ?_
    · obtain rfl : '0' = ch := Option.some.inj hfirst
      decide
    · rw [← List.cons_append, List.getLast?_concat] at hlast
      obtain rfl : '1' = ch := Option.some.inj hlast
      decide
  have hpieces : splitTerminated '-' c.parentText.toList =
      [['0', '0'], c.traceText.toList, c.spanText.toList, ['0', '1']] := by
    rw [toList_parentText]
    refine splitTerminated_intercalate ?_ (by simp) (by simp)
    have hdash (width n : Nat) : '-' ∉ (hexPadded width n).toList := fun hmem =>
      (isHexDigit_of_mem_hexPadded _ hmem).cases (P := (· ≠ '-')) (by decide) rfl
    simp only [List.forall_mem_cons]
    exact ⟨by decide, hdash _ _, hdash _ _, by decide, by simp⟩
  have hversion : parseHex 8 ['0', '0'] = some 0 := by decide
  have hflags : parseHex 8 ['0', '1'] = some 1 := by decide
  rw [parseParent, htrim, hpieces]
  simp [hversion, hflags, traceText, spanText, parseId_hexPadded h.trace_lt,
    parseId_hexPadded h.span_lt]

end SpanContext

/-! ## The vendors' state -/

namespace TraceState

theorem not_mem_of_isKey {key : List Char} (h : isKey key = true) {c : Char}
    (hc : (isKeyChar c || c == '@') = false) : c ∉ key := by
  intro hmem
  simp only [isKey, Bool.and_eq_true, List.all_eq_true] at h
  rw [h.1.1.2 c hmem] at hc
  cases hc

/-- An entry is read from its text. -/
theorem parseEntry_text {key value : String} (hkey : isKey key.toList = true)
    (hvalue : isValue value.toList = true) :
    parseEntry (key ++ "=" ++ value).toList = some (key, value) := by
  have hsep : "=".toList = ['='] := by decide
  have hentry : (key ++ "=" ++ value).toList = key.toList ++ '=' :: value.toList := by
    simp [hsep]
  have hnot : ∀ c ∈ key.toList, (c != '=') = true := by
    intro c hc
    rw [bne_iff_ne]
    rintro rfl
    exact not_mem_of_isKey hkey (by decide) hc
  have hstart : value.toList.dropWhile (· == '=') = value.toList := by
    cases hcs : value.toList with
    | nil => rfl
    | cons c cs =>
      have hne : c ≠ '=' := by
        rintro rfl
        rw [hcs] at hvalue
        simp [isValue] at hvalue
      rw [List.dropWhile_cons_of_neg (by simpa using hne)]
  rw [parseEntry, hentry, List.takeWhile_append_of_pos hnot, List.dropWhile_append_of_pos hnot]
  simp [hstart, hkey, hvalue]

/-- The entries are read from their list. -/
theorem parse_text {s : TraceState}
    (h : ∀ e ∈ s, isKey e.1.toList = true ∧ isValue e.2.toList = true) : parse s.text = s := by
  have hsep : ",".toList = [','] := by decide
  have htext : s.text.toList = [','].intercalate (s.map fun e => (e.1 ++ "=" ++ e.2).toList) := by
    rw [text, String.toList_intercalate, hsep, List.map_map]
    rfl
  have hentries : (s.map fun e => (e.1 ++ "=" ++ e.2).toList).mapM parseEntry = some s := by
    clear htext
    induction s with
    | nil => rfl
    | cons e s ih =>
      rw [List.forall_mem_cons] at h
      rw [List.map_cons, List.mapM_cons, parseEntry_text h.1.1 h.1.2, ih h.2]
      rfl
  have hpieces : splitTerminated ',' s.text.toList =
      s.map fun e => (e.1 ++ "=" ++ e.2).toList := by
    rw [htext]
    cases s with
    | nil => rfl
    | cons e s =>
      have hshape : ∀ piece ∈ (e :: s).map fun e => (e.1 ++ "=" ++ e.2).toList,
          ',' ∉ piece ∧ piece ≠ [] := by
        refine List.forall_mem_map.2 fun e he => ?_
        obtain ⟨hkey, hvalue⟩ := h e he
        have hentry : (e.1 ++ "=" ++ e.2).toList = e.1.toList ++ '=' :: e.2.toList := by simp
        have hcomma : ',' ∉ e.2.toList := by
          simp only [isValue, Bool.and_eq_true, Bool.not_eq_true'] at hvalue
          simpa using hvalue.1.2
        rw [hentry]
        refine ⟨?_, by simp⟩
        rw [List.mem_append, List.mem_cons]
        rintro (hmem | hmem | hmem)
        · exact not_mem_of_isKey hkey (by decide) hmem
        · exact absurd hmem (by decide)
        · exact hcomma hmem
      refine splitTerminated_intercalate (fun piece hpiece => (hshape piece hpiece).1) (by simp) ?_
      intro hlast
      exact (hshape [] (List.mem_of_getLast? hlast)).2 rfl
  rw [parse, hpieces, hentries]
  rfl

end TraceState

/-! ## Headers -/

namespace Tracing

theorem setHeader_eq {key : String} (hkey : LetterCase.lowerText key = key) (t : Amqp.Table)
    (text : String) : setHeader t key text = t.insert key (.ofText text) := by
  rw [setHeader, hkey]

theorem header?_of_get? {t : Amqp.Table} {key text : String}
    (h : t.get? key = some (.ofText text)) : header? t key = some text := by
  rw [header?, h]
  exact Utf8.decode?_encode text

/-- A span context is read from the headers into which it was written, whatever they held. -/
theorem extract_inject {c : SpanContext} (h : c.Valid) (t : Amqp.Table) :
    extract (inject (some c) t) = some c := by
  have hparentKey : LetterCase.lowerText SpanContext.parentKey = SpanContext.parentKey := by decide
  have hstateKey : LetterCase.lowerText SpanContext.stateKey = SpanContext.stateKey := by decide
  have hinject : inject (some c) t = (t.insert SpanContext.parentKey (.ofText c.parentText)).insert
      SpanContext.stateKey (.ofText c.state.text) := by
    rw [inject, setHeader_eq hstateKey, setHeader_eq hparentKey]
  have hparent : header? (inject (some c) t) SpanContext.parentKey = some c.parentText := by
    refine header?_of_get? ?_
    rw [hinject, Dict.get?_insert, if_neg (by decide), Dict.get?_insert, if_pos rfl]
  have hstate : header? (inject (some c) t) SpanContext.stateKey = some c.state.text := by
    refine header?_of_get? ?_
    rw [hinject, Dict.get?_insert, if_pos rfl]
  rw [extract, hparent, hstate]
  simp [SpanContext.parseParent_parentText h, TraceState.parse_text h.state, h.trace_ne, h.span_ne]

end Tracing

/-! ## Spans below others -/

/-- A span has a context like that of its parent. -/
structure SpanStart.Yields (s : SpanStart) (c : SpanContext) : Prop where
  valid : (∀ parent, s.parent = some parent → parent.Valid) → c.Valid
  trace : ∀ parent, s.parent = some parent → c.trace = parent.trace
  state : ∀ parent, s.parent = some parent → c.state = parent.state

namespace SpanRecorder

/-- The numbers given so far fit the ids. -/
structure Fits (r : SpanRecorder) : Prop where
  spans : r.spans < 1 <<< 64
  traces : r.traces < 1 <<< 128

theorem fits_start {r : SpanRecorder} {s : SpanStart} (hspans : r.spans + 1 < 1 <<< 64)
    (htraces : r.traces + 1 < 1 <<< 128) : (r.start s).1.Fits := by
  refine ⟨hspans, ?_⟩
  unfold start
  cases s.parent with
  | none => exact htraces
  | some parent => exact Nat.lt_of_succ_lt htraces

/-- A recorder begins spans so while its numbers fit. -/
theorem yields_start {r : SpanRecorder} {s : SpanStart} (h : (r.start s).1.Fits) :
    s.Yields (r.start s).2 := by
  have hspans : r.spans + 1 < 1 <<< 64 := h.spans
  have htraces := h.traces
  unfold start at htraces ⊢
  cases hparent : s.parent with
  | none =>
    simp only [hparent] at htraces ⊢
    refine ⟨fun _ => ⟨by simp, htraces, by simp, hspans, ?_⟩, fun _ h => ?_, fun _ h => ?_⟩
    · rintro e ⟨⟩
    · cases h.symm.trans hparent
    · cases h.symm.trans hparent
  | some parent =>
    simp only
    refine ⟨fun hvalid => ?_, fun parent' h => ?_, fun parent' h => ?_⟩
    · have hparentValid := hvalid parent hparent
      exact ⟨hparentValid.trace_ne, hparentValid.trace_lt, by simp, hspans, hparentValid.state⟩
    · obtain rfl := Option.some.inj (h.symm.trans hparent)
      rfl
    · obtain rfl := Option.some.inj (h.symm.trans hparent)
      rfl

end SpanRecorder

end MessageBus
