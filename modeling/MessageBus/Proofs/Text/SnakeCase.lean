import Mathlib.Data.List.Basic
import Mathlib.Tactic.ByContra
import MessageBus.Text.SnakeCase

/-!
# The form of names in snake case

A name in snake case is made of the letters of the name it comes from, in small letters and in
order (`letters`), with single low lines between its words. Where the low lines stand is told by
the characters on both sides (`Parts`), and a name that has this form already is left as it is.
Main statement: `snake_law`.
-/

set_option autoImplicit false

namespace MessageBus.SnakeCase

open LetterCase

/-! ## Characters -/

/-- A character that is not uppercase, or whose lower-case form has nothing uppercase and no
separator. -/
def Folds (c : Char) : Prop :=
  isUpper c = true → ∀ d ∈ lower c, isUpper d = false ∧ isSeparator d = false

instance (c : Char) : Decidable (Folds c) :=
  haveI := List.decidableBAll (fun d => isUpper d = false ∧ isSeparator d = false) (lower c)
  inferInstanceAs (Decidable (isUpper c = true → _))

/-- What becomes of a character that is no separator. -/
def image (c : Char) : List Char := if isUpper c then lower c else [c]

/-- What becomes of the characters of a text that are no separators. -/
def letters (cs : List Char) : List Char := (cs.filter fun c => !isSeparator c).flatMap image

variable {before last after : Option Char} {c d : Char} {cs rest : List Char}

theorem folds_of_ascii (h : c.toNat < 0x80) : Folds c := by
  have hall : ∀ n < 0x80, Folds (Char.ofNat n) := by decide +kernel
  have hc := hall c.toNat h
  rwa [Char.ofNat_toNat] at hc

theorem image_ne_nil (c : Char) : image c ≠ [] := by
  unfold image
  split
  · exact lower_ne_nil c
  · simp

/-- A character that folds becomes nothing that is uppercase or a separator. -/
theorem Folds.image (h : Folds c) (hc : isSeparator c = false) (hd : d ∈ image c) :
    isUpper d = false ∧ isSeparator d = false := by
  unfold SnakeCase.image at hd
  split at hd
  · next hupper => exact h hupper d hd
  · next hupper =>
    obtain rfl := List.mem_singleton.1 hd
    exact ⟨Bool.eq_false_iff.2 hupper, hc⟩

theorem ne_of_not_separator (h : isSeparator d = false) : d ≠ '_' := by
  rintro rfl
  cases h

theorem Folds.filter_image (h : Folds c) (hc : isSeparator c = false) :
    (SnakeCase.image c).filter (· ≠ '_') = SnakeCase.image c := by
  refine List.filter_eq_self.2 fun d hd => ?_
  simpa using ne_of_not_separator (h.image hc hd).2

theorem letters_cons (c : Char) (cs : List Char) :
    letters (c :: cs) = if isSeparator c then letters cs else image c ++ letters cs := by
  unfold letters
  cases hc : isSeparator c <;> simp [hc]

/-! ## What is written for a character -/

/-- The low line in front of a character that is no separator, if there is one. -/
def gap (before last : Option Char) (c : Char) (after : Option Char) : List Char :=
  if isUpper c && opensWord before after && last != some '_' then ['_'] else []

/-- What is written for a character. -/
def written (before last : Option Char) (c : Char) (after : Option Char) : List Char :=
  if isSeparator c then (if last.isSome && last != some '_' then ['_'] else [])
  else gap before last c after ++ image c

theorem words_cons (before last : Option Char) (c : Char) (rest : List Char) :
    words before last (c :: rest) =
      let here := written before last c rest.head?
      here ++ words (some c) (here.getLast?.or last) rest := by
  have hlast : ∀ l, (l ++ lower c).getLast? = (lower c).getLast? := fun l => by
    rw [List.getLast?_append_of_ne_nil _ (lower_ne_nil c)]
  have hsome : (lower c).getLast?.or last = (lower c).getLast? := by
    rw [List.getLast?_eq_some_getLast (lower_ne_nil c), Option.some_or]
  unfold written gap image
  rw [words]
  split
  · split <;> simp
  · cases hupper : isUpper c
    · simp
    · simp only [Bool.true_and, if_true, hlast, hsome, List.append_assoc]

theorem written_of_separator (hc : isSeparator c = true) :
    written before last c after = if last.isSome && last != some '_' then ['_'] else [] :=
  if_pos hc

theorem written_of_not_separator (hc : isSeparator c = false) :
    written before last c after = gap before last c after ++ image c := by
  rw [written, hc, if_neg Bool.false_ne_true]

theorem gap_cases (before last : Option Char) (c : Char) (after : Option Char) :
    gap before last c after = [] ∨ gap before last c after = ['_'] := by
  unfold gap
  split
  · exact .inr rfl
  · exact .inl rfl

/-- What is written for a character that is no separator, and behind it. -/
theorem exists_words_letter (before last : Option Char) (rest : List Char)
    (hc : isSeparator c = false) :
    ∃ last', words before last (c :: rest) =
      gap before last c rest.head? ++ image c ++ words (some c) last' rest := by
  rw [words_cons, written_of_not_separator hc]
  exact ⟨_, rfl⟩

/-- Behind a low line no other one is written. -/
theorem gap_of_low (before : Option Char) (c : Char) (after : Option Char) :
    gap before (some '_') c after = [] := by
  simp [gap]

theorem filter_written (hc : Folds c) :
    (written before last c after).filter (· ≠ '_') = letters [c] := by
  rw [letters_cons]
  cases hsep : isSeparator c with
  | true =>
    rw [written_of_separator hsep]
    split <;> rfl
  | false =>
    have himage := hc.filter_image hsep
    rw [written_of_not_separator hsep, List.filter_append, himage]
    rcases gap_cases before last c after with hgap | hgap <;> rw [hgap] <;> simp [letters]

/-- What is written for the first part of a text has the letters of that part. -/
theorem exists_words_append (before last : Option Char) (rest : List Char)
    (hcs : ∀ c ∈ cs, Folds c) :
    ∃ out before' last', words before last (cs ++ rest) = out ++ words before' last' rest ∧
      out.filter (· ≠ '_') = letters cs := by
  induction cs generalizing before last with
  | nil => exact ⟨[], before, last, rfl, rfl⟩
  | cons c cs ih =>
    rw [List.forall_mem_cons] at hcs
    rw [List.cons_append, words_cons]
    obtain ⟨out, before', last', hout, hletters⟩ := ih (some c)
      ((written before last c (cs ++ rest).head?).getLast?.or last) hcs.2
    refine ⟨written before last c (cs ++ rest).head? ++ out, before', last', ?_, ?_⟩
    · dsimp only
      rw [hout, List.append_assoc]
    · rw [List.filter_append, hletters, filter_written hcs.1]
      simp only [letters_cons]
      split <;> simp [letters]

/-- Nothing is lost and nothing is added: what is written has the letters of the text. -/
theorem filter_words (before last : Option Char) (hcs : ∀ c ∈ cs, Folds c) :
    (words before last cs).filter (· ≠ '_') = letters cs := by
  obtain ⟨out, before', last', hout, hletters⟩ :=
    exists_words_append before last [] hcs
  rw [words, List.append_nil, List.append_nil] at hout
  rw [hout, hletters]

/-- Nothing uppercase is written, and no separator but the low line. -/
theorem of_mem_words (hcs : ∀ c ∈ cs, Folds c) (hd : d ∈ words before last cs) :
    isUpper d = false ∧ (isSeparator d = true → d = '_') := by
  by_cases hlow : d = '_'
  · subst hlow
    exact ⟨rfl, fun _ => rfl⟩
  · -- then it comes from a letter
    have hletter : d ∈ letters cs := by
      rw [← filter_words before last hcs]
      exact List.mem_filter.2 ⟨hd, by simpa using hlow⟩
    obtain ⟨c, hc, hdc⟩ := List.mem_flatMap.1 hletter
    obtain ⟨hmem, hsep⟩ := List.mem_filter.1 hc
    obtain ⟨hupper, hnone⟩ := (hcs c hmem).image (by simpa using hsep) hdc
    exact ⟨hupper, fun h => by rw [hnone] at h; cases h⟩

/-! ## Where the low lines stand -/

/-- A word ends between two characters that are no separators, where some separators stand between
them and some text comes behind. -/
def Parts (a : Char) (separators : List Char) (b : Char) (rest : List Char) : Prop :=
  separators ≠ [] ∨ (isUpper b = true ∧ (isLower a = true ∨ a.isDigit = true)) ∨
    (isUpper a = true ∧ isUpper b = true ∧ rest.head?.any isLower = true)

theorem opensWord_some (a : Char) (after : Option Char) :
    opensWord (some a) after = true ↔
      (isLower a = true ∨ a.isDigit = true) ∨ (isUpper a = true ∧ after.any isLower = true) := by
  unfold opensWord
  split <;> simp_all

theorem words_of_separators {separators : List Char} (before : Option Char) (rest : List Char)
    (h : ∀ c ∈ separators, isSeparator c = true) :
    ∃ before', words before (some '_') (separators ++ rest) = words before' (some '_') rest := by
  induction separators generalizing before with
  | nil => exact ⟨before, rfl⟩
  | cons c separators ih =>
    rw [List.forall_mem_cons] at h
    have hnothing : written before (some '_') c (separators ++ rest).head? = [] := by
      rw [written_of_separator h.1]
      rfl
    obtain ⟨before', hbefore⟩ := ih (some c) h.2
    refine ⟨before', ?_⟩
    rw [List.cons_append, words_cons, hnothing]
    exact hbefore

/-- Between two characters with no others than separators between them there is a low line or
nothing. -/
theorem words_between (a : Char) {b : Char} {separators : List Char} (rest : List Char)
    (hd : d ≠ '_') (hb : isSeparator b = false) (hseps : ∀ c ∈ separators, isSeparator c = true) :
    ∃ between before' last',
      words (some a) (some d) (separators ++ b :: rest) =
        between ++ image b ++ words before' last' rest ∧
      (between = [] ∨ between = ['_']) ∧ ('_' ∈ between ↔ Parts a separators b rest) := by
  cases separators with
  | nil =>
    -- the one low line there can be is the one in front of the second character
    have hline : '_' ∈ gap (some a) (some d) b rest.head? ↔ Parts a [] b rest := by
      have hgap : '_' ∈ gap (some a) (some d) b rest.head? ↔
          isUpper b = true ∧ opensWord (some a) rest.head? = true := by
        unfold gap
        split <;> simp_all
      rw [hgap, opensWord_some, Parts]
      simp only [ne_eq, not_true_eq_false, false_or]
      rw [and_or_left, @and_left_comm (isUpper b = true)]
    obtain ⟨last', hwords⟩ := exists_words_letter (some a) (some d) rest hb
    exact ⟨gap (some a) (some d) b rest.head?, some b, last', hwords, gap_cases _ _ _ _, hline⟩
  | cons s separators =>
    rw [List.forall_mem_cons] at hseps
    have hline : written (some a) (some d) s (separators ++ b :: rest).head? = ['_'] := by
      rw [written_of_separator hseps.1]
      simp [hd]
    obtain ⟨before', hbefore⟩ :=
      words_of_separators (some s) (b :: rest) hseps.2
    obtain ⟨last', hwords⟩ := exists_words_letter before' (some '_') rest hb
    refine ⟨['_'], some b, last', ?_, .inr rfl, by simp [Parts]⟩
    rw [List.cons_append, words_cons, hline]
    show '_' :: words (some s) (some '_') (separators ++ b :: rest) = _
    rw [hbefore, hwords, gap_of_low]
    rfl

/-! ## No low line in front, and no two in a row -/

/-- What comes behind some text has no low line at its start, if nothing or a low line is before it,
and none behind another one. -/
def Tidy (last : Option Char) : List Char → Prop
  | [] => True
  | c :: cs => (c = '_' → ∃ d, last = some d ∧ d ≠ '_') ∧ Tidy (some c) cs

theorem tidy_append {xs ys : List Char} :
    Tidy last (xs ++ ys) ↔ Tidy last xs ∧ Tidy (xs.getLast?.or last) ys := by
  induction xs generalizing last with
  | nil => simp [Tidy]
  | cons x xs ih =>
    have hlast : (xs.getLast?.or (some x)) = (x :: xs).getLast?.or last := by
      cases xs with
      | nil => rfl
      | cons y ys => simp [List.getLast?_eq_some_getLast]
    rw [List.cons_append, Tidy, Tidy, ih, and_assoc, hlast]

theorem tidy_of_not_mem (h : '_' ∉ cs) : Tidy last cs := by
  induction cs generalizing last with
  | nil => trivial
  | cons c cs ih =>
    rw [List.mem_cons, not_or] at h
    exact ⟨fun hc => absurd hc.symm h.1, ih h.2⟩

theorem Tidy.head (h : Tidy none cs) : cs.head? ≠ some '_' := by
  cases cs with
  | nil => simp
  | cons c cs =>
    rintro hc
    obtain ⟨d, hnone, -⟩ := h.1 (Option.some.inj hc)
    cases hnone

theorem Tidy.not_infix (h : Tidy last cs) : ¬ ['_', '_'] <:+: cs := by
  rintro ⟨front, back, rfl⟩
  rw [List.append_assoc, tidy_append] at h
  obtain ⟨d, hlast, hd⟩ := h.2.2.1 rfl
  exact hd (Option.some.inj hlast).symm

/-- What has been written last, after a character that was read. -/
def Abreast (before last : Option Char) : Prop :=
  ∀ p, before = some p → if isSeparator p then last = none ∨ last = some '_'
    else ∃ d, last = some d ∧ d ≠ '_'

theorem abreast_written (before last after : Option Char) (hc : Folds c) :
    Abreast (some c) ((written before last c after).getLast?.or last) := by
  rintro p hp
  obtain rfl := Option.some.inj hp
  cases hsep : isSeparator c with
  | true =>
    rw [if_pos rfl, written_of_separator hsep]
    split
    · exact .inr rfl
    · next hlast =>
      cases last with
      | none => exact .inl rfl
      | some d => exact .inr (by simpa using hlast)
  | false =>
    have hne := image_ne_nil c
    rw [if_neg Bool.false_ne_true, written_of_not_separator hsep,
      List.getLast?_append_of_ne_nil _ hne, List.getLast?_eq_some_getLast hne]
    exact ⟨_, rfl, ne_of_not_separator (hc.image hsep (List.getLast_mem hne)).2⟩

theorem not_separator_of_opensWord {p : Char} (h : opensWord (some p) after = true) :
    isSeparator p = false := by
  by_contra hsep
  have hp : p = '-' ∨ p = '.' ∨ p = ' ' ∨ p = '_' := by
    simp only [isSeparator, Bool.not_eq_false, Bool.or_eq_true, beq_iff_eq, or_assoc] at hsep
    exact hsep
  rcases hp with rfl | rfl | rfl | rfl <;> simp [opensWord, isLower, isUpper] at h

theorem tidy_written (h : Abreast before last) (hc : Folds c) :
    Tidy last (written before last c after) := by
  cases hsep : isSeparator c with
  | true =>
    rw [written_of_separator hsep]
    split
    · next hlast =>
      cases last with
      | none => cases hlast
      | some d => exact ⟨fun _ => ⟨d, rfl, by simpa using hlast⟩, trivial⟩
    · trivial
  | false =>
    have himage : '_' ∉ image c := fun hmem => by
      cases (hc.image hsep hmem).2
    rw [written_of_not_separator hsep, tidy_append]
    refine ⟨?_, tidy_of_not_mem himage⟩
    unfold gap
    split
    · next hgap =>
      simp only [Bool.and_eq_true] at hgap
      obtain ⟨⟨-, hopens⟩, -⟩ := hgap
      -- a word is opened only behind a character that is no separator
      cases before with
      | none => cases hopens
      | some p =>
        have hlast := h p rfl
        rw [not_separator_of_opensWord hopens, if_neg Bool.false_ne_true] at hlast
        exact ⟨fun _ => hlast, trivial⟩
    · trivial

theorem tidy_words (h : Abreast before last) (hcs : ∀ c ∈ cs, Folds c) :
    Tidy last (words before last cs) := by
  induction cs generalizing before last with
  | nil => trivial
  | cons c cs ih =>
    rw [List.forall_mem_cons] at hcs
    rw [words_cons]
    exact tidy_append.2 ⟨tidy_written h hcs.1, ih (abreast_written _ _ _ hcs.1) hcs.2⟩

/-- A text that has the form is left as it is. -/
theorem words_eq_self (htidy : Tidy last cs)
    (hcs : ∀ c ∈ cs, isUpper c = false ∧ (isSeparator c = true → c = '_')) :
    words before last cs = cs := by
  induction cs generalizing before last with
  | nil => rfl
  | cons c cs ih =>
    rw [List.forall_mem_cons] at hcs
    obtain ⟨⟨hupper, hlow⟩, hcs⟩ := hcs
    have hhere : written before last c cs.head? = [c] := by
      cases hsep : isSeparator c with
      | true =>
        obtain ⟨d, rfl, hd⟩ := htidy.1 (hlow hsep)
        rw [written_of_separator hsep, hlow hsep]
        simp [hd]
      | false =>
        rw [written_of_not_separator hsep, gap, image, hupper]
        rfl
    rw [words_cons, hhere]
    exact congrArg (c :: ·) (ih htidy.2 hcs)

/-! ## The law -/

/-- What a name and its form in snake case have in common. -/
structure SnakeForm (name snake : String) : Prop where
  upper : ∀ c ∈ snake.toList, isUpper c = false
  separators : '-' ∉ snake.toList ∧ '.' ∉ snake.toList ∧ ' ' ∉ snake.toList
  head : snake.toList.head? ≠ some '_'
  single : ¬ ['_', '_'] <:+: snake.toList
  letters : snake.toList.filter (· ≠ '_') =
    (name.toList.filter fun c => !isSeparator c).flatMap fun c => if isUpper c then lower c else [c]
  /-- Between what becomes of two neighbours, the separators left out, there is a low line where a
  word ends, and nothing otherwise. -/
  between : ∀ before a separators b rest, name.toList = before ++ a :: (separators ++ b :: rest) →
    isSeparator a = false → isSeparator b = false → (∀ c ∈ separators, isSeparator c = true) →
    ∃ front line back, snake.toList = front ++ image a ++ line ++ image b ++ back ∧
      front.filter (· ≠ '_') = SnakeCase.letters before ∧
      back.filter (· ≠ '_') = SnakeCase.letters rest ∧
      (line = [] ∨ line = ['_']) ∧ ('_' ∈ line ↔ Parts a separators b rest)
  again : toSnakeCase snake = snake

theorem toList_toSnakeCase (name : String) :
    (toSnakeCase name).toList = words none none name.toList := String.toList_ofList

/-- Where the neighbours stand in what is written. -/
theorem words_split {a b : Char} {start separators : List Char}
    (hcs : ∀ c ∈ start ++ a :: (separators ++ b :: rest), Folds c) (ha : isSeparator a = false)
    (hb : isSeparator b = false) (hseps : ∀ c ∈ separators, isSeparator c = true) :
    ∃ front line back,
      words none none (start ++ a :: (separators ++ b :: rest)) =
        front ++ image a ++ line ++ image b ++ back ∧
      front.filter (· ≠ '_') = letters start ∧ back.filter (· ≠ '_') = letters rest ∧
      (line = [] ∨ line = ['_']) ∧ ('_' ∈ line ↔ Parts a separators b rest) := by
  simp only [List.mem_append, List.mem_cons] at hcs
  obtain ⟨out, before, last, hout, hletters⟩ :=
    exists_words_append none none (a :: (separators ++ b :: rest)) fun c hc => hcs c (.inl hc)
  -- the first of the two has been written
  have hne := image_ne_nil a
  have hlast : ∃ d, ((written before last a (separators ++ b :: rest).head?).getLast?.or last) =
      some d ∧ d ≠ '_' := by
    have habreast := abreast_written before last (separators ++ b :: rest).head?
      (hcs a (.inr (.inl rfl))) a rfl
    rwa [ha, if_neg Bool.false_ne_true] at habreast
  obtain ⟨d, hlast, hd⟩ := hlast
  obtain ⟨line, before', last', hline, hcases, hparts⟩ :=
    words_between a rest hd hb hseps
  refine ⟨out ++ gap before last a (separators ++ b :: rest).head?, line,
    words before' last' rest, ?_, ?_, ?_, hcases, hparts⟩
  · rw [hout, words_cons]
    dsimp only
    rw [hlast, hline, written_of_not_separator ha]
    simp only [List.append_assoc]
  · rw [List.filter_append, hletters]
    rcases gap_cases before last a (separators ++ b :: rest).head? with hgap | hgap <;>
      rw [hgap] <;> simp
  · exact filter_words _ _ fun c hc => hcs c (.inr (.inr (.inr (.inr hc))))

/-- A name whose characters fold, above all one of ASCII characters, is brought into a form that has
its letters in order, and a low line exactly where a word ends. -/
theorem snake_law :
    (∀ c : Char, c.toNat < 0x80 → Folds c) ∧
      ∀ name : String, (∀ c ∈ name.toList, Folds c) → SnakeForm name (toSnakeCase name) := by
  refine ⟨fun c => folds_of_ascii, fun name hname => ?_⟩
  have hmem {d : Char} (hd : d ∈ words none none name.toList) := of_mem_words hname hd
  have htidy : Tidy none (words none none name.toList) := tidy_words (by simp [Abreast]) hname
  have hlist := toList_toSnakeCase name
  constructor
  case upper => exact fun c hc => (hmem (hlist ▸ hc)).1
  case separators =>
    rw [hlist]
    refine ⟨fun h => ?_, fun h => ?_, fun h => ?_⟩ <;> cases (hmem h).2 rfl
  case head => exact hlist ▸ htidy.head
  case single => exact hlist ▸ htidy.not_infix
  case letters => exact hlist ▸ filter_words none none hname
  case between =>
    intro before a separators b rest hsplit ha hb hseps
    rw [hlist, hsplit]
    exact words_split (hsplit ▸ hname) ha hb hseps
  case again =>
    rw [toSnakeCase, hlist, words_eq_self htidy fun c hc => hmem hc, ← hlist, String.ofList_toList]

/-- The law for a name with an acronym, a digit, separators in a row and at both ends, and a letter
that is not ASCII. -/
theorem snake_law_acronym :
    let name := "-HTTP2Request. Sent-ÉtéÀB_"
    (∀ c ∈ name.toList, Folds c) ∧ toSnakeCase name = "http2_request_sent_été_àb_" ∧
      SnakeForm name (toSnakeCase name) := by
  have hall : ("-HTTP2Request. Sent-ÉtéÀB_".toList.all fun c => decide (Folds c)) = true := by
    decide +kernel
  have hname : ∀ c ∈ "-HTTP2Request. Sent-ÉtéÀB_".toList, Folds c := fun c hc =>
    of_decide_eq_true (List.all_eq_true.1 hall c hc)
  exact ⟨hname, by decide +kernel, snake_law.2 _ hname⟩

end MessageBus.SnakeCase
