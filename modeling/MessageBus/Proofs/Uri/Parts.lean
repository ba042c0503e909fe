import Mathlib.Data.List.DropRight
import MessageBus.Proofs.Text.Percent
import MessageBus.Uri

/-!
# How an address falls into its parts

The user information is what stands before the last at-sign of the authority (`Authority`), and what
is read of the authority is told by it and by the server behind it (`Authority.ofAuthority?_iff`).
-/

set_option autoImplicit false

namespace MessageBus

namespace Uri

/-! ## Texts without what is passed over -/

/-- Whether a character may stand only inside an address. -/
def isOuter (c : Char) : Bool := c.toNat ≤ 0x20

/-- Whether a character of an address is not passed over. -/
def isKept (c : Char) : Bool := c ≠ '\t' ∧ c ≠ '\n' ∧ c ≠ '\r'

variable {c d : Char} {cs ds rest info server tail : List Char} {u : Uri}

theorem cleaned_eq (uri : String) :
    cleaned uri = ((uri.toList.dropWhile isOuter).rdropWhile isOuter).filter isKept := rfl

theorem rdropWhile_append_cons (hd : isOuter d = false) :
    (cs ++ d :: ds).rdropWhile isOuter = cs ++ d :: ds.rdropWhile isOuter := by
  induction ds using List.reverseRecOn with
  | nil => simp [List.rdropWhile, hd]
  | append_singleton ds c ih =>
    have hassoc : cs ++ d :: (ds ++ [c]) = (cs ++ d :: ds) ++ [c] := by simp
    rw [hassoc]
    cases hc : isOuter c with
    | true => rw [List.rdropWhile_concat_pos _ _ _ hc, List.rdropWhile_concat_pos _ _ _ hc, ih]
    | false =>
      rw [List.rdropWhile_concat_neg _ _ _ (by simp [hc]),
        List.rdropWhile_concat_neg _ _ _ (by simp [hc]), hassoc]

/-! ## The parts of an authority -/

/-- Characters of which none ends an authority, and what follows them. -/
theorem span_authority (hcs : ∀ c ∈ cs, endsAuthority c = false)
    (htail : ∀ c ∈ tail.head?, endsAuthority c = true) :
    (cs ++ tail).takeWhile (fun c => !endsAuthority c) = cs ∧
      (cs ++ tail).dropWhile (fun c => !endsAuthority c) = tail := by
  have hnone : tail.takeWhile (fun c => !endsAuthority c) = [] ∧
      tail.dropWhile (fun c => !endsAuthority c) = tail := by
    cases tail with
    | nil => exact ⟨rfl, rfl⟩
    | cons c tail => simp [htail c rfl]
  have hall : ∀ c ∈ cs, (!endsAuthority c) = true := fun c hc => by rw [hcs c hc]; rfl
  rw [List.takeWhile_append_of_pos hall, List.dropWhile_append_of_pos hall, hnone.1, hnone.2,
    List.append_nil]
  exact ⟨rfl, rfl⟩

/-- An authority with user information, which ends at the last at-sign. -/
structure Authority (cs info server tail : List Char) : Prop where
  text : cs = info ++ '@' :: (server ++ tail)
  info : ∀ c ∈ info, endsAuthority c = false
  server : ∀ c ∈ server, c ≠ '@' ∧ endsAuthority c = false
  tail : ∀ c ∈ tail.head?, endsAuthority c = true

theorem Authority.split (h : Authority cs info server tail) :
    splitInformation cs = (some info, server ++ tail) := by
  have hauthority : cs.takeWhile (fun c => !endsAuthority c) = info ++ '@' :: server := by
    have hcs : cs = (info ++ '@' :: server) ++ tail := by rw [h.text]; simp
    rw [hcs]
    refine (span_authority (fun c hc => ?_) h.tail).1
    rcases List.mem_append.1 hc with hc | hc
    · exact h.info c hc
    · rcases List.mem_cons.1 hc with rfl | hc
      · rfl
      · exact (h.server c hc).2
  have hlast : ((info ++ '@' :: server).reverse.takeWhile (· ≠ '@')).reverse = server := by
    have hall : ∀ c ∈ server.reverse, decide (c ≠ '@') = true := fun c hc =>
      decide_eq_true (h.server c (List.mem_reverse.1 hc)).1
    rw [List.reverse_append, List.reverse_cons, List.append_assoc,
      List.takeWhile_append_of_pos hall]
    simp
  unfold splitInformation
  simp only [hauthority, hlast]
  rw [if_neg (by rw [List.length_append, List.length_cons]; omega), h.text]
  have hlen : (info ++ '@' :: server).length - server.length = info.length + 1 := by
    rw [List.length_append, List.length_cons]; omega
  rw [hlen]
  simp [List.drop_append]

/-- A text whose authority has an at-sign has user information. -/
theorem exists_authority (h : '@' ∈ cs.takeWhile fun c => !endsAuthority c) :
    ∃ info server tail, Authority cs info server tail := by
  obtain ⟨after, before, hsplit, hafter⟩ := List.eq_append_cons_of_mem (List.mem_reverse.2 h)
  have hauthority : cs.takeWhile (fun c => !endsAuthority c) =
      before.reverse ++ '@' :: after.reverse := by
    rw [← List.reverse_reverse (cs.takeWhile _), hsplit]
    simp
  have hends : ∀ c ∈ cs.takeWhile (fun c => !endsAuthority c), endsAuthority c = false :=
    fun c hc => by simpa using List.mem_takeWhile_imp hc
  rw [hauthority] at hends
  refine ⟨before.reverse, after.reverse, cs.dropWhile fun c => !endsAuthority c, ?_, ?_, ?_, ?_⟩
  · have hcs : (cs.takeWhile fun c => !endsAuthority c) ++
        (cs.dropWhile fun c => !endsAuthority c) = cs := List.takeWhile_append_dropWhile
    rw [hauthority] at hcs
    simpa using hcs.symm
  · exact fun c hc => hends c (List.mem_append_left _ hc)
  · refine fun c hc => ⟨?_, hends c (List.mem_append_right _ (List.mem_cons_of_mem _ hc))⟩
    rintro rfl
    exact hafter (List.mem_reverse.1 hc)
  · intro c hc
    have := List.head?_dropWhile_not (fun c => !endsAuthority c) cs
    rw [Option.mem_def.1 hc] at this
    simpa using this

theorem split_of_not_mem (h : '@' ∉ cs.takeWhile fun c => !endsAuthority c) :
    splitInformation cs = (none, cs) := by
  have hall : ∀ c ∈ (cs.takeWhile fun c => !endsAuthority c).reverse, decide (c ≠ '@') = true := by
    refine fun c hc => decide_eq_true ?_
    rintro rfl
    exact h (List.mem_reverse.1 hc)
  unfold splitInformation
  simp only [List.takeWhile_eq_self_iff.2 hall, List.reverse_reverse, if_pos]

theorem ofAuthority?_of_not_mem (h : '@' ∉ cs.takeWhile fun c => !endsAuthority c)
    (hu : ofAuthority? cs = some u) : u.user = [] ∧ u.password = [] := by
  unfold ofAuthority? at hu
  simp only [split_of_not_mem h] at hu
  split at hu
  · cases hu
  · obtain ⟨host, -, hu⟩ := Option.bind_eq_some_iff.1 hu
    split at hu
    · cases hu
    · obtain ⟨⟨port, rest⟩, -, hu⟩ := Option.bind_eq_some_iff.1 hu
      obtain rfl := Option.some.inj hu
      exact ⟨rfl, rfl⟩

/-- What is read of an authority with user information. -/
structure Reads (info server tail : List Char) (u : Uri) : Prop where
  informed : ¬(info = [] ∧ (server ++ tail).head?.any endsAuthority = true)
  user : u.user = info.takeWhile (· ≠ ':')
  password : u.password = (info.dropWhile (· ≠ ':')).drop 1
  host : Host.ofText? (spanHost false server).1 = some u.host
  named : u.host = .name [] →
    ((spanHost false server).2 ++ tail).head? ≠ some ':' ∧ u.user = [] ∧ u.password = []
  rest : ∃ rest, port? ((spanHost false server).2 ++ tail) = some (u.port, rest) ∧
    u.path = pathOf rest ∧ u.query = queryText rest

theorem Authority.ofAuthority?_iff (h : Authority cs info server tail) :
    ofAuthority? cs = some u ↔ Reads info server tail u := by
  have hspan := span_authority (fun c hc => (h.server c hc).2) h.tail
  unfold ofAuthority?
  simp only [h.split, hspan.1, hspan.2, Option.some.injEq, Option.getD_some]
  constructor
  · intro hu
    split at hu
    · cases hu
    · next hinformed =>
      obtain ⟨host, hhost, hu⟩ := Option.bind_eq_some_iff.1 hu
      split at hu
      · cases hu
      · next hnamed =>
        obtain ⟨⟨port, rest⟩, hport, hu⟩ := Option.bind_eq_some_iff.1 hu
        obtain rfl := Option.some.inj hu
        exact ⟨by simpa using hinformed, rfl, rfl, hhost, by simpa [and_assoc] using hnamed, rest,
          hport, rfl, rfl⟩
  · rintro ⟨hinformed, huser, hpassword, hhost, hnamed, rest, hport, hpath, hquery⟩
    rw [if_neg (by simpa using hinformed)]
    rw [hhost]
    simp only [Option.bind_eq_bind, Option.bind_some]
    rw [if_neg (by simpa [huser, hpassword, and_assoc] using hnamed), hport]
    simp only [Option.bind_some]
    cases u
    simp_all

/-! ## Hosts, ports and paths -/

theorem spanHost_name (rest : List Char) (h : ∀ c ∈ cs, hostForbids c = false) :
    spanHost false (cs ++ ':' :: rest) = (cs, ':' :: rest) := by
  induction cs with
  | nil => simp [spanHost]
  | cons c cs ih =>
    have hforbids := h c (by simp)
    have hc : c ≠ ':' ∧ c ≠ '[' := by
      constructor <;> (rintro rfl; exact absurd hforbids (by decide))
    rw [List.cons_append, spanHost, if_neg (by simp [hc.1])]
    simp [hc.2, ih fun c hc => h c (List.mem_cons_of_mem _ hc)]

theorem ofText?_name (h : ∀ c ∈ cs, hostForbids c = false) : Host.ofText? cs = some (.name cs) := by
  have hhead : cs.head? ≠ some '[' := fun hc =>
    absurd (h _ (List.mem_of_mem_head? hc)) (by decide)
  rw [Host.ofText?, if_neg hhead, if_neg (by simpa using h)]

/-- What is read as a host is a name, none of whose characters is forbidden, or a number in
brackets. -/
theorem ofText?_cases {host : Host} (h : Host.ofText? cs = some host) :
    (host = .name cs ∧ ∀ c ∈ cs, hostForbids c = false) ∨
      (cs.head? = some '[' ∧ ∃ groups, host = .numeric groups) := by
  unfold Host.ofText? at h
  split at h
  · next hhead =>
    simp only at h
    split at h
    · exact .inr ⟨hhead, _, (Option.some.inj h).symm⟩
    · cases h
  · split at h
    · cases h
    · next hforbids => exact .inl ⟨(Option.some.inj h).symm, by simpa using hforbids⟩

/-- The port of an address, in digits. -/
def portDigits (port : UInt16) : List Char := (toString port.toNat).toList

theorem isDigit_of_mem_portDigits {port : UInt16} (h : c ∈ portDigits port) :
    c.isDigit = true := by
  rw [portDigits, Nat.toString_eq_ofList_toDigits, String.toList_ofList] at h
  exact Nat.isDigit_of_mem_toDigits (by decide) (by decide) h

theorem ofDigits_portDigits (port : UInt16) : Decimal.ofDigits (portDigits port) = port.toNat := by
  rw [portDigits, Nat.toString_eq_ofList_toDigits, String.toList_ofList, Decimal.ofDigits,
    ← Nat.ofDigitChars_eq_foldl]
  exact Nat.ofDigitChars_toDigits (by decide) (by decide)

theorem port?_portDigits (port : UInt16) (rest : List Char) :
    port? (':' :: (portDigits port ++ '/' :: rest)) = some (some port.toNat, '/' :: rest) := by
  have hdigits : ∀ c ∈ portDigits port, c.isDigit = true := fun c => isDigit_of_mem_portDigits
  have hne : portDigits port ≠ [] := by
    rw [portDigits, Nat.toString_eq_ofList_toDigits, String.toList_ofList]
    exact Nat.toDigits_ne_nil
  have htake : (portDigits port ++ '/' :: rest).takeWhile Char.isDigit = portDigits port := by
    rw [List.takeWhile_append_of_pos hdigits]
    simp
  have hdrop : (portDigits port ++ '/' :: rest).dropWhile Char.isDigit = '/' :: rest := by
    rw [List.dropWhile_append_of_pos hdigits]
    rfl
  unfold port?
  simp only [List.head?_cons, if_pos, List.drop_succ_cons, List.drop_zero, htake, hdrop,
    ofDigits_portDigits]
  rw [if_neg (Nat.not_le.2 port.toNat_lt), if_neg (by simp [endsAuthority]),
    if_neg (by simpa using hne)]

/-- Whether a character ends a path. -/
def endsPath (c : Char) : Bool := c = '?' || c = '#'

theorem pathOf_slash (cs : List Char) :
    pathOf ('/' :: cs) = some (resolve (cs.takeWhile fun c => !endsPath c)) := by
  have hends : (fun c : Char => (c ≠ '?' && c ≠ '#' : Bool)) = fun c => !endsPath c := by
    funext c
    simp [endsPath]
  unfold pathOf
  simp only [hends]
  simp [endsPath]

/-- A path of one segment is that segment, unless it stands for a place. -/
theorem resolve_segment (h : '/' ∉ cs) :
    resolve cs = if isDot cs || isDoubleDot cs then [] else cs := by
  rw [resolve, List.splitOn_eq_singleton h, resolveFrom]
  cases isDot cs <;> cases isDoubleDot cs <;> simp [stepUp]

/-- A dot, in whichever form, is read as a dot, and two as two. -/
theorem decode?_of_isDot (h : (isDot cs || isDoubleDot cs) = true) :
    Percent.decode? (String.ofList cs) = some "." ∨
      Percent.decode? (String.ofList cs) = some ".." := by
  rw [Bool.or_eq_true] at h
  rcases h with h | h
  · have hall : ∀ w ∈ dots, Percent.decode? (String.ofList w) = some "." := by decide +kernel
    exact .inl (hall cs (by simpa [isDot] using h))
  · have hall : ∀ v ∈ dots, ∀ w ∈ dots, Percent.decode? (String.ofList (v ++ w)) = some ".." := by
      decide +kernel
    simp only [isDoubleDot, List.any_eq_true, beq_iff_eq] at h
    obtain ⟨v, hv, w, hw, rfl⟩ := h
    exact .inr (hall v hv w hw)

end Uri

end MessageBus
