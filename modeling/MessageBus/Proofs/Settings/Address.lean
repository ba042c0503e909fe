import MessageBus.Proofs.Uri.Parts
import MessageBus.Settings.Address

/-!
# Settings that their address gives back

Only slashes of the virtual host are escaped in an address, so it says what the settings say only if
nothing else in them has a meaning of its own where it stands. `Legible` settings are those; exactly
they are given back, and no two of them share an address. Main statement: `address_law`.
-/

set_option autoImplicit false

namespace MessageBus

/-! ## The text of an address -/

namespace Settings

open Uri

variable {s t : Settings} {vhost : String} {cs ds rest : List Char} {c : Char}

/-- The virtual host at the end of an address, without what is passed over. -/
def pathText (vhost : String) : List Char :=
  ((vhostPath vhost).toList.rdropWhile isOuter).filter isKept

/-- What follows the scheme in an address, without what is passed over. -/
def addressText (s : Settings) : List Char :=
  s.user.toList.filter isKept ++ ':' :: (s.password.toList.filter isKept ++
    '@' :: (s.host.toList.filter isKept ++ ':' :: (portDigits s.port ++ '/' :: pathText s.vhost)))

theorem cleaned_uri (s : Settings) : cleaned s.uri = "amqp://".toList ++ s.addressText := by
  have hport : (portDigits s.port).filter isKept = portDigits s.port := by
    refine List.filter_eq_self.2 fun c hc => ?_
    have hdigit := isDigit_of_mem_portDigits hc
    have hnot : c ≠ '\t' ∧ c ≠ '\n' ∧ c ≠ '\r' := by
      refine ⟨?_, ?_, ?_⟩ <;> (rintro rfl; exact absurd hdigit (by decide))
    simpa [isKept] using hnot
  have huri : s.uri.toList =
      ("amqp://".toList ++ (s.user.toList ++ ':' :: (s.password.toList ++ '@' :: (s.host.toList ++
        ':' :: portDigits s.port)))) ++ '/' :: (vhostPath s.vhost).toList := by
    delta uri
    simp [portDigits, String.toList_append]
  have hfirst : s.uri.toList.dropWhile isOuter = s.uri.toList := by
    rw [huri]
    simp [isOuter]
  rw [cleaned_eq, hfirst, huri, rdropWhile_append_cons (by decide)]
  simp only [List.filter_append, List.filter_cons, hport, addressText, pathText]
  simp [isKept]

theorem address?_eq (s : Settings) :
    s.address? = (ofAuthority? s.addressText).bind Address.ofUri? := by
  have hstart : (Address.scheme.toList ++ "://".toList) = "amqp://".toList := by decide
  rw [address?, Address.parse?, Uri.parse?]
  simp only [hstart, cleaned_uri]
  rw [if_pos (by simp), List.drop_left]

/-! ## The path -/

theorem vhostPath_toList (h : vhost ≠ "/") :
    (vhostPath vhost).toList =
      Percent.escapeSlashes (vhost.toList.dropWhile (· == '/')) := by
  rw [vhostPath, if_neg (by simpa using h), String.toList_ofList, Percent.escapeSlashes]

/-- What is passed over does not depend on whether slashes are escaped. -/
theorem filter_escapeSlashes (cs : List Char) :
    (Percent.escapeSlashes cs).filter isKept = Percent.escapeSlashes (cs.filter isKept) := by
  induction cs with
  | nil => rfl
  | cons c cs ih =>
    by_cases hc : c = '/'
    · subst hc
      have hkept : isKept '/' = true ∧ isKept '%' = true ∧ isKept '2' = true ∧
          isKept 'f' = true := by decide
      simp [Percent.escapeSlashes_slash, hkept, ih]
    · rw [Percent.escapeSlashes_cons hc]
      cases hkept : isKept c <;> simp [hkept, ih, Percent.escapeSlashes_cons hc]

theorem takeWhile_escapeSlashes (cs : List Char) :
    (Percent.escapeSlashes cs).takeWhile (fun c => !endsPath c) =
      Percent.escapeSlashes (cs.takeWhile fun c => !endsPath c) := by
  induction cs with
  | nil => rfl
  | cons c cs ih =>
    by_cases hc : c = '/'
    · subst hc
      have hends : endsPath '/' = false ∧ endsPath '%' = false ∧ endsPath '2' = false ∧
          endsPath 'f' = false := by decide
      simp [Percent.escapeSlashes_slash, hends, ih]
    · rw [Percent.escapeSlashes_cons hc]
      cases hends : endsPath c
      · simp [hends, ih, Percent.escapeSlashes_cons hc]
      · simp [hends, Percent.escapeSlashes]

theorem rdropWhile_escapeSlashes (cs : List Char) :
    (Percent.escapeSlashes cs).rdropWhile isOuter =
      Percent.escapeSlashes (cs.rdropWhile isOuter) := by
  induction cs using List.reverseRecOn with
  | nil => rfl
  | append_singleton cs c ih =>
    rw [Percent.escapeSlashes_append]
    by_cases hc : c = '/'
    · subst hc
      rw [List.rdropWhile_concat_neg _ _ _ (by decide), Percent.escapeSlashes_append]
      have hassoc : Percent.escapeSlashes cs ++ Percent.escapeSlashes ['/'] =
          (Percent.escapeSlashes cs ++ ['%', '2']) ++ ['f'] := by
        simp [Percent.escapeSlashes]
      rw [hassoc, List.rdropWhile_concat_neg _ _ _ (by decide)]
    · have hsingle : Percent.escapeSlashes [c] = [c] := Percent.escapeSlashes_cons hc
      rw [hsingle]
      cases houter : isOuter c with
      | true =>
        rw [List.rdropWhile_concat_pos _ _ _ houter, List.rdropWhile_concat_pos _ _ _ houter, ih]
      | false =>
        rw [List.rdropWhile_concat_neg _ _ _ (by simp [houter]),
          List.rdropWhile_concat_neg _ _ _ (by simp [houter]), Percent.escapeSlashes_append,
          hsingle]

/-- What is left of a virtual host once its address has been taken apart. -/
def vhostLeft (vhost : String) : List Char :=
  (((vhost.toList.dropWhile (· == '/')).rdropWhile isOuter).filter isKept).takeWhile
    fun c => !endsPath c

theorem takeWhile_pathText (h : vhost ≠ "/") :
    (pathText vhost).takeWhile (fun c => !endsPath c) =
      Percent.escapeSlashes (vhostLeft vhost) := by
  rw [pathText, vhostPath_toList h, rdropWhile_escapeSlashes, filter_escapeSlashes,
    takeWhile_escapeSlashes, vhostLeft]

/-! ## Settings that can be read back -/

/-- A text that is read as it is written: it holds nothing that ends it or is passed over, and no
escape. -/
structure Literal (ends : Char → Bool) (text : String) : Prop where
  inside : ∀ c ∈ text.toList, ends c = false
  kept : ∀ c ∈ text.toList, isKept c = true
  plain : ¬Percent.Escapes text

/-- A virtual host that is read as it is given. -/
structure LegibleVhost (vhost : String) : Prop where
  literal : Literal endsPath vhost
  first : vhost.toList.head? ≠ some '/'
  last : vhost.toList.getLast?.any isOuter = false
  place : vhost ≠ "." ∧ vhost ≠ ".."

/-- What ends a user in an address. -/
def endsUser (c : Char) : Bool := c = ':' || endsAuthority c

/-- Settings whose address gives them back. -/
structure Legible (s : Settings) : Prop where
  user : s.user ≠ "" ∧ Literal endsUser s.user
  password : s.password ≠ "" ∧ Literal endsAuthority s.password
  host : s.host ≠ "" ∧ Literal hostForbids s.host
  vhost : s.vhost = "/" ∨ LegibleVhost s.vhost

variable {ends : Char → Bool} {text : String}

theorem literal_iff : Literal ends text ↔ (text.toList.all fun c => !ends c && isKept c) = true ∧
    ¬Percent.Escapes text := by
  simp only [List.all_eq_true, Bool.and_eq_true, Bool.not_eq_true']
  exact ⟨fun h => ⟨fun c hc => ⟨h.inside c hc, h.kept c hc⟩, h.plain⟩,
    fun h => ⟨fun c hc => (h.1 c hc).1, fun c hc => (h.1 c hc).2, h.2⟩⟩

instance : Decidable (Literal ends text) := decidable_of_iff _ literal_iff.symm

instance : Decidable (LegibleVhost vhost) :=
  decidable_of_iff (Literal endsPath vhost ∧ vhost.toList.head? ≠ some '/' ∧
    vhost.toList.getLast?.any isOuter = false ∧ vhost ≠ "." ∧ vhost ≠ "..")
    ⟨fun h => ⟨h.1, h.2.1, h.2.2.1, h.2.2.2⟩, fun h => ⟨h.literal, h.first, h.last, h.place⟩⟩

instance : Decidable s.Legible :=
  decidable_of_iff ((s.user ≠ "" ∧ Literal endsUser s.user) ∧
    (s.password ≠ "" ∧ Literal endsAuthority s.password) ∧
    (s.host ≠ "" ∧ Literal hostForbids s.host) ∧ (s.vhost = "/" ∨ LegibleVhost s.vhost))
    ⟨fun h => ⟨h.1, h.2.1, h.2.2.1, h.2.2.2⟩, fun h => ⟨h.user, h.password, h.host, h.vhost⟩⟩

/-- A part of what is kept of a text, from which the text is read, is the text. -/
theorem literal_of_decode? (ends : Char → Bool)
    (h : Percent.decode? (String.ofList cs) = some text)
    (hsub : cs.Sublist (text.toList.filter isKept)) (hends : ∀ c ∈ cs, ends c = false) :
    cs = text.toList ∧ Literal ends text := by
  obtain ⟨rfl, hplain⟩ := Percent.eq_of_decode? h (hsub.trans List.filter_sublist)
  have hkept : text.toList.filter isKept = text.toList :=
    List.filter_sublist.eq_of_length_le hsub.length_le
  exact ⟨rfl, hends, List.filter_eq_self.1 hkept, hplain⟩

theorem ne_empty_of_toList (heq : cs = text.toList) (hne : cs ≠ []) : text ≠ "" := by
  rintro rfl
  exact hne heq

theorem Literal.filter_eq (h : Literal ends text) : text.toList.filter isKept = text.toList :=
  List.filter_eq_self.2 h.kept

/-! ## The virtual host -/

theorem vhostLeft_sublist (vhost : String) :
    ((vhostLeft vhost).Sublist
      (((vhost.toList.dropWhile (· == '/')).rdropWhile isOuter).filter isKept)) :=
  (List.takeWhile_prefix _).sublist

/-- The virtual host that an address ends with. -/
def readVhost? (vhost : String) : Option String :=
  Percent.decode? (String.ofList (resolve ((pathText vhost).takeWhile fun c => !endsPath c)))

theorem readVhost?_of_ne (h : vhost ≠ "/") : readVhost? vhost =
    if isDot (Percent.escapeSlashes (vhostLeft vhost)) ||
      isDoubleDot (Percent.escapeSlashes (vhostLeft vhost)) then some ""
    else Percent.decode? (String.ofList (vhostLeft vhost)) := by
  rw [readVhost?, takeWhile_pathText h, resolve_segment (Percent.slash_not_mem_escapeSlashes _)]
  split
  · rfl
  · exact Percent.decode?_escapeSlashes _

/-- Of a legible virtual host nothing is dropped. -/
theorem LegibleVhost.kept_eq (h : LegibleVhost vhost) :
    ((vhost.toList.dropWhile (· == '/')).rdropWhile isOuter).filter isKept = vhost.toList := by
  have hfirst : vhost.toList.dropWhile (· == '/') = vhost.toList := by
    refine List.dropWhile_eq_self_iff.2 fun hlen heq => h.first ?_
    rw [List.head?_eq_getElem?, List.getElem?_eq_getElem hlen]
    simpa using heq
  have hlast : vhost.toList.rdropWhile isOuter = vhost.toList := by
    refine List.rdropWhile_eq_self_iff.2 fun hne => ?_
    have hlast := h.last
    rw [List.getLast?_eq_some_getLast hne] at hlast
    exact Bool.eq_false_iff.1 hlast
  rw [hfirst, hlast, h.literal.filter_eq]

theorem LegibleVhost.vhostLeft_eq (h : LegibleVhost vhost) : vhostLeft vhost = vhost.toList := by
  have hends : ∀ c ∈ vhost.toList, (!endsPath c) = true := fun c hc => by
    rw [h.literal.inside c hc]
    rfl
  rw [vhostLeft, h.kept_eq, List.takeWhile_eq_self_iff.2 hends]

theorem LegibleVhost.ne_root (h : LegibleVhost vhost) : vhost ≠ "/" := by
  rintro rfl
  exact h.first rfl

theorem LegibleVhost.pathText_eq (h : LegibleVhost vhost) :
    pathText vhost = Percent.escapeSlashes vhost.toList := by
  rw [pathText, vhostPath_toList h.ne_root, rdropWhile_escapeSlashes, filter_escapeSlashes,
    h.kept_eq]

/-- A virtual host that is not the root and is read back is legible. -/
theorem legibleVhost_of_readVhost? (hroot : vhost ≠ "/") (h : readVhost? vhost = some vhost) :
    LegibleVhost vhost := by
  rw [readVhost?_of_ne hroot] at h
  split at h
  · -- an empty virtual host leaves no dots
    obtain rfl := Option.some.inj h
    next hdots => exact absurd hdots (by decide)
  · next hdots =>
    have hleft := vhostLeft_sublist vhost
    have houter : (((vhost.toList.dropWhile (· == '/')).rdropWhile isOuter)).Sublist
        (vhost.toList.dropWhile (· == '/')) := (List.rdropWhile_prefix _ _).sublist
    have hslash : (vhost.toList.dropWhile (· == '/')).Sublist vhost.toList :=
      (List.dropWhile_suffix _).sublist
    obtain ⟨heq, hliteral⟩ := literal_of_decode? endsPath h
      (hleft.trans ((houter.trans hslash).filter isKept)) fun c hc => by
        simpa using List.mem_takeWhile_imp hc
    -- all of it is left, so nothing was dropped at either end
    have hlen : vhost.toList.length ≤
        ((vhost.toList.dropWhile (· == '/')).rdropWhile isOuter).length := by
      have hle := (hleft.trans List.filter_sublist).length_le
      rwa [heq] at hle
    have hfirst := hslash.eq_of_length_le (hlen.trans houter.length_le)
    have hlast := (houter.trans hslash).eq_of_length_le hlen
    rw [hfirst] at hlast
    refine ⟨hliteral, fun hhead => ?_, ?_, ?_, ?_⟩
    · rw [← hfirst] at hhead
      have := List.head?_dropWhile_not (· == '/') vhost.toList
      rw [hhead] at this
      simp at this
    · by_cases hne : vhost.toList = []
      · rw [hne]
        rfl
      · rw [List.getLast?_eq_some_getLast hne]
        exact Bool.eq_false_iff.2 (List.rdropWhile_eq_self_iff.1 hlast hne)
    · rintro rfl
      exact hdots (by decide)
    · rintro rfl
      exact hdots (by decide)

theorem LegibleVhost.readVhost?_eq (h : LegibleVhost vhost) : readVhost? vhost = some vhost := by
  have hread : Percent.decode? (String.ofList (vhostLeft vhost)) = some vhost := by
    rw [h.vhostLeft_eq, String.ofList_toList, Percent.decode?_of_not_escapes h.literal.plain]
  rw [readVhost?_of_ne h.ne_root, if_neg, hread]
  intro hdots
  rcases decode?_of_isDot hdots with hdot | hdot <;>
    rw [Percent.decode?_escapeSlashes, hread, Option.some.injEq] at hdot
  · exact h.place.1 hdot
  · exact h.place.2 hdot

theorem readVhost?_eq_iff :
    readVhost? vhost = some vhost ↔ vhost = "/" ∨ LegibleVhost vhost := by
  by_cases hroot : vhost = "/"
  · subst hroot
    exact ⟨fun _ => .inl rfl, fun _ => by decide +kernel⟩
  · rw [or_iff_right hroot]
    exact ⟨legibleVhost_of_readVhost? hroot, LegibleVhost.readVhost?_eq⟩

/-! ## Reading an address -/

/-- The parts that are read of an address. -/
theorem parts_of_ofUri? {u : Uri} {a : Address} (h : Address.ofUri? u = some a) :
    Address.part? "guest" u.user = some a.user ∧
    Address.part? "guest" u.password = some a.password ∧
    Address.host? u.host = some a.host ∧
    ∀ path, u.path = some path → Percent.decode? (String.ofList path) = some a.vhost := by
  unfold Address.ofUri? at h
  simp only [Option.bind_eq_bind, Option.pure_def, Option.bind_eq_some_iff] at h
  obtain ⟨_, _, _, _, _, _, _, _, _, _, user, huser, password, hpassword, host, hhost, h⟩ := h
  cases hpath : u.path with
  | none =>
    simp only [hpath, Option.bind_some, Option.some.injEq] at h
    subst h
    exact ⟨huser, hpassword, hhost, fun path h => nomatch h⟩
  | some path =>
    simp only [hpath, Option.bind_eq_some_iff, Option.some.injEq] at h
    obtain ⟨vhost, hvhost, rfl⟩ := h
    exact ⟨huser, hpassword, hhost, fun path h => Option.some.inj h ▸ hvhost⟩

theorem part?_cases {default : String} (h : Address.part? default cs = some text) :
    (cs = [] ∧ text = default) ∨ (cs ≠ [] ∧ Percent.decode? (String.ofList cs) = some text) := by
  unfold Address.part? at h
  split at h
  · next hempty => exact .inl ⟨by simpa using hempty, (Option.some.inj h).symm⟩
  · next hempty => exact .inr ⟨by simpa using hempty, h⟩

/-- A prefix without a character ends before the first such character. -/
theorem prefix_of_not_mem (c : Char) (rest : List Char) (h : cs <+: ds ++ c :: rest)
    (hc : c ∉ cs) : cs <+: ds := by
  rcases List.prefix_or_prefix_of_prefix h (List.prefix_append ds (c :: rest)) with
    hle | ⟨more, rfl⟩
  · exact hle
  · cases more with
    | nil => simp
    | cons d more =>
      rw [List.prefix_append_right_inj] at h
      obtain rfl := (List.cons_prefix_cons.1 h).1
      exact absurd (by simp) hc

theorem host?_cases {host : Uri.Host} (h : Address.host? host = some text) :
    (text = "localhost" ∧ (host = .name [] ∨ ∃ groups, host = .numeric groups)) ∨
      ∃ cs, host = .name cs ∧ cs ≠ [] ∧ Percent.decode? (String.ofList cs) = some text := by
  cases host with
  | numeric groups => exact .inl ⟨(Option.some.inj h).symm, .inr ⟨groups, rfl⟩⟩
  | name cs =>
    rcases part?_cases h with ⟨rfl, rfl⟩ | ⟨hne, h⟩
    · exact .inl ⟨rfl, .inl rfl⟩
    · exact .inr ⟨cs, rfl, hne, h⟩

variable {info server tail : List Char} {u : Uri} {a : Address}

/-- An address whose user is the one that was given has user information, which begins with the
user. -/
theorem exists_information (hu : ofAuthority? s.addressText = some u)
    (huser : Address.part? "guest" u.user = some s.user)
    (hpassword : Address.part? "guest" u.password = some s.password) :
    ∃ info server tail, Authority s.addressText info server tail ∧
      Reads info server tail u := by
  by_cases hat : '@' ∈ s.addressText.takeWhile fun c => !endsAuthority c
  · obtain ⟨info, server, tail, h⟩ := exists_authority hat
    exact ⟨info, server, tail, h, h.ofAuthority?_iff.1 hu⟩
  · -- without user information the user and the password are the default ones
    obtain ⟨hnone, hnone'⟩ := ofAuthority?_of_not_mem hat hu
    rw [hnone] at huser
    rw [hnone'] at hpassword
    refine absurd ?_ hat
    have huser : s.user = "guest" := (Option.some.inj huser).symm
    have hpassword : s.password = "guest" := (Option.some.inj hpassword).symm
    rw [addressText, huser, hpassword]
    simp [isKept, endsAuthority]

/-- The user ends at the first colon. -/
theorem user_of_reads (h : Authority s.addressText info server tail) (hr : Reads info server tail u)
    (huser : Address.part? "guest" u.user = some s.user) :
    s.user ≠ "" ∧ Literal endsUser s.user ∧ u.user = s.user.toList := by
  have hinfo : u.user <+: info := hr.user ▸ List.takeWhile_prefix _
  have hcolon : ':' ∉ u.user := by
    rw [hr.user]
    intro hmem
    simpa using List.mem_takeWhile_imp hmem
  rcases part?_cases huser with ⟨hnil, hguest⟩ | ⟨hne, hread⟩
  · -- what begins with the default user does not begin with a colon or an at-sign
    have htext := h.text
    have hstart : "guest".toList.filter isKept = "guest".toList := by decide
    rw [addressText, hguest, hstart] at htext
    rw [hr.user] at hnil
    cases info with
    | nil => exact absurd (List.cons.inj htext).1 (by decide)
    | cons c info =>
      obtain rfl : c = 'g' := (List.cons.inj htext).1.symm
      rw [List.takeWhile_cons_of_pos (by decide)] at hnil
      cases hnil
  · have htext : info <+: s.addressText := ⟨_, h.text.symm⟩
    rw [addressText] at htext
    have hfront := prefix_of_not_mem _ _ (hinfo.trans htext) hcolon
    obtain ⟨heq, hliteral⟩ := literal_of_decode? endsUser hread hfront.sublist
      fun c hc => by
        have hends := h.info c (hinfo.subset hc)
        have hne : c ≠ ':' := by rintro rfl; exact hcolon hc
        simp [endsUser, hends, hne]
    exact ⟨ne_empty_of_toList heq hne, hliteral, heq⟩

/-- The password ends at the last at-sign before the host, unless the host has one. -/
theorem information_of_reads (h : Authority s.addressText info server tail)
    (hr : Reads info server tail u) (huser : Address.part? "guest" u.user = some s.user) :
    u.password ++ '@' :: (server ++ tail) = s.password.toList.filter isKept ++
      '@' :: (s.host.toList.filter isKept ++
        ':' :: (portDigits s.port ++ '/' :: pathText s.vhost)) ∧
    ∀ c ∈ u.password, endsAuthority c = false := by
  obtain ⟨-, hliteral, heq⟩ := user_of_reads h hr huser
  have hinfo : info = s.user.toList ++ info.dropWhile (· ≠ ':') := by
    rw [← heq, hr.user, List.takeWhile_append_dropWhile]
  have htext := h.text
  rw [addressText, hliteral.filter_eq, hinfo, List.append_assoc,
    List.append_cancel_left_eq] at htext
  have hpassword := hr.password
  have hends : ∀ c ∈ info.dropWhile (· ≠ ':'), endsAuthority c = false := fun c hc =>
    h.info c ((List.dropWhile_sublist _).subset hc)
  cases hdrop : info.dropWhile (· ≠ ':') with
  | nil =>
    rw [hdrop] at htext
    exact absurd (List.cons.inj htext).1 (by decide)
  | cons c rest =>
    rw [hdrop] at htext hpassword hends
    rw [hpassword, List.drop_succ_cons, List.drop_zero]
    exact ⟨(List.cons.inj htext).2.symm, fun c hc => hends c (List.mem_cons_of_mem _ hc)⟩

/-- What is read as a host with a name stands in the server, before the first colon. -/
theorem host_of_reads {X : List Char} (hr : Reads info server tail u) (hhost : u.host = .name cs)
    (htext : server ++ tail = ds ++ ':' :: X) :
    cs <+: ds ∧ ∀ c ∈ cs, hostForbids c = false := by
  rcases ofText?_cases hr.host with ⟨hname, hforbids⟩ | ⟨-, groups, hnumeric⟩
  · obtain rfl := Host.name.inj (hhost.symm.trans hname)
    refine ⟨prefix_of_not_mem ':' X ?_ fun hmem => ?_, hforbids⟩
    · rw [← htext]
      refine List.IsPrefix.trans ?_ (List.prefix_append server tail)
      exact ⟨_, spanHost_append false server⟩
    · exact absurd (hforbids _ hmem) (by decide)
  · rw [hhost] at hnumeric
    cases hnumeric

/-- Where the two marked characters of one text stand. -/
theorem append_cons_cases {as bs cs ds : List Char} {x y : Char}
    (h : as ++ x :: bs = cs ++ y :: ds) :
    (as = cs ∧ x = y ∧ bs = ds) ∨ (∃ more, cs = as ++ x :: more ∧ bs = more ++ y :: ds) ∨
      ∃ more, as = cs ++ y :: more ∧ ds = more ++ x :: bs := by
  rcases List.append_eq_append_iff.1 h with ⟨more, hcs, hbs⟩ | ⟨more, has, hds⟩
  · cases more with
    | nil => exact .inl ⟨by simpa using hcs.symm, List.cons.inj hbs⟩
    | cons z more =>
      obtain ⟨rfl, hmore⟩ := List.cons.inj hbs
      exact .inr (.inl ⟨more, hcs, hmore⟩)
  · cases more with
    | nil => exact .inl ⟨by simpa using has, (List.cons.inj hds).1.symm, (List.cons.inj hds).2.symm⟩
    | cons z more =>
      obtain ⟨rfl, hmore⟩ := List.cons.inj hds
      exact .inr (.inr ⟨more, has, hmore⟩)

/-- A host that was given and is read holds no at-sign, so the password ends where it was given. -/
theorem password_of_reads (hr : Reads info server tail u)
    (htext : u.password ++ '@' :: (server ++ tail) = s.password.toList.filter isKept ++
      '@' :: (s.host.toList.filter isKept ++
        ':' :: (portDigits s.port ++ '/' :: pathText s.vhost)))
    (hends : ∀ c ∈ u.password, endsAuthority c = false)
    (hpassword : Address.part? "guest" u.password = some s.password)
    (hhost : Address.host? u.host = some s.host) :
    (s.password ≠ "" ∧ Literal endsAuthority s.password) ∧
      server ++ tail = s.host.toList.filter isKept ++
        ':' :: (portDigits s.port ++ '/' :: pathText s.vhost) := by
  have hfront (h : u.password <+: s.password.toList.filter isKept) :
      u.password = s.password.toList ∧ s.password ≠ "" ∧ Literal endsAuthority s.password := by
    rcases part?_cases hpassword with ⟨hnil, hguest⟩ | ⟨hne, hread⟩
    · rw [hnil, hguest] at htext
      have hstart : "guest".toList.filter isKept = "guest".toList := by decide
      rw [hstart] at htext
      exact absurd (List.cons.inj htext).1 (by decide)
    · obtain ⟨heq, hliteral⟩ := literal_of_decode? _ hread h.sublist hends
      exact ⟨heq, ne_empty_of_toList heq hne, hliteral⟩
  rcases append_cons_cases htext with ⟨heq, -, hserver⟩ | ⟨more, heq, -⟩ | ⟨more, heq, hmore⟩
  · exact ⟨(hfront (heq ▸ List.prefix_refl _)).2, hserver⟩
  · obtain ⟨hall, -, hliteral⟩ := hfront (heq ▸ List.prefix_append _ _)
    rw [hliteral.filter_eq, hall] at heq
    simp at heq
  · -- an at-sign behind the password stands in the host, since it cannot stand in the port
    have hmem : ∀ c ∈ more, endsAuthority c = false := fun c hc => hends c (by rw [heq]; simp [hc])
    rcases append_cons_cases hmore.symm with
      ⟨-, hmark, -⟩ | ⟨name, hname, hserver⟩ | ⟨port, hport, hserver⟩
    · cases hmark
    · rcases host?_cases hhost with ⟨hlocal, -⟩ | ⟨cs, hcs, -, hread⟩
      · have hstart : "localhost".toList.filter isKept = "localhost".toList := by decide
        have hat : '@' ∈ s.host.toList.filter isKept := by rw [hname]; simp
        rw [hlocal, hstart] at hat
        exact absurd hat (by decide)
      · obtain ⟨hfront, -⟩ := host_of_reads hr hcs hserver
        have hsub : cs.Sublist (s.host.toList.filter isKept) := by
          rw [hname]
          exact hfront.sublist.trans
            ((List.sublist_cons_self _ _).trans (List.sublist_append_right _ _))
        have hall := (literal_of_decode? (fun _ => false) hread hsub fun _ _ => rfl).1
        have hlen := hfront.length_le
        have hle : (s.host.toList.filter isKept).length ≤ s.host.toList.length :=
          List.filter_sublist.length_le
        rw [hname, ← hall, List.length_append, List.length_cons] at hle
        omega
    · rcases append_cons_cases hserver with ⟨-, hmark, -⟩ | ⟨_, hslash, -⟩ | ⟨_, hdigits, -⟩
      · cases hmark
      · exact absurd (hmem '/' (by rw [hport, hslash]; simp)) (by decide)
      · have hat : '@' ∈ portDigits s.port := by rw [hdigits]; simp
        exact absurd (isDigit_of_mem_portDigits hat) (by decide)

/-- The host ends at the colon before the port. -/
theorem host_literal_of_reads (hr : Reads info server tail u) (hne : u.user ≠ [])
    (htext : server ++ tail = s.host.toList.filter isKept ++
      ':' :: (portDigits s.port ++ '/' :: pathText s.vhost))
    (hhost : Address.host? u.host = some s.host) :
    (s.host ≠ "" ∧ Literal hostForbids s.host) ∧ u.host = .name s.host.toList := by
  rcases host?_cases hhost with ⟨hlocal, hnil | ⟨groups, hnumeric⟩⟩ | ⟨cs, hcs, hcsne, hread⟩
  · exact absurd (hr.named hnil).2.1 hne
  · -- a host in brackets is not the local one that was given
    rcases ofText?_cases hr.host with ⟨hname, -⟩ | ⟨hhead, -⟩
    · rw [hnumeric] at hname
      cases hname
    · have hserver : (server ++ tail).head? = some '[' := by
        rw [← spanHost_append false server, List.append_assoc, List.head?_append, hhead]
        rfl
      have hstart : "localhost".toList.filter isKept = "localhost".toList := by decide
      rw [htext, hlocal, hstart] at hserver
      exact absurd (Option.some.inj hserver) (by decide)
  · obtain ⟨hfront, hforbids⟩ := host_of_reads hr hcs htext
    obtain ⟨heq, hliteral⟩ := literal_of_decode? _ hread hfront.sublist hforbids
    exact ⟨⟨ne_empty_of_toList heq hcsne, hliteral⟩, heq ▸ hcs⟩

/-- Only legible settings are given back by their address. -/
theorem legible_of_address? (ha : s.address? = some a) (huser : a.user = s.user)
    (hpassword : a.password = s.password) (hhost : a.host = s.host) (hvhost : a.vhost = s.vhost) :
    s.Legible := by
  rw [address?_eq] at ha
  obtain ⟨u, hu, ha⟩ := Option.bind_eq_some_iff.1 ha
  obtain ⟨hreaduser, hreadpassword, hreadhost, hreadvhost⟩ := parts_of_ofUri? ha
  rw [huser] at hreaduser
  rw [hpassword] at hreadpassword
  rw [hhost] at hreadhost
  rw [hvhost] at hreadvhost
  obtain ⟨info, server, tail, hauthority, hr⟩ := exists_information hu hreaduser hreadpassword
  obtain ⟨husernot, huserliteral, hureq⟩ := user_of_reads hauthority hr hreaduser
  have hne : u.user ≠ [] := by
    rw [hureq]
    simpa using husernot
  obtain ⟨htext, hends⟩ := information_of_reads hauthority hr hreaduser
  obtain ⟨hlegible, hserver⟩ := password_of_reads hr htext hends hreadpassword hreadhost
  obtain ⟨hostlegible, hname⟩ := host_literal_of_reads hr hne hserver hreadhost
  refine ⟨⟨husernot, huserliteral⟩, hlegible, hostlegible, readVhost?_eq_iff.1 ?_⟩
  obtain ⟨rest, hport, hpath, -⟩ := hr.rest
  have hspan : (spanHost false server).1 = s.host.toList := by
    rcases ofText?_cases hr.host with ⟨h, -⟩ | ⟨-, groups, h⟩
    · exact (Host.name.inj (hname.symm.trans h)).symm
    · rw [hname] at h
      cases h
  rw [← spanHost_append false server, hspan, hostlegible.2.filter_eq, List.append_assoc,
    List.append_cancel_left_eq] at hserver
  rw [hserver, port?_portDigits] at hport
  obtain ⟨-, rfl⟩ := Prod.mk.inj (Option.some.inj hport)
  exact hreadvhost _ (hpath.trans (pathOf_slash _))

/-! ## Legible settings -/

/-- What rules out the at-sign and the ends of an authority leaves neither. -/
theorem of_rulesOut (rulesOut : Char → Bool) (hall : ['@', '/', '?', '#'].all rulesOut = true)
    (hc : rulesOut c = false) : c ≠ '@' ∧ endsAuthority c = false := by
  have hne {d : Char} (hd : d ∈ ['@', '/', '?', '#']) : c ≠ d := by
    rintro rfl
    rw [List.all_eq_true.1 hall c hd] at hc
    cases hc
  refine ⟨hne (by decide), ?_⟩
  simp only [endsAuthority, Bool.or_eq_false_iff, decide_eq_false_iff_not]
  exact ⟨⟨hne (by decide), hne (by decide)⟩, hne (by decide)⟩

/-- The user information of legible settings and the server after it. -/
theorem Legible.authority (h : s.Legible) :
    Authority s.addressText (s.user.toList ++ ':' :: s.password.toList)
      (s.host.toList ++ ':' :: portDigits s.port) ('/' :: pathText s.vhost) := by
  refine ⟨?_, fun c hc => ?_, fun c hc => ?_, fun c hc => ?_⟩
  · rw [addressText, h.user.2.filter_eq, h.password.2.filter_eq, h.host.2.filter_eq]
    simp
  · rcases List.mem_append.1 hc with hc | hc
    · exact (Bool.or_eq_false_iff.1 (h.user.2.inside c hc)).2
    · rcases List.mem_cons.1 hc with rfl | hc
      · rfl
      · exact h.password.2.inside c hc
  · rcases List.mem_append.1 hc with hc | hc
    · exact of_rulesOut hostForbids (by decide) (h.host.2.inside c hc)
    · rcases List.mem_cons.1 hc with rfl | hc
      · exact ⟨by decide, rfl⟩
      · have hdigit : (!c.isDigit) = false := by rw [isDigit_of_mem_portDigits hc]; rfl
        exact of_rulesOut (fun c => !c.isDigit) (by decide) hdigit
  · obtain rfl := Option.some.inj hc
    rfl

/-- The parts of the address of some settings, as they are written. -/
def parts (s : Settings) : Uri where
  user := s.user.toList
  password := s.password.toList
  host := .name s.host.toList
  port := some s.port.toNat
  path := pathOf ('/' :: pathText s.vhost)
  query := queryText ('/' :: pathText s.vhost)

theorem Legible.reads (h : s.Legible) :
    Reads (s.user.toList ++ ':' :: s.password.toList)
      (s.host.toList ++ ':' :: portDigits s.port) ('/' :: pathText s.vhost) s.parts := by
  have hcolon : ∀ c ∈ s.user.toList, decide (c ≠ ':') = true := fun c hc => by
    have := (Bool.or_eq_false_iff.1 (h.user.2.inside c hc)).1
    simpa using this
  have hspan := spanHost_name (portDigits s.port) h.host.2.inside
  refine ⟨by simp, ?_, ?_, ?_, fun hnil => ?_, '/' :: pathText s.vhost, ?_, rfl, rfl⟩
  · rw [List.takeWhile_append_of_pos hcolon]
    simp [parts]
  · rw [List.dropWhile_append_of_pos hcolon]
    simp [parts]
  · rw [hspan]
    exact ofText?_name h.host.2.inside
  · exact absurd (Host.name.inj hnil) (by simpa using h.host.1)
  · rw [hspan]
    exact port?_portDigits _ _

/-- What the address of legible settings says. -/
def spelled (s : Settings) : Address where
  user := s.user
  password := s.password
  host := s.host
  port := s.port.toNat
  vhost := s.vhost

/-- Nothing follows the path of legible settings. -/
theorem endsPath_of_mem_pathText (h : vhost = "/" ∨ LegibleVhost vhost) (hc : c ∈ pathText vhost) :
    endsPath c = false := by
  rcases h with rfl | h
  · have hall : ((pathText "/").all fun c => !endsPath c) = true := by decide
    simpa using List.all_eq_true.1 hall c hc
  · rw [h.pathText_eq, Percent.escapeSlashes, List.mem_flatMap] at hc
    obtain ⟨d, hd, hc⟩ := hc
    split at hc
    · have hall : (['%', '2', 'f'].all fun c => !endsPath c) = true := by decide
      simpa using List.all_eq_true.1 hall c hc
    · obtain rfl := List.mem_singleton.1 hc
      exact h.literal.inside c hd

theorem queryText_pathText (h : vhost = "/" ∨ LegibleVhost vhost) :
    queryText ('/' :: pathText vhost) = [] := by
  have hall : ∀ c ∈ '/' :: pathText vhost, (c ≠ '?' && c ≠ '#' : Bool) = true := by
    intro c hc
    have hends : endsPath c = false := by
      rcases List.mem_cons.1 hc with rfl | hc
      · rfl
      · exact endsPath_of_mem_pathText h hc
    simpa [endsPath] using hends
  rw [queryText, List.dropWhile_eq_nil_iff.2 hall]
  rfl

theorem part?_toList (default : String) (hne : text ≠ "") (hplain : ¬Percent.Escapes text) :
    Address.part? default text.toList = some text := by
  rw [Address.part?, if_neg (by simpa using hne), String.ofList_toList,
    Percent.decode?_of_not_escapes hplain]

theorem Legible.address? (h : s.Legible) : s.address? = some s.spelled := by
  have hquery : s.parts.query = [] := queryText_pathText h.vhost
  have hpath : s.parts.path =
      some (resolve ((pathText s.vhost).takeWhile fun c => !endsPath c)) := pathOf_slash _
  have hvhost := readVhost?_eq_iff.2 h.vhost
  rw [readVhost?] at hvhost
  rw [address?_eq, h.authority.ofAuthority?_iff.2 h.reads, Option.bind_some]
  unfold Address.ofUri?
  simp only [hquery, hpath, hvhost]
  have huser := part?_toList "guest" h.user.1 h.user.2.plain
  have hpassword := part?_toList "guest" h.password.1 h.password.2.plain
  have hhost := part?_toList "localhost" h.host.1 h.host.2.plain
  simp [parts, spelled, huser, hpassword, hhost, Address.host?, queryOf, Query.value?]

/-! ## The law -/

/-- What an address tells of the settings it is made of. -/
structure AddressLaw (s : Settings) : Prop where
  /-- The address of legible settings says what they say. -/
  legible : s.Legible → s.address? = some s.spelled
  /-- Every other address says something else, or nothing. -/
  only : ∀ a, s.address? = some a → a.user = s.user → a.password = s.password →
    a.host = s.host → a.vhost = s.vhost → s.Legible
  /-- Legible settings with one address name the same user at the same virtual host. -/
  distinct : ∀ t : Settings, s.Legible → t.Legible → t.uri = s.uri →
    t.user = s.user ∧ t.password = s.password ∧ t.host = s.host ∧ t.port = s.port ∧
      t.vhost = s.vhost

theorem spelled_inj (h : t.spelled = s.spelled) :
    t.user = s.user ∧ t.password = s.password ∧ t.host = s.host ∧ t.port = s.port ∧
      t.vhost = s.vhost := by
  simp only [spelled, Address.mk.injEq, UInt16.toNat_inj, and_true] at h
  exact h

/-- An address gives settings back exactly if they are legible. -/
theorem address_law (s : Settings) : AddressLaw s where
  legible := Legible.address?
  only _ ha huser hpassword hhost hvhost := legible_of_address? ha huser hpassword hhost hvhost
  distinct t hs ht huri := by
    have haddress : t.address? = s.address? := by rw [Settings.address?, Settings.address?, huri]
    rw [hs.address?, ht.address?] at haddress
    exact spelled_inj (Option.some.inj haddress)

/-- An at-sign in the password and a slash in the virtual host are read back. -/
theorem address_law_slash :
    let s : Settings := { user := "svc", password := "p@ss:1", host := "mq.local", vhost := "a/b%" }
    s.Legible ∧ s.address? = some s.spelled ∧
      ∀ t : Settings, t.Legible → t.uri = s.uri → t.vhost = "a/b%" := by
  intro s
  have hs : s.Legible := by decide +kernel
  exact ⟨hs, (address_law s).legible hs,
    fun t ht huri => ((address_law s).distinct t hs ht huri).2.2.2.2⟩

/-- Two virtual hosts with one address: an escape that was given is not escaped again. -/
theorem vhosts_merged :
    let s : Settings := { vhost := "a%2fb" }
    let t : Settings := { vhost := "a/b" }
    s.uri = t.uri ∧ s.vhost ≠ t.vhost ∧ s.address?.map Address.vhost = some "a/b" := by
  decide +kernel

end Settings

end MessageBus
