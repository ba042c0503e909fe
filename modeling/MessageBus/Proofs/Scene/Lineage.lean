import MessageBus.Proofs.Scene.Later

/-!
# The lineage of tokens

A token is made below another one, or on its own, and stays where it is: what leads from one scene
to another cancels tokens and makes new ones, but gives none another parent (`Leads.lineage`). So a
token is cancelled as soon as any of those is that it was once made below (`Under.isCancelled`).
-/

set_option autoImplicit false

namespace MessageBus

theorem sooner_earlier_right (a b : Option Nat) : Sooner (earlier a b) b := by
  rintro n rfl
  obtain ⟨c, hc, hle⟩ := Tokens.earlier_le_right a n
  exact ⟨c, hle, hc⟩

namespace Tokens

/-- The parents of the tokens, in the order in which these were made. -/
def parents (ts : Tokens) : List (Option Token) := (ts.nodes.map TokenNode.parent).reverse

@[simp] theorem length_parents (ts : Tokens) : ts.parents.length = ts.nodes.length := by
  simp [parents]

theorem parents_make (ts : Tokens) (parent : Option Token) :
    (ts.make parent).1.parents = ts.parents ++ [parent] := by
  simp [make, parents]

theorem map_parent_cancelIn (time : Nat) (ns : List TokenNode) (t : Token) :
    (cancelIn time ns t).map TokenNode.parent = ns.map TokenNode.parent := by
  induction ns with
  | nil => rfl
  | cons n older ih =>
    rw [cancelIn]
    split
    · rfl
    · rw [List.map_cons, List.map_cons, ih]

theorem parents_cancelAt (ts : Tokens) (t : Token) (time : Nat) :
    (ts.cancelAt t time).parents = ts.parents :=
  congrArg List.reverse (map_parent_cancelIn time ts.nodes t)

/-- A token is cancelled no later than its parent. -/
theorem sooner_parent {ns : List TokenNode} {t p : Token}
    (hparent : (ns.map TokenNode.parent).reverse[t]? = some (some p)) (hlt : p < t) :
    Sooner (cancelTimeIn ns t) (cancelTimeIn ns p) := by
  induction ns with
  | nil => simp at hparent
  | cons n older ih =>
    rw [List.map_cons, List.reverse_cons, List.getElem?_append, List.length_reverse,
      List.length_map] at hparent
    rw [cancelTimeIn, cancelTimeIn]
    split at hparent
    · next ht =>
      rw [if_neg (Nat.ne_of_lt ht), if_neg (Nat.ne_of_lt (Nat.lt_trans hlt ht))]
      exact ih hparent
    · -- the token is the newest one
      next hge =>
      obtain ⟨hlast, hn⟩ := List.getElem?_eq_some_iff.1 hparent
      have ht : t = older.length :=
        Nat.le_antisymm (Nat.le_of_sub_eq_zero (Nat.lt_one_iff.1 hlast)) (Nat.le_of_not_lt hge)
      have hn : n.parent = some p := by simpa using hn
      rw [if_pos ht, if_neg (Nat.ne_of_lt (ht ▸ hlt)), hn]
      exact sooner_earlier_right _ _

theorem lt_of_isCancelled {ts : Tokens} {t : Token} {now : Nat} (h : ts.isCancelled t now = true) :
    t < ts.nodes.length := by
  refine Nat.lt_of_not_le fun hge => ?_
  have hnone : ts.cancelTime? t = none := cancelTimeIn_eq_none hge
  simp [isCancelled, hnone] at h

end Tokens

namespace Scene

/-- The tokens of one scene are there in another one, and below the same tokens. -/
def Lineage (s s' : Scene) : Prop := s.tokens.parents <+: s'.tokens.parents

theorem lineage_of_eq {s s' : Scene} (h : s'.tokens.parents = s.tokens.parents) : Lineage s s' :=
  ⟨[], by rw [h, List.append_nil]⟩

theorem Leads.lineage {s s' : Scene} (h : Leads s s') : Lineage s s' := by
  induction h with
  | same _ htokens => exact lineage_of_eq (by rw [htokens])
  | cancel s t => exact lineage_of_eq (Tokens.parents_cancelAt s.tokens t s.now)
  | make s parent => exact ⟨[parent], (Tokens.parents_make s.tokens parent).symm⟩
  | trans _ _ ih ih' => exact ih.trans ih'

/-- A token stands under another one: it is that one, or it was made below one that does. -/
inductive Under (s : Scene) : Token → Token → Prop where
  | self (t : Token) : Under s t t
  | child {t p a : Token} (hparent : s.tokens.parents[t]? = some (some p)) (hlt : p < t)
      (h : Under s p a) : Under s t a

variable {s s' : Scene} {t a : Token}

theorem Under.trans {b : Token} (h : s.Under t a) (h' : s.Under a b) : s.Under t b := by
  induction h with
  | self t => exact h'
  | child hparent hlt _ ih => exact .child hparent hlt (ih h')

/-- A token stays where it is. -/
theorem Under.lineage (h : s.Under t a) (hs : s.Lineage s') : s'.Under t a := by
  induction h with
  | self t => exact .self t
  | @child t p a hparent hlt _ ih =>
    obtain ⟨more, hmore⟩ := hs
    refine .child ?_ hlt ih
    rw [← hmore, List.getElem?_append_left (List.getElem?_eq_some_iff.1 hparent).1, hparent]

theorem under_makeToken {p : Token} (hp : p < s.tokens.nodes.length) :
    (s.makeToken (some p)).1.Under (s.makeToken (some p)).2 p := by
  refine .child ?_ hp (.self p)
  show (s.tokens.make (some p)).1.parents[s.tokens.nodes.length]? = _
  rw [Tokens.parents_make, List.getElem?_append_right (by simp)]
  simp

theorem Under.lt (h : s.Under t a) (ha : a < s.tokens.nodes.length) :
    t < s.tokens.nodes.length := by
  cases h with
  | self => exact ha
  | child hparent =>
    rw [← Tokens.length_parents]
    exact (List.getElem?_eq_some_iff.1 hparent).1

/-- A token is cancelled as soon as one is under which it stands. -/
theorem Under.isCancelled (h : s.Under t a) (ha : s.isCancelled a = true) :
    s.isCancelled t = true := by
  induction h with
  | self t => exact ha
  | child hparent hlt _ ih =>
    exact Tokens.isCancelled_of_sooner (Tokens.sooner_parent hparent hlt) (Nat.le_refl _) (ih ha)

/-! ## Scenes that come one after the other -/

/-- One scene comes after another: it is later, and no token has changed its place. -/
structure Onward (s s' : Scene) : Prop where
  later : s.Later s'
  lineage : s.Lineage s'

theorem onward_refl (s : Scene) : s.Onward s := ⟨later_refl s, List.prefix_rfl⟩

theorem Onward.trans {s'' : Scene} (h : s.Onward s') (h' : s'.Onward s'') : s.Onward s'' :=
  ⟨h.later.trans h'.later, h.lineage.trans h'.lineage⟩

theorem Leads.onward (h : s.Leads s') : s.Onward s' := ⟨h.later, h.lineage⟩

theorem onward_of_same (hnow : s'.now = s.now) (htokens : s'.tokens = s.tokens) : s.Onward s' :=
  (Leads.same hnow htokens).onward

theorem onward_broker (s : Scene) (broker : Amqp.Broker) : s.Onward { s with broker } :=
  onward_of_same rfl rfl

/-- The log takes no time. -/
theorem onward_log (s : Scene) (records : List LogRecord) : s.Onward (records.foldl log s) :=
  List.foldlRecOn (motive := s.Onward) records log (onward_refl s) fun _ h _ _ =>
    h.trans (onward_of_same rfl rfl)

/-- Somebody cancels a token. -/
theorem onward_cancel (s : Scene) (t : Token) : s.Onward (s.cancel t) :=
  (Leads.cancel s t).onward

/-- Time goes by. -/
theorem onward_notBefore (s : Scene) (time : Nat) : s.Onward (s.notBefore time) where
  later :=
    { now := Nat.le_max_left _ _
      tokens := Nat.le_refl _
      cancelled := fun _ h =>
        Tokens.isCancelled_of_sooner (sooner_refl _) (Nat.le_max_left s.now time) h }
  lineage := lineage_of_eq rfl

end Scene

end MessageBus
