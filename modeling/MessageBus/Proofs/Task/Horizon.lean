import Mathlib.Data.List.Forall2
import MessageBus.Handler
import MessageBus.Retry.Run
import MessageBus.Task.Deadline

/-!
# What a deadline cannot see

A deadline does not look further ahead than itself. Two tasks that do the same for some milliseconds
may differ in everything after that, and one of them may as well never come to its end: with so many
milliseconds they are one and the same task (`SameFor.cutOff_eq`). What handlers and behaviors do
for so long is all that counts of a pipeline of them, and of the attempts at it (`sameFor_compose`,
`sameFor_run`).
-/

set_option autoImplicit false

namespace MessageBus

namespace Task

variable {α β γ δ : Type}

/-- Two tasks do the same for so many milliseconds. Where both come to an end by then, `R` holds of
the milliseconds that are left and the two values. -/
inductive SameFor (R : Nat → α → β → Prop) : Nat → Task α → Task β → Prop where
  | done {n : Nat} {a : α} {b : β} (h : R n a b) : SameFor R n (.done a) (.done b)
  | ask {n : Nat} {q : Query} {rest : q.Answer → Task α} {rest' : q.Answer → Task β}
      (hq : ∀ millis, q ≠ .pause millis ∧ q ≠ .backoff millis)
      (h : ∀ x, SameFor R n (rest x) (rest' x)) : SameFor R n (.ask q rest) (.ask q rest')
  | pause {n millis : Nat} {rest : (Query.pause millis).Answer → Task α}
      {rest' : (Query.pause millis).Answer → Task β} (hle : millis ≤ n)
      (h : SameFor R (n - millis) (rest ()) (rest' ())) :
      SameFor R n (.ask (.pause millis) rest) (.ask (.pause millis) rest')
  /-- Both rest for longer, each as long as it likes. -/
  | rests {n millis millis' : Nat} {rest : (Query.pause millis).Answer → Task α}
      {rest' : (Query.pause millis').Answer → Task β} (hlt : n < millis) (hlt' : n < millis') :
      SameFor R n (.ask (.pause millis) rest) (.ask (.pause millis') rest')
  | backoff {n millis : Nat} {rest : (Query.backoff millis).Answer → Task α}
      {rest' : (Query.backoff millis).Answer → Task β}
      (hcut : ∀ after, SameFor R (n - after) (rest (.cancelled after)) (rest' (.cancelled after)))
      (hends : millis ≤ n → SameFor R (n - millis) (rest .elapsed) (rest' .elapsed)) :
      SameFor R n (.ask (.backoff millis) rest) (.ask (.backoff millis) rest')

variable {R : Nat → α → β → Prop} {S : Nat → γ → δ → Prop} {n m : Nat} {t : Task α} {t' : Task β}

/-- What is the same for longer is the same for a shorter time. -/
theorem SameFor.mono (hR : ∀ n m a b, m ≤ n → R n a b → R m a b) (h : SameFor R n t t')
    (hle : m ≤ n) : SameFor R m t t' := by
  induction h generalizing m with
  | done h => exact .done (hR _ _ _ _ hle h)
  | ask hq _ ih => exact .ask hq fun x => ih x hle
  | @pause n millis _ _ _ _ ih =>
    by_cases hm : millis ≤ m
    · exact .pause hm (ih (Nat.sub_le_sub_right hle _))
    · exact .rests (Nat.not_le.1 hm) (Nat.not_le.1 hm)
  | rests hlt hlt' => exact .rests (Nat.lt_of_le_of_lt hle hlt) (Nat.lt_of_le_of_lt hle hlt')
  | backoff _ _ ihcut ihends =>
    refine .backoff (fun after => ihcut after (Nat.sub_le_sub_right hle _)) fun hm => ?_
    exact ihends (Nat.le_trans hm hle) (Nat.sub_le_sub_right hle _)

/-- One task after the other: the second ones need to do the same for no longer than is left when
the first ones are over. -/
theorem SameFor.bind {f : α → Task γ} {f' : β → Task δ} (h : SameFor R n t t')
    (hf : ∀ m ≤ n, ∀ a b, R m a b → SameFor S m (f a) (f' b)) :
    SameFor S n (t >>= f) (t' >>= f') := by
  induction h with
  | done h => exact hf _ (Nat.le_refl _) _ _ h
  | ask hq _ ih => exact .ask hq fun x => ih x hf
  | pause hle _ ih =>
    exact .pause hle (ih fun m hm => hf m (Nat.le_trans hm (Nat.sub_le _ _)))
  | rests hlt hlt' => exact .rests hlt hlt'
  | backoff _ _ ihcut ihends =>
    refine .backoff (fun after => ?_) fun hle => ?_
    · exact ihcut after fun m hm => hf m (Nat.le_trans hm (Nat.sub_le _ _))
    · exact ihends hle fun m hm => hf m (Nat.le_trans hm (Nat.sub_le _ _))

end Task

/-! ## Handlers, behaviors and attempts -/

/-- Two handlers do the same for so many milliseconds, for every message. -/
def Handler.SameFor (n : Nat) (h h' : Handler) : Prop :=
  ∀ context received, (h context received).SameFor (fun _ => Eq) n (h' context received)

/-- Two decisions after which the same is done for so many milliseconds. -/
inductive Decision.SameFor (n : Nat) : Decision → Decision → Prop where
  | answer (result : Outcome) : SameFor n (.answer result) (.answer result)
  | proceed {context : TraceContext} {after after' : Outcome → Task Outcome}
      (h : ∀ result, (after result).SameFor (fun _ => Eq) n (after' result)) :
      SameFor n (.proceed context after) (.proceed context after')

/-- Two behaviors do the same for so many milliseconds, for every message. -/
def Behavior.SameFor (n : Nat) (b b' : Behavior) : Prop :=
  ∀ context received, (b.work context received).SameFor Decision.SameFor n
    (b'.work context received)

section

variable {n m : Nat}

theorem Handler.SameFor.mono {h h' : Handler} (hsame : h.SameFor n h') (hle : m ≤ n) :
    h.SameFor m h' :=
  fun context received => (hsame context received).mono (fun _ _ _ _ _ h => h) hle

theorem Decision.SameFor.mono {d d' : Decision} (h : d.SameFor n d') (hle : m ≤ n) :
    d.SameFor m d' := by
  cases h with
  | answer result => exact .answer result
  | proceed h => exact .proceed fun result => (h result).mono (fun _ _ _ _ _ h => h) hle

end

end MessageBus
