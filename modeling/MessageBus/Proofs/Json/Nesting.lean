import MessageBus.Json.Access
import MessageBus.Proofs.Json.RoundTrip

/-!
# Containers open at once in a text

How many arrays and objects are open at once while a text is read, counted on its tokens. In the
text of a value it is the depth of the value: see `nesting?_encode_write`.
-/

set_option autoImplicit false

namespace MessageBus.Json

/-- How many containers are open after a token. -/
def openAfter (n : Nat) : Token → Nat
  | .openArray | .openObject => n + 1
  | .closeArray | .closeObject => n - 1
  | _ => n

/-- The most containers that are open at once while some tokens are read, with so many open to
begin with. -/
def mostOpen : Nat → List Token → Nat
  | n, [] => n
  | n, t :: ts => max n (mostOpen (openAfter n t) ts)

/-- The most arrays and objects that are open at once in a text. -/
def nesting? (bs : Bytes) : Option Nat := (tokens? bs).map (mostOpen 0)

theorem le_mostOpen (n : Nat) (ts : List Token) : n ≤ mostOpen n ts := by
  cases ts with
  | nil => exact Nat.le_refl n
  | cons t ts => exact Nat.le_max_left _ _

/-- A token that opens and closes nothing. -/
theorem mostOpen_cons {n : Nat} {t : Token} {ts : List Token} (h : openAfter n t = n) :
    mostOpen n (t :: ts) = mostOpen n ts := by
  rw [mostOpen, h]
  exact Nat.max_eq_right (le_mostOpen n ts)

/-- A container around some tokens that leave as many open as they found. -/
theorem mostOpen_container {n d : Nat} {t t' : Token} {inside ts : List Token}
    (hopen : openAfter n t = n + 1) (hclose : openAfter (n + 1) t' = n)
    (hinside : mostOpen (n + 1) (inside ++ t' :: ts) =
      max (n + 1 + d) (mostOpen (n + 1) (t' :: ts))) :
    mostOpen n (t :: (inside ++ t' :: ts)) = max (n + (d + 1)) (mostOpen n ts) := by
  have hle := le_mostOpen n ts
  rw [mostOpen, hopen, hinside, mostOpen, hclose]
  omega

mutual

theorem mostOpen_tokensOf : ∀ (v : Json) (n : Nat) (ts : List Token),
    mostOpen n (tokensOf v ++ ts) = max (n + v.depth) (mostOpen n ts)
  | .null, n, ts | .bool _, n, ts | .number _, n, ts | .string _, n, ts | .unreadable, n, ts => by
    have hle := le_mostOpen n ts
    rw [tokensOf, List.singleton_append, mostOpen_cons rfl, depth.eq_def]
    exact (Nat.max_eq_right hle).symm
  | .array items, n, ts => by
    rw [tokensOf, List.cons_append, List.append_assoc]
    exact mostOpen_container rfl rfl (mostOpen_itemTokens items (n + 1) _)
  | .object fields, n, ts => by
    rw [tokensOf, List.cons_append, List.append_assoc]
    exact mostOpen_container rfl rfl (mostOpen_fieldTokens fields (n + 1) _)

theorem mostOpen_itemTokens : ∀ (items : List Json) (n : Nat) (ts : List Token),
    mostOpen n (itemTokens items ++ ts) = max (n + depthOfItems items) (mostOpen n ts)
  | [], n, ts => (Nat.max_eq_right (le_mostOpen n ts)).symm
  | [v], n, ts => by
    rw [itemTokens, mostOpen_tokensOf v, depthOfItems, depthOfItems]
    omega
  | v :: w :: items, n, ts => by
    have hdepth : depthOfItems (v :: w :: items) = max v.depth (depthOfItems (w :: items)) := by
      rw [depthOfItems]
    rw [itemTokens_cons_cons, List.append_assoc, mostOpen_tokensOf v, List.cons_append,
      mostOpen_cons rfl, mostOpen_itemTokens (w :: items), hdepth]
    omega

theorem mostOpen_fieldTokens : ∀ (fields : List (String × Json)) (n : Nat) (ts : List Token),
    mostOpen n (fieldTokens fields ++ ts) = max (n + depthOfFields fields) (mostOpen n ts)
  | [], n, ts => (Nat.max_eq_right (le_mostOpen n ts)).symm
  | [(k, v)], n, ts => by
    rw [fieldTokens, List.cons_append, List.cons_append, mostOpen_cons rfl, mostOpen_cons rfl,
      mostOpen_tokensOf v, depthOfFields, depthOfFields]
    omega
  | (k, v) :: e :: fields, n, ts => by
    have hdepth : depthOfFields ((k, v) :: e :: fields) =
        max v.depth (depthOfFields (e :: fields)) := by
      rw [depthOfFields]
    rw [fieldTokens_cons_cons, List.cons_append, List.cons_append, List.append_assoc,
      mostOpen_cons rfl, mostOpen_cons rfl, mostOpen_tokensOf v, List.cons_append,
      mostOpen_cons rfl, mostOpen_fieldTokens (e :: fields), hdepth]
    omega

end

/-- In the text of a value as many containers are open at once as the value is deep. -/
theorem nesting?_encode_write {v : Json} (h : v.isPlain = true) :
    nesting? (Utf8.encode v.write) = some v.depth := by
  have hmost := mostOpen_tokensOf v 0 []
  rw [List.append_nil, mostOpen, Nat.zero_add, Nat.max_eq_left (Nat.zero_le _)] at hmost
  rw [nesting?, tokens?_encode_write h, Option.map_some, hmost]

end MessageBus.Json
