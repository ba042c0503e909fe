import Mathlib.Data.List.Sort
import MessageBus.Dict

/-!
# Entries of dictionaries

The entries of a dictionary stand in the order of their keys, so a list of entries in that order is
all there is to it (`entries_ofList`), and to map the values is to map each entry
(`filterMap_insert`). What stands at a key afterwards is said by `get?_insertAll` and
`get?_filterMap`, and what stands at the keys is all there is to a dictionary as well (`ext_get?`).
-/

set_option autoImplicit false

namespace MessageBus.Dict

variable {α β : Type}

/-- An entry with the greatest key stands last. -/
theorem insertEntry_of_lt {k : String} {v : α} {es : List (String × α)}
    (h : ∀ k' ∈ es.map Prod.fst, k' < k) : insertEntry k v es = es ++ [(k, v)] := by
  induction es with
  | nil => rfl
  | cons e es ih =>
    rw [List.map_cons, List.forall_mem_cons] at h
    obtain ⟨hlt, hes⟩ := h
    have hne : k ≠ e.1 := by
      rintro rfl
      exact String.lt_irrefl _ hlt
    have hnot : ¬k < e.1 := fun hgt => String.lt_irrefl _ (String.lt_trans hlt hgt)
    rw [insertEntry, if_neg hne, if_neg hnot, ih hes]
    rfl

/-- Entries that stand in order are those of their dictionary. -/
theorem entries_ofList {es : List (String × α)} (h : (es.map Prod.fst).Pairwise (· < ·)) :
    (ofList es).entries = es := by
  have hall (d : Dict α) (hd : ((d.entries ++ es).map Prod.fst).Pairwise (· < ·)) :
      (d.insertAll es).entries = d.entries ++ es := by
    clear h
    induction es generalizing d with
    | nil => simp [insertAll]
    | cons e es ih =>
      have hlast : ∀ k ∈ d.entries.map Prod.fst, k < e.1 := by
        rw [List.map_append, List.pairwise_append] at hd
        exact fun k hk => hd.2.2 k hk e.1 (by simp)
      have hinsert : (d.insert e.1 e.2).entries = d.entries ++ [e] := insertEntry_of_lt hlast
      have hrest := ih (d.insert e.1 e.2) (by rw [hinsert]; simpa using hd)
      rw [hinsert, List.append_assoc] at hrest
      exact hrest
  exact hall empty h

theorem mem_of_mem_insertEntry {k : String} {v : α} {es : List (String × α)} {e : String × α}
    (h : e ∈ insertEntry k v es) : e = (k, v) ∨ e ∈ es := by
  induction es with
  | nil => exact .inl (List.mem_singleton.1 h)
  | cons f es ih =>
    rw [insertEntry] at h
    split at h
    · exact (List.mem_cons.1 h).imp_right (List.mem_cons_of_mem f)
    · split at h
      · exact List.mem_cons.1 h
      · rcases List.mem_cons.1 h with rfl | h
        · exact .inr List.mem_cons_self
        · exact (ih h).imp_right (List.mem_cons_of_mem f)

/-- What stands in a dictionary stood in the list it was made of. -/
theorem mem_of_mem_ofList {es : List (String × α)} {e : String × α}
    (h : e ∈ (ofList es).entries) : e ∈ es := by
  have hall (d : Dict α) (h : e ∈ (d.insertAll es).entries) : e ∈ d.entries ∨ e ∈ es := by
    clear * - d h
    induction es generalizing d with
    | nil => exact .inl h
    | cons f es ih =>
      rcases ih (d.insert f.1 f.2) h with h | h
      · rcases mem_of_mem_insertEntry h with rfl | h
        · exact .inr List.mem_cons_self
        · exact .inl h
      · exact .inr (List.mem_cons_of_mem f h)
  exact (hall empty h).resolve_left List.not_mem_nil

/-- An entry with the least key stands first. -/
theorem insertEntry_of_gt {k : String} {v : α} {es : List (String × α)}
    (h : ∀ k' ∈ es.map Prod.fst, k < k') : insertEntry k v es = (k, v) :: es := by
  cases es with
  | nil => rfl
  | cons e es =>
    have hlt : k < e.1 := h e.1 (by simp)
    have hne : k ≠ e.1 := by
      intro heq
      rw [heq] at hlt
      exact String.lt_irrefl _ hlt
    rw [insertEntry, if_neg hne, if_pos hlt]

/-! ## Mapping the values -/

/-- An entry with the image of its value, if there is one. -/
def image (f : α → Option β) (e : String × α) : Option (String × β) :=
  (f e.2).map fun b => (e.1, b)

theorem mem_keys_filterMap {f : α → Option β} {es : List (String × α)} {k : String}
    (h : k ∈ (es.filterMap (image f)).map Prod.fst) : k ∈ es.map Prod.fst := by
  obtain ⟨e, he, rfl⟩ := List.mem_map.1 h
  obtain ⟨e', he', himage⟩ := List.mem_filterMap.1 he
  obtain ⟨b, -, rfl⟩ := Option.map_eq_some_iff.1 himage
  exact List.mem_map_of_mem he'

theorem sorted_filterMap {f : α → Option β} {es : List (String × α)}
    (h : (es.map Prod.fst).Pairwise (· < ·)) :
    ((es.filterMap (image f)).map Prod.fst).Pairwise (· < ·) := by
  induction es with
  | nil => exact .nil
  | cons e es ih =>
    rw [List.map_cons, List.pairwise_cons] at h
    cases himage : image f e with
    | none =>
      rw [List.filterMap_cons_none himage]
      exact ih h.2
    | some e' =>
      obtain ⟨b, -, rfl⟩ := Option.map_eq_some_iff.1 himage
      rw [List.filterMap_cons_some himage, List.map_cons, List.pairwise_cons]
      exact ⟨fun k hk => h.1 k (mem_keys_filterMap hk), ih h.2⟩

theorem entries_filterMap (f : α → Option β) (d : Dict α) :
    (d.filterMap f).entries = d.entries.filterMap (image f) :=
  entries_ofList (sorted_filterMap d.sorted)

theorem filterMap_insertEntry {f : α → Option β} {k : String} {v : α} {b : β} (hv : f v = some b)
    {es : List (String × α)} (h : (es.map Prod.fst).Pairwise (· < ·)) :
    (insertEntry k v es).filterMap (image f) = insertEntry k b (es.filterMap (image f)) := by
  have hkv : image f (k, v) = some (k, b) := by rw [image, hv, Option.map_some]
  induction es with
  | nil => rw [insertEntry, List.filterMap_cons_some hkv]; rfl
  | cons e es ih =>
    have hsorted := h
    rw [List.map_cons, List.pairwise_cons] at h
    rw [insertEntry]
    split
    · next hk =>
      -- the entry takes the place of the first one, whether that has an image or not
      have hleast : ∀ k' ∈ (es.filterMap (image f)).map Prod.fst, k < k' := by
        intro k' hk'
        rw [hk]
        exact h.1 k' (mem_keys_filterMap hk')
      rw [List.filterMap_cons_some hkv]
      cases himage : image f e with
      | none => rw [List.filterMap_cons_none himage, insertEntry_of_gt hleast]
      | some e' =>
        obtain ⟨b', -, rfl⟩ := Option.map_eq_some_iff.1 himage
        rw [List.filterMap_cons_some himage, insertEntry, if_pos hk]
    · next hne =>
      split
      · next hlt =>
        have hleast : ∀ k' ∈ ((e :: es).filterMap (image f)).map Prod.fst, k < k' := by
          intro k' hk'
          have hmem := mem_keys_filterMap hk'
          rw [List.map_cons, List.mem_cons] at hmem
          rcases hmem with rfl | hmem
          · exact hlt
          · exact String.lt_trans hlt (h.1 k' hmem)
        rw [List.filterMap_cons_some hkv, insertEntry_of_gt hleast]
      · next hge =>
        cases himage : image f e with
        | none =>
          rw [List.filterMap_cons_none himage, List.filterMap_cons_none himage]
          exact ih h.2
        | some e' =>
          obtain ⟨b', -, rfl⟩ := Option.map_eq_some_iff.1 himage
          rw [List.filterMap_cons_some himage, List.filterMap_cons_some himage, insertEntry,
            if_neg hne, if_neg hge, ih h.2]

/-- To set an entry and to map the values is the same in either order. -/
theorem filterMap_insert {f : α → Option β} (d : Dict α) {k : String} {v : α} {b : β}
    (hv : f v = some b) : (d.insert k v).filterMap f = (d.filterMap f).insert k b := by
  refine Dict.ext ?_
  rw [entries_filterMap]
  exact (filterMap_insertEntry hv d.sorted).trans
    (congrArg (insertEntry k b) (entries_filterMap f d).symm)

/-! ## What stands at a key -/

theorem nodup_keys (d : Dict α) : (d.entries.map Prod.fst).Nodup := by
  refine d.sorted.imp fun {k k'} hlt => ?_
  rintro rfl
  exact String.lt_irrefl _ hlt

/-- An entry stands in a dictionary if its value stands at its key. -/
theorem mem_entries_iff {d : Dict α} {k : String} {v : α} :
    (k, v) ∈ d.entries ↔ d.get? k = some v := by
  have hnodup := d.nodup_keys
  rw [get?]
  generalize d.entries = es at hnodup
  induction es with
  | nil => simp
  | cons e es ih =>
    rw [List.map_cons, List.nodup_cons] at hnodup
    by_cases hk : e.1 = k
    · rw [List.find?_cons_of_pos (by simpa using hk), Option.map_some, List.mem_cons]
      constructor
      · rintro (rfl | hmem)
        · rfl
        · -- no other entry has this key
          exact absurd (List.mem_map_of_mem hmem) (hk ▸ hnodup.1)
      · intro hv
        exact .inl (Prod.ext hk.symm (Option.some.inj hv).symm)
    · have hne : (k, v) ≠ e := fun h => hk (congrArg Prod.fst h).symm
      rw [List.find?_cons_of_neg (by simpa using hk), List.mem_cons]
      exact (or_iff_right hne).trans (ih hnodup.2)

/-- Dictionaries in which the same stands at each key are equal. -/
theorem ext_get? {d d' : Dict α} (h : ∀ k, d.get? k = d'.get? k) : d = d' := by
  have hirrefl : Std.Irrefl fun e e' : String × α => e.1 < e'.1 :=
    ⟨fun e => String.lt_irrefl e.1⟩
  have hantisymm : Std.Antisymm fun e e' : String × α => e.1 < e'.1 :=
    ⟨fun e _ hlt hgt => absurd (String.lt_trans hlt hgt) (String.lt_irrefl e.1)⟩
  refine Dict.ext ?_
  refine (List.pairwise_map.1 d.sorted).eq_of_mem_iff (List.pairwise_map.1 d'.sorted) ?_
  rintro ⟨k, v⟩
  rw [mem_entries_iff, mem_entries_iff, h k]

/-- Entries with different keys that are set one after the other stand before what was there. -/
theorem get?_insertAll {es : List (String × α)} (hnodup : (es.map Prod.fst).Nodup) (d : Dict α)
    (k : String) :
    (d.insertAll es).get? k = ((es.find? (·.1 == k)).map Prod.snd).or (d.get? k) := by
  induction es generalizing d with
  | nil => rfl
  | cons e es ih =>
    rw [List.map_cons, List.nodup_cons] at hnodup
    have hrest : (d.insertAll (e :: es)).get? k = _ := ih hnodup.2 (d.insert e.1 e.2)
    rw [hrest, get?_insert]
    by_cases hk : e.1 = k
    · -- no later entry has this key
      have hnone : es.find? (·.1 == k) = none := by
        refine List.find?_eq_none.2 fun e' he' heq => hnodup.1 ?_
        rw [hk, ← beq_iff_eq.1 heq]
        exact List.mem_map_of_mem he'
      rw [hnone, if_pos hk, List.find?_cons_of_pos (by simpa using hk)]
      rfl
    · rw [if_neg hk, List.find?_cons_of_neg (by simpa using hk)]

/-- At each key stands the image of what stood there, if there is one. -/
theorem get?_filterMap (f : α → Option β) (d : Dict α) (k : String) :
    (d.filterMap f).get? k = (d.get? k).bind f := by
  have hnodup := d.nodup_keys
  rw [get?, get?, entries_filterMap]
  generalize d.entries = es at hnodup
  induction es with
  | nil => rfl
  | cons e es ih =>
    rw [List.map_cons, List.nodup_cons] at hnodup
    by_cases hk : e.1 = k
    · rw [List.find?_cons_of_pos (by simpa using hk)]
      cases himage : f e.2 with
      | some b =>
        have hfirst : image f e = some (e.1, b) := by rw [image, himage, Option.map_some]
        rw [List.filterMap_cons_some hfirst, List.find?_cons_of_pos (by simpa using hk)]
        exact himage.symm
      | none =>
        have hfirst : image f e = none := by rw [image, himage, Option.map_none]
        have hnone : (es.filterMap (image f)).find? (·.1 == k) = none := by
          refine List.find?_eq_none.2 fun e' he' heq => hnodup.1 ?_
          rw [hk, ← beq_iff_eq.1 heq]
          exact mem_keys_filterMap (List.mem_map_of_mem he')
        rw [List.filterMap_cons_none hfirst, hnone]
        exact himage.symm
    · rw [List.find?_cons_of_neg (by simpa using hk), ← ih hnodup.2]
      cases himage : image f e with
      | none => rw [List.filterMap_cons_none himage]
      | some e' =>
        obtain ⟨b, -, rfl⟩ := Option.map_eq_some_iff.1 himage
        rw [List.filterMap_cons_some himage, List.find?_cons_of_neg (by simpa using hk)]

end MessageBus.Dict
