/-!
# Dictionaries

A `Dict α` maps texts to values and keeps its entries in the order of their keys, so two
dictionaries with the same entries are equal. Metadata, header tables and declaration arguments are
dictionaries. Main statement: `get?_insert`.
-/

set_option autoImplicit false

namespace MessageBus

/-- A finite map from texts, kept as its entries in the order of their keys. -/
structure Dict (α : Type) where
  entries : List (String × α)
  sorted : (entries.map Prod.fst).Pairwise (· < ·)

namespace Dict

variable {α β : Type}

/-- The entries with one set. -/
def insertEntry (k : String) (v : α) : List (String × α) → List (String × α)
  | [] => [(k, v)]
  | (k', v') :: rest =>
    if k = k' then (k, v) :: rest
    else if k < k' then (k, v) :: (k', v') :: rest
    else (k', v') :: insertEntry k v rest

theorem mem_keys_insertEntry {k x : String} {v : α} {es : List (String × α)} :
    x ∈ (insertEntry k v es).map Prod.fst ↔ x = k ∨ x ∈ es.map Prod.fst := by
  induction es with
  | nil => simp [insertEntry]
  | cons e rest ih =>
    obtain ⟨k', v'⟩ := e
    unfold insertEntry
    split
    · next h => subst h; simp
    · split
      · simp
      · rw [List.map_cons, List.mem_cons, ih]
        simp only [List.map_cons, List.mem_cons]
        grind

theorem sorted_insertEntry {k : String} {v : α} {es : List (String × α)}
    (h : (es.map Prod.fst).Pairwise (· < ·)) :
    ((insertEntry k v es).map Prod.fst).Pairwise (· < ·) := by
  induction es with
  | nil => simp [insertEntry]
  | cons e rest ih =>
    obtain ⟨k', v'⟩ := e
    simp only [List.map_cons, List.pairwise_cons] at h
    unfold insertEntry
    split
    · next hk => subst hk; simpa using h
    · next hk =>
      split
      · next hlt =>
        simp only [List.map_cons, List.pairwise_cons, List.mem_cons]
        refine ⟨?_, h⟩
        rintro x (rfl | hx)
        · exact hlt
        · exact String.lt_trans hlt (h.1 x hx)
      · next hlt =>
        simp only [List.map_cons, List.pairwise_cons]
        refine ⟨fun x hx => ?_, ih h.2⟩
        rcases mem_keys_insertEntry.1 hx with rfl | hx
        · exact (Std.lt_trichotomy k' x).resolve_right (by grind)
        · exact h.1 x hx

/-- The dictionary without entries. -/
def empty : Dict α := ⟨[], List.Pairwise.nil⟩

instance : EmptyCollection (Dict α) := ⟨empty⟩

instance : Inhabited (Dict α) := ⟨empty⟩

/-- The dictionary with one entry set. -/
def insert (d : Dict α) (k : String) (v : α) : Dict α :=
  ⟨insertEntry k v d.entries, sorted_insertEntry d.sorted⟩

/-- The value at a key. -/
def get? (d : Dict α) (k : String) : Option α :=
  (d.entries.find? (fun e => e.1 == k)).map Prod.snd

/-- The keys, in order. -/
def keys (d : Dict α) : List String := d.entries.map Prod.fst

/-- The number of entries. -/
def size (d : Dict α) : Nat := d.entries.length

/-- The dictionary with the entries of a list set one after the other, so that the last value of a
key stays. -/
def insertAll (d : Dict α) (es : List (String × α)) : Dict α :=
  es.foldl (fun d e => d.insert e.1 e.2) d

/-- The dictionary of a list of entries; the last value of a key stays. -/
def ofList (es : List (String × α)) : Dict α := insertAll empty es

/-- The entries whose value has an image, with the images. -/
def filterMap (f : α → Option β) (d : Dict α) : Dict β :=
  ofList (d.entries.filterMap fun e => (f e.2).map fun b => (e.1, b))

@[ext] theorem ext {d d' : Dict α} (h : d.entries = d'.entries) : d = d' := by
  cases d; cases d'; simp_all

instance [DecidableEq α] : DecidableEq (Dict α) := fun d d' =>
  if h : d.entries = d'.entries then isTrue (ext h)
  else isFalse fun e => h (by rw [e])

/-! ## Looking up -/

@[simp] theorem get?_empty (k : String) : (empty : Dict α).get? k = none := rfl

theorem get?_insert (d : Dict α) (k k' : String) (v : α) :
    (d.insert k v).get? k' = if k = k' then some v else d.get? k' := by
  obtain ⟨es, hs⟩ := d
  simp only [get?, insert]
  clear hs
  induction es with
  | nil => simp only [insertEntry, List.find?_cons, List.find?_nil]; split <;> simp_all
  | cons e rest ih =>
    obtain ⟨a, b⟩ := e
    unfold insertEntry
    split
    · next h => subst h; simp only [List.find?_cons]; split <;> simp_all
    · split
      · simp only [List.find?_cons]; split <;> simp_all
      · rename_i hne _
        simp only [List.find?_cons] at ih ⊢
        by_cases ha : a = k'
        · subst ha; simp [hne]
        · have : (a == k') = false := by simpa using ha
          simp only [this, ih]

end Dict

end MessageBus
