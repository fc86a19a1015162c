/-!
# Tables

A table holds one value for each of finitely many keys and keeps its keys in the order in which they
came. A value that is put under a key the table has takes the place of the old one. Everything a
table is asked for is said by `get?`: two lemmas for each operation tell what it does to the values
under all keys, and `mem_entries` says that the entries are what `get?` finds.
-/

namespace Rendezvous

/-- One value for each of finitely many keys, in the order in which the keys came. -/
structure Table (κ β : Type) where
  /-- The keys with their values. -/
  entries : List (κ × β)
  /-- No key comes twice. -/
  distinct : (entries.map (·.1)).Nodup
  deriving DecidableEq

namespace Table

variable {κ β : Type} [DecidableEq κ]

/-- The table without keys. -/
def empty : Table κ β :=
  ⟨[], List.nodup_nil⟩

instance : Inhabited (Table κ β) := ⟨empty⟩

/-- The value under a key. -/
def get? (t : Table κ β) (k : κ) : Option β :=
  t.entries.lookup k

/-- The keys in their order. -/
def keys (t : Table κ β) : List κ :=
  t.entries.map (·.1)

/-- The values in the order of their keys. -/
def values (t : Table κ β) : List β :=
  t.entries.map (·.2)

/-- The number of keys. -/
def size (t : Table κ β) : Nat :=
  t.entries.length

/-- The table has the key. -/
def contains (t : Table κ β) (k : κ) : Bool :=
  (t.get? k).isSome

/-! ### The entries of a table with something changed -/

/-- Every value replaced by one made from it and its key. -/
def mapValues (t : Table κ β) (f : κ → β → β) : Table κ β where
  entries := t.entries.map fun e => (e.1, f e.1 e.2)
  distinct := by simpa [Function.comp_def] using t.distinct

/-- The keys that pass a test, with their values. -/
def keep (t : Table κ β) (p : κ → β → Bool) : Table κ β where
  entries := t.entries.filter fun e => p e.1 e.2
  distinct := t.distinct.sublist (List.filter_sublist.map _)

/-- The table without a key. -/
def erase (t : Table κ β) (k : κ) : Table κ β :=
  t.keep fun k' _ => k' ≠ k

/-- The value under a key replaced, if the table has the key. -/
def modify (t : Table κ β) (k : κ) (f : β → β) : Table κ β :=
  t.mapValues fun k' b => if k' = k then f b else b

/-! ### What a table holds under its keys -/

theorem lookup_eq_some_iff {l : List (κ × β)} (h : (l.map (·.1)).Nodup) {k : κ} {b : β} :
    l.lookup k = some b ↔ (k, b) ∈ l := by
  induction l with
  | nil => simp
  | cons e r ih =>
    obtain ⟨k', b'⟩ := e
    rw [List.map_cons, List.nodup_cons] at h
    by_cases hk : k = k'
    · subst hk
      have hne : (k, b) ∉ r := fun hm => h.1 (List.mem_map.2 ⟨_, hm, rfl⟩)
      simp [hne, eq_comm]
    · simp [List.lookup_cons, beq_false_of_ne hk, ih h.2, hk]

/-- **The entries of a table** are exactly the values that it holds under its keys. -/
theorem mem_entries {t : Table κ β} {k : κ} {b : β} : (k, b) ∈ t.entries ↔ t.get? k = some b :=
  (lookup_eq_some_iff t.distinct).symm

theorem ext_get? {t : Table κ β} {k : κ} {o : Option β} (h : ∀ b, t.get? k = some b ↔ o = some b) :
    t.get? k = o :=
  Option.ext h

theorem mem_keys {t : Table κ β} {k : κ} : k ∈ t.keys ↔ (t.get? k).isSome = true := by
  simp [keys, Option.isSome_iff_exists, ← mem_entries]

@[simp] theorem get?_empty (k : κ) : (empty : Table κ β).get? k = none := rfl

@[simp] theorem get?_mapValues (t : Table κ β) (f : κ → β → β) (k : κ) :
    (t.mapValues f).get? k = (t.get? k).map (f k) := by
  refine ext_get? fun b => ?_
  rw [← mem_entries]
  simp only [mapValues, List.mem_map, Option.map_eq_some_iff, ← mem_entries]
  constructor
  · rintro ⟨e, he, h⟩
    obtain ⟨rfl, rfl⟩ := Prod.mk.inj h
    exact ⟨e.2, he, rfl⟩
  · rintro ⟨b', hb, rfl⟩
    exact ⟨(k, b'), hb, rfl⟩

theorem get?_keep (t : Table κ β) (p : κ → β → Bool) (k : κ) :
    (t.keep p).get? k = (t.get? k).filter (p k) := by
  refine ext_get? fun b => ?_
  rw [← mem_entries]
  simp [keep, mem_entries, Option.filter_eq_some_iff]

@[simp] theorem get?_erase_self (t : Table κ β) (k : κ) : (t.erase k).get? k = none := by
  simp [erase, get?_keep]

theorem get?_erase_of_ne (t : Table κ β) {k k' : κ} (h : k' ≠ k) :
    (t.erase k).get? k' = t.get? k' := by
  rw [erase, get?_keep]
  cases t.get? k' <;> simp [h]

@[simp] theorem get?_modify_self (t : Table κ β) (k : κ) (f : β → β) :
    (t.modify k f).get? k = (t.get? k).map f := by
  simp [modify]

theorem get?_modify_of_ne (t : Table κ β) {k k' : κ} (f : β → β) (h : k' ≠ k) :
    (t.modify k f).get? k' = t.get? k' := by
  simp [modify, h]

/-- A value put under a key: in the place of the old one, or behind all others. -/
def insert (t : Table κ β) (k : κ) (b : β) : Table κ β :=
  if h : t.contains k then t.modify k fun _ => b
  else
    { entries := t.entries ++ [(k, b)]
      distinct := by
        have hk : ¬k ∈ t.keys := fun hm => h (mem_keys.1 hm)
        rw [List.map_append, List.nodup_append]
        refine ⟨t.distinct, by simp, fun a ha a' ha' => ?_⟩
        obtain rfl : a' = k := by simpa using ha'
        exact fun e => hk (e ▸ ha) }

@[simp] theorem get?_insert_self (t : Table κ β) (k : κ) (b : β) :
    (t.insert k b).get? k = some b := by
  rw [insert]
  split
  · next h =>
    obtain ⟨b', hb⟩ := Option.isSome_iff_exists.1 h
    simp [hb]
  · rw [← mem_entries]
    simp

theorem get?_insert_of_ne (t : Table κ β) {k k' : κ} (b : β) (h : k' ≠ k) :
    (t.insert k b).get? k' = t.get? k' := by
  rw [insert]
  split
  · exact get?_modify_of_ne t _ h
  · refine ext_get? fun b' => ?_
    rw [← mem_entries, ← mem_entries]
    simp [h]

theorem get?_insert (t : Table κ β) (k k' : κ) (b : β) :
    (t.insert k b).get? k' = if k' = k then some b else t.get? k' := by
  by_cases h : k' = k
  · subst h
    simp
  · simp [h, get?_insert_of_ne t b h]

end Table

end Rendezvous
