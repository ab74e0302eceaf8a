/-!
# Keyed tables

A table holds at most one value for each key. Its observation is `get?`; every operation has one law
that says what it does to that observation, and `size` counts the entries.
-/

namespace SignOn

/-- Values by key. -/
structure Table (α : Type) where
  entries : List (String × α) := []
  /-- No key has two entries. -/
  distinct : (entries.map Prod.fst).Nodup := by simp

namespace Table

variable {α : Type}

/-- A table without entries. -/
def empty : Table α := {}

/-- The value of a key. -/
def get? (t : Table α) (key : String) : Option α := t.entries.lookup key

/-- The number of entries. -/
def size (t : Table α) : Nat := t.entries.length

/-- The entries that a test of key and value admits. -/
def filter (t : Table α) (admits : String → α → Bool) : Table α where
  entries := t.entries.filter fun entry => admits entry.1 entry.2
  distinct := t.distinct.sublist (List.filter_sublist.map _)

/-- A table without the entry of a key. -/
def erase (t : Table α) (key : String) : Table α := t.filter fun other _ => other ≠ key

/-- A table in which a key has a given value. -/
def put (t : Table α) (key : String) (value : α) : Table α where
  entries := (key, value) :: (t.erase key).entries
  distinct := by
    rw [List.map_cons, List.nodup_cons]
    refine ⟨?_, (t.erase key).distinct⟩
    simp [erase, filter]

/-- A key with an entry has a value. -/
theorem exists_get?_of_mem {t : Table α} {key : String} (h : key ∈ t.entries.map Prod.fst) :
    ∃ value, t.get? key = some value := by
  obtain ⟨entry, hentry, rfl⟩ := List.mem_map.mp h
  rw [← Option.isSome_iff_exists, Option.isSome_iff_ne_none, get?, ne_eq, List.lookup_eq_none_iff]
  intro hnone
  simpa using hnone entry hentry

@[simp] theorem get?_empty (key : String) : (empty : Table α).get? key = none := rfl

private theorem lookup_filter {entries : List (String × α)} (h : (entries.map Prod.fst).Nodup)
    (admits : String → α → Bool) (key : String) :
    (entries.filter fun entry => admits entry.1 entry.2).lookup key =
      (entries.lookup key).filter (admits key) := by
  induction entries with
  | nil => rfl
  | cons entry entries ih =>
    obtain ⟨k, v⟩ := entry
    rw [List.map_cons, List.nodup_cons] at h
    have hnone : k = key → entries.lookup key = none := by
      intro hk
      rw [List.lookup_eq_none_iff]
      intro p hp
      have hmem : p.1 ∈ entries.map Prod.fst := List.mem_map_of_mem hp
      have : k ≠ p.1 := fun e => h.1 (e ▸ hmem)
      simp [← hk, this]
    by_cases hk : key = k
    · subst hk
      by_cases ha : admits key v = true
      · simp [ha, Option.filter]
      · simp [ha, ih h.2, hnone rfl, Option.filter]
    · have hb : (key == k) = false := by simp [hk]
      by_cases ha : admits k v = true
      · simp [List.lookup_cons, ha, hb, ih h.2]
      · simp [List.lookup_cons, ha, hb, ih h.2]

/-- A key keeps its value exactly when the test admits it. -/
theorem get?_filter (t : Table α) (admits : String → α → Bool) (key : String) :
    (t.filter admits).get? key = (t.get? key).filter (admits key) :=
  lookup_filter t.distinct admits key

/-- Erasing a key is seen under that key only. -/
theorem get?_erase (t : Table α) (key other : String) :
    (t.erase key).get? other = if other = key then none else t.get? other := by
  rw [erase, get?_filter]
  split
  · next h => simp [h]
  · next h => cases t.get? other <;> simp [h]

/-- Putting a value is seen under its key only. -/
theorem get?_put (t : Table α) (key other : String) (value : α) :
    (t.put key value).get? other = if other = key then some value else t.get? other := by
  rw [get?, put, List.lookup_cons]
  by_cases h : other = key
  · simp [h]
  · have hb : (other == key) = false := by simp [h]
    rw [hb]
    have := get?_erase t key other
    rw [if_neg h] at this
    simp only [if_neg h]
    exact this

end Table

end SignOn
