/-!
# Sorted maps

A `SortedMap α` assigns values to texts and lists its entries in the order of its keys, which is
the order of their characters' code points and so also the order of their UTF-8 bytes. Read
`get?_insert` first: an insertion changes the look-up of its own key and of no other.
-/

namespace FunctionOperator

/-- Entries in the strictly increasing order of their keys. -/
abbrev KeysSorted {α : Type} (entries : List (String × α)) : Prop :=
  entries.Pairwise fun first second => first.1 < second.1

/-- Finite maps from texts, with the order of their entries fixed by the keys. -/
structure SortedMap (α : Type) where
  /-- The entries in the order of their keys. -/
  entries : List (String × α)
  /-- No key occurs twice, and the keys increase. -/
  sorted : KeysSorted entries

namespace SortedMap

variable {α : Type}

/-- Puts an entry at its place, in the place of an earlier one with the same key. -/
def insertEntry (key : String) (value : α) : List (String × α) → List (String × α)
  | [] => [(key, value)]
  | entry :: rest =>
    if key < entry.1 then (key, value) :: entry :: rest
    else if key = entry.1 then (key, value) :: rest
    else entry :: insertEntry key value rest

theorem mem_insertEntry {key : String} {value : α} {entry : String × α}
    {entries : List (String × α)} (h : entry ∈ insertEntry key value entries) :
    entry = (key, value) ∨ entry ∈ entries := by
  induction entries with
  | nil => simpa [insertEntry] using h
  | cons head rest ih =>
    rw [insertEntry] at h
    split at h
    · simpa using h
    · split at h
      · rcases List.mem_cons.1 h with h | h
        · exact .inl h
        · exact .inr (List.mem_cons_of_mem _ h)
      · rcases List.mem_cons.1 h with h | h
        · exact .inr (h ▸ List.mem_cons_self)
        · exact (ih h).imp_right (List.mem_cons_of_mem _)

/-- Neither key comes before the other only if they are the same. -/
theorem key_lt_of_not_lt {first second : String} (hlt : ¬ first < second) (hne : first ≠ second) :
    second < first := by
  by_cases h : second < first
  · exact h
  · exact absurd (String.le_antisymm (String.not_lt.1 h) (String.not_lt.1 hlt)) hne

theorem insertEntry_sorted (key : String) (value : α) {entries : List (String × α)}
    (h : KeysSorted entries) : KeysSorted (insertEntry key value entries) := by
  induction entries with
  | nil => simp [insertEntry, KeysSorted]
  | cons head rest ih =>
    have hhead {entry : String × α} (hentry : entry ∈ rest) : head.1 < entry.1 :=
      List.rel_of_pairwise_cons h hentry
    rw [insertEntry]
    split
    · next hlt =>
      refine List.Pairwise.cons (fun entry hentry => ?_) h
      rcases List.mem_cons.1 hentry with rfl | hentry
      · exact hlt
      · exact String.lt_trans hlt (hhead hentry)
    · next hlt =>
      split
      · next heq =>
        exact List.Pairwise.cons (fun entry hentry => heq ▸ hhead hentry) h.of_cons
      · next hne =>
        refine List.Pairwise.cons (fun entry hentry => ?_) (ih h.of_cons)
        rcases mem_insertEntry hentry with rfl | hentry
        · exact key_lt_of_not_lt hlt hne
        · exact hhead hentry

/-- The map without entries. -/
def empty : SortedMap α := ⟨[], .nil⟩

instance : EmptyCollection (SortedMap α) := ⟨empty⟩
instance : Inhabited (SortedMap α) := ⟨empty⟩

instance [DecidableEq α] : DecidableEq (SortedMap α) := fun first second =>
  decidable_of_iff (first.entries = second.entries)
    ⟨fun h => by cases first; cases second; cases h; rfl, fun h => h ▸ rfl⟩

/-- Assigns a value to a key. -/
def insert (map : SortedMap α) (key : String) (value : α) : SortedMap α :=
  ⟨insertEntry key value map.entries, insertEntry_sorted key value map.sorted⟩

/-- Keeps the entries that a test admits. -/
def filter (keep : String → α → Bool) (map : SortedMap α) : SortedMap α :=
  ⟨map.entries.filter fun entry => keep entry.1 entry.2, map.sorted.filter _⟩

/-- Forgets a key. -/
def erase (map : SortedMap α) (key : String) : SortedMap α :=
  map.filter fun other _ => other != key

/-- The value of a key. -/
def get? (map : SortedMap α) (key : String) : Option α :=
  map.entries.lookup key

/-- Whether a key has a value. -/
def contains (map : SortedMap α) (key : String) : Bool :=
  (map.get? key).isSome

/-- Assigns the values of a list of entries from left to right; a later entry wins. -/
def insertMany (map : SortedMap α) (entries : List (String × α)) : SortedMap α :=
  entries.foldl (fun acc entry => acc.insert entry.1 entry.2) map

/-- The map of a list of entries; a later entry wins. -/
def ofList (entries : List (String × α)) : SortedMap α :=
  insertMany empty entries

/-- The first map, overlaid by the second. -/
def overlay (map upper : SortedMap α) : SortedMap α :=
  map.insertMany upper.entries

/-- Whether the map has no entry. -/
def isEmpty (map : SortedMap α) : Bool :=
  map.entries.isEmpty

/-- The keys in their order. -/
def keys (map : SortedMap α) : List String :=
  map.entries.map (·.1)

/-- The values in the order of their keys. -/
def values (map : SortedMap α) : List α :=
  map.entries.map (·.2)

/-! ## Look-ups -/

theorem lookup_cons_entry (key other : String) (value : α) (entries : List (String × α)) :
    ((key, value) :: entries).lookup other =
      if other = key then some value else entries.lookup other := by
  by_cases h : other = key
  · simp [h]
  · have : (other == key) = false := by simpa using h
    rw [List.lookup_cons, this, if_neg h]

theorem lookup_insertEntry (key other : String) (value : α) (entries : List (String × α)) :
    (insertEntry key value entries).lookup other =
      if other = key then some value else entries.lookup other := by
  induction entries with
  | nil => exact lookup_cons_entry key other value []
  | cons head rest ih =>
    obtain ⟨headKey, headValue⟩ := head
    rw [insertEntry]
    split
    · exact lookup_cons_entry key other value _
    · split
      · next heq =>
        simp only at heq
        subst heq
        by_cases h : other = key <;> simp [lookup_cons_entry, h]
      · next hne =>
        by_cases h : other = key
        · have : other ≠ headKey := h ▸ hne
          rw [lookup_cons_entry, if_neg this, ih, if_pos h, if_pos h]
        · by_cases hother : other = headKey <;> simp [lookup_cons_entry, ih, h, hother]
          intro hkey
          exact absurd (hother.trans hkey) h

/-- An insertion changes the look-up of its own key only. -/
@[simp] theorem get?_insert (map : SortedMap α) (key other : String) (value : α) :
    (map.insert key value).get? other = if other = key then some value else map.get? other :=
  lookup_insertEntry key other value map.entries

@[simp] theorem get?_empty (key : String) : (empty : SortedMap α).get? key = none := rfl

end SortedMap

end FunctionOperator
