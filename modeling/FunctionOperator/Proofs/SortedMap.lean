import FunctionOperator.SortedMap
import Mathlib.Data.List.Nodup

/-!
# Look-ups in sorted maps

What the operations on sorted maps do to look-ups, and the maps that their own entries make up.
Read `get?_overlay` first: in an overlaid map the upper value counts. The keys of a map increase, so
none of them occurs twice, which is what lets the entries be added from either end.
-/

namespace FunctionOperator

/-- Among entries whose keys are different, a key has the value of its own entry. -/
theorem lookup_iff_mem {κ α : Type} [BEq κ] [LawfulBEq κ] {entries : List (κ × α)}
    (h : (entries.map (·.1)).Nodup) {key : κ} {value : α} :
    entries.lookup key = some value ↔ (key, value) ∈ entries := by
  induction entries with
  | nil => simp
  | cons head rest ih =>
    obtain ⟨headKey, headValue⟩ := head
    obtain ⟨hhead, hrest⟩ := List.nodup_cons.1 h
    rw [List.lookup_cons, List.mem_cons, Prod.mk.injEq]
    by_cases hkey : key = headKey
    · subst hkey
      have hnone : (key, value) ∉ rest := fun hmem => hhead (List.mem_map.2 ⟨_, hmem, rfl⟩)
      simp [hnone, eq_comm]
    · have hne : (key == headKey) = false := beq_eq_false_iff_ne.2 hkey
      simp [hkey, hne, ih hrest]

namespace SortedMap

variable {α : Type}

/-! ## Entries -/

/-- A key that is greater than all others is put at the end. -/
theorem insert_entry_last {key : String} {value : α} {entries : List (String × α)}
    (h : ∀ entry ∈ entries, entry.1 < key) :
    insertEntry key value entries = entries ++ [(key, value)] := by
  induction entries with
  | nil => rfl
  | cons head rest ih =>
    have hhead : head.1 < key := h head List.mem_cons_self
    have hlt : ¬ key < head.1 := fun hlt => String.lt_irrefl _ (String.lt_trans hhead hlt)
    have hne : key ≠ head.1 := by
      rintro rfl
      exact String.lt_irrefl _ hhead
    rw [insertEntry, if_neg hlt, if_neg hne,
      ih fun entry hentry => h entry (List.mem_cons_of_mem _ hentry), List.cons_append]

/-- Entries that go on where a map ends are put at its end. -/
theorem insert_many_entries {map : SortedMap α} {entries : List (String × α)}
    (h : KeysSorted (map.entries ++ entries)) :
    (map.insertMany entries).entries = map.entries ++ entries := by
  induction entries generalizing map with
  | nil => simp [insertMany]
  | cons entry entries ih =>
    have hlast : ∀ other ∈ map.entries, other.1 < entry.1 := fun other hother =>
      (List.pairwise_append.1 h).2.2 other hother entry List.mem_cons_self
    have hinsert : (map.insert entry.1 entry.2).entries = map.entries ++ [entry] :=
      insert_entry_last hlast
    have hsorted : KeysSorted ((map.insert entry.1 entry.2).entries ++ entries) := by
      simpa [hinsert] using h
    rw [insertMany, List.foldl_cons]
    refine (ih hsorted).trans ?_
    rw [hinsert, List.append_assoc, List.singleton_append]

/-- Maps with the same entries are the same. -/
theorem eq_of_entries_eq {first second : SortedMap α} (h : first.entries = second.entries) :
    first = second := by
  cases first
  cases second
  cases h
  rfl

/-- A map is made up by its own entries. -/
theorem of_list_entries (map : SortedMap α) : ofList map.entries = map := by
  refine eq_of_entries_eq ?_
  have hentries : (empty.insertMany map.entries).entries = empty.entries ++ map.entries :=
    insert_many_entries map.sorted
  exact hentries

/-! ## Look-ups -/

/-- A key that no entry has has no value. -/
theorem lookup_eq_none {key : String} {entries : List (String × α)}
    (h : ∀ entry ∈ entries, key ≠ entry.1) : entries.lookup key = none := by
  induction entries with
  | nil => rfl
  | cons head rest ih =>
    rw [lookup_cons_entry, if_neg (h head List.mem_cons_self),
      ih fun entry hentry => h entry (List.mem_cons_of_mem _ hentry)]

/-- Keys that increase are different. -/
theorem nodup_of_sorted {entries : List (String × α)} (h : KeysSorted entries) :
    (entries.map (·.1)).Nodup :=
  List.pairwise_map.2 (h.imp fun hlt => String.ne_of_lt hlt)

/-- Keys that increase are different from the first one. -/
theorem head_ne_of_sorted {head : String × α} {rest : List (String × α)}
    (h : KeysSorted (head :: rest)) : ∀ entry ∈ rest, head.1 ≠ entry.1 := by
  intro entry hentry heq
  have hlt : head.1 < entry.1 := List.rel_of_pairwise_cons h hentry
  rw [heq] at hlt
  exact String.lt_irrefl _ hlt

/-- Entries that are put in are looked up from the last one on, and before those of the map. -/
theorem get?_insert_many (map : SortedMap α) (entries : List (String × α)) (key : String) :
    (map.insertMany entries).get? key = (entries.reverse.lookup key).or (map.get? key) := by
  induction entries generalizing map with
  | nil => rfl
  | cons head rest ih =>
    rw [insertMany, List.foldl_cons]
    refine (ih _).trans ?_
    rw [get?_insert, List.reverse_cons, List.lookup_append, lookup_cons_entry, List.lookup_nil,
      Option.or_assoc]
    split <;> rfl

/-- Entries of other keys leave a look-up. -/
theorem get?_insert_many_of_ne {key : String} {entries : List (String × α)}
    (h : ∀ entry ∈ entries, key ≠ entry.1) (map : SortedMap α) :
    (map.insertMany entries).get? key = map.get? key := by
  have hnone : entries.reverse.lookup key = none :=
    lookup_eq_none fun entry hentry => h entry (List.mem_reverse.1 hentry)
  rw [get?_insert_many, hnone, Option.none_or]

/-- Entries whose keys are different are looked up before those of the map. -/
theorem get?_insert_many_of_nodup {entries : List (String × α)} (h : (entries.map (·.1)).Nodup)
    (map : SortedMap α) (key : String) :
    (map.insertMany entries).get? key = (entries.lookup key).or (map.get? key) := by
  have hreverse : (entries.reverse.map (·.1)).Nodup := by
    rwa [List.map_reverse, List.nodup_reverse]
  have hlookup : entries.reverse.lookup key = entries.lookup key := Option.ext fun value => by
    rw [lookup_iff_mem hreverse, lookup_iff_mem h, List.mem_reverse]
  rw [get?_insert_many, hlookup]

/-- In the map of a list of entries, a key has the value of its last entry. -/
theorem get?_of_list_last {entries : List (String × α)} {key : String} {value : α} :
    (ofList entries).get? key = some value ↔ ∃ before behind,
      entries = before ++ (key, value) :: behind ∧ ∀ entry ∈ behind, entry.1 ≠ key := by
  rw [ofList, get?_insert_many, get?_empty, Option.or_none, List.lookup_eq_some_iff]
  constructor
  · rintro ⟨behind, before, hentries, hbehind⟩
    refine ⟨before.reverse, behind.reverse, ?_, fun entry hentry heq => ?_⟩
    · rw [← entries.reverse_reverse, hentries]
      simp
    · simpa [heq] using hbehind entry (List.mem_reverse.1 hentry)
  · rintro ⟨before, behind, rfl, hbehind⟩
    refine ⟨behind.reverse, before.reverse, by simp, fun entry hentry => ?_⟩
    simpa using (hbehind entry (List.mem_reverse.1 hentry)).symm

/-- In the map of entries whose keys are different, a key has the value of its own entry. -/
theorem get?_of_list_iff {entries : List (String × α)} (h : (entries.map (·.1)).Nodup)
    {key : String} {value : α} :
    (ofList entries).get? key = some value ↔ (key, value) ∈ entries := by
  rw [ofList, get?_insert_many_of_nodup h, get?_empty, Option.or_none, lookup_iff_mem h]

/-- Putting entries in leaves a key without a value only if none of them and no value before is at
this key. -/
theorem get?_insert_many_eq_none {key : String} {map : SortedMap α}
    {entries : List (String × α)} :
    (map.insertMany entries).get? key = none ↔
      map.get? key = none ∧ ∀ entry ∈ entries, entry.1 ≠ key := by
  rw [get?_insert_many, Option.or_eq_none_iff, List.lookup_eq_none_iff, and_comm]
  refine and_congr_right' (forall_congr' fun entry => ?_)
  rw [List.mem_reverse, bne_iff_ne, ne_comm]

/-- In an overlaid map the upper value counts. -/
@[simp] theorem get?_overlay (map upper : SortedMap α) (key : String) :
    (map.overlay upper).get? key = (upper.get? key).or (map.get? key) :=
  get?_insert_many_of_nodup (nodup_of_sorted upper.sorted) map key

/-- The entries that a test admits are found as before. -/
theorem lookup_filter {entries : List (String × α)} (h : KeysSorted entries)
    (keep : String → α → Bool) (key : String) :
    (entries.filter fun entry => keep entry.1 entry.2).lookup key =
      (entries.lookup key).filter (keep key) := by
  induction entries with
  | nil => rfl
  | cons head rest ih =>
    have hrest := ih h.of_cons
    rw [List.filter_cons]
    by_cases hkey : key = head.1
    · have hnone : rest.lookup key = none := lookup_eq_none (hkey ▸ head_ne_of_sorted h)
      rw [hnone] at hrest
      rw [lookup_cons_entry, if_pos hkey]
      split
      · next hkeep => rw [lookup_cons_entry, if_pos hkey, hkey, Option.filter_some_pos hkeep]
      · next hkeep => rw [hrest, hkey, Option.filter_none, Option.filter_some, if_neg hkeep]
    · rw [lookup_cons_entry, if_neg hkey]
      split
      · rw [lookup_cons_entry, if_neg hkey, hrest]
      · exact hrest

/-- The value of a key in a map of the entries that a test admits. -/
@[simp] theorem get?_filter (keep : String → α → Bool) (map : SortedMap α) (key : String) :
    (map.filter keep).get? key = (map.get? key).filter (keep key) :=
  lookup_filter map.sorted keep key

/-- A key that is forgotten has no value; the others keep theirs. -/
@[simp] theorem get?_erase (map : SortedMap α) (erased key : String) :
    (map.erase erased).get? key = if key = erased then none else map.get? key := by
  rw [erase, get?_filter]
  by_cases h : key = erased
  · cases map.get? key <;> simp [h]
  · cases map.get? key <;> simp [h]

/-- A key that is found does not come before the first one. -/
theorem not_lt_of_lookup {head : String × α} {rest : List (String × α)} {key : String} {value : α}
    (hsorted : KeysSorted (head :: rest)) (h : (head :: rest).lookup key = some value) :
    ¬ key < head.1 := by
  intro hlt
  have hnone : (head :: rest).lookup key = none := by
    refine lookup_eq_none fun entry hentry heq => ?_
    rcases List.mem_cons.1 hentry with rfl | hentry
    · exact String.lt_irrefl _ (heq ▸ hlt)
    · have hlater : head.1 < entry.1 := List.rel_of_pairwise_cons hsorted hentry
      exact String.lt_irrefl _ (String.lt_trans hlt (heq ▸ hlater))
  rw [hnone] at h
  cases h

/-- Entries whose keys increase are the same if all look-ups are. -/
theorem eq_of_lookup_eq {first second : List (String × α)} (hfirst : KeysSorted first)
    (hsecond : KeysSorted second) (h : ∀ key, first.lookup key = second.lookup key) :
    first = second := by
  induction first generalizing second with
  | nil =>
    cases second with
    | nil => rfl
    | cons other others =>
      have hfound := h other.1
      rw [lookup_cons_entry, if_pos rfl] at hfound
      cases hfound
  | cons head rest ih =>
    cases second with
    | nil =>
      have hfound := h head.1
      rw [lookup_cons_entry, if_pos rfl] at hfound
      cases hfound
    | cons other others =>
      have hhead : (head :: rest).lookup head.1 = some head.2 := by
        rw [lookup_cons_entry, if_pos rfl]
      have hother : (other :: others).lookup other.1 = some other.2 := by
        rw [lookup_cons_entry, if_pos rfl]
      -- neither first key comes before the other one
      have hkey : head.1 = other.1 := String.le_antisymm
        (String.not_lt.1 (not_lt_of_lookup hfirst ((h _).trans hother)))
        (String.not_lt.1 (not_lt_of_lookup hsecond ((h _).symm.trans hhead)))
      have hvalue : head.2 = other.2 := by
        rw [h, hkey, hother] at hhead
        exact (Option.some.inj hhead).symm
      have hrest : rest = others := by
        refine ih hfirst.of_cons hsecond.of_cons fun key => ?_
        by_cases hsame : key = head.1
        · rw [lookup_eq_none (hsame ▸ head_ne_of_sorted hfirst),
            lookup_eq_none (hsame.trans hkey ▸ head_ne_of_sorted hsecond)]
        · have hlater := h key
          rwa [lookup_cons_entry, lookup_cons_entry, if_neg hsame, if_neg (hkey ▸ hsame)] at hlater
      rw [hrest, Prod.ext hkey hvalue]

/-- Maps with the same look-ups are the same. -/
theorem eq_of_get?_eq {first second : SortedMap α} (h : ∀ key, first.get? key = second.get? key) :
    first = second :=
  eq_of_entries_eq (eq_of_lookup_eq first.sorted second.sorted h)

/-- A map that may be missing is looked up as the empty one. -/
theorem get?_get_or_empty (map : Option (SortedMap α)) (key : String) :
    (map.getD ∅).get? key = map.bind (·.get? key) := by
  cases map <;> rfl

/-- A map that was overlaid is so. -/
theorem overlay_twice (map upper : SortedMap α) :
    (map.overlay upper).overlay upper = map.overlay upper := by
  refine eq_of_get?_eq fun key => ?_
  rw [get?_overlay, get?_overlay]
  cases upper.get? key <;> rfl

/-- The map of two lists of entries is that of the first one, overlaid by that of the second. -/
theorem of_list_append (first second : List (String × α)) :
    ofList (first ++ second) = (ofList first).overlay (ofList second) := by
  refine eq_of_get?_eq fun key => ?_
  rw [get?_overlay, ofList, ofList, ofList, get?_insert_many, get?_insert_many, get?_insert_many,
    List.reverse_append, List.lookup_append, get?_empty, Option.or_none, Option.or_none,
    Option.or_none]

/-- The map of a list of entries is empty only if there are none. -/
theorem is_empty_of_list (entries : List (String × α)) :
    (ofList entries).isEmpty = entries.isEmpty := by
  cases entries with
  | nil => rfl
  | cons head rest =>
    have hne : (ofList (head :: rest)).get? head.1 ≠ none := fun hnone =>
      (get?_insert_many_eq_none.1 hnone).2 head List.mem_cons_self rfl
    rw [List.isEmpty_cons, isEmpty, List.isEmpty_eq_false_iff]
    intro hnil
    exact hne (congrArg (List.lookup head.1) hnil)

/-- Forgetting a key twice is forgetting it once. -/
theorem erase_erase (map : SortedMap α) (key : String) :
    (map.erase key).erase key = map.erase key := by
  refine eq_of_entries_eq ?_
  simp [erase, filter, List.filter_filter]

end SortedMap

end FunctionOperator
