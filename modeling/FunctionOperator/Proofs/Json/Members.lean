import FunctionOperator.Json
import FunctionOperator.Proofs.SortedMap

/-!
# Members of objects

What setting and removing a member does to the others. Read `lookup_set_member` and `Settled` first:
a member is settled in a list of members if setting it again would change nothing, which a change
of later members keeps. Nothing here needs the members to be sorted or their names to be different,
so that all of it holds for every value.
-/

namespace FunctionOperator

namespace Json

variable {name other : String} {value : Json} {members : List (String × Json)}

/-- A member is set as an entry is put into a map. -/
theorem set_member_eq (name : String) (value : Json) (members : List (String × Json)) :
    setMember name value members = SortedMap.insertEntry name value members := by
  induction members with
  | nil => rfl
  | cons entry members ih => rw [setMember, SortedMap.insertEntry, ih]

/-- Setting a member changes the look-up of its own name only. -/
theorem lookup_set_member (name other : String) (value : Json) (members : List (String × Json)) :
    (setMember name value members).lookup other =
      if other = name then some value else members.lookup other := by
  rw [set_member_eq, SortedMap.lookup_insertEntry]

/-- Members that are sorted are the entries of their map. -/
theorem sort_members_eq (members : List (String × Json)) :
    sortMembers members = (SortedMap.ofList members).entries := by
  have hstep (map : SortedMap Json) : members.foldl (fun acc entry => setMember entry.1 entry.2 acc)
      map.entries = (map.insertMany members).entries := by
    induction members generalizing map with
    | nil => rfl
    | cons entry members ih =>
      rw [List.foldl_cons, set_member_eq]
      exact ih (map.insert entry.1 entry.2)
  exact hstep .empty

/-- In an object of members that have different names a member is found by its name. -/
theorem get?_of_members {members : List (String × Json)} (h : (members.map (·.1)).Nodup)
    (name : String) : (ofMembers members).get? name = members.lookup name := by
  show (sortMembers members).lookup name = _
  rw [sort_members_eq]
  show (SortedMap.ofList members).get? name = _
  rw [SortedMap.ofList, SortedMap.get?_insert_many_of_nodup h, SortedMap.get?_empty, Option.or_none]

/-- Removing members of a name changes the look-up of this name only. -/
theorem lookup_remove_member (name other : String) (members : List (String × Json)) :
    (members.filter fun entry => entry.1 != name).lookup other =
      if other = name then none else members.lookup other := by
  induction members with
  | nil => simp
  | cons entry members ih =>
    by_cases hname : entry.1 = name
    · rw [List.filter_cons_of_neg (by simp [hname]), ih, SortedMap.lookup_cons_entry, hname]
      by_cases h : other = name <;> simp [h]
    · rw [List.filter_cons_of_pos (by simp [hname]), SortedMap.lookup_cons_entry,
        SortedMap.lookup_cons_entry, ih]
      by_cases h : other = entry.1
      · rw [if_pos h, if_pos h, if_neg (h ▸ hname)]
      · rw [if_neg h, if_neg h]

/-- A text is read from nothing else. -/
theorem eq_of_string {text : String} (h : value.string? = some text) :
    value = .string text := by
  unfold string? at h
  split at h
  · cases h
    rfl
  · cases h

/-- Setting the member to the value changes nothing. -/
def Settled (name : String) (value : Json) (members : List (String × Json)) : Prop :=
  setMember name value members = members

/-- A settled member is not changed by being set again. -/
theorem Settled.eq (h : Settled name value members) : setMember name value members = members := h

/-- A member that was set is settled. -/
theorem settled_set_member (name : String) (value : Json) (members : List (String × Json)) :
    Settled name value (setMember name value members) := by
  unfold Settled
  induction members with
  | nil => simp [setMember]
  | cons entry members ih =>
    rw [setMember]
    split
    · simp [setMember]
    · next hlt =>
      split
      · simp [setMember]
      · next hne => rw [setMember, if_neg hlt, if_neg hne, ih]

/-- Where a member is settled, it comes first or it is settled in what follows an earlier name. -/
theorem settled_cons_iff {entry : String × Json} :
    Settled name value (entry :: members) ↔
      entry = (name, value) ∨ entry.1 < name ∧ Settled name value members := by
  unfold Settled
  rw [setMember]
  constructor
  · intro h
    split at h
    · have hlength := congrArg List.length h
      simp at hlength
    · next hlt =>
      split at h
      · exact .inl (List.cons.inj h).1.symm
      · next hne =>
        exact .inr ⟨SortedMap.key_lt_of_not_lt hlt hne, (List.cons.inj h).2⟩
  · rintro (rfl | ⟨hlt, h⟩)
    · simp
    · rw [if_neg fun hlt' => String.lt_irrefl _ (String.lt_trans hlt hlt'),
        if_neg fun heq => String.lt_irrefl _ (heq ▸ hlt), h]

/-- No member is settled where there is none. -/
theorem not_settled_nil : ¬ Settled name value [] := nofun

/-- A settled member remains so when members of other names are removed. -/
theorem Settled.remove (h : Settled name value members) (hne : name ≠ other) :
    Settled name value (members.filter fun entry => entry.1 != other) := by
  induction members with
  | nil => exact absurd h not_settled_nil
  | cons entry members ih =>
    obtain rfl | ⟨hlt, h⟩ := settled_cons_iff.1 h
    · rw [List.filter_cons_of_pos (by simpa using hne)]
      exact settled_cons_iff.2 (.inl rfl)
    · by_cases hother : entry.1 = other
      · rw [List.filter_cons_of_neg (by simp [hother])]
        exact ih h
      · rw [List.filter_cons_of_pos (by simp [hother])]
        exact settled_cons_iff.2 (.inr ⟨hlt, ih h⟩)

/-- A settled member remains so when a member of a later name is set. -/
theorem Settled.set (h : Settled name value members) (hlt : name < other) (otherValue : Json) :
    Settled name value (setMember other otherValue members) := by
  induction members with
  | nil => exact absurd h not_settled_nil
  | cons entry members ih =>
    have hentry : entry.1 < other := by
      obtain rfl | ⟨hname, -⟩ := settled_cons_iff.1 h
      · exact hlt
      · exact String.lt_trans hname hlt
    rw [setMember, if_neg fun hback => String.lt_irrefl _ (String.lt_trans hentry hback),
      if_neg fun heq => String.lt_irrefl _ (heq ▸ hentry)]
    exact settled_cons_iff.2 ((settled_cons_iff.1 h).imp_right fun later => ⟨later.1, ih later.2⟩)

end Json

end FunctionOperator
