import FunctionOperator.Key
import FunctionOperator.Proofs.Text.Cuts

/-!
# Keys and what they name

Which texts are accepted as keys, and what they name. Read `Key.split_eq_ok_iff` first: an accepted
key has one slash between a namespace and a name, or it is a name without a namespace. So a key is
the one that its namespace and its name make (`Key.of_split`) unless it has its slash in front: the
namespace is empty then, and the key of the name has no slash.
-/

namespace FunctionOperator.Key

/-- A namespace, possibly empty, and a name from which a key can be made. -/
structure Clean (space name : String) : Prop where
  /-- The namespace has no slash. -/
  space_slash : '/' ∉ space.toList
  /-- There is a name. -/
  name_ne : name ≠ ""
  /-- The name has no slash. -/
  name_slash : '/' ∉ name.toList

/-- A key whose slash is in front. -/
def Slashed (key : String) : Prop := key.toList.head? = some '/'

/-- A text that is cut has its first slash there. -/
theorem cut_eq_some {cs space name : List Char} :
    cut cs = some (space, name) ↔ cs = space ++ '/' :: name ∧ '/' ∉ space := by
  rw [← Text.cut_at_iff, cut]
  rcases Text.drop_to_mark '/' cs with ⟨hdrop, -⟩ | ⟨behind, hdrop⟩ <;> simp [hdrop]

/-- A text without a slash is not cut. -/
theorem cut_eq_none {cs : List Char} (h : '/' ∉ cs) : cut cs = none := by
  cases hparts : cut cs with
  | none => rfl
  | some parts =>
    obtain ⟨rfl, -⟩ := cut_eq_some.1 hparts
    exact absurd (List.mem_append_right _ List.mem_cons_self) h

/-- What a key is split into is accepted if the name is neither empty nor has a slash. -/
theorem split_of_cut {key : String} {parts : List Char × List Char}
    (h : (cut key.toList).getD ([], key.toList) = parts) (space name : String) :
    split key = .ok (space, name) ↔
      name ≠ "" ∧ '/' ∉ name.toList ∧ space.toList = parts.1 ∧ name.toList = parts.2 := by
  obtain ⟨before, behind⟩ := parts
  simp only [split, h, Bool.or_eq_true, List.isEmpty_iff, List.contains_iff_mem]
  constructor
  · intro hsplit
    split at hsplit
    · cases hsplit
    · next hname =>
      cases hsplit
      obtain ⟨hne, hslash⟩ := not_or.1 hname
      exact ⟨by simpa using hne, by simpa using hslash, by simp⟩
  · rintro ⟨hne, hslash, rfl, rfl⟩
    rw [if_neg (not_or.2 ⟨by simpa using hne, hslash⟩), String.ofList_toList, String.ofList_toList]

/-- The characters of a namespace and a name with a slash between them. -/
theorem to_list_slash (space name : String) :
    (space ++ "/" ++ name).toList = space.toList ++ '/' :: name.toList := by
  simp [String.toList_append]

/-- An accepted key has one slash, before the name, or none and names something without a
namespace. -/
theorem split_eq_ok_iff {key space name : String} : split key = .ok (space, name) ↔
    Clean space name ∧ (key = space ++ "/" ++ name ∨ space = "" ∧ key = name) := by
  constructor
  · intro h
    cases hcut : cut key.toList with
    | none =>
      obtain ⟨hne, hslash, hspace, hname⟩ :=
        (split_of_cut (congrArg (Option.getD · _) hcut) space name).1 h
      obtain rfl : space = "" := by simpa using hspace
      exact ⟨⟨by simp, hne, hslash⟩, .inr ⟨rfl, (String.toList_inj.1 hname).symm⟩⟩
    | some parts =>
      obtain ⟨before, behind⟩ := parts
      obtain ⟨hne, hslash, hspace, hname⟩ :=
        (split_of_cut (congrArg (Option.getD · _) hcut) space name).1 h
      obtain ⟨hkey, hclean⟩ := cut_eq_some.1 hcut
      obtain rfl : space.toList = before := hspace
      obtain rfl : name.toList = behind := hname
      exact ⟨⟨hclean, hne, hslash⟩,
        .inl (String.toList_inj.1 (hkey.trans (to_list_slash space name).symm))⟩
  · rintro ⟨hclean, rfl | ⟨rfl, rfl⟩⟩
    · have hcut : cut (space ++ "/" ++ name).toList = some (space.toList, name.toList) :=
        cut_eq_some.2 ⟨to_list_slash space name, hclean.space_slash⟩
      exact (split_of_cut (congrArg (Option.getD · _) hcut) _ _).2
        ⟨hclean.name_ne, hclean.name_slash, rfl, rfl⟩
    · have hcut := cut_eq_none hclean.name_slash
      exact (split_of_cut (congrArg (Option.getD · _) hcut) _ _).2
        ⟨hclean.name_ne, hclean.name_slash, rfl, rfl⟩

/-- The key of a name in a namespace. -/
theorem of_eq {space : String} (h : space ≠ "") (name : String) :
    of (some space) name = space ++ "/" ++ name := by
  simp [of, h]

/-- The key of a name without a namespace. -/
theorem of_empty (name : String) : of (some "") name = name := by
  simp [of]

/-- The key of a clean namespace and name is split into both. -/
theorem split_clean {space name : String} (h : Clean space name) :
    split (of (some space) name) = .ok (space, name) := by
  refine split_eq_ok_iff.2 ⟨h, ?_⟩
  by_cases hspace : space = ""
  · subst hspace
    exact .inr ⟨rfl, of_empty name⟩
  · exact .inl (of_eq hspace name)

/-- The first character of a key that is accepted with a slash. -/
theorem slashed_iff {space name : String} (h : Clean space name) :
    Slashed (space ++ "/" ++ name) ↔ space = "" := by
  rw [Slashed, to_list_slash]
  cases hspace : space.toList with
  | nil => simpa using hspace
  | cons first rest =>
    have hne : first ≠ '/' := fun heq => h.space_slash (hspace ▸ heq ▸ List.mem_cons_self)
    have hspace : space ≠ "" := by
      rintro rfl
      cases hspace
    simp [hne, hspace]

/-- A name alone has no slash in front. -/
theorem Clean.not_slashed {space name : String} (h : Clean space name) : ¬ Slashed name :=
  fun hhead => h.name_slash (List.mem_of_mem_head? hhead)

/-- An accepted key is the one that its namespace and its name make, unless its slash is in
front. -/
theorem of_split_iff {key space name : String} (h : split key = .ok (space, name)) :
    of (some space) name = key ↔ ¬ Slashed key := by
  obtain ⟨hclean, rfl | ⟨rfl, rfl⟩⟩ := split_eq_ok_iff.1 h
  · rw [slashed_iff hclean]
    refine ⟨?_, fun hspace => of_eq hspace name⟩
    rintro hof rfl
    -- the key of the name alone has no slash
    refine hclean.name_slash ?_
    rw [of_empty] at hof
    rw [hof]
    simp
  · exact iff_of_true (of_empty key) hclean.not_slashed

/-- An accepted key with its slash in front names what its rest names. -/
theorem slashed_split {key space name : String} (h : split key = .ok (space, name))
    (hslashed : Slashed key) : space = "" ∧ key = "/" ++ name := by
  obtain ⟨hclean, rfl | ⟨rfl, rfl⟩⟩ := split_eq_ok_iff.1 h
  · obtain rfl := (slashed_iff hclean).1 hslashed
    exact ⟨rfl, by simp⟩
  · exact absurd hslashed hclean.not_slashed

/-- An accepted key with a namespace is the key of what it names. -/
theorem of_split {key space name : String} (h : split key = .ok (space, name))
    (hspace : space ≠ "") : of (some space) name = key :=
  (of_split_iff h).2 fun hslashed => hspace (slashed_split h hslashed).1

/-- The key of a name in a namespace is accepted only as their key. -/
theorem split_of {space name space' name' : String} (hspace : space ≠ "")
    (h : split (of (some space) name) = .ok (space', name')) : space' = space ∧ name' = name := by
  rw [of_eq hspace] at h
  obtain ⟨hclean, hkey | ⟨-, hkey⟩⟩ := split_eq_ok_iff.1 h
  -- the accepted key has one slash, so that there is none in the namespace
  · have hlist : space.toList ++ '/' :: name.toList = space'.toList ++ '/' :: name'.toList := by
      rw [← to_list_slash, hkey, to_list_slash]
    have hcount := congrArg (List.count '/') hlist
    simp only [List.count_append, List.count_cons_self, List.count_eq_zero.2 hclean.space_slash,
      List.count_eq_zero.2 hclean.name_slash] at hcount
    have hfirst : cut (space.toList ++ '/' :: name.toList) = some (space.toList, name.toList) :=
      cut_eq_some.2 ⟨rfl, List.count_eq_zero.1 (by omega)⟩
    rw [cut_eq_some.2 ⟨hlist, hclean.space_slash⟩, Option.some.injEq, Prod.mk.injEq] at hfirst
    exact ⟨String.toList_inj.1 hfirst.1, String.toList_inj.1 hfirst.2⟩
  · refine absurd ?_ hclean.name_slash
    rw [← hkey, to_list_slash]
    exact List.mem_append_right _ List.mem_cons_self

end FunctionOperator.Key
