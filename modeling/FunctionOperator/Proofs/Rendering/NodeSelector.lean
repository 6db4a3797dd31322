import FunctionOperator.Proofs.SortedMap
import FunctionOperator.Proofs.Text.Cuts
import FunctionOperator.Rendering.Workload

/-!
# The nodes that constraints select

Which labels of nodes a list of constraints asks for. Read `Constrains` and `LastFor` first, which
say without a look at the rendering what one constraint asks for and which one of a list counts.
`node_selector_iff` says that a label is selected with the value of the last constraint for it; that
what is no constraint never makes a difference; and that only the order of the constraints for one
label does. The selector is given by the map `selection`, so all of this is shown of that map.
-/

namespace FunctionOperator

/-! ## One constraint -/

/-- A constraint asks for a label and its value: they are what is around its first equals sign,
without blanks, and the label is not empty. -/
inductive Constrains : (constraint key value : String) → Prop where
  /-- The text before the first equals sign, and the text behind it. -/
  | of {before behind key value : String} (hmark : '=' ∉ before.toList)
    (hkey : Text.Trims before key) (hne : key ≠ "") (hvalue : Text.Trims behind value) :
    Constrains (before ++ "=" ++ behind) key value

/-- A text that is no constraint. -/
def Malformed (constraint : String) : Prop :=
  ∀ key value, ¬ Constrains constraint key value

/-- A constraint is one for a label. -/
def Concerns (key constraint : String) : Prop :=
  ∃ value, Constrains constraint key value

/-- The last constraint for a label asks for a value. -/
def LastFor (constraints : List String) (key value : String) : Prop :=
  ∃ before constraint behind, constraints = before ++ constraint :: behind ∧
    Constrains constraint key value ∧ ∀ other ∈ behind, ¬ Concerns key other

/-- A text without an equals sign is no constraint. -/
theorem constraint_unmarked {constraint : String} (hmark : '=' ∉ constraint.toList) :
    constraint? constraint = none := by
  rcases Text.drop_to_mark '=' constraint.toList with ⟨hdrop, -⟩ | ⟨behind, hdrop⟩
  · simp only [constraint?, hdrop]
  · obtain ⟨hchars, -⟩ := Text.cut_at_iff.1 ⟨rfl, hdrop⟩
    exact absurd (hchars ▸ List.mem_append_right _ List.mem_cons_self) hmark

/-- The characters around an equals sign. -/
theorem to_list_equals (before behind : String) :
    (before ++ "=" ++ behind).toList = before.toList ++ '=' :: behind.toList := by
  simp [String.toList_append]

/-- A text has no equals sign or is cut at its first one. -/
theorem marked_cases (constraint : String) : '=' ∉ constraint.toList ∨
    ∃ before behind, constraint = before ++ "=" ++ behind ∧ '=' ∉ before.toList := by
  rcases Text.drop_to_mark '=' constraint.toList with ⟨-, hmark⟩ | ⟨behind, hdrop⟩
  · exact .inl hmark
  · obtain ⟨hchars, hmark⟩ := Text.cut_at_iff.1 ⟨rfl, hdrop⟩
    refine .inr ⟨String.ofList (constraint.toList.takeWhile (· != '=')), String.ofList behind, ?_,
      by rwa [String.toList_ofList]⟩
    rw [← String.toList_inj, to_list_equals, String.toList_ofList, String.toList_ofList]
    exact hchars

/-- A text with an equals sign is a constraint if something is left of what is before the first
one. -/
theorem constraint_marked {before : String} (hmark : '=' ∉ before.toList) (behind : String) :
    constraint? (before ++ "=" ++ behind) =
      if Text.trim before = "" then none else some (Text.trim before, Text.trim behind) := by
  obtain ⟨htake, hdrop⟩ := Text.cut_at_iff.2 ⟨to_list_equals before behind, hmark⟩
  have hempty : Text.trim before = "" ↔ Text.trimChars before.toList = [] := by
    rw [Text.trim, String.ofList_eq_empty_iff]
  simp only [constraint?, htake, hdrop]
  cases htrim : Text.trimChars before.toList with
  | nil => rw [if_pos (hempty.2 htrim)]
  | cons c cs =>
    rw [if_neg fun h => List.cons_ne_nil c cs (htrim.symm.trans (hempty.1 h)), Text.trim, htrim,
      Text.trim]

/-- A constraint is read as what it asks for. -/
theorem constraint_eq_some_iff {constraint key value : String} :
    constraint? constraint = some (key, value) ↔ Constrains constraint key value := by
  constructor
  · intro h
    rcases marked_cases constraint with hmark | ⟨before, behind, rfl, hmark⟩
    · cases (constraint_unmarked hmark).symm.trans h
    · rw [constraint_marked hmark] at h
      split at h
      · cases h
      · next hne =>
        cases h
        exact .of hmark (Text.trims_trim before) hne (Text.trims_trim behind)
  · rintro ⟨hmark, hkey, hne, hvalue⟩
    obtain rfl := Text.trims_iff.1 hkey
    obtain rfl := Text.trims_iff.1 hvalue
    rw [constraint_marked hmark, if_neg hne]

/-- What is no constraint is passed over. -/
theorem malformed_iff {constraint : String} :
    Malformed constraint ↔ constraint? constraint = none := by
  rw [Option.eq_none_iff_forall_ne_some, Prod.forall]
  exact forall₂_congr fun _ _ => not_congr constraint_eq_some_iff.symm

/-- A constraint is one for the label that is read. -/
theorem concerns_iff {key constraint : String} :
    Concerns key constraint ↔ (constraint? constraint).map (·.1) = some key := by
  rw [Option.map_eq_some_iff, Prod.exists]
  simp only [constraint_eq_some_iff, Concerns]
  exact ⟨fun ⟨value, h⟩ => ⟨key, value, h, rfl⟩, fun ⟨_, value, h, hkey⟩ => ⟨value, hkey ▸ h⟩⟩

instance : DecidablePred Malformed := fun _ => decidable_of_iff _ malformed_iff.symm

instance (key : String) : DecidablePred (Concerns key) := fun _ =>
  decidable_of_iff _ concerns_iff.symm

/-! ## A list of constraints -/

/-- The labels that constraints ask for; a later constraint wins. -/
def selection (constraints : List String) : TextMap :=
  SortedMap.ofList (constraints.filterMap constraint?)

/-- The selector is the selection, unless nothing is selected. -/
theorem node_selector_eq (constraints : List String) : nodeSelector? constraints =
    if (selection constraints).isEmpty = true then none else some (selection constraints) := by
  rw [selection, SortedMap.is_empty_of_list]
  rfl

/-- What is looked up in the selector is what is selected. -/
theorem node_selector_bind (constraints : List String) (key : String) :
    (nodeSelector? constraints).bind (·.get? key) = (selection constraints).get? key := by
  rw [node_selector_eq]
  split
  · next hempty => rw [SortedMap.get?, List.isEmpty_iff.1 hempty]; rfl
  · rfl

/-- There is no selector if nothing is a constraint. -/
theorem node_selector_eq_none_iff {constraints : List String} :
    nodeSelector? constraints = none ↔ ∀ constraint ∈ constraints, Malformed constraint := by
  simp only [malformed_iff]
  rw [← List.filterMap_eq_nil_iff, ← List.isEmpty_iff, nodeSelector?]
  simp only [ite_eq_left_iff, reduceCtorEq, imp_false, Bool.not_eq_true, Bool.not_eq_false]

/-- The selector of two lists is that of the first one, overlaid by that of the second. -/
theorem node_selector_append (first second : List String) : nodeSelector? (first ++ second) =
    (nodeSelector? first).merge SortedMap.overlay (nodeSelector? second) := by
  simp only [nodeSelector?, List.filterMap_append]
  cases first.filterMap constraint? with
  | nil => cases second.filterMap constraint? <;> rfl
  | cons => cases second.filterMap constraint? with
    | nil => rw [List.append_nil]; rfl
    | cons => rw [SortedMap.of_list_append]; rfl

/-- A label is selected with the value of the last constraint for it. -/
theorem get_selection_iff {constraints : List String} {key value : String} :
    (selection constraints).get? key = some value ↔ LastFor constraints key value := by
  rw [selection, SortedMap.get?_of_list_last]
  constructor
  · rintro ⟨before, behind, hwanted, hbehind⟩
    obtain ⟨first, rest, rfl, -, hrest⟩ := List.filterMap_eq_append_iff.1 hwanted
    obtain ⟨skipped, constraint, others, rfl, -, hread, hothers⟩ :=
      List.filterMap_eq_cons_iff.1 hrest
    refine ⟨first ++ skipped, constraint, others, by simp, constraint_eq_some_iff.1 hread, ?_⟩
    rintro other hother ⟨asked, hasks⟩
    have hmem : (key, asked) ∈ behind :=
      hothers ▸ List.mem_filterMap.2 ⟨other, hother, constraint_eq_some_iff.2 hasks⟩
    exact hbehind _ hmem rfl
  · rintro ⟨before, constraint, behind, rfl, hasks, hbehind⟩
    refine ⟨before.filterMap constraint?, behind.filterMap constraint?, ?_, ?_⟩
    · rw [List.filterMap_append, List.filterMap_cons_some (constraint_eq_some_iff.2 hasks)]
    · rintro ⟨_, asked⟩ hmem rfl
      obtain ⟨other, hother, hread⟩ := List.mem_filterMap.1 hmem
      exact hbehind other hother ⟨asked, constraint_eq_some_iff.1 hread⟩

/-- Only the constraints for a label count for it, and of those the last one. -/
theorem last_for_iff {constraints : List String} {key value : String} :
    LastFor constraints key value ↔
      ∃ constraint ∈ (constraints.filter (Concerns key ·)).getLast?,
        Constrains constraint key value := by
  constructor
  · rintro ⟨before, constraint, behind, rfl, hasks, hbehind⟩
    have hnone : behind.filter (Concerns key ·) = [] :=
      List.filter_eq_nil_iff.2 fun other hother => by simpa using hbehind other hother
    have hconcerns : decide (Concerns key constraint) = true := decide_eq_true ⟨value, hasks⟩
    refine ⟨constraint, ?_, hasks⟩
    rw [List.filter_append, List.filter_cons, if_pos hconcerns, hnone, List.getLast?_concat]
    rfl
  · rintro ⟨constraint, hlast, hasks⟩
    obtain ⟨others, hfilter⟩ := List.getLast?_eq_some_iff.1 hlast
    obtain ⟨first, rest, rfl, -, hrest⟩ := List.filter_eq_append_iff.1 hfilter
    obtain ⟨skipped, behind, rfl, -, -, hbehind⟩ := List.filter_eq_cons_iff.1 hrest
    refine ⟨first ++ skipped, constraint, behind, by simp, hasks, fun other hother => ?_⟩
    simpa using List.filter_eq_nil_iff.1 hbehind other hother

/-- Lists with the same constraints for every label, in the same order, select the same. -/
theorem node_selector_congr {first second : List String}
    (h : ∀ key, first.filter (Concerns key ·) = second.filter (Concerns key ·)) :
    nodeSelector? first = nodeSelector? second := by
  have hselection : selection first = selection second := by
    refine SortedMap.eq_of_get?_eq fun key => Option.ext fun value => ?_
    rw [get_selection_iff, get_selection_iff, last_for_iff, last_for_iff, h key]
  rw [node_selector_eq, node_selector_eq, hselection]

/-- A constraint for a label is well formed. -/
theorem filter_concerns (key : String) (constraints : List String) :
    (constraints.filter (¬ Malformed ·)).filter (Concerns key ·) =
      constraints.filter (Concerns key ·) := by
  rw [List.filter_filter]
  refine List.filter_congr fun constraint _ => ?_
  rw [Bool.and_eq_left_iff_imp, decide_eq_true_iff, decide_eq_true_iff]
  rintro ⟨value, hasks⟩ hmalformed
  exact hmalformed key value hasks

/-- The selector of constraints assigns to a label the value of the last constraint for it, and
there is none if nothing is a constraint. What is no constraint makes no difference, wherever it stands;
of constraints that follow each other the later ones count; and of the order only that of the
constraints for one label does. -/
theorem node_selector_iff (constraints : List String) :
    (∀ key value, (∃ selector, nodeSelector? constraints = some selector ∧
      selector.get? key = some value) ↔ LastFor constraints key value) ∧
    (nodeSelector? constraints = none ↔ ∀ constraint ∈ constraints, Malformed constraint) ∧
    (∀ others, others.filter (¬ Malformed ·) = constraints.filter (¬ Malformed ·) →
      nodeSelector? others = nodeSelector? constraints) ∧
    (∀ others, nodeSelector? (constraints ++ others) =
      (nodeSelector? constraints).merge SortedMap.overlay (nodeSelector? others)) ∧
    ∀ others, (∀ key, others.filter (Concerns key ·) = constraints.filter (Concerns key ·)) →
      nodeSelector? others = nodeSelector? constraints := by
  refine ⟨fun key value => ?_, ?_, fun others hothers => ?_, fun others => ?_,
    fun others hothers => node_selector_congr hothers⟩
  · rw [← Option.bind_eq_some_iff, node_selector_bind, get_selection_iff]
  · exact node_selector_eq_none_iff
  · refine node_selector_congr fun key => ?_
    rw [← filter_concerns, hothers, filter_concerns]
  · exact node_selector_append constraints others

/-- Constraints for two labels with texts between them that are none. -/
def mixedConstraints : List String :=
  ["zone=a", "gpu", " arch = arm64 ", "zone =b=c\u00a0", "=orphan"]

/-- The constraints among them, those for the other label first. -/
def sortedConstraints : List String :=
  [" arch = arm64 ", "zone=a", "zone =b=c\u00a0"]

/-- The constraints select the same nodes in both orders, those of the last zone. -/
theorem node_selector_iff_sorted :
    (∀ key, sortedConstraints.filter (Concerns key ·) = mixedConstraints.filter (Concerns key ·)) ∧
    nodeSelector? sortedConstraints = nodeSelector? mixedConstraints ∧
    LastFor mixedConstraints "zone" "b=c" := by
  have hsame : ∀ key, sortedConstraints.filter (Concerns key ·) =
      mixedConstraints.filter (Concerns key ·) := by
    intro key
    by_cases hkey : key = "arch"
    · subst hkey
      decide
    · have harch : ¬ Concerns key " arch = arm64 " := fun h =>
        hkey (Option.some.inj (concerns_iff.1 h)).symm
      have hword : ¬ Concerns key "gpu" := fun h => Option.some_ne_none _ (concerns_iff.1 h).symm
      have horphan : ¬ Concerns key "=orphan" := fun h =>
        Option.some_ne_none _ (concerns_iff.1 h).symm
      simp [sortedConstraints, mixedConstraints, List.filter_cons, harch, hword, horphan]
  obtain ⟨hvalues, -, -, -, hreordered⟩ := node_selector_iff mixedConstraints
  exact ⟨hsame, hreordered _ hsame, (hvalues _ _).1 ⟨_, rfl, by decide⟩⟩

end FunctionOperator
