import FunctionOperator.Proofs.SortedMap
import FunctionOperator.Rendering.Workload

/-!
# The environment of a container

The variables of a container come from the handler and from the environment that a function asks
for. Read `FunctionSpec.Wants` first, which says without a look at the rendering which variables the
two sources make together, and `FunctionSpec.Merges`, what a list of variables has to be.
`environment_variables_merge` says that the list that is rendered is such a list unless both sources
have the handler's variable; then it has this variable twice, the handler first.
-/

namespace FunctionOperator

namespace FunctionSpec

/-- The name of the variable that tells a container its handler. -/
def handlerName : String := "fprocess"

/-- The spec asks for a variable of the environment. -/
def Asks (spec : FunctionSpec) (name value : String) : Prop :=
  ∃ environment, spec.environment = some environment ∧ environment.get? name = some value

/-- A variable that the container is to have. -/
inductive Wants (spec : FunctionSpec) : EnvVar → Prop where
  /-- The handler, if there is one. -/
  | handler (h : spec.handler ≠ "") : Wants spec ⟨handlerName, spec.handler⟩
  /-- Any other variable of the environment. -/
  | other {name value} (h : spec.Asks name value)
    (hother : spec.handler = "" ∨ name ≠ handlerName) : Wants spec ⟨name, value⟩

/-- There is a handler, and the environment has another value for its variable. -/
def Clashes (spec : FunctionSpec) (value : String) : Prop :=
  spec.handler ≠ "" ∧ spec.Asks handlerName value

/-- The variable of the handler, if there is one. -/
def handlerEntries (spec : FunctionSpec) : List EnvVar :=
  if spec.handler = "" then [] else [⟨handlerName, spec.handler⟩]

/-- The handler comes first, and what is behind it comes in the order of the names. -/
def Ordered (spec : FunctionSpec) (entries : List EnvVar) : Prop :=
  ∃ others, entries = spec.handlerEntries ++ others ∧
    others.Pairwise fun first second => first.name < second.name

/-- What a list of variables has to be: it names nothing twice, it has what is wanted and nothing
else, and it is in order. -/
structure Merges (spec : FunctionSpec) (entries : List EnvVar) : Prop where
  /-- No variable is named twice. -/
  once : (entries.map (·.name)).Nodup
  /-- What is wanted is there, and nothing else. -/
  mem_iff : ∀ entry, entry ∈ entries ↔ spec.Wants entry
  /-- The list is in order. -/
  ordered : spec.Ordered entries

variable {spec : FunctionSpec} {entry : EnvVar}

/-! ## The two sources -/

/-- The variables of the environment, in the order of their names. -/
def ownEntries (spec : FunctionSpec) : List EnvVar :=
  (spec.environment.getD ∅).entries.map fun entry => ⟨entry.1, entry.2⟩

/-- The handler is put in front of the environment. -/
theorem environment_variables_eq (spec : FunctionSpec) :
    spec.environmentVariables = spec.handlerEntries ++ spec.ownEntries := by
  simp only [environmentVariables, handlerEntries, String.isEmpty_iff]
  rfl

/-- The variable of the handler is there if there is a handler. -/
theorem mem_handler_entries :
    entry ∈ spec.handlerEntries ↔ spec.handler ≠ "" ∧ entry = ⟨handlerName, spec.handler⟩ := by
  unfold handlerEntries
  split
  · next h => simp [h]
  · next h => simp [h]

/-- The variables of the environment are those that the spec asks for. -/
theorem mem_own_entries : entry ∈ spec.ownEntries ↔ spec.Asks entry.name entry.value := by
  obtain ⟨name, value⟩ := entry
  have hentry : (⟨name, value⟩ : EnvVar) ∈ spec.ownEntries ↔
      (name, value) ∈ (spec.environment.getD ∅).entries := by
    simp [ownEntries]
  rw [hentry, ← lookup_iff_mem (SortedMap.nodup_of_sorted (spec.environment.getD ∅).sorted)]
  show (spec.environment.getD ∅).get? name = some value ↔ _
  rw [SortedMap.get?_get_or_empty, Option.bind_eq_some_iff]
  rfl

/-- The variables of the environment are in the order of their names. -/
theorem own_entries_ordered (spec : FunctionSpec) :
    spec.ownEntries.Pairwise fun first second => first.name < second.name :=
  List.pairwise_map.2 (spec.environment.getD ∅).sorted

/-- No variable of the environment is named twice. -/
theorem own_entries_once (spec : FunctionSpec) : (spec.ownEntries.map (·.name)).Nodup :=
  List.pairwise_map.2 (spec.own_entries_ordered.imp fun hlt => String.ne_of_lt hlt)

/-- Where no variable is named twice, a variable is the only one of its name. -/
theorem filter_of_once {entries : List EnvVar} (honce : (entries.map (·.name)).Nodup)
    (hentry : entry ∈ entries) : entries.filter (·.name = entry.name) = [entry] := by
  induction entries with
  | nil => cases hentry
  | cons first entries ih =>
    obtain ⟨hfirst, hrest⟩ := List.nodup_cons.1 honce
    rcases List.mem_cons.1 hentry with rfl | hentry
    · have hnone : entries.filter (·.name = entry.name) = [] :=
        List.filter_eq_nil_iff.2 fun other hother heq =>
          hfirst (List.mem_map.2 ⟨other, hother, of_decide_eq_true heq⟩)
      rw [List.filter_cons_of_pos (by simp), hnone]
    · have hne : first.name ≠ entry.name := fun heq =>
        hfirst (List.mem_map.2 ⟨entry, hentry, heq.symm⟩)
      rw [List.filter_cons_of_neg (by simpa using hne), ih hrest hentry]

/-! ## The list -/

/-- A variable is rendered if it is wanted, or if it clashes with the handler. -/
theorem mem_environment_variables : entry ∈ spec.environmentVariables ↔
    spec.Wants entry ∨ entry.name = handlerName ∧ spec.Clashes entry.value := by
  rw [environment_variables_eq, List.mem_append, mem_handler_entries, mem_own_entries]
  constructor
  · rintro (⟨hhandler, rfl⟩ | hasks)
    · exact .inl (.handler hhandler)
    · by_cases hother : spec.handler = "" ∨ entry.name ≠ handlerName
      · exact .inl (.other hasks hother)
      · obtain ⟨hhandler, hname⟩ := not_or.1 hother
        have hname : entry.name = handlerName := Decidable.not_not.1 hname
        exact .inr ⟨hname, hhandler, hname ▸ hasks⟩
  · rintro (hwants | ⟨hname, -, hasks⟩)
    · cases hwants with
      | handler hhandler => exact .inl ⟨hhandler, rfl⟩
      | other hasks => exact .inr hasks
    · exact .inr (hname ▸ hasks)

/-- Where the sources do not clash, no variable is named twice. -/
theorem environment_variables_once (h : ∀ value, ¬ spec.Clashes value) :
    (spec.environmentVariables.map (·.name)).Nodup := by
  rw [environment_variables_eq, List.map_append]
  refine List.nodup_append.2 ⟨?_, spec.own_entries_once, ?_⟩
  · unfold handlerEntries
    split <;> simp
  · rintro name hhandler other hown rfl
    obtain ⟨entry, hentry, rfl⟩ := List.mem_map.1 hown
    obtain ⟨first, hfirst, hname⟩ := List.mem_map.1 hhandler
    obtain ⟨hhandler, rfl⟩ := mem_handler_entries.1 hfirst
    have hasks : spec.Asks entry.name entry.value := mem_own_entries.1 hentry
    rw [← hname] at hasks
    exact h entry.value ⟨hhandler, hasks⟩

/-- The environment has at most one value for a name. -/
theorem Asks.unique {name first second : String} (hfirst : spec.Asks name first)
    (hsecond : spec.Asks name second) : first = second := by
  obtain ⟨environment, henvironment, hget⟩ := hfirst
  obtain ⟨_, hsame, hget'⟩ := hsecond
  cases henvironment.symm.trans hsame
  exact Option.some.inj (hget.symm.trans hget')

/-- Where the sources clash, the handler's variable is there twice. -/
theorem environment_variables_clash {value : String} (h : spec.Clashes value) :
    spec.environmentVariables.filter (·.name = handlerName) =
      [⟨handlerName, spec.handler⟩, ⟨handlerName, value⟩] := by
  have hasked : ⟨handlerName, value⟩ ∈ spec.ownEntries := mem_own_entries.2 h.2
  have hown : spec.ownEntries.filter (·.name = handlerName) = [⟨handlerName, value⟩] :=
    filter_of_once spec.own_entries_once hasked
  have hhandler : spec.handlerEntries = [⟨handlerName, spec.handler⟩] := if_neg h.1
  rw [environment_variables_eq, List.filter_append, hown, hhandler,
    List.filter_cons_of_pos (by simp), List.filter_nil]
  rfl

/-- The list is in order whatever the sources are. -/
theorem environment_variables_ordered (spec : FunctionSpec) :
    spec.Ordered spec.environmentVariables :=
  ⟨_, spec.environment_variables_eq, spec.own_entries_ordered⟩

end FunctionSpec

/-- The variables of a container are in order, and among them is everything that is wanted. They are
what a list of variables has to be unless the environment clashes with the handler. Then there is
one variable more than is wanted: that of the handler comes twice, first with the handler and then
with the value of the environment. -/
theorem environment_variables_merge (spec : FunctionSpec) :
    spec.Ordered spec.environmentVariables ∧
      (∀ entry, spec.Wants entry → entry ∈ spec.environmentVariables) ∧
      (spec.Merges spec.environmentVariables ↔ ∀ value, ¬ spec.Clashes value) ∧
      ∀ value, spec.Clashes value →
        (∀ entry, entry ∈ spec.environmentVariables ↔
          spec.Wants entry ∨ entry = ⟨FunctionSpec.handlerName, value⟩) ∧
        spec.environmentVariables.filter (·.name = FunctionSpec.handlerName) =
          [⟨FunctionSpec.handlerName, spec.handler⟩, ⟨FunctionSpec.handlerName, value⟩] := by
  have hordered := spec.environment_variables_ordered
  refine ⟨hordered, fun entry hwants => FunctionSpec.mem_environment_variables.2 (.inl hwants),
    ⟨fun hmerges value hclash => ?_, fun hfree => ⟨?_, fun entry => ?_, hordered⟩⟩,
    fun value hclash => ⟨fun entry => ?_, FunctionSpec.environment_variables_clash hclash⟩⟩
  · have htwice : ((spec.environmentVariables.filter (·.name = FunctionSpec.handlerName)).map
        (·.name)).Nodup := hmerges.once.sublist (List.filter_sublist.map _)
    rw [FunctionSpec.environment_variables_clash hclash] at htwice
    simp at htwice
  · exact FunctionSpec.environment_variables_once hfree
  · rw [FunctionSpec.mem_environment_variables]
    exact or_iff_left fun hclash => hfree entry.value hclash.2
  · rw [FunctionSpec.mem_environment_variables]
    refine or_congr_right ⟨?_, ?_⟩
    · rintro ⟨hname, hother⟩
      rw [← hname, hclash.2.unique hother.2]
    · rintro rfl
      exact ⟨rfl, hclash⟩

/-- A function whose environment has another value for the variable of the handler. -/
def FunctionSpec.clashing : FunctionSpec where
  name := "echo"
  image := "echo:1"
  handler := "node main.js"
  environment := some (SortedMap.ofList [("fprocess", "python main.py")])

/-- The container of the clashing function has the variable of the handler twice. -/
theorem clashing_not_merged :
    ¬ FunctionSpec.clashing.Merges FunctionSpec.clashing.environmentVariables := by
  intro hmerges
  have honce : ["fprocess", "fprocess"].Nodup := hmerges.once
  simp at honce

end FunctionOperator
