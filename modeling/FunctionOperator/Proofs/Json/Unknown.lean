import FunctionOperator.Proofs.Json.Codecs
import Mathlib.Data.List.Nodup

/-!
# What a reader does not know

A closed record is read from an object that has more members than the record has fields, in any
order. Read `Draft.passes` first: every value whatsoever is read as a draft that can be passed over,
however deep it is nested and however great its numbers are. `Record.read_members_taken` then
follows the members of an object: each is a field, which moves the record on, or is passed over.
-/

namespace FunctionOperator

namespace Draft

/-! ## Every value can be passed over -/

/-- Wherever it stands, the value is read as a draft of which the property holds. -/
def Yields (levels : Nat) (value : Json) (property : Draft → Prop) : Prop :=
  ∃ draft, ReadsAs levels value draft ∧ property draft

/-- A value that is read back yields its draft. -/
theorem Reads.yields {levels : Nat} {value : Json} (h : Reads levels value)
    {property : Draft → Prop} (hdraft : property (ofJson value)) :
    Yields levels value property :=
  ⟨ofJson value, h, hdraft⟩

/-- What can be passed over can be where it is nested too deeply. -/
theorem skip_within {draft : Draft} (h : draft.skip = .ok ()) (levels : Nat) :
    (draft.within levels).skip = .ok () := by
  have hdeep : draft.tooDeep.skip = .ok () := by
    rw [tooDeep, h]
    rfl
  unfold within
  split
  · exact hdeep
  · exact hdeep
  · exact h

/-- Every number is read, or is beyond the range. -/
theorem passes_number (value : Json.Number) (levels : Nat) :
    Yields levels (.number value) (·.skip = .ok ()) := by
  generalize hchars : value.chars = cs
  have hnumeral : Numeral cs := hchars ▸ value.numeral_chars
  cases hnumeral with
  | @negative cs hmagnitude =>
    obtain ⟨draft, hskip, hwithin, hread⟩ := read_magnitude hmagnitude true
    refine ⟨draft, fun fuel rest hrest hfuel => ?_, hskip⟩
    rw [Json.chars, hchars, List.cons_append] at hfuel ⊢
    obtain ⟨fuel, rfl⟩ : ∃ smaller, fuel = smaller + 1 :=
      ⟨fuel - 1, by rw [List.length_cons] at hfuel; omega⟩
    rw [readValue, skip_gap_cons (by decide)]
    simp only [hread rest hrest, hwithin]
  | unsigned hmagnitude =>
    obtain ⟨draft, hskip, hwithin, hread⟩ := read_magnitude hmagnitude false
    refine ⟨draft, fun fuel rest hrest hfuel => ?_, hskip⟩
    rw [Json.chars, hchars] at hfuel ⊢
    obtain ⟨c, tail, htext, hdigit⟩ := hmagnitude.head rest
    rw [htext] at hfuel
    obtain ⟨fuel, rfl⟩ : ∃ smaller, fuel = smaller + 1 :=
      ⟨fuel - 1, by rw [List.length_cons] at hfuel; omega⟩
    rw [htext, read_value_digit hdigit, ← htext, hread rest hrest, hwithin]

mutual

/-- Every value is read as a draft that can be passed over. -/
theorem passes (value : Json) (levels : Nat) : Yields levels value (·.skip = .ok ()) := by
  match value with
  | .null => exact (reads_null levels).yields rfl
  | .bool value => exact (reads_bool levels value).yields rfl
  | .string value => exact (reads_string levels value).yields rfl
  | .number value => exact passes_number value levels
  | .array items =>
    obtain ⟨drafts, hreads, hskip⟩ := passes_items items (levels - 1)
    refine ⟨_, reads_as_array hreads, skip_within ?_ levels⟩
    rw [skip, hskip]
    rfl
  | .object members =>
    obtain ⟨parts, hreads, hskip⟩ := passes_members members (levels - 1)
    refine ⟨_, reads_as_object hreads, skip_within ?_ levels⟩
    rw [skip, hskip]
    rfl

/-- Items are read as drafts that can be passed over. -/
theorem passes_items (items : List Json) (levels : Nat) :
    ∃ drafts, List.Forall₂ (ReadsAs levels) items drafts ∧ skipItems drafts = .ok () := by
  match items with
  | [] => exact ⟨[], .nil, rfl⟩
  | item :: items =>
    obtain ⟨draft, hfirst, hskip⟩ := passes item levels
    obtain ⟨drafts, hreads, hskips⟩ := passes_items items levels
    refine ⟨draft :: drafts, .cons hfirst hreads, ?_⟩
    rw [skipItems, hskip]
    exact hskips

/-- Members are read as drafts that can be passed over. -/
theorem passes_members (members : List (String × Json)) (levels : Nat) :
    ∃ parts, List.Forall₂ (MemberReadsAs levels) members parts ∧ skipMembers parts = .ok () := by
  match members with
  | [] => exact ⟨[], .nil, rfl⟩
  | (name, value) :: members =>
    obtain ⟨draft, hfirst, hskip⟩ := passes value levels
    obtain ⟨parts, hreads, hskips⟩ := passes_members members levels
    refine ⟨(some name, draft) :: parts, .cons ⟨rfl, hfirst⟩ hreads, ?_⟩
    rw [skipMembers, hskip]
    exact hskips

end

mutual

/-- A complete value can be passed over. -/
theorem skip_of_json (value : Json) : (ofJson value).skip = .ok () := by
  match value with
  | .null | .bool _ | .number _ | .string _ => rfl
  | .array items =>
    rw [ofJson, skip, skip_of_items items]
    rfl
  | .object members =>
    rw [ofJson, skip, skip_of_members members]
    rfl

/-- Complete items can be passed over. -/
theorem skip_of_items (items : List Json) : skipItems (ofItems items) = .ok () := by
  match items with
  | [] => rfl
  | item :: items =>
    rw [ofItems, skipItems, skip_of_json item]
    exact skip_of_items items

/-- Complete members can be passed over. -/
theorem skip_of_members (members : List (String × Json)) :
    skipMembers (ofMembers members) = .ok () := by
  match members with
  | [] => rfl
  | (_, value) :: members =>
    rw [ofMembers, skipMembers, skip_of_json value]
    exact skip_of_members members

end

end Draft

/-! ## Names of members -/

namespace Json

variable {members : List (String × Json)}

/-- What is found by a name has this name. -/
theorem name_mem_of_lookup {name : String} {value : Json} (h : members.lookup name = some value) :
    name ∈ members.map (·.1) := by
  obtain ⟨first, last, rfl, -⟩ := List.lookup_eq_some_iff.1 h
  simp

end Json

/-! ## Records among other members -/

/-- A field that may be absent is written where it is there. -/
theorem Field.maybe_write {α τ : Type} (name : String) (codec : Codec α) (get : τ → Option α)
    (set : Option α → τ → τ) (value : τ) :
    (Field.maybe name codec get set).write value = (get value).map codec.write := by
  cases hget : get value <;> simp [Field.maybe, Field.of, hget, Codec.option]

namespace Record

variable {σ : Type}

/-- A member takes the record on: `part` is the record with the fields of some names read, and the
member is one more of them, or none of the record. -/
inductive Takes (record : Record σ) (part : List String → σ) (name : String) (draft : Draft) :
    Prop where
  /-- The member is a field. -/
  | known {field} (hfield : record.field? name = some field)
    (hread : ∀ seen, field.read draft (part seen) = .ok (part (name :: seen)))
  /-- The member is passed over. -/
  | unknown (hfield : record.field? name = none) (hskip : draft.skip = .ok ())

/-- A name that no field has names none. -/
theorem field_eq_none {record : Record σ} {name : String}
    (h : name ∉ record.fields.map (·.name)) : record.field? name = none :=
  List.find?_eq_none.2 fun field hfield => by
    simpa using fun heq : field.name = name => h (heq ▸ List.mem_map_of_mem hfield)

/-- A member that restores what the record takes on is a field of it. -/
theorem takes_restored {α : Type} {record : Record σ} {part : List String → σ} {name : String}
    {field : Field σ} {codec : Codec α} {levels : Nat} {value : α}
    (h : codec.Restores levels value) (hfield : record.field? name = some field)
    (hread : ∀ draft, codec.read draft = .ok value →
      ∀ seen, field.read draft (part seen) = .ok (part (name :: seen))) :
    Draft.Yields levels (codec.write value) (record.Takes part name) :=
  (Draft.reads_of_plain h.plain).yields (.known hfield (hread _ h.read))

/-- Members that have different names and take a record on are read, in any order. -/
theorem read_members_taken {record : Record σ} {part : List String → σ}
    {members : List (String × Json)} {parts : List (Option String × Draft)}
    (htakes : List.Forall₂ (fun entry read => read.1 = some entry.1 ∧
      record.Takes part entry.1 read.2) members parts)
    (hnames : (members.map (·.1)).Nodup) (seen : List String)
    (hfresh : ∀ entry ∈ members, entry.1 ∉ seen) :
    ∃ all, record.readMembers true Draft.skip parts seen (part seen) = .ok (part all, all) ∧
      ∀ name, name ∈ all ↔
        name ∈ seen ∨ name ∈ members.map (·.1) ∧ (record.field? name).isSome := by
  induction htakes generalizing seen with
  | nil => exact ⟨seen, rfl, by simp⟩
  | @cons entry read members parts hfirst _ ih =>
    obtain ⟨name, value⟩ := entry
    obtain ⟨readName, draft⟩ := read
    obtain ⟨rfl, htake⟩ : readName = some name ∧ record.Takes part name draft := hfirst
    rw [List.map_cons, List.nodup_cons] at hnames
    have hunseen : name ∉ seen := hfresh (name, value) List.mem_cons_self
    have hlater : ∀ entry ∈ members, entry.1 ∉ seen := fun entry hentry =>
      hfresh entry (List.mem_cons_of_mem _ hentry)
    cases htake with
    | @known field hfield hread =>
      obtain ⟨all, hall, hmem⟩ := ih hnames.2 (name :: seen) fun entry hentry hseen => by
        rcases List.mem_cons.1 hseen with heq | hseen
        · exact hnames.1 (List.mem_map.2 ⟨entry, hentry, heq⟩)
        · exact hlater entry hentry hseen
      refine ⟨all, ?_, fun other => ?_⟩
      · simp [readMembers, hfield, hunseen, hread, hall, bind, Except.bind]
      · rw [hmem other, List.mem_cons, List.map_cons, List.mem_cons]
        by_cases heq : other = name
        · subst heq
          simp [hfield]
        · simp [heq]
    | unknown hfield hskip =>
      obtain ⟨all, hall, hmem⟩ := ih hnames.2 seen hlater
      refine ⟨all, ?_, fun other => ?_⟩
      · simp [readMembers, hfield, hskip, hall, bind, Except.bind]
      · rw [hmem other, List.map_cons, List.mem_cons]
        by_cases heq : other = name
        · subst heq
          simp [hfield]
        · simp [heq]

/-- Members of which each yields a draft are read as such drafts. -/
theorem yields_members {levels : Nat} {members : List (String × Json)}
    {property : String → Draft → Prop}
    (h : ∀ entry ∈ members, Draft.Yields levels entry.2 (property entry.1)) :
    ∃ parts, List.Forall₂ (Draft.MemberReadsAs levels) members parts ∧
      List.Forall₂ (fun entry read => read.1 = some entry.1 ∧ property entry.1 read.2) members
        parts := by
  induction members with
  | nil => exact ⟨[], .nil, .nil⟩
  | cons entry members ih =>
    obtain ⟨draft, hreads, hproperty⟩ := h entry List.mem_cons_self
    obtain ⟨parts, hparts, hproperties⟩ :=
      ih fun other hother => h other (List.mem_cons_of_mem _ hother)
    exact ⟨(some entry.1, draft) :: parts, .cons ⟨rfl, hreads⟩ hparts,
      .cons ⟨rfl, hproperty⟩ hproperties⟩

/-- A closed record without required fields is read from an object whose members have different
names and take it on. -/
theorem closed_yields {record : Record σ} {part : List String → σ} {levels : Nat}
    {members : List (String × Json)} {value : σ}
    (hoptional : ∀ field ∈ record.fields, field.presence ≠ .required)
    (hblank : part [] = record.blank) (hnames : (members.map (·.1)).Nodup)
    (hmembers : ∀ entry ∈ members, Draft.Yields levels entry.2 (record.Takes part entry.1))
    (hvalue : ∀ all, (∀ name, name ∈ all ↔
      name ∈ members.map (·.1) ∧ (record.field? name).isSome) → part all = value) :
    Draft.Yields (levels + 1) (.object members) (record.closed.read · = .ok value) := by
  obtain ⟨parts, hreads, htakes⟩ := yields_members hmembers
  have hparts : List.Forall₂ (Draft.MemberReadsAs (levels + 1 - 1)) members parts := hreads
  obtain ⟨all, hall, hmem⟩ := read_members_taken htakes hnames [] (by simp)
  have hfinal : part all = value := hvalue all fun name => by simpa using hmem name
  have hcomplete : (record.fields.any fun field =>
      decide (field.presence = .required) && !all.contains field.name) = false := by
    simp only [List.any_eq_false, Bool.and_eq_true, decide_eq_true_eq, not_and]
    exact fun field hfield hrequired => absurd hrequired (hoptional field hfield)
  refine ⟨_, Draft.reads_as_object hparts, ?_⟩
  show record.readOnce Draft.skip parts none = .ok value
  rw [hblank] at hall
  simp only [readOnce, hall, Draft.checkRead, bind, Except.bind, hfinal]
  rw [hcomplete]
  rfl

/-- Complete members that are no fields might as well not be there. -/
theorem read_members_known (record : Record σ) (once : Bool) (members : List (String × Json))
    (seen : List String) (value : σ) :
    record.readMembers once Draft.skip (Draft.ofMembers members) seen value =
      record.readMembers once Draft.skip
        (Draft.ofMembers (members.filter fun entry => (record.field? entry.1).isSome)) seen
        value := by
  induction members generalizing seen value with
  | nil => rfl
  | cons entry members ih =>
    obtain ⟨name, json⟩ := entry
    cases hfield : record.field? name with
    | none =>
      rw [List.filter_cons_of_neg (by simp [hfield]), Draft.ofMembers, readMembers, hfield, ← ih]
      simp [Draft.skip_of_json, bind, Except.bind]
    | some field =>
      rw [List.filter_cons_of_pos (by simp [hfield]), Draft.ofMembers, Draft.ofMembers,
        readMembers, readMembers, hfield]
      simp only [ih]

/-- A closed record is read from a complete object as from the object of those members that are its
fields. -/
theorem closed_read_known (record : Record σ) (members : List (String × Json)) :
    record.closed.read (Draft.ofJson (.object members)) =
      record.closed.read (Draft.ofJson
        (.object (members.filter fun entry => (record.field? entry.1).isSome))) := by
  show record.readOnce Draft.skip (Draft.ofMembers members) none =
    record.readOnce Draft.skip (Draft.ofMembers _) none
  rw [readOnce, readOnce, read_members_known]

/-! ### What is written -/

/-- The members of a record's JSON form. -/
def written (record : Record σ) (value : σ) : List (String × Json) :=
  record.fields.filterMap fun field => (field.write value).map (field.name, ·)

/-- The written members are fields, in their order. -/
theorem written_names (record : Record σ) (value : σ) :
    ((record.written value).map (·.1)).Sublist (record.fields.map (·.name)) := by
  rw [written]
  induction record.fields with
  | nil => exact .slnil
  | cons field fields ih =>
    rw [List.filterMap_cons, List.map_cons]
    cases field.write value with
    | none => exact ih.cons _
    | some json => exact ih.cons_cons _

/-- Of the written members, those of some names are the written ones of the fields of these names. -/
theorem filter_written (record : Record σ) (value : σ) (keep : String → Bool) :
    (record.written value).filter (fun entry => keep entry.1) =
      ({ record with fields := record.fields.filter (keep ·.name) } : Record σ).written value := by
  simp only [written]
  induction record.fields with
  | nil => rfl
  | cons field fields ih =>
    cases hwrite : field.write value <;> cases hkeep : keep field.name <;>
      simp [hwrite, hkeep, ih]

/-- A field is found by its name among the written members, if it was written. -/
theorem lookup_written {record : Record σ} (hnames : (record.fields.map (·.name)).Nodup) (value : σ)
    {field : Field σ} (hfield : field ∈ record.fields) :
    (record.written value).lookup field.name = field.write value := by
  cases hwrite : field.write value with
  | some json =>
    have hmem : (field.name, json) ∈ record.written value :=
      List.mem_filterMap.2 ⟨field, hfield, by rw [hwrite, Option.map_some]⟩
    exact (lookup_iff_mem ((record.written_names value).nodup hnames)).2 hmem
  | none =>
    refine SortedMap.lookup_eq_none fun entry hentry heq => ?_
    obtain ⟨other, hother, hentry⟩ := List.mem_filterMap.1 hentry
    obtain ⟨json, hjson, rfl⟩ := Option.map_eq_some_iff.1 hentry
    obtain rfl : field = other := List.inj_on_of_nodup_map hnames hfield hother heq
    rw [hwrite] at hjson
    cases hjson

end Record

end FunctionOperator
