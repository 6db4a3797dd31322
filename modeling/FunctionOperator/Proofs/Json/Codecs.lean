import FunctionOperator.Json.Codec
import FunctionOperator.Proofs.Json.RoundTrip
import FunctionOperator.Proofs.SortedMap

/-!
# Codecs that restore what they write

A codec restores a value if it reads the value back from the draft of what it writes. Read
`Codec.Restores` first, which has one lemma for each way to build a codec, and then
`Record.Restored`: it follows the fields of a record in their order, each of which is written and
read back or left out. `closed_restores` and `opened_restores` say that this is enough.
-/

namespace FunctionOperator

namespace Codec

variable {α : Type}

/-- What is written for a value is plain, nested in at most so many levels, and read back. -/
structure Restores (codec : Codec α) (levels : Nat) (value : α) : Prop where
  /-- The JSON form is plain. -/
  plain : Json.Plain levels (codec.write value)
  /-- The value is read back. -/
  read : codec.read (Draft.ofJson (codec.write value)) = .ok value

namespace Restores

variable {codec : Codec α} {levels more : Nat} {value : α}

/-- More levels do no harm. -/
theorem mono (h : codec.Restores levels value) (hle : levels ≤ more) :
    codec.Restores more value :=
  ⟨h.plain.mono hle, h.read⟩

/-- A value is read back from its text. -/
theorem of_text (h : codec.Restores levels value) (hle : levels ≤ Draft.deepest) :
    (Document.ofText (codec.write value).render).read codec.read = .ok value := by
  rw [Document.of_text_render (h.plain.mono hle), Document.read, h.read]
  rfl

end Restores

/-- Texts are restored. -/
theorem string_restores (levels : Nat) (value : String) : string.Restores levels value :=
  ⟨.string, rfl⟩

/-- Truth values are restored. -/
theorem bool_restores (levels : Nat) (value : Bool) : bool.Restores levels value :=
  ⟨.bool, rfl⟩

/-- Whole numbers of a range within 64 bits are restored. -/
theorem int_restores (levels : Nat) {min max value : Int}
    (hmin : -9_223_372_036_854_775_808 ≤ min) (hmax : max < 18_446_744_073_709_551_616)
    (h : min ≤ value ∧ value ≤ max) :
    (int min max).Restores levels value := by
  refine ⟨.whole (Int.le_trans hmin h.1) (Int.lt_of_le_of_lt h.2 hmax), ?_⟩
  show (if min ≤ value ∧ value ≤ max then Except.ok value else .error Cause.mistyped) = .ok value
  rw [if_pos h]

/-- Unsigned numbers of 64 bits are restored. -/
theorem nat64_restores (levels : Nat) {value : Nat} (h : value < 18_446_744_073_709_551_616) :
    nat64.Restores levels value := by
  obtain ⟨hplain, hread⟩ : (int 0 18_446_744_073_709_551_615).Restores levels (value : Int) :=
    int_restores levels (by decide) (by decide) ⟨by omega, by omega⟩
  refine ⟨hplain, ?_⟩
  exact congrArg (Except.map Int.toNat) hread

/-- The items of a list are read back if each of them is. -/
theorem read_items_map {codec : Codec α} {values : List α}
    (h : ∀ value ∈ values, codec.read (Draft.ofJson (codec.write value)) = .ok value) :
    readItems codec.read (Draft.ofItems (values.map codec.write)) = .ok values := by
  induction values with
  | nil => rfl
  | cons value values ih =>
    have hvalue := h value List.mem_cons_self
    have hvalues := ih fun other hother => h other (List.mem_cons_of_mem _ hother)
    simp [Draft.ofItems, readItems, hvalue, hvalues, bind, Except.bind, pure, Except.pure]

/-- A list is restored if its items are. -/
theorem list_restores {codec : Codec α} {levels : Nat} {values : List α}
    (h : ∀ value ∈ values, codec.Restores levels value) :
    codec.list.Restores (levels + 1) values := by
  refine ⟨.array fun item hitem => ?_, ?_⟩
  · obtain ⟨value, hvalue, rfl⟩ := List.mem_map.1 hitem
    exact (h value hvalue).plain
  · simp [list, Draft.ofJson, read_items_map fun value hvalue => (h value hvalue).read,
      Draft.checkRead, bind, Except.bind, pure, Except.pure]

/-- The entries of a map are read back if their values are. -/
theorem read_entries_map {codec : Codec α} {entries : List (String × α)}
    (h : ∀ entry ∈ entries, codec.read (Draft.ofJson (codec.write entry.2)) = .ok entry.2) :
    readEntries codec.read
      (Draft.ofMembers (entries.map fun entry => (entry.1, codec.write entry.2))) =
        .ok entries := by
  induction entries with
  | nil => rfl
  | cons entry entries ih =>
    have hvalue := h entry List.mem_cons_self
    have hvalues := ih fun other hother => h other (List.mem_cons_of_mem _ hother)
    simp [Draft.ofMembers, readEntries, hvalue, hvalues, bind, Except.bind, pure, Except.pure]

/-- A map is restored if its values are. -/
theorem map_restores {codec : Codec α} {levels : Nat} {values : SortedMap α}
    (h : ∀ entry ∈ values.entries, codec.Restores levels entry.2) :
    codec.map.Restores (levels + 1) values := by
  refine ⟨.object fun member hmember => ?_, ?_⟩
  · obtain ⟨entry, hentry, rfl⟩ := List.mem_map.1 hmember
    exact (h entry hentry).plain
  · simp [map, Draft.ofJson, read_entries_map fun entry hentry => (h entry hentry).read,
      Draft.checkRead, SortedMap.of_list_entries, bind, Except.bind, pure, Except.pure]

/-- A value that may be absent is restored if the present one is, and is not written `null`. -/
theorem option_restores {codec : Codec α} {levels : Nat} {value : Option α}
    (h : ∀ present, value = some present →
      codec.Restores levels present ∧ codec.write present ≠ .null) :
    codec.option.Restores levels value := by
  cases value with
  | none => exact ⟨.null, rfl⟩
  | some present =>
    obtain ⟨⟨hplain, hread⟩, hnull⟩ := h present rfl
    refine ⟨hplain, ?_⟩
    show codec.option.read (Draft.ofJson (codec.write present)) = .ok (some present)
    cases hwrite : codec.write present with
    | null => exact absurd hwrite hnull
    | _ =>
      rw [hwrite] at hread
      simp only [option, Draft.ofJson] at hread ⊢
      rw [hread]
      rfl

end Codec

namespace Record

variable {σ α : Type}

/-- Reading the written fields of a value in their order leads from one record to another: each
field is written plainly and read back, or left out although it is not required. -/
inductive Restored (levels : Nat) (value : σ) : List (Field σ) → σ → σ → Prop where
  /-- There are no more fields. -/
  | nil {start} : Restored levels value [] start start
  /-- The field is written and read back. -/
  | written {field fields start next final json} (hwrite : field.write value = some json)
      (hplain : Json.Plain levels json) (hread : field.read (Draft.ofJson json) start = .ok next)
      (hrest : Restored levels value fields next final) :
    Restored levels value (field :: fields) start final
  /-- The field is left out. -/
  | left {field fields start final} (hwrite : field.write value = none)
      (hpresence : field.presence ≠ .required) (hrest : Restored levels value fields start final) :
    Restored levels value (field :: fields) start final

namespace Restored

variable {levels : Nat} {value start final : σ} {fields : List (Field σ)}
variable {name : String} {get : σ → α} {set : α → σ → σ} {codec : Codec α}

/-- A field that is left out only where its absence means its value takes its value. -/
theorem of {presence : Presence} {leaveOut : α → Bool} (hcodec : codec.Restores levels (get value))
    (hleft : leaveOut (get value) = true → presence ≠ .required ∧ set (get value) start = start)
    (hrest : Restored levels value fields (set (get value) start) final) :
    Restored levels value (.of name presence codec get set leaveOut :: fields) start final := by
  by_cases hout : leaveOut (get value) = true
  · obtain ⟨hpresence, hsame⟩ := hleft hout
    rw [hsame] at hrest
    exact .left (by simp [Field.of, hout]) hpresence hrest
  · refine .written (by simp [Field.of, hout]) hcodec.plain ?_ hrest
    simp [Field.of, hcodec.read, bind, Except.bind, pure, Except.pure]

/-- A required field takes its value. -/
theorem required (hcodec : codec.Restores levels (get value))
    (hrest : Restored levels value fields (set (get value) start) final) :
    Restored levels value (.required name codec get set :: fields) start final :=
  .of hcodec nofun hrest

/-- A field that is always written takes its value. -/
theorem defaulted (hcodec : codec.Restores levels (get value))
    (hrest : Restored levels value fields (set (get value) start) final) :
    Restored levels value (.defaulted name codec get set :: fields) start final :=
  .of hcodec nofun hrest

/-- A field that is left out where its absence means its value takes its value. -/
theorem omitted {leaveOut : α → Bool} (hcodec : codec.Restores levels (get value))
    (hleft : leaveOut (get value) = true → set (get value) start = start)
    (hrest : Restored levels value fields (set (get value) start) final) :
    Restored levels value (.omitted name codec get set leaveOut :: fields) start final :=
  .of hcodec (fun hout => ⟨nofun, hleft hout⟩) hrest

/-- A field that is left out where it is absent takes its value, unless it is required. -/
theorem absent {presence : Presence} (hpresence : presence ≠ .required) {get : σ → Option α}
    {set : Option α → σ → σ}
    (hcodec : ∀ present, get value = some present →
      codec.Restores levels present ∧ codec.write present ≠ .null)
    (hnone : set none start = start)
    (hrest : Restored levels value fields (set (get value) start) final) :
    Restored levels value (.of name presence codec.option get set Option.isNone :: fields) start
      final := by
  refine .of (Codec.option_restores hcodec) (fun hout => ⟨hpresence, ?_⟩) hrest
  rw [Option.isNone_iff_eq_none.1 hout, hnone]

/-- A field that is left out where it is absent takes its value. -/
theorem maybe {get : σ → Option α} {set : Option α → σ → σ}
    (hcodec : ∀ present, get value = some present →
      codec.Restores levels present ∧ codec.write present ≠ .null)
    (hnone : set none start = start)
    (hrest : Restored levels value fields (set (get value) start) final) :
    Restored levels value (.maybe name codec get set :: fields) start final :=
  .absent (by decide) hcodec hnone hrest

/-- So does one that the list form has to have. -/
theorem optional {get : σ → Option α} {set : Option α → σ → σ}
    (hcodec : ∀ present, get value = some present →
      codec.Restores levels present ∧ codec.write present ≠ .null)
    (hnone : set none start = start)
    (hrest : Restored levels value fields (set (get value) start) final) :
    Restored levels value (.optional name codec get set :: fields) start final :=
  .absent (by decide) hcodec hnone hrest

/-- The members of the written fields are plain. -/
theorem plain (h : Restored levels value fields start final) :
    ∀ entry ∈ fields.filterMap fun field => (field.write value).map (field.name, ·),
      Json.Plain levels entry.2 := by
  induction h with
  | nil => nofun
  | written hwrite hplain _ _ ih =>
    intro entry hentry
    simp only [List.filterMap_cons, hwrite, Option.map_some, List.mem_cons] at hentry
    rcases hentry with rfl | hentry
    · exact hplain
    · exact ih entry hentry
  | left hwrite _ _ ih =>
    intro entry hentry
    simp only [List.filterMap_cons, hwrite, Option.map_none] at hentry
    exact ih entry hentry

/-- The written fields are read back in their order, if no name occurs twice. What must be there
has been seen then. -/
theorem read_members (h : Restored levels value fields start final) {record : Record σ}
    (hknown : ∀ field ∈ fields, record.field? field.name = some field)
    (hnames : (fields.map (·.name)).Nodup) (once : Bool) (other : Draft → Except Cause Unit)
    (seen : List String) (hfresh : ∀ field ∈ fields, field.name ∉ seen) :
    ∃ all, record.readMembers once other
        (Draft.ofMembers (fields.filterMap fun field => (field.write value).map (field.name, ·)))
        seen start = .ok (final, all) ∧
      seen ⊆ all ∧ ∀ field ∈ fields, field.presence = .required → field.name ∈ all := by
  induction h generalizing seen with
  | nil => exact ⟨seen, rfl, List.Subset.refl _, nofun⟩
  | @written field fields start next final json hwrite _ hread _ ih =>
    rw [List.map_cons, List.nodup_cons] at hnames
    have hunseen : field.name ∉ seen := hfresh field List.mem_cons_self
    obtain ⟨all, hmembers, hsubset, hrequired⟩ :=
      ih (fun later hlater => hknown later (List.mem_cons_of_mem _ hlater)) hnames.2
        (field.name :: seen) fun later hlater hmem => by
          rcases List.mem_cons.1 hmem with heq | hmem
          · exact hnames.1 (heq ▸ List.mem_map_of_mem hlater)
          · exact hfresh later (List.mem_cons_of_mem _ hlater) hmem
    refine ⟨all, ?_, fun name hname => hsubset (List.mem_cons_of_mem _ hname), ?_⟩
    · simp [hwrite, Draft.ofMembers, readMembers, hknown field List.mem_cons_self, hunseen, hread,
        hmembers, bind, Except.bind]
    · intro later hlater hpresence
      rcases List.mem_cons.1 hlater with rfl | hlater
      · exact hsubset List.mem_cons_self
      · exact hrequired later hlater hpresence
  | @left field fields start final hwrite hpresence _ ih =>
    rw [List.map_cons, List.nodup_cons] at hnames
    obtain ⟨all, hmembers, hsubset, hrequired⟩ :=
      ih (fun later hlater => hknown later (List.mem_cons_of_mem _ hlater)) hnames.2
        seen fun later hlater => hfresh later (List.mem_cons_of_mem _ hlater)
    refine ⟨all, ?_, hsubset, ?_⟩
    · rw [List.filterMap_cons, hwrite, Option.map_none]
      exact hmembers
    · intro later hlater hrequire
      rcases List.mem_cons.1 hlater with rfl | hlater
      · exact absurd hrequire hpresence
      · exact hrequired later hlater hrequire

end Restored

variable {levels : Nat} {record : Record σ} {value : σ}

/-- A field is found by its name if no name occurs twice. -/
theorem field_eq_some {fields : List (Field σ)} (hnames : (fields.map (·.name)).Nodup)
    {field : Field σ} (hfield : field ∈ fields) :
    fields.find? (·.name == field.name) = some field := by
  induction fields with
  | nil => cases hfield
  | cons first fields ih =>
    rw [List.map_cons, List.nodup_cons] at hnames
    rcases List.mem_cons.1 hfield with rfl | hfield
    · exact List.find?_cons_of_pos (by simp)
    · have hne : first.name ≠ field.name := fun heq =>
        hnames.1 (heq ▸ List.mem_map_of_mem hfield)
      rw [List.find?_cons_of_neg (by simp [hne])]
      exact ih hnames.2 hfield

/-- A closed record is restored if its fields are. -/
theorem closed_restores (hnames : (record.fields.map (·.name)).Nodup)
    (h : Restored levels value record.fields record.blank value) :
    record.closed.Restores (levels + 1) value := by
  refine ⟨.object h.plain, ?_⟩
  obtain ⟨all, hmembers, -, hrequired⟩ := h.read_members
    (fun field hfield => field_eq_some hnames hfield) hnames true Draft.skip [] (by simp)
  have hcomplete : (record.fields.any fun field =>
      decide (field.presence = .required) && !all.contains field.name) = false := by
    simpa using hrequired
  show record.readOnce Draft.skip _ none = .ok value
  simp only [readOnce, hmembers, Draft.checkRead, bind, Except.bind]
  rw [hcomplete]
  rfl

/-- An open record is restored if its fields are. -/
theorem opened_restores (hnames : (record.fields.map (·.name)).Nodup)
    (h : Restored levels value record.fields record.blank value) :
    record.opened.Restores (levels + 1) value := by
  refine ⟨.object h.plain, ?_⟩
  obtain ⟨all, hmembers, -, -⟩ := h.read_members
    (fun field hfield => field_eq_some hnames hfield) hnames false Draft.skip [] (by simp)
  simp [opened, write, Draft.ofJson, hmembers, Draft.checkRead, bind, Except.bind, pure,
    Except.pure]

end Record

end FunctionOperator
