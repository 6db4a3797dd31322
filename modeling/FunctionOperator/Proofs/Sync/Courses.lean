import FunctionOperator.Sync.Handler

/-!
# The courses of a sync

What a sync may do, whatever the API answers. Read `Sync.Course` first: a course is a path through
the tree of a sync, with the calls on it and the result at its end. `run_noting` shows that every
run against an API takes such a course. So a statement about all courses is one about all contents
of the caches and all failures of the API. `converge_recorded_cases` then says once what the common
part of both handlers decides, from which its courses follow.
-/

namespace FunctionOperator

/-- A write that was sent, with its answer. -/
structure Call where
  /-- The write. -/
  write : Write
  /-- The answer of the API. -/
  answer : Except ApiFailure Unit

namespace Sync

/-- The courses of a sync, each with its calls in their order and its result. -/
inductive Course : Sync → List Call → SyncResult → Prop where
  /-- A sync that is over makes no calls. -/
  | finished {result} : Course (.finished result) [] result
  /-- A write is sent, and its answer decides how the sync goes on. -/
  | writing {write resume calls result} (answer) (hresume : Course (resume answer) calls result) :
    Course (.writing write resume) (⟨write, answer⟩ :: calls) result

/-- An API that answers as another one does and notes all calls. -/
def noting {γ : Type} (perform : Write → γ → Except ApiFailure Unit × γ) (write : Write)
    (state : List Call × γ) : Except ApiFailure Unit × (List Call × γ) :=
  let (answer, next) := perform write state.2
  (answer, (state.1 ++ [⟨write, answer⟩], next))

/-- A run takes one of the courses, and notes the calls on it. -/
theorem run_noting {γ : Type} (perform : Write → γ → Except ApiFailure Unit × γ) (sync : Sync)
    (noted : List Call) (state : γ) :
    ∃ calls, sync.Course calls (sync.run perform state).1 ∧
      sync.run (noting perform) (noted, state) =
        ((sync.run perform state).1, (noted ++ calls, (sync.run perform state).2)) := by
  -- along the sync, whatever was noted before and whatever state the API is in
  induction sync generalizing noted state with
  | finished result => exact ⟨[], .finished, by simp [run]⟩
  | writing write resume ih =>
    obtain ⟨calls, hcourse, hrun⟩ := ih (perform write state).1
      (noted ++ [⟨write, (perform write state).1⟩]) (perform write state).2
    refine ⟨⟨write, (perform write state).1⟩ :: calls, .writing _ hcourse, ?_⟩
    show run (noting perform) (resume (perform write state).1) _ = _
    rw [hrun, List.append_assoc]
    rfl

variable {calls : List Call} {result : SyncResult}

/-- A sync that is over has only its end before it. -/
theorem finished_course {final : SyncResult} (h : (Sync.finished final).Course calls result) :
    calls = [] ∧ result = final := by
  cases h
  exact ⟨rfl, rfl⟩

/-- A write that fails ends the sync, and one that succeeds lets it go on. -/
theorem attempt_course {write : Write} {rest : Sync} (h : (attempt write rest).Course calls result) :
    (∃ failure, calls = [⟨write, .error failure⟩] ∧ result = .error (.api failure)) ∨
    ∃ later, calls = ⟨write, .ok ()⟩ :: later ∧ rest.Course later result := by
  cases h with
  | writing answer hresume =>
    cases answer with
    | error failure =>
      obtain ⟨rfl, rfl⟩ := finished_course hresume
      exact .inl ⟨failure, rfl, rfl⟩
    | ok => exact .inr ⟨_, rfl, hresume⟩

end Sync

/-! ## Derived objects that record a state -/

section Recorded

variable {σ : Type} {kind : PrimaryKind σ}

/-- What a derived object records: nothing if the annotation is missing or empty, else what its
text says. -/
inductive Recorded (kind : PrimaryKind σ) (annotations : Option TextMap) : Snapshot σ → Prop where
  /-- There is no annotation, or an empty one. -/
  | nothing (h : annotations.bind (·.get? kind.snapshotKey) = none ∨
      annotations.bind (·.get? kind.snapshotKey) = some "") :
    Recorded kind annotations (Snapshot.record kind).blank
  /-- The annotation can be read. -/
  | state {text snapshot} (h : annotations.bind (·.get? kind.snapshotKey) = some text)
      (hdecode : Snapshot.decode kind text = .ok snapshot) : Recorded kind annotations snapshot

/-- A snapshot that is recovered is recorded. -/
theorem recorded_of_recover {annotations : Option TextMap} {snapshot : Snapshot σ}
    (h : Snapshot.recover kind annotations = .ok snapshot) :
    Recorded kind annotations snapshot := by
  unfold Snapshot.recover at h
  split at h
  · next hnone =>
    cases h
    refine .nothing ?_
    rw [Option.filter_eq_none_iff] at hnone
    cases htext : annotations.bind (·.get? kind.snapshotKey) with
    | none => exact .inl rfl
    | some text => exact .inr (by simpa using hnone text htext)
  · next text htext =>
    obtain ⟨htext, -⟩ := Option.filter_eq_some_iff.1 htext
    cases hdecode : Snapshot.decode kind text with
    | error cause =>
      rw [hdecode] at h
      cases h
    | ok decoded =>
      rw [hdecode] at h
      cases h
      exact .state htext hdecode

/-- A record that cannot be read is no failed call. -/
theorem recover_ne_api (annotations : Option TextMap) (failure : ApiFailure) :
    Snapshot.recover kind annotations ≠ .error (.api failure) := by
  unfold Snapshot.recover
  split
  · exact nofun
  · next text htext => cases Snapshot.decode kind text <;> exact nofun

/-- Nothing but a foreign name or a foreign controller keeps an object from being replaced. -/
theorem of_replace_refusal_eq_none {recorded : Snapshot σ} {existing primary : Metadata}
    (h : replaceRefusal? kind recorded existing primary = none) :
    (recorded.metadata.name = "" ∨ recorded.metadata.name = primary.displayName) ∧
      ∃ reference, existing.controller? = some reference ∧ reference.kind = kind.kind ∧
        primary.uid = some reference.uid := by
  unfold replaceRefusal? at h
  simp only at h
  split at h
  · cases h
  · next hname =>
    split at h
    · next hcontrolled =>
      refine ⟨?_, ?_⟩
      · by_cases hempty : recorded.metadata.name = ""
        · exact .inl hempty
        · rw [Option.filter_eq_none_iff] at hname
          refine .inr ?_
          simpa using hname recorded.metadata.name (by simp [Snapshot.recordedName?, hempty])
      · unfold Metadata.isControlledBy at hcontrolled
        split at hcontrolled
        · cases hcontrolled
        · next reference hreference =>
          exact ⟨reference, hreference, by simpa using hcontrolled⟩
    · cases h

/-- A refusal is no failed call. -/
theorem replace_refusal_ne_api {recorded : Snapshot σ} {existing primary : Metadata}
    {refusal : SyncFailure} (h : replaceRefusal? kind recorded existing primary = some refusal)
    (failure : ApiFailure) : refusal ≠ .api failure := by
  unfold replaceRefusal? at h
  simp only at h
  split at h
  · cases h
    exact nofun
  · split at h
    · cases h
    · cases h
      exact nofun

variable [DecidableEq σ]

/-- What a derived object has to be before it is replaced on behalf of a primary one: its record
can be read, differs from what is declared, and is nameless or of the same name; and the primary
object controls it. -/
structure Replaceable (kind : PrimaryKind σ) (primary : Primary σ) (existing : Metadata) :
    Prop where
  /-- The record. -/
  recorded : ∃ snapshot, Recorded kind existing.annotations snapshot ∧
    snapshot.agrees (Snapshot.capture primary) = false ∧
    (snapshot.metadata.name = "" ∨ snapshot.metadata.name = primary.metadata.displayName)
  /-- The controller. -/
  controlled : ∃ reference, existing.controller? = some reference ∧
    reference.kind = kind.kind ∧ primary.metadata.uid = some reference.uid

/-- A write for a derived object: it is created if it is missing, and otherwise replaced if that
is allowed. -/
inductive WriteAllowed (kind : PrimaryKind σ) (primary : Primary σ) (existing : Option Metadata)
    (create replace : Write) : Write → Prop where
  /-- The object is missing. -/
  | create (h : existing = none) : WriteAllowed kind primary existing create replace create
  /-- The object may be replaced. -/
  | replace {metadata} (h : existing = some metadata)
      (hreplaceable : Replaceable kind primary metadata) :
    WriteAllowed kind primary existing create replace replace

variable {primary : Primary σ} {existing : Option Metadata} {create replace : Write}

/-- The metadata of a derived object record the declared state of a primary one: the snapshot is
recovered, and agrees. -/
def Metadata.Records (kind : PrimaryKind σ) (metadata : Metadata) (primary : Primary σ) : Prop :=
  ∃ snapshot, Snapshot.recover kind metadata.annotations = .ok snapshot ∧
    snapshot.agrees (Snapshot.capture primary) = true

/-- A derived object that records the declared state is left alone. -/
theorem converge_recorded_of_records {metadata : Metadata} (h : metadata.Records kind primary)
    (create replace : Write) (rest : SyncOutcome → Sync) :
    convergeRecorded kind primary (some metadata) create replace rest = rest .unchanged := by
  obtain ⟨snapshot, hrecover, hagrees⟩ := h
  simp only [convergeRecorded, hrecover, hagrees, if_true]

/-- The recording object is there and refused, or left alone because it records the declared state,
or written if that is allowed. Only in the last two cases the sync goes on. -/
theorem converge_recorded_cases (kind : PrimaryKind σ) (primary : Primary σ)
    (existing : Option Metadata) (create replace : Write) :
    (∃ refusal, existing ≠ none ∧ (∀ failure, refusal ≠ .api failure) ∧
      ∀ rest, convergeRecorded kind primary existing create replace rest =
        .finished (.error refusal)) ∨
    ((∃ metadata, existing = some metadata ∧ metadata.Records kind primary) ∧
      ∀ rest, convergeRecorded kind primary existing create replace rest = rest .unchanged) ∨
    ∃ write outcome, WriteAllowed kind primary existing create replace write ∧
      (outcome = .created ∨ outcome = .updated) ∧
      ∀ rest, convergeRecorded kind primary existing create replace rest =
        .attempt write (rest outcome) := by
  cases existing with
  | none => exact .inr (.inr ⟨create, .created, .create rfl, .inl rfl, fun _ => rfl⟩)
  | some metadata =>
    cases hrecover : Snapshot.recover kind metadata.annotations with
    | error failure =>
      refine .inl ⟨failure, nofun, ?_, fun rest => by simp only [convergeRecorded, hrecover]⟩
      rintro api rfl
      exact recover_ne_api _ api hrecover
    | ok recorded =>
      by_cases hagrees : recorded.agrees (Snapshot.capture primary) = true
      · have hrecords : metadata.Records kind primary := ⟨recorded, hrecover, hagrees⟩
        exact .inr (.inl ⟨⟨metadata, rfl, hrecords⟩,
          fun rest => converge_recorded_of_records hrecords create replace rest⟩)
      · cases hrefusal : replaceRefusal? kind recorded metadata primary.metadata with
        | some refusal =>
          refine .inl ⟨refusal, nofun, replace_refusal_ne_api hrefusal, fun rest => ?_⟩
          simp [convergeRecorded, hrecover, hagrees, hrefusal]
        | none =>
          obtain ⟨hname, hcontrolled⟩ := of_replace_refusal_eq_none hrefusal
          have hreplaceable : Replaceable kind primary metadata :=
            ⟨⟨recorded, recorded_of_recover hrecover, by simpa using hagrees, hname⟩, hcontrolled⟩
          refine .inr (.inr ⟨replace, .updated, .replace rfl hreplaceable, .inr rfl, fun rest => ?_⟩)
          simp [convergeRecorded, hrecover, hagrees, hrefusal]

/-- The part of a sync that brings the recording object up to date, and nothing more. -/
def recordedStep (kind : PrimaryKind σ) (primary : Primary σ) (existing : Option Metadata)
    (create replace : Write) : Sync :=
  convergeRecorded kind primary existing create replace fun outcome => .finished (.ok outcome)

variable {calls : List Call} {result : SyncResult}

/-- A course of this part makes at most one call, which is allowed. -/
theorem recorded_step_course
    (h : (recordedStep kind primary existing create replace).Course calls result) :
    (calls = [] ∧ (result = .ok .unchanged ∨
      ∃ refusal, result = .error refusal ∧ ∀ failure, refusal ≠ .api failure)) ∨
    ∃ write, WriteAllowed kind primary existing create replace write ∧
      ((∃ failure, calls = [⟨write, .error failure⟩] ∧ result = .error (.api failure)) ∨
        ∃ outcome, outcome ≠ .missing ∧ calls = [⟨write, .ok ()⟩] ∧ result = .ok outcome) := by
  unfold recordedStep at h
  obtain ⟨refusal, -, hrefused, hstep⟩ | ⟨-, hstep⟩ | ⟨write, outcome, hallowed, houtcome, hstep⟩ :=
    converge_recorded_cases kind primary existing create replace
  · obtain ⟨rfl, rfl⟩ := Sync.finished_course (hstep _ ▸ h)
    exact .inl ⟨rfl, .inr ⟨refusal, rfl, hrefused⟩⟩
  · obtain ⟨rfl, rfl⟩ := Sync.finished_course (hstep _ ▸ h)
    exact .inl ⟨rfl, .inl rfl⟩
  · refine .inr ⟨write, hallowed, ?_⟩
    obtain hfailed | ⟨later, rfl, hrest⟩ := Sync.attempt_course (hstep _ ▸ h)
    · exact .inl hfailed
    · obtain ⟨rfl, rfl⟩ := Sync.finished_course hrest
      exact .inr ⟨outcome, by rcases houtcome with rfl | rfl <;> exact nofun, rfl, rfl⟩

/-- A sync brings the recording object up to date first, and goes on only if that succeeded. -/
theorem converge_recorded_course {rest : SyncOutcome → Sync}
    (h : (convergeRecorded kind primary existing create replace rest).Course calls result) :
    (∃ failure, (recordedStep kind primary existing create replace).Course calls (.error failure) ∧
      result = .error failure) ∨
    ∃ outcome first later, calls = first ++ later ∧
      (recordedStep kind primary existing create replace).Course first (.ok outcome) ∧
      (rest outcome).Course later result := by
  unfold recordedStep
  obtain ⟨refusal, -, -, hstep⟩ | ⟨-, hstep⟩ | ⟨write, outcome, -, -, hstep⟩ :=
    converge_recorded_cases kind primary existing create replace
  · obtain ⟨rfl, rfl⟩ := Sync.finished_course (hstep _ ▸ h)
    exact .inl ⟨refusal, hstep _ ▸ .finished, rfl⟩
  · rw [hstep] at h
    exact .inr ⟨.unchanged, [], calls, rfl, hstep _ ▸ .finished, h⟩
  · obtain ⟨failure, rfl, rfl⟩ | ⟨later, rfl, hrest⟩ := Sync.attempt_course (hstep _ ▸ h)
    · exact .inl ⟨_, hstep _ ▸ .writing _ .finished, rfl⟩
    · exact .inr ⟨outcome, [_], later, rfl, hstep _ ▸ .writing _ .finished, hrest⟩

end Recorded

end FunctionOperator
