import FunctionOperator.Proofs.Cache.Store
import FunctionOperator.Proofs.Convergence.Cluster
import FunctionOperator.Proofs.Snapshot
import FunctionOperator.Proofs.Sync.Courses

/-!
# What the operator owes to every function ingress

The invariant of a cluster. Read `Cluster.Followed` first: for every known function ingress, its key
is still awaited by the queue, or a worker is about to end with a result that fits it, or the last
result fits it. What fits is said by `LastSync.Fits`. `Invariant` adds what the proof needs about
names: every key has one object, and so the writes of one worker leave the objects of the others
alone.
-/

namespace FunctionOperator

namespace WorkQueue

/-- A key will be handed out again: it is dirty, or it is delayed. -/
def Awaits (queue : WorkQueue) (key : String) : Prop :=
  key ∈ queue.dirty ∨ ∃ entry ∈ queue.delayed, entry.key = key

variable {queue : WorkQueue} {key : String}

/-- A key that is added is awaited. -/
theorem awaits_add (hopen : queue.shuttingDown = false) (key : String) :
    (queue.add key).Awaits key := by
  obtain ⟨hadd, hshut | hdirty⟩ | ⟨hadd, -⟩ | ⟨hadd, -⟩ := add_cases queue key
  · simp [hopen] at hshut
  · rw [hadd]
    exact .inl hdirty
  · rw [hadd]
    exact .inl List.mem_cons_self
  · rw [hadd]
    exact .inl List.mem_cons_self

namespace Awaits

/-- What is awaited stays so when a key is added. -/
theorem add (h : queue.Awaits key) (other : String) : (queue.add other).Awaits key := by
  refine h.imp (fun hdirty => ?_) fun hdelayed => by rwa [add_delayed]
  obtain ⟨hadd, -⟩ | ⟨hadd, -⟩ | ⟨hadd, -⟩ := add_cases queue other
  · rwa [hadd]
  · rw [hadd]
    exact List.mem_cons_of_mem _ hdirty
  · rw [hadd]
    exact List.mem_cons_of_mem _ hdirty

/-- What is awaited stays so when keys are added. -/
theorem foldl_add (h : queue.Awaits key) (keys : List String) :
    (keys.foldl WorkQueue.add queue).Awaits key := by
  induction keys generalizing queue with
  | nil => exact h
  | cons other keys ih => exact ih (h.add other)

/-- What is awaited stays so when a key is added with a delay. -/
theorem add_after (h : queue.Awaits key) (other : String) (delay : Duration) :
    (queue.addAfter other delay).Awaits key := by
  obtain ⟨hadd, -⟩ | ⟨hadd, -⟩ | ⟨hadd, -⟩ := add_after_cases queue other delay
  · rw [hadd]
    exact h.add other
  · rwa [hadd]
  · rw [hadd]
    refine h.imp id ?_
    rintro ⟨entry, hentry, hkey⟩
    exact ⟨entry, List.mem_append_left _ hentry, hkey⟩

/-- What is awaited stays so when a key is given back. -/
theorem release (h : queue.Awaits key) (other : String) : (queue.release other).Awaits key := by
  obtain ⟨hrelease, -⟩ | ⟨hrelease, -⟩ := release_cases queue other <;> rw [hrelease] <;> exact h

/-- What is awaited stays so when a delayed key is added. -/
theorem fire (h : queue.Awaits key) (hopen : queue.shuttingDown = false) (entry : DelayedKey) :
    (queue.fire entry).Awaits key := by
  by_cases heq : entry.key = key
  · rw [← heq]
    refine awaits_add ?_ _
    exact hopen
  · refine Awaits.add ?_ entry.key
    refine h.imp id ?_
    rintro ⟨other, hother, hkey⟩
    refine ⟨other, (List.mem_erase_of_ne ?_).2 hother, hkey⟩
    rintro rfl
    exact heq hkey

/-- What is awaited stays so when another key is handed out. -/
theorem take (h : queue.Awaits key) {other : String} {next : WorkQueue}
    (htake : queue.take? = some (other, next)) (hne : key ≠ other) : next.Awaits key := by
  obtain ⟨rest, -, rfl⟩ := take_eq_some htake
  refine h.imp (fun hdirty => ?_) id
  exact List.mem_filter.2 ⟨hdirty, by simpa using hne⟩

end Awaits

end WorkQueue

/-! ## Results that fit -/

namespace FunctionIngress

/-- A function ingress of a name and a namespace that does not itself carry a record. -/
structure Admitted (object : FunctionIngress) (id : ObjectId) : Prop where
  /-- The name and the namespace. -/
  named : object.metadata.Named id
  /-- There is no record. -/
  unmarked : object.metadata.userAnnotations.get? FunctionIngress.kind.snapshotKey = none

/-- Two versions that declare the same state. -/
def SameState (first second : FunctionIngress) : Prop :=
  first.spec = second.spec ∧ first.metadata.userAnnotations = second.metadata.userAnnotations

end FunctionIngress

/-- An ingress records the declared state of a function ingress: its snapshot is recovered, and
matches. -/
def Ingress.Records (ingress : Ingress) (object : FunctionIngress) : Prop :=
  ∃ snapshot, Snapshot.recover FunctionIngress.kind ingress.metadata.annotations = .ok snapshot ∧
    snapshot.agrees (Snapshot.capture object) = true

/-- There is an ingress, and it records the declared state of a function ingress. -/
def RecordedIn (ingress : Option Ingress) (object : FunctionIngress) : Prop :=
  ∃ found, ingress = some found ∧ found.Records object

/-- An ingress is seen to record a state by reading its snapshot. -/
instance (ingress : Ingress) (object : FunctionIngress) : Decidable (ingress.Records object) :=
  match h : Snapshot.recover FunctionIngress.kind ingress.metadata.annotations with
  | .ok snapshot => decidable_of_iff (snapshot.agrees (Snapshot.capture object) = true)
      ⟨fun hagrees => ⟨snapshot, h, hagrees⟩, fun ⟨_, hrecover, hagrees⟩ => by
        cases h.symm.trans hrecover
        exact hagrees⟩
  | .error _ => isFalse fun ⟨_, hrecover, _⟩ => by cases h.symm.trans hrecover

/-- So is one that may be missing. -/
instance (ingress : Option Ingress) (object : FunctionIngress) :
    Decidable (RecordedIn ingress object) :=
  match ingress with
  | none => isFalse fun ⟨_, h, _⟩ => by cases h
  | some found => decidable_of_iff (found.Records object)
      ⟨fun h => ⟨found, rfl, h⟩, fun ⟨_, heq, h⟩ => by
        cases heq
        exact h⟩

/-- A result fits a function ingress if it is a failure, or if the ingress of the API server records
the declared state; an ingress that was left alone does so exactly if it did when its cached version
was read. -/
def LastSync.Fits (last : LastSync) (ingress : Option Ingress) (object : FunctionIngress) : Prop :=
  ∀ outcome, last.result = .ok outcome → outcome ≠ .missing ∧
    (RecordedIn ingress object ↔ (outcome = .unchanged → RecordedIn last.seen object))

namespace FunctionIngress.SameState

variable {first second third : FunctionIngress}

/-- What records one version records the other. -/
theorem records_iff (h : first.SameState second) (ingress : Ingress) :
    ingress.Records first ↔ ingress.Records second := by
  have hcapture : ∀ snapshot : Snapshot FunctionIngressSpec,
      snapshot.agrees (Snapshot.capture first) = snapshot.agrees (Snapshot.capture second) := by
    intro snapshot
    rw [Snapshot.agrees, Snapshot.agrees, Snapshot.capture, Snapshot.capture, h.1, h.2]
  simp only [Ingress.Records, hcapture]

/-- What is recorded for one version is recorded for the other. -/
theorem recorded_iff (h : first.SameState second) (ingress : Option Ingress) :
    RecordedIn ingress first ↔ RecordedIn ingress second := by
  simp only [RecordedIn, h.records_iff]

/-- What fits one version fits the other. -/
theorem fits (h : first.SameState second) {last : LastSync} {ingress : Option Ingress}
    (hfits : last.Fits ingress first) : last.Fits ingress second := by
  intro outcome hresult
  obtain ⟨hpresent, hiff⟩ := hfits outcome hresult
  exact ⟨hpresent, by rw [← h.recorded_iff, ← h.recorded_iff, hiff]⟩

theorem trans (h : first.SameState second) (h' : second.SameState third) :
    first.SameState third :=
  ⟨h.1.trans h'.1, h.2.trans h'.2⟩

end FunctionIngress.SameState

/-- Versions between which nothing declared changed declare the same state. -/
theorem same_state_of_unchanged {old new : FunctionIngress}
    (h : old.desiredStateChanged new = false) : old.SameState new := by
  simpa [Primary.desiredStateChanged, FunctionIngress.SameState] using h

namespace SyncPhase

/-- What a worker aims at: the object that its key names, and a write for an ingress of that name. -/
inductive Aimed (key : String) : SyncPhase → Prop where
  /-- It has only taken the key. -/
  | taken : Aimed key .taken
  /-- It has found the function ingress. -/
  | found {primary space name} (hsplit : Key.split key = .ok (space, name))
      (hadmitted : primary.Admitted ⟨some space, name⟩) : Aimed key (.found primary)
  /-- It is about to write. -/
  | writing {seen write space name object outcome} (hsplit : Key.split key = .ok (space, name))
      (hspace : space ≠ "") (hname : object.metadata.name = some name)
      (hwrite : write = .createIngress space object ∨ write = .replaceIngress space object) :
    Aimed key (.reading seen (.attempt write (.finished (.ok outcome))))
  /-- It is done. -/
  | finished {seen result} : Aimed key (.reading seen (.finished result))

/-- What a worker will do fits a function ingress, as things are on the API server. -/
inductive Serves (ingress : Option Ingress) (object : FunctionIngress) : SyncPhase → Prop where
  /-- It has only taken the key. -/
  | taken : Serves ingress object .taken
  /-- It has found a version that declares the same state. -/
  | found {primary} (hstate : primary.SameState object) : Serves ingress object (.found primary)
  /-- It is about to write what records the declared state. -/
  | writing {seen write space written outcome}
      (hwrite : write = .createIngress space written ∨ write = .replaceIngress space written)
      (hrecords : written.Records object) (houtcome : outcome = .created ∨ outcome = .updated) :
    Serves ingress object (.reading seen (.attempt write (.finished (.ok outcome))))
  /-- It is done, and the result fits. -/
  | finished {seen result} (hfits : LastSync.Fits ⟨result, seen⟩ ingress object) :
    Serves ingress object (.reading seen (.finished result))

/-- What fits one version fits another one that declares the same state. -/
theorem Serves.same_state {ingress : Option Ingress} {first second : FunctionIngress}
    {phase : SyncPhase} (h : phase.Serves ingress first) (hsame : first.SameState second) :
    phase.Serves ingress second := by
  cases h with
  | taken => exact .taken
  | found hstate => exact .found (hstate.trans hsame)
  | writing hwrite hrecords houtcome =>
    exact .writing hwrite ((hsame.records_iff _).1 hrecords) houtcome
  | finished hfits => exact .finished (hsame.fits hfits)

variable {key : String} {seen ingress : Option Ingress} {object : FunctionIngress} {write : Write}
  {resume : Except ApiFailure Unit → Sync}

/-- A worker that is about to write writes an ingress of the name in its key, and ends with the
answer. -/
theorem Aimed.of_writing (h : Aimed key (.reading seen (.writing write resume))) :
    ∃ space name written, Key.split key = .ok (space, name) ∧ space ≠ "" ∧
      written.metadata.name = some name ∧
      (write = .createIngress space written ∨ write = .replaceIngress space written) ∧
      (∀ failure, resume (.error failure) = .finished (.error (.api failure))) ∧
      ∃ outcome, resume (.ok ()) = .finished (.ok outcome) := by
  cases h with
  | writing hsplit hspace hname hwrite =>
    exact ⟨_, _, _, hsplit, hspace, hname, hwrite, fun _ => rfl, _, rfl⟩

/-- A worker that serves a function ingress with a write records its declared state. -/
theorem Serves.of_writing (h : Serves ingress object (.reading seen (.writing write resume))) :
    ∃ space written outcome,
      (write = .createIngress space written ∨ write = .replaceIngress space written) ∧
      written.Records object ∧ (outcome = .created ∨ outcome = .updated) ∧
      resume (.ok ()) = .finished (.ok outcome) := by
  cases h with
  | writing hwrite hrecords houtcome => exact ⟨_, _, _, hwrite, hrecords, houtcome, rfl⟩

/-- Whether a write serves a function ingress does not depend on what the API server has. -/
theorem Serves.writing_frame {other : Option Ingress}
    (h : Serves ingress object (.reading seen (.writing write resume))) :
    Serves other object (.reading seen (.writing write resume)) := by
  cases h with
  | writing hwrite hrecords houtcome => exact .writing hwrite hrecords houtcome

end SyncPhase

namespace Cluster

/-- The operator follows a function ingress: it will look at it again, or a worker serves it, or the
last result fits it. -/
inductive Followed (cluster : Cluster) (id : ObjectId) (object : FunctionIngress) : Prop where
  /-- The queue awaits its key. -/
  | awaited (h : cluster.queue.Awaits (Key.ofMetadata object.metadata))
  /-- A worker serves it. -/
  | served {worker phase} (hjob : cluster.jobs worker = some ⟨Key.ofMetadata object.metadata, phase⟩)
      (hserves : phase.Serves (cluster.ingresses.find? id) object)
  /-- No worker is at it, and the last result fits it. -/
  | done {last} (hidle : ∀ worker job, cluster.jobs worker = some job →
        job.key ≠ Key.ofMetadata object.metadata)
      (hlast : cluster.last (Key.ofMetadata object.metadata) = some last)
      (hfits : last.Fits (cluster.ingresses.find? id) object)

/-- What holds of a cluster at all times. -/
structure Invariant (cluster : Cluster) : Prop where
  /-- The queue hands each key to one worker at a time. -/
  single_flight : cluster.queue.SingleFlight
  /-- The queue accepts keys. -/
  accepts : cluster.queue.shuttingDown = false
  /-- What the queue takes as held is what workers are at. -/
  mem_in_flight : ∀ key, key ∈ cluster.queue.inFlight ↔
    ∃ worker job, cluster.jobs worker = some job ∧ job.key = key
  /-- No two workers are at one key. -/
  one_worker : ∀ first second job other, cluster.jobs first = some job →
    cluster.jobs second = some other → job.key = other.key → first = second
  /-- Workers aim at what their keys name. -/
  aimed : ∀ worker job, cluster.jobs worker = some job → job.phase.Aimed job.key
  /-- All function ingresses on the API server are admitted. -/
  primaries : ∀ id object, cluster.primaries.find? id = some object → object.Admitted id
  /-- All function ingresses that the operator knows are admitted. -/
  known_primaries : ∀ id object, cluster.knownPrimaries.find? id = some object → object.Admitted id
  /-- All function ingresses that the operator will learn of are admitted. -/
  primary_feed : ∀ event ∈ cluster.primaryFeed, ∃ id object, object.Admitted id ∧
    (event = .applied object ∨ event = .deleted object)
  /-- All ingresses that the operator knows have a namespace. -/
  known_ingresses : cluster.knownIngresses.Namespaced
  /-- All ingresses that the operator will learn of have a namespace. -/
  ingress_feed : ∀ event ∈ cluster.ingressFeed, ∃ id object, object.metadata.Named id ∧
    event = .applied object
  /-- All known function ingresses are followed. -/
  followed : ∀ id object, cluster.knownPrimaries.find? id = some object →
    cluster.Followed id object

/-! ## Keys and names -/

/-- The key of an admitted function ingress is that of its namespace and name. -/
theorem key_of_named {metadata : Metadata} {id : ObjectId} (h : metadata.Named id) :
    ∃ space name, id = ⟨some space, name⟩ ∧ space ≠ "" ∧
      Key.ofMetadata metadata = Key.of (some space) name := by
  obtain ⟨space, name, hid, hspace, hname, hmetadata⟩ := h.eq_some
  exact ⟨space, name, hid, hspace, by simp [Key.ofMetadata, Metadata.displayName, hname, hmetadata]⟩

/-- A key that names something is the key of this object only. -/
theorem id_of_split {metadata : Metadata} {id : ObjectId} (h : metadata.Named id)
    {space name : String} (hsplit : Key.split (Key.ofMetadata metadata) = .ok (space, name)) :
    id = ⟨some space, name⟩ := by
  obtain ⟨space', name', rfl, hspace, hkey⟩ := key_of_named h
  rw [hkey] at hsplit
  obtain ⟨rfl, rfl⟩ := Key.split_of hspace hsplit
  rfl

/-- Objects of another key have another name. -/
theorem ne_of_key_ne {metadata : Metadata} {id : ObjectId} (h : metadata.Named id)
    {key space name : String} (hsplit : Key.split key = .ok (space, name)) (hspace : space ≠ "")
    (hne : Key.ofMetadata metadata ≠ key) : id ≠ ⟨some space, name⟩ := by
  rintro rfl
  obtain ⟨space', name', hid, -, hkey⟩ := key_of_named h
  cases hid
  exact hne (hkey.trans (Key.of_split hsplit hspace))

/-! ## Followed function ingresses -/

namespace Followed

variable {cluster next : Cluster} {id : ObjectId} {object : FunctionIngress}

/-- A function ingress stays followed by what is not about its key. -/
theorem keep (h : cluster.Followed id object)
    (hqueue : cluster.queue.Awaits (Key.ofMetadata object.metadata) →
      next.queue.Awaits (Key.ofMetadata object.metadata))
    (hjobs : ∀ worker job, job.key = Key.ofMetadata object.metadata →
      (next.jobs worker = some job ↔ cluster.jobs worker = some job))
    (hlast : next.last (Key.ofMetadata object.metadata) =
      cluster.last (Key.ofMetadata object.metadata))
    (hingress : next.ingresses.find? id = cluster.ingresses.find? id) :
    next.Followed id object := by
  cases h with
  | awaited h => exact .awaited (hqueue h)
  | served hjob hserves =>
    refine .served ((hjobs _ _ rfl).2 hjob) ?_
    rwa [hingress]
  | done hidle hresult hfits =>
    refine .done (fun worker job hjob hkey => ?_) (hlast.trans hresult) ?_
    · exact hidle worker job ((hjobs worker job hkey).1 hjob) hkey
    · rwa [hingress]

/-- A function ingress is followed with any version that declares the same state. -/
theorem same_state {other : FunctionIngress} (h : cluster.Followed id object)
    (hkey : Key.ofMetadata other.metadata = Key.ofMetadata object.metadata)
    (hsame : object.SameState other) : cluster.Followed id other := by
  cases h with
  | awaited h => exact .awaited (hkey ▸ h)
  | served hjob hserves => exact .served (hkey ▸ hjob) (hserves.same_state hsame)
  | done hidle hlast hfits => exact .done (hkey ▸ hidle) (hkey ▸ hlast) (hsame.fits hfits)

/-- A worker that is at the key of a followed function ingress serves it, or the queue awaits it. -/
theorem served_by (h : cluster.Followed id object) (hinvariant : cluster.Invariant) {worker : Nat}
    {phase : SyncPhase}
    (hjob : cluster.jobs worker = some ⟨Key.ofMetadata object.metadata, phase⟩) :
    cluster.queue.Awaits (Key.ofMetadata object.metadata) ∨
      phase.Serves (cluster.ingresses.find? id) object := by
  cases h with
  | awaited h => exact .inl h
  | @served other phase' hother hserves =>
    obtain rfl := hinvariant.one_worker worker other _ _ hjob hother rfl
    rw [hjob, Option.some.injEq, SyncJob.mk.injEq] at hother
    exact .inr (hother.2 ▸ hserves)
  | done hidle => exact absurd rfl (hidle worker _ hjob)

end Followed

end Cluster

end FunctionOperator
