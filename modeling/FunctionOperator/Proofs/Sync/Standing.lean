import FunctionOperator.Proofs.Cache.Store
import FunctionOperator.Proofs.Sync.Records
import FunctionOperator.Proofs.Sync.WriteSafety

/-!
# How derived objects stand after a sync

Whose the derived objects of a primary object are once a sync of it went well. Read `standing`,
`Metadata.OwnedBy` and `Metadata.Disowned` first. What the sync writes is owned by the primary
object, and a recording object that differs from what is declared and is not owned by it is refused.
What already records the declared state is left alone, whoever it belongs to, and so is a service
that exists.
-/

namespace FunctionOperator

/-! ## What stands -/

section Standing

variable {α : Type}

/-- The objects that the API accepted in some calls, of those that `written?` looks for. -/
def landed (written? : Write → Option α) (calls : List Call) : List α :=
  calls.filterMap fun call =>
    match call.answer with
    | .ok _ => written? call.write
    | .error _ => none

/-- An object as it stands after some calls: as it was written last, or else as it was before. -/
def standing (written? : Write → Option α) (before : Option α) (calls : List Call) : Option α :=
  (landed written? calls).getLast?.or before

/-- What is written in one of two stretches of calls is written in both. -/
theorem landed_append (written? : Write → Option α) (calls later : List Call) :
    landed written? (calls ++ later) = landed written? calls ++ landed written? later :=
  List.filterMap_append

/-- Calls that write nothing of the kind leave no such object. -/
theorem landed_eq_nil {written? : Write → Option α} {calls : List Call}
    (h : ∀ call ∈ calls, written? call.write = none) : landed written? calls = [] := by
  refine List.filterMap_eq_nil_iff.2 fun call hcall => ?_
  split
  · exact h call hcall
  · rfl

/-- An accepted write leaves its object. -/
theorem landed_singleton {written? : Write → Option α} {write : Write} {object : α}
    (h : written? write = some object) : landed written? [⟨write, .ok ()⟩] = [object] := by
  simp [landed, h]

/-- An object stands as it was before if none was written. -/
theorem standing_of_landed_nil {written? : Write → Option α} {calls : List Call}
    (h : landed written? calls = []) (before : Option α) :
    standing written? before calls = before := by
  rw [standing, h]
  rfl

/-- An object stands as it was written if it was written once. -/
theorem standing_of_landed_singleton {written? : Write → Option α} {calls : List Call}
    {object : α} (h : landed written? calls = [object]) (before : Option α) :
    standing written? before calls = some object := by
  rw [standing, h]
  rfl

end Standing

namespace Write

/-- A written object, if it is the one of a name in a namespace. -/
def aimed? {α : Type} [HasMetadata α] (space name target : String) (object : α) : Option α :=
  if target = space ∧ (HasMetadata.metadata object).name = some name then some object else none

/-- The ingress of a name in a namespace that is written. -/
def ingress? (space name : String) : Write → Option Ingress
  | .createIngress target object => aimed? space name target object
  | .replaceIngress target object => aimed? space name target object
  | _ => none

/-- The deployment of a name in a namespace that is written. -/
def deployment? (space name : String) : Write → Option Deployment
  | .createDeployment target object => aimed? space name target object
  | .replaceDeployment target object => aimed? space name target object
  | _ => none

/-- The service of a name in a namespace that is written. -/
def service? (space name : String) : Write → Option Service
  | .createService target object => aimed? space name target object
  | _ => none

end Write

/-! ## Whose an object is -/

namespace Metadata

variable {σ : Type} {kind : PrimaryKind σ} {metadata : Metadata} {primary : Primary σ}

/-- A derived object belongs to a primary one: this controls it, and what the derived object records
is of no other name. -/
structure OwnedBy (kind : PrimaryKind σ) (metadata : Metadata) (primary : Primary σ) : Prop where
  /-- The primary object is the controller. -/
  controlled : metadata.isControlledBy kind.kind primary.metadata = true
  /-- The record is of its name, if of any. -/
  named : ∀ snapshot previous, Snapshot.recover kind metadata.annotations = .ok snapshot →
    snapshot.recordedName? = some previous → previous = primary.metadata.displayName

/-- What is wrong with an object that does not belong to a primary one. -/
inductive Disowned (kind : PrimaryKind σ) (metadata : Metadata) (primary : Primary σ) :
    SyncFailure → Prop where
  /-- The record cannot be read. -/
  | corrupt {failure} (h : Snapshot.recover kind metadata.annotations = .error failure) :
    Disowned kind metadata primary failure
  /-- The record is of another name. -/
  | renamed {snapshot previous} (h : Snapshot.recover kind metadata.annotations = .ok snapshot)
      (hprevious : snapshot.recordedName? = some previous)
      (hother : previous ≠ primary.metadata.displayName) :
    Disowned kind metadata primary (.rename previous primary.metadata.displayName)
  /-- The record is of no other name, but the primary object is not the controller. -/
  | unmanaged {snapshot} (h : Snapshot.recover kind metadata.annotations = .ok snapshot)
      (hsame : ∀ previous, snapshot.recordedName? = some previous →
        previous = primary.metadata.displayName)
      (hcontroller : metadata.isControlledBy kind.kind primary.metadata = false) :
    Disowned kind metadata primary (.resourceExists
      (primary.metadata.space.getD "" ++ "/" ++ primary.metadata.displayName) kind.kind
      primary.metadata.displayName)

/-- An object that carries the declared state of its controller belongs to it. -/
theorem Carries.owned_by (h : metadata.Carries kind primary)
    (hname : primary.metadata.name.isSome = true)
    (hcontrolled : metadata.isControlledBy kind.kind primary.metadata = true) :
    metadata.OwnedBy kind primary := by
  refine ⟨hcontrolled, fun snapshot previous hrecover hprevious => ?_⟩
  obtain ⟨name, hname⟩ := Option.isSome_iff_exists.1 hname
  obtain rfl : Snapshot.capture primary = snapshot := Except.ok.inj (h.symm.trans hrecover)
  obtain ⟨hprevious, -⟩ := Option.filter_eq_some_iff.1 hprevious
  rw [← Option.some.inj hprevious, displayName, Snapshot.capture, hname]
  rfl

/-- A recording object that differs from what is declared and belongs to nobody or to another one is
refused, whatever would come next. -/
theorem converge_recorded_disowned [DecidableEq σ] (hrecords : ¬ metadata.Records kind primary)
    (howned : ¬ metadata.OwnedBy kind primary) :
    ∃ refusal, metadata.Disowned kind primary refusal ∧ ∀ create replace rest,
      convergeRecorded kind primary (some metadata) create replace rest =
        .finished (.error refusal) := by
  cases hrecover : Snapshot.recover kind metadata.annotations with
  | error failure =>
    exact ⟨failure, .corrupt hrecover, fun _ _ _ => by simp only [convergeRecorded, hrecover]⟩
  | ok snapshot =>
    have hdiffers : ¬ snapshot.agrees (Snapshot.capture primary) = true :=
      fun hagrees => hrecords ⟨snapshot, hrecover, hagrees⟩
    cases hforeign : snapshot.recordedName?.filter (· != primary.metadata.displayName) with
    | some previous =>
      obtain ⟨hprevious, hother⟩ := Option.filter_eq_some_iff.1 hforeign
      refine ⟨_, .renamed hrecover hprevious (by simpa using hother), fun _ _ _ => ?_⟩
      simp [convergeRecorded, hrecover, hdiffers, replaceRefusal?, hforeign]
    | none =>
      have hsame (previous : String) (hprevious : snapshot.recordedName? = some previous) :
          previous = primary.metadata.displayName := by
        simpa using Option.filter_eq_none_iff.1 hforeign previous hprevious
      have hcontroller : metadata.isControlledBy kind.kind primary.metadata = false := by
        refine Bool.eq_false_iff.2 fun hcontrolled => howned ⟨hcontrolled, ?_⟩
        intro other previous hother
        obtain rfl : snapshot = other := Except.ok.inj (hrecover.symm.trans hother)
        exact hsame previous
      refine ⟨_, .unmanaged hrecover hsame hcontroller, fun _ _ _ => ?_⟩
      simp [convergeRecorded, hrecover, hdiffers, replaceRefusal?, hforeign, hcontroller]

/-- The refusal of such an object is all that a sync of it comes to. -/
theorem disowned_course [DecidableEq σ] {create replace : Write} {rest : SyncOutcome → Sync}
    {calls : List Call} {result : SyncResult}
    (h : (convergeRecorded kind primary (some metadata) create replace rest).Course calls result)
    (hrecords : ¬ metadata.Records kind primary) (howned : ¬ metadata.OwnedBy kind primary) :
    calls = [] ∧ ∃ refusal, result = .error refusal ∧ metadata.Disowned kind primary refusal := by
  obtain ⟨refusal, hdisowned, hrefused⟩ := converge_recorded_disowned hrecords howned
  obtain ⟨rfl, rfl⟩ := Sync.finished_course (hrefused _ _ _ ▸ h)
  exact ⟨rfl, refusal, rfl, hdisowned⟩

end Metadata

/-- A sync of the recording object that went well left it alone because it records the declared
state, or wrote it as it is allowed. -/
theorem recorded_step_ok {σ : Type} [DecidableEq σ] {kind : PrimaryKind σ} {primary : Primary σ}
    {existing : Option Metadata} {create replace : Write} {calls : List Call}
    {outcome : SyncOutcome}
    (h : (recordedStep kind primary existing create replace).Course calls (.ok outcome)) :
    (calls = [] ∧ ∃ metadata, existing = some metadata ∧ metadata.Records kind primary) ∨
      ∃ write, WriteAllowed kind primary existing create replace write ∧
        calls = [⟨write, .ok ()⟩] := by
  unfold recordedStep at h
  obtain ⟨refusal, -, -, hstep⟩ | ⟨hrecords, hstep⟩ | ⟨write, _, hallowed, -, hstep⟩ :=
    converge_recorded_cases kind primary existing create replace
  · cases (Sync.finished_course (hstep _ ▸ h)).2
  · exact .inl ⟨(Sync.finished_course (hstep _ ▸ h)).1, hrecords⟩
  · obtain ⟨failure, -, hfailed⟩ | ⟨later, rfl, hrest⟩ := Sync.attempt_course (hstep _ ▸ h)
    · cases hfailed
    · obtain ⟨rfl, -⟩ := Sync.finished_course hrest
      exact .inr ⟨write, hallowed, rfl⟩

/-! ## Function ingresses -/

namespace FunctionIngressCaches

variable {caches : FunctionIngressCaches} {primary : FunctionIngress}
variable {calls : List Call} {result : SyncResult}

/-- The cached ingress of a function ingress. -/
def ingressOf? (caches : FunctionIngressCaches) (primary : FunctionIngress) : Option Ingress :=
  caches.ingresses.get? (primary.metadata.space.getD "") primary.metadata.displayName

/-- The ingress of a function ingress that a write is for. -/
def written? (primary : FunctionIngress) : Write → Option Ingress :=
  Write.ingress? (primary.metadata.space.getD "") primary.metadata.displayName

/-- What a write that is allowed puts in the place of the ingress of a function ingress: an ingress
that the function ingress controls, and that belongs to it unless another record of it is wanted. -/
theorem MayWrite.owned {write : Write} (h : caches.MayWrite primary write)
    (hkeyed : caches.ingresses.Keyed) (hname : primary.metadata.name.isSome = true)
    (huid : primary.metadata.uid.isSome = true) :
    ∃ ingress, written? primary write = some ingress ∧
      ingress.metadata.isControlledBy FunctionIngress.kind.kind primary.metadata = true ∧
      (primary.metadata.userAnnotations.get? FunctionIngress.kind.snapshotKey = none →
        ingress.metadata.OwnedBy FunctionIngress.kind primary) := by
  cases h with
  | create hmissing =>
    have hcontrolled : (Ingress.build caches.api
        (desiredIngress primary)).metadata.isControlledBy FunctionIngress.kind.kind
          primary.metadata = true := by
      refine Metadata.controlled_of_owner hname huid ?_
      show (if (desiredIngress primary).owners.isEmpty then none
        else some (desiredIngress primary).owners).getD [] = (desiredIngress primary).owners
      split
      · next hempty => exact (List.isEmpty_iff.1 hempty).symm
      · rfl
    exact ⟨_, if_pos ⟨rfl, rfl⟩, hcontrolled,
      fun hunmarked => (Ingress.build_carries hunmarked).owned_by hname hcontrolled⟩
  | replace hget hreplaceable =>
    next existing =>
    have hcontrolled : (Ingress.converge caches.api existing
        (desiredIngress primary)).metadata.isControlledBy FunctionIngress.kind.kind
          primary.metadata = true :=
      Metadata.controlled_of_set_controller _ hname huid
    have hnamed : (Ingress.converge caches.api existing (desiredIngress primary)).metadata.name =
        some primary.metadata.displayName := by
      rw [Ingress.converge_metadata]
      exact hkeyed.get_name hget
    exact ⟨_, if_pos ⟨rfl, hnamed⟩, hcontrolled,
      fun hunmarked => (Ingress.converge_carries existing hunmarked).owned_by hname hcontrolled⟩

/-- What the result of a sync says about the ingress of a function ingress. -/
structure Vouched (caches : FunctionIngressCaches) (primary : FunctionIngress)
    (result : SyncResult) (calls : List Call) : Prop where
  /-- After a sync that went well there is an ingress. Either the sync wrote it, and then the
  function ingress controls it, and owns it unless another record of it is wanted; or the sync left
  it alone, and then it records the declared state. -/
  stands : ∀ outcome, result = .ok outcome →
    ∃ ingress, standing (written? primary) (caches.ingressOf? primary) calls = some ingress ∧
      ((landed (written? primary) calls = [ingress] ∧
          ingress.metadata.isControlledBy FunctionIngress.kind.kind primary.metadata = true ∧
          (primary.metadata.userAnnotations.get? FunctionIngress.kind.snapshotKey = none →
            ingress.metadata.OwnedBy FunctionIngress.kind primary)) ∨
        (calls = [] ∧ ingress.metadata.Records FunctionIngress.kind primary))
  /-- An ingress that records something else and belongs to nobody or to another one is refused
  without a write. -/
  refused : ∀ existing, caches.ingressOf? primary = some existing →
    ¬ existing.metadata.Records FunctionIngress.kind primary →
    ¬ existing.metadata.OwnedBy FunctionIngress.kind primary →
    calls = [] ∧ ∃ refusal, result = .error refusal ∧
      existing.metadata.Disowned FunctionIngress.kind primary refusal

/-- The result of every course of a sync says this about the ingress. -/
theorem vouched_of_course (h : (caches.converge primary).Course calls result)
    (hkeyed : caches.ingresses.Keyed) (hname : primary.metadata.name.isSome = true)
    (huid : primary.metadata.uid.isSome = true) : caches.Vouched primary result calls := by
  refine ⟨?_, fun existing hexisting hrecords howned => ?_⟩
  · rintro outcome rfl
    obtain ⟨rfl, metadata, hmetadata, hrecords⟩ | ⟨write, hallowed, rfl⟩ := recorded_step_ok h
    · obtain ⟨ingress, hingress, rfl⟩ := Option.map_eq_some_iff.1 hmetadata
      exact ⟨ingress, hingress, .inr ⟨rfl, hrecords⟩⟩
    · obtain ⟨ingress, hwritten, howned⟩ := (MayWrite.of_allowed hallowed).owned hkeyed hname huid
      have hlanded := landed_singleton hwritten
      exact ⟨ingress, standing_of_landed_singleton hlanded _, .inl ⟨hlanded, howned⟩⟩
  · have hget : caches.ingresses.get? (primary.metadata.space.getD "")
        primary.metadata.displayName = some existing := hexisting
    rw [converge, hget] at h
    exact Metadata.disowned_course h hrecords howned

end FunctionIngressCaches

/-! ## Functions -/

namespace FunctionCaches

variable {caches : FunctionCaches} {primary : Function}
variable {calls : List Call} {result : SyncResult}

/-- The cached deployment of a function. -/
def deploymentOf? (caches : FunctionCaches) (primary : Function) : Option Deployment :=
  caches.deployments.get? (primary.metadata.space.getD "") primary.metadata.displayName

/-- The cached service of a function. -/
def serviceOf? (caches : FunctionCaches) (primary : Function) : Option Service :=
  caches.services.get? (primary.metadata.space.getD "") primary.metadata.displayName

/-- The deployment of a function that a write is for. -/
def deployed? (primary : Function) : Write → Option Deployment :=
  Write.deployment? (primary.metadata.space.getD "") primary.metadata.displayName

/-- The service of a function that a write is for. -/
def served? (primary : Function) : Write → Option Service :=
  Write.service? (primary.metadata.space.getD "") primary.metadata.displayName

/-- What a write that is allowed puts in the place of the deployment of a function belongs to the
function, and is no service. -/
theorem MayDeploy.owned {write : Write} (h : caches.MayDeploy primary write)
    (hkeyed : caches.deployments.Keyed) (hname : primary.metadata.name.isSome = true)
    (huid : primary.metadata.uid.isSome = true) (hrange : primary.spec.InRange) :
    (∃ deployment, deployed? primary write = some deployment ∧
      deployment.metadata.OwnedBy Function.kind primary) ∧ served? primary write = none := by
  cases h with
  | create hmissing =>
    have hcontrolled : (Deployment.make caches.settings primary).metadata.isControlledBy
        Function.kind.kind primary.metadata = true :=
      Metadata.controlled_of_owner hname huid (Metadata.owners_of_reference rfl)
    exact ⟨⟨_, if_pos ⟨rfl, rfl⟩, (Deployment.make_carries hrange).owned_by hname hcontrolled⟩, rfl⟩
  | replace hget hreplaceable =>
    next existing =>
    have howners : (Deployment.make caches.settings primary).metadata.owners =
        (Function.kind.ownerReference? primary.metadata).toList :=
      Metadata.owners_of_reference rfl
    have hcontrolled : (Deployment.converge caches.settings existing
        primary).metadata.isControlledBy Function.kind.kind primary.metadata = true := by
      show (Metadata.setController _ (Deployment.make caches.settings
        primary).metadata.owners).isControlledBy _ _ = true
      rw [howners]
      exact Metadata.controlled_of_set_controller _ hname huid
    have hnamed : (Deployment.converge caches.settings existing primary).metadata.name =
        some primary.metadata.displayName := by
      rw [Deployment.converge_metadata]
      exact hkeyed.get_name hget
    exact ⟨⟨_, if_pos ⟨rfl, hnamed⟩,
      (Deployment.converge_carries existing hrange).owned_by hname hcontrolled⟩, rfl⟩

/-- The part of a sync that deals with the service leaves the deployments alone. If it went well,
the service was there, or it was created, and then the function controls it. -/
theorem converge_service_ok {outcome last : SyncOutcome}
    (h : (caches.convergeService primary outcome).Course calls (.ok last))
    (hname : primary.metadata.name.isSome = true) (huid : primary.metadata.uid.isSome = true) :
    landed (deployed? primary) calls = [] ∧
      ((landed (served? primary) calls = [] ∧ ∃ service, caches.serviceOf? primary = some service) ∨
        ∃ service, landed (served? primary) calls = [service] ∧
          service.metadata.isControlledBy Function.kind.kind primary.metadata = true) := by
  unfold convergeService at h
  simp only at h
  split at h
  · next service hservice =>
    obtain ⟨rfl, -⟩ := Sync.finished_course h
    exact ⟨rfl, .inl ⟨rfl, service, hservice⟩⟩
  · obtain ⟨failure, -, hfailed⟩ | ⟨later, rfl, hrest⟩ := Sync.attempt_course h
    · cases hfailed
    · obtain ⟨rfl, -⟩ := Sync.finished_course hrest
      have hserved : served? primary (.createService (primary.metadata.space.getD "")
          (Service.make caches.settings primary)) = some (Service.make caches.settings primary) :=
        if_pos ⟨rfl, rfl⟩
      have hcontrolled : (Service.make caches.settings primary).metadata.isControlledBy
          Function.kind.kind primary.metadata = true :=
        Metadata.controlled_of_owner hname huid (Metadata.owners_of_reference rfl)
      exact ⟨rfl, .inr ⟨_, landed_singleton hserved, hcontrolled⟩⟩

/-- What the result of a sync says about the deployment and the service of a function. -/
structure Vouched (caches : FunctionCaches) (primary : Function) (result : SyncResult)
    (calls : List Call) : Prop where
  /-- After a sync that went well there is a deployment. Either the sync wrote it, and then it
  belongs to the function; or the sync left it alone, and then it records the declared state. -/
  stands : ∀ outcome, result = .ok outcome →
    ∃ deployment, standing (deployed? primary) (caches.deploymentOf? primary) calls =
        some deployment ∧
      ((landed (deployed? primary) calls = [deployment] ∧
          deployment.metadata.OwnedBy Function.kind primary) ∨
        (landed (deployed? primary) calls = [] ∧
          deployment.metadata.Records Function.kind primary))
  /-- There is a service. Either the sync created it, and then the function controls it; or there
  was one before, which the sync left alone. -/
  serves : ∀ outcome, result = .ok outcome →
    ∃ service, standing (served? primary) (caches.serviceOf? primary) calls = some service ∧
      ((landed (served? primary) calls = [service] ∧
          service.metadata.isControlledBy Function.kind.kind primary.metadata = true) ∨
        (landed (served? primary) calls = [] ∧ caches.serviceOf? primary = some service))
  /-- A deployment that records something else and belongs to nobody or to another one is refused
  without a write. -/
  refused : ∀ existing, caches.deploymentOf? primary = some existing →
    ¬ existing.metadata.Records Function.kind primary →
    ¬ existing.metadata.OwnedBy Function.kind primary →
    calls = [] ∧ ∃ refusal, result = .error refusal ∧
      existing.metadata.Disowned Function.kind primary refusal

/-- A sync of the deployment that went well left it alone because it records the declared state, or
wrote it, and then it belongs to the function. Services are left alone. -/
theorem deployment_step_ok {outcome : SyncOutcome}
    (h : (caches.deploymentStep primary).Course calls (.ok outcome))
    (hkeyed : caches.deployments.Keyed) (hname : primary.metadata.name.isSome = true)
    (huid : primary.metadata.uid.isSome = true) (hrange : primary.spec.InRange) :
    landed (served? primary) calls = [] ∧
      ((landed (deployed? primary) calls = [] ∧ ∃ deployment,
          caches.deploymentOf? primary = some deployment ∧
          deployment.metadata.Records Function.kind primary) ∨
        ∃ deployment, landed (deployed? primary) calls = [deployment] ∧
          deployment.metadata.OwnedBy Function.kind primary) := by
  obtain ⟨rfl, metadata, hmetadata, hrecords⟩ | ⟨write, hallowed, rfl⟩ := recorded_step_ok h
  · obtain ⟨deployment, hdeployment, rfl⟩ := Option.map_eq_some_iff.1 hmetadata
    exact ⟨rfl, .inl ⟨rfl, deployment, hdeployment, hrecords⟩⟩
  · obtain ⟨⟨deployment, hdeployed, howned⟩, hserved⟩ :=
      (MayDeploy.of_allowed hallowed).owned hkeyed hname huid hrange
    exact ⟨landed_eq_nil (List.forall_mem_singleton.2 hserved),
      .inr ⟨deployment, landed_singleton hdeployed, howned⟩⟩

/-- A sync of a function that went well dealt with the deployment, and then with the service. -/
theorem converge_ok {outcome : SyncOutcome}
    (h : (caches.converge primary).Course calls (.ok outcome)) :
    ∃ first later done, calls = first ++ later ∧
      (caches.deploymentStep primary).Course first (.ok done) ∧
      (caches.convergeService primary done).Course later (.ok outcome) := by
  obtain ⟨failure, -, hfailed⟩ | ⟨done, first, later, hcalls, hstep, hrest⟩ :=
    converge_recorded_course h
  · cases hfailed
  · exact ⟨first, later, done, hcalls, hstep, hrest⟩

/-- The result of every course of a sync says this about the deployment and the service. -/
theorem vouched_of_course (h : (caches.converge primary).Course calls result)
    (hkeyed : caches.deployments.Keyed) (hname : primary.metadata.name.isSome = true)
    (huid : primary.metadata.uid.isSome = true) (hrange : primary.spec.InRange) :
    caches.Vouched primary result calls := by
  refine ⟨?_, ?_, fun existing hexisting hrecords howned => ?_⟩
  · rintro outcome rfl
    obtain ⟨first, later, done, rfl, hstep, hrest⟩ := converge_ok h
    have hlanded : landed (deployed? primary) (first ++ later) =
        landed (deployed? primary) first := by
      rw [landed_append, (converge_service_ok hrest hname huid).1, List.append_nil]
    obtain ⟨-, ⟨hfirst, deployment, hdeployment, hrecords⟩ | ⟨deployment, hfirst, howned⟩⟩ :=
      deployment_step_ok hstep hkeyed hname huid hrange
    · have hnone := hlanded.trans hfirst
      exact ⟨deployment, (standing_of_landed_nil hnone _).trans hdeployment,
        .inr ⟨hnone, hrecords⟩⟩
    · have hone := hlanded.trans hfirst
      exact ⟨deployment, standing_of_landed_singleton hone _, .inl ⟨hone, howned⟩⟩
  · rintro outcome rfl
    obtain ⟨first, later, done, rfl, hstep, hrest⟩ := converge_ok h
    have hlanded : landed (served? primary) (first ++ later) = landed (served? primary) later := by
      rw [landed_append, (deployment_step_ok hstep hkeyed hname huid hrange).1, List.nil_append]
    obtain ⟨-, ⟨hlater, service, hservice⟩ | ⟨service, hlater, hcontrolled⟩⟩ :=
      converge_service_ok hrest hname huid
    · have hnone := hlanded.trans hlater
      exact ⟨service, (standing_of_landed_nil hnone _).trans hservice, .inr ⟨hnone, hservice⟩⟩
    · have hone := hlanded.trans hlater
      exact ⟨service, standing_of_landed_singleton hone _, .inl ⟨hone, hcontrolled⟩⟩
  · have hget : caches.deployments.get? (primary.metadata.space.getD "")
        primary.metadata.displayName = some existing := hexisting
    rw [converge, hget] at h
    exact Metadata.disowned_course h hrecords howned

end FunctionCaches

/-- Whatever the caches contain and the API answers, and for every key of a primary object that has
a name and an identity: the result of a sync is told, and says how the derived objects stand. -/
theorem run_sync_vouched {γ : Type} (perform : Write → γ → Except ApiFailure Unit × γ)
    (key : String) (state : γ) :
    (∀ (caches : FunctionIngressCaches) (primary : FunctionIngress),
      Names caches.primaries key primary → primary.metadata.name.isSome = true →
      primary.metadata.uid.isSome = true → caches.ingresses.Keyed →
      ∃ result event calls next,
        runSync FunctionIngress.kind caches.primaries caches.converge (Sync.noting perform) key
          ([], state) = (result, event, calls, next) ∧
        Told FunctionIngress.kind caches.primaries key result event ∧
        caches.Vouched primary result calls) ∧
    ∀ (caches : FunctionCaches) (primary : Function),
      Names caches.primaries key primary → primary.metadata.name.isSome = true →
      primary.metadata.uid.isSome = true → primary.spec.InRange → caches.deployments.Keyed →
      ∃ result event calls next,
        runSync Function.kind caches.primaries caches.converge (Sync.noting perform) key
          ([], state) = (result, event, calls, next) ∧
        Told Function.kind caches.primaries key result event ∧
        caches.Vouched primary result calls := by
  constructor
  · intro caches primary hnames hname huid hkeyed
    obtain ⟨result, event, calls, next, hrun, htold, hcourse⟩ :=
      run_sync_named_course hnames caches.converge perform state
    exact ⟨result, event, calls, next, hrun, htold,
      FunctionIngressCaches.vouched_of_course hcourse hkeyed hname huid⟩
  · intro caches primary hnames hname huid hrange hkeyed
    obtain ⟨result, event, calls, next, hrun, htold, hcourse⟩ :=
      run_sync_named_course hnames caches.converge perform state
    exact ⟨result, event, calls, next, hrun, htold,
      FunctionCaches.vouched_of_course hcourse hkeyed hname huid hrange⟩

/-- A function ingress of some name, identity and host. -/
def storefront (name uid domain : String) : FunctionIngress where
  metadata := { name := some name, space := some "web", uid := some uid }
  spec := { domain := domain, function := "shop" }

/-- What a sync of the function ingress `shop` reads, where the ingress of its name was made for
another function ingress. -/
def leftIngress (maker : FunctionIngress) : FunctionIngressCaches :=
  let made := Ingress.build .networkingV1 (desiredIngress maker)
  { primaries := Store.empty.insert ⟨some "web", "shop"⟩ (storefront "shop" "1" "shop.example")
    ingresses := Store.empty.insert ⟨some "web", "shop"⟩
      { made with metadata := { made.metadata with name := some "shop" } }
    api := .networkingV1 }

/-- That ingress carries the declared state of the one it was made for. -/
theorem left_ingress_carries (name uid domain : String) :
    ∃ left, (leftIngress (storefront name uid domain)).ingressOf?
        (storefront "shop" "1" "shop.example") = some left ∧
      left.metadata.Carries FunctionIngress.kind (storefront name uid domain) := by
  have hcarries : (Ingress.build .networkingV1
      (desiredIngress (storefront name uid domain))).metadata.Carries FunctionIngress.kind
        (storefront name uid domain) := Ingress.build_carries rfl
  exact ⟨_, rfl, hcarries⟩

/-- The key of the function ingress `shop`. -/
theorem names_storefront (maker : FunctionIngress) :
    Names (leftIngress maker).primaries "web/shop" (storefront "shop" "1" "shop.example") :=
  ⟨"web", "shop", by decide +kernel, rfl⟩

/-- The ingress is found under its own name. -/
theorem left_ingress_keyed {maker : FunctionIngress} (h : maker.metadata.space = some "web") :
    (leftIngress maker).ingresses.Keyed := by
  refine Store.Keyed.empty.insert ?_
  show some (ObjectId.mk (some (maker.metadata.space.getD "")) "shop") = _
  rw [h]
  rfl

/-- A function. -/
def echoed (uid : String) : Function where
  metadata := { name := some "echo", space := some "web", uid := some uid }
  spec := { name := "echo", image := "echo:1" }

/-- What a sync of a function reads before anything was made for it, apart from some services. -/
def freshFunction (services : Store Service) : FunctionCaches where
  primaries := Store.empty.insert ⟨some "web", "echo"⟩ (echoed "1")
  deployments := .empty
  services := services
  settings := {}

/-- An ingress that was made for another function ingress, with another host, is refused; and the
deployment that is made for a function belongs to it. -/
theorem run_sync_vouched_left :
    (∃ event, runSync FunctionIngress.kind
        (leftIngress (storefront "store" "0" "store.example")).primaries
        (leftIngress (storefront "store" "0" "store.example")).converge
        (Sync.noting fun _ state => (.ok (), state)) "web/shop" ([], ()) =
          (.error (.rename "store" "shop"), event, [], ())) ∧
    ∃ event calls deployment, runSync Function.kind (freshFunction .empty).primaries
        (freshFunction .empty).converge (Sync.noting fun _ state => (.ok (), state)) "web/echo"
        ([], ()) = (.ok .created, event, calls, ()) ∧
      standing (FunctionCaches.deployed? (echoed "1")) none calls = some deployment ∧
      deployment.metadata.OwnedBy Function.kind (echoed "1") := by
  constructor
  · obtain ⟨result, event, calls, next, hrun, -, hvouched⟩ :=
      (run_sync_vouched (fun _ (state : Unit) => (.ok (), state)) "web/shop" ()).1
        (leftIngress (storefront "store" "0" "store.example")) _ (names_storefront _) rfl rfl
        (left_ingress_keyed rfl)
    obtain ⟨left, hleft, hcarries⟩ := left_ingress_carries "store" "0" "store.example"
    have hrecords : ¬ left.metadata.Records FunctionIngress.kind
        (storefront "shop" "1" "shop.example") := by
      rintro ⟨snapshot, hrecover, hagrees⟩
      obtain rfl := Except.ok.inj (hcarries.symm.trans hrecover)
      exact absurd hagrees (by decide)
    have howned : ¬ left.metadata.OwnedBy FunctionIngress.kind
        (storefront "shop" "1" "shop.example") :=
      fun howned => absurd (howned.named _ "store" hcarries rfl) (by decide)
    obtain ⟨rfl, refusal, rfl, hdisowned⟩ := hvouched.refused left hleft hrecords howned
    cases hdisowned with
    | corrupt hrecover => cases hcarries.symm.trans hrecover
    | renamed hrecover hprevious =>
      obtain rfl := Except.ok.inj (hcarries.symm.trans hrecover)
      obtain rfl : "store" = _ := Option.some.inj hprevious
      exact ⟨event, hrun⟩
    | unmanaged hrecover hsame =>
      obtain rfl := Except.ok.inj (hcarries.symm.trans hrecover)
      exact absurd (hsame "store" rfl) (by decide)
  · obtain ⟨result, event, calls, next, hrun, -, hvouched⟩ :=
      (run_sync_vouched (fun _ (state : Unit) => (.ok (), state)) "web/echo" ()).2
        (freshFunction .empty) (echoed "1") ⟨"web", "echo", by decide +kernel, rfl⟩ rfl rfl
        (by rintro _ ⟨⟩) .empty
    obtain rfl : .ok .created = result := congrArg Prod.fst hrun
    obtain ⟨deployment, hstands, ⟨-, howned⟩ | ⟨hnone, -⟩⟩ := hvouched.stands _ rfl
    · exact ⟨event, calls, deployment, hrun, hstands, howned⟩
    · rw [standing_of_landed_nil hnone] at hstands
      cases hstands

/-- A sync that finds an ingress with the same declared state has nothing to do, whoever the ingress
was made for. -/
theorem left_ingress_unchanged (name uid : String) :
    ∃ event, runSync FunctionIngress.kind
      (leftIngress (storefront name uid "shop.example")).primaries
      (leftIngress (storefront name uid "shop.example")).converge
      (Sync.noting fun _ (state : Unit) => (.ok (), state)) "web/shop" ([], ()) =
        (.ok .unchanged, event, [], ()) := by
  obtain ⟨left, hleft, hcarries⟩ := left_ingress_carries name uid "shop.example"
  have hrecords : left.metadata.Records FunctionIngress.kind
      (storefront "shop" "1" "shop.example") :=
    ⟨_, hcarries, by simp [Snapshot.agrees, Snapshot.capture, storefront, Metadata.userAnnotations]⟩
  have hconverge : (leftIngress (storefront name uid "shop.example")).converge
      (storefront "shop" "1" "shop.example") = .finished (.ok .unchanged) := by
    have hget : (leftIngress (storefront name uid "shop.example")).ingresses.get?
        ((storefront "shop" "1" "shop.example").metadata.space.getD "")
        (storefront "shop" "1" "shop.example").metadata.displayName = some left := hleft
    rw [FunctionIngressCaches.converge, hget]
    exact converge_recorded_of_records hrecords _ _ _
  rw [run_sync_of_names (names_storefront _), hconverge]
  exact ⟨_, rfl⟩

/-- Every sync of a function ingress that goes well leaves an ingress of some property. -/
def FunctionIngressCaches.SyncedMeans (holds : FunctionIngress → Metadata → Prop) : Prop :=
  ∀ (caches : FunctionIngressCaches) (perform : Write → Unit → Except ApiFailure Unit × Unit)
    (key : String) (primary : FunctionIngress), Names caches.primaries key primary →
    primary.metadata.name.isSome = true → primary.metadata.space.isSome = true →
    primary.metadata.uid.isSome = true → caches.ingresses.Keyed →
    ∀ outcome event calls next,
      runSync FunctionIngress.kind caches.primaries caches.converge (Sync.noting perform) key
        ([], ()) = (.ok outcome, event, calls, next) →
      ∃ ingress, standing (written? primary) (caches.ingressOf? primary) calls = some ingress ∧
        holds primary ingress.metadata

/-- Every sync of a function that goes well leaves a service of some property. -/
def FunctionCaches.SyncedMeans (holds : Function → Metadata → Prop) : Prop :=
  ∀ (caches : FunctionCaches) (perform : Write → Unit → Except ApiFailure Unit × Unit)
    (key : String) (primary : Function), Names caches.primaries key primary →
    primary.metadata.name.isSome = true → primary.metadata.space.isSome = true →
    primary.metadata.uid.isSome = true → caches.deployments.Keyed → caches.services.Keyed →
    ∀ outcome event calls next,
      runSync Function.kind caches.primaries caches.converge (Sync.noting perform) key
        ([], ()) = (.ok outcome, event, calls, next) →
      ∃ service, standing (served? primary) (caches.serviceOf? primary) calls = some service ∧
        holds primary service.metadata

/-- What a sync leaves alone may belong to another one: an ingress of the same declared state that
was made for an earlier function ingress of the same name, or for one of another name, and any
service. -/
theorem synced_left :
    ¬ FunctionIngressCaches.SyncedMeans (fun primary metadata =>
        metadata.isControlledBy FunctionIngress.kind.kind primary.metadata = true) ∧
      ¬ FunctionIngressCaches.SyncedMeans (fun primary metadata => ∀ snapshot previous,
        Snapshot.recover FunctionIngress.kind metadata.annotations = .ok snapshot →
        snapshot.recordedName? = some previous → previous = primary.metadata.displayName) ∧
      ¬ FunctionCaches.SyncedMeans (fun primary metadata =>
        metadata.isControlledBy Function.kind.kind primary.metadata = true) := by
  refine ⟨fun h => ?_, fun h => ?_, fun h => ?_⟩
  · obtain ⟨event, hrun⟩ := left_ingress_unchanged "shop" "0"
    obtain ⟨left, hleft, hcontrolled⟩ := h _ _ _ _ (names_storefront _) rfl rfl rfl
      (left_ingress_keyed rfl) _ _ _ _ hrun
    obtain rfl := Option.some.inj hleft
    exact absurd hcontrolled (by decide)
  · obtain ⟨event, hrun⟩ := left_ingress_unchanged "store" "1"
    obtain ⟨left, hleft, hnamed⟩ := h _ _ _ _ (names_storefront _) rfl rfl rfl
      (left_ingress_keyed rfl) _ _ _ _ hrun
    obtain ⟨same, hsame, hcarries⟩ := left_ingress_carries "store" "1" "shop.example"
    obtain rfl := Option.some.inj (hleft.symm.trans hsame)
    exact absurd (hnamed _ "store" hcarries rfl) (by decide)
  · let services := Store.empty.insert ⟨some "web", "echo"⟩ (Service.make {} (echoed "0"))
    obtain ⟨service, hservice, hcontrolled⟩ := h (freshFunction services)
      (fun _ state => (.ok (), state)) "web/echo" (echoed "1")
      ⟨"web", "echo", by decide +kernel, rfl⟩ rfl rfl rfl .empty (Store.Keyed.empty.insert rfl)
      .created _ _ _ rfl
    obtain rfl := Option.some.inj hservice
    exact absurd hcontrolled (by decide)

end FunctionOperator
