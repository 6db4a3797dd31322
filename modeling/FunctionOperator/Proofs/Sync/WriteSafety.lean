import FunctionOperator.Proofs.Sync.Courses

/-!
# Syncs write only what is theirs

For all contents of the caches, all keys and all answers of the API: what the two handlers write,
how often, and what they tell about it. Read `FunctionIngressCaches.SafeSync` and
`FunctionCaches.SafeSync` first, which list what `run_sync_safe` proves. The handlers share the
decision about the object that records the declared state, so both rest on
`recorded_step_course`.
-/

namespace FunctionOperator

/-- A failure that is no failed call, and the absence of the primary object: the sync ends before
it writes. -/
inductive WritesNothing : SyncResult → Prop where
  /-- The primary object is gone. -/
  | missing : WritesNothing (.ok .missing)
  /-- The sync is refused. -/
  | refused {refusal} (h : ∀ failure, refusal ≠ .api failure) : WritesNothing (.error refusal)

/-- A failed call is no such end. -/
theorem not_writes_nothing_api {failure : ApiFailure} :
    ¬ WritesNothing (.error (.api failure)) := by
  intro h
  cases h with
  | refused hrefused => exact hrefused failure rfl

/-- An outcome for a present object is no such end. -/
theorem not_writes_nothing_ok {outcome : SyncOutcome} (h : outcome ≠ .missing) :
    ¬ WritesNothing (.ok outcome) := by
  intro hnothing
  cases hnothing
  exact h rfl

/-- The recording object is written at most once, as it is allowed, and not at all by a sync that
writes nothing. -/
theorem recorded_step_safe {σ : Type} [DecidableEq σ] {kind : PrimaryKind σ} {primary : Primary σ}
    {existing : Option Metadata} {create replace : Write} {calls : List Call} {result : SyncResult}
    (h : (recordedStep kind primary existing create replace).Course calls result) :
    calls.length ≤ 1 ∧
    (∀ call ∈ calls, WriteAllowed kind primary existing create replace call.write) ∧
    result ≠ .ok .missing ∧ (WritesNothing result → calls = []) := by
  obtain ⟨rfl, hresult⟩ | ⟨write, hallowed, hcalls⟩ := recorded_step_course h
  · refine ⟨Nat.zero_le _, List.forall_mem_nil _, ?_, fun _ => rfl⟩
    obtain rfl | ⟨refusal, rfl, -⟩ := hresult <;> exact nofun
  · obtain ⟨failure, rfl, rfl⟩ | ⟨outcome, hpresent, rfl, rfl⟩ := hcalls
    · refine ⟨Nat.le_refl _, fun call hcall => ?_, nofun, fun h => ?_⟩
      · rw [List.mem_singleton.1 hcall]
        exact hallowed
      · exact absurd h not_writes_nothing_api
    · refine ⟨Nat.le_refl _, fun call hcall => ?_, ?_, fun h => ?_⟩
      · rw [List.mem_singleton.1 hcall]
        exact hallowed
      · rintro ⟨⟩
        exact hpresent rfl
      · exact absurd h (not_writes_nothing_ok hpresent)

section Keys

variable {σ : Type} {primaries : Store (Primary σ)} {key : String}

/-- A well-formed key names an object of a cache. -/
def Names (primaries : Store (Primary σ)) (key : String) (primary : Primary σ) : Prop :=
  ∃ space name, Key.split key = .ok (space, name) ∧ primaries.get? space name = some primary

/-- A key names at most one object. -/
theorem Names.unique {first second : Primary σ} (hfirst : Names primaries key first)
    (hsecond : Names primaries key second) : first = second := by
  obtain ⟨space, name, hsplit, hget⟩ := hfirst
  obtain ⟨space', name', hsplit', hget'⟩ := hsecond
  rw [hsplit, Except.ok.injEq, Prod.mk.injEq] at hsplit'
  obtain ⟨rfl, rfl⟩ := hsplit'
  exact Option.some.inj (hget.symm.trans hget')

/-- One event is told about the object that a key names, `Normal` and `Synced` exactly if the sync
succeeded, and otherwise a warning with the reason of the failure; and none without an object. -/
structure Told (kind : PrimaryKind σ) (primaries : Store (Primary σ)) (key : String)
    (result : SyncResult) (event : Option SyncEvent) : Prop where
  /-- There is one event about a named object. -/
  told : ∀ primary, Names primaries key primary → ∃ telling, event = some telling ∧
    telling.subject = kind.subject primary.metadata ∧
    ((telling.typeName = "Normal" ∧ telling.reason = "Synced") ↔
      ∃ outcome, result = .ok outcome) ∧
    ∀ failure, result = .error failure →
      telling.typeName = "Warning" ∧ telling.reason = failure.reason
  /-- There is none about anything else. -/
  silent : ∀ telling, event = some telling → ∃ primary, Names primaries key primary

/-- A key that names nothing leads to no calls and no event. -/
theorem Told.nothing (kind : PrimaryKind σ) (result : SyncResult)
    (h : ∀ primary, ¬ Names primaries key primary) : Told kind primaries key result none :=
  ⟨fun primary hnames => absurd hnames (h primary), nofun⟩

/-- The event about the result of a sync is what is to be told. -/
theorem Told.event (kind : PrimaryKind σ) {primary : Primary σ}
    (hnames : Names primaries key primary) (result : SyncResult) :
    Told kind primaries key result (some (kind.event primary.metadata result)) := by
  refine ⟨fun other hother => ?_, fun _ _ => ⟨primary, hnames⟩⟩
  obtain rfl := hnames.unique hother
  refine ⟨_, rfl, ?_, ?_, ?_⟩
  · cases result <;> rfl
  · cases result <;> simp [PrimaryKind.event, SyncEvent.typeName]
  · rintro failure rfl
    exact ⟨rfl, rfl⟩

/-- A key that cannot be split is no failed call. -/
theorem split_ne_api (failure : ApiFailure) : Key.split key ≠ .error (.api failure) := by
  unfold Key.split
  simp only
  split <;> exact nofun

/-- The sync of a key that names an object is that of the object. -/
theorem run_sync_of_names {γ : Type} {kind : PrimaryKind σ} {primary : Primary σ}
    (h : Names primaries key primary)
    (converge : Primary σ → Sync) (perform : Write → γ → Except ApiFailure Unit × γ) (state : γ) :
    runSync kind primaries converge perform key state =
      (((converge primary).run perform state).1,
        some (kind.event primary.metadata ((converge primary).run perform state).1),
        ((converge primary).run perform state).2) := by
  obtain ⟨space, name, hsplit, hget⟩ := h
  simp only [runSync, syncKey, hsplit, hget, bind, Except.bind, pure, Except.pure, Option.map_some]

/-- The sync of a key that names an object takes a course of that object's sync, and what is to be
told is told. -/
theorem run_sync_named_course {γ : Type} {kind : PrimaryKind σ} {primary : Primary σ}
    (h : Names primaries key primary) (converge : Primary σ → Sync)
    (perform : Write → γ → Except ApiFailure Unit × γ) (state : γ) :
    ∃ result event calls next,
      runSync kind primaries converge (Sync.noting perform) key ([], state) =
        (result, event, calls, next) ∧
      Told kind primaries key result event ∧ (converge primary).Course calls result := by
  obtain ⟨calls, hcourse, hrun⟩ := Sync.run_noting perform (converge primary) [] state
  refine ⟨_, _, calls, ((converge primary).run perform state).2, ?_, .event kind h _, hcourse⟩
  rw [run_sync_of_names h, hrun, List.nil_append]

/-- The sync of a key that names an object takes a course of that object's sync; any other key
leads to no call. Either way what is to be told is told. -/
theorem run_sync_course {γ : Type} (kind : PrimaryKind σ) (primaries : Store (Primary σ))
    (converge : Primary σ → Sync) (perform : Write → γ → Except ApiFailure Unit × γ)
    (key : String) (state : γ) :
    ∃ result event calls next,
      runSync kind primaries converge (Sync.noting perform) key ([], state) =
        (result, event, calls, next) ∧
      Told kind primaries key result event ∧
      ((calls = [] ∧ WritesNothing result) ∨
        ∃ primary, Names primaries key primary ∧ (converge primary).Course calls result) := by
  by_cases hnamed : ∃ primary, Names primaries key primary
  · obtain ⟨primary, hnames⟩ := hnamed
    obtain ⟨result, event, calls, next, hrun, htold, hcourse⟩ :=
      run_sync_named_course hnames converge perform state
    exact ⟨result, event, calls, next, hrun, htold, .inr ⟨primary, hnames, hcourse⟩⟩
  · have hnothing (primary : Primary σ) : ¬ Names primaries key primary :=
      fun hnames => hnamed ⟨primary, hnames⟩
    unfold runSync syncKey
    cases hsplit : Key.split key with
    | error failure =>
      refine ⟨.error failure, none, [], state, rfl, .nothing kind _ hnothing,
        .inl ⟨rfl, .refused ?_⟩⟩
      rintro api rfl
      exact split_ne_api api hsplit
    | ok parts =>
      obtain ⟨space, name⟩ := parts
      cases hget : primaries.get? space name with
      | none =>
        exact ⟨.ok .missing, none, [], state,
          by simp [hget, bind, Except.bind, pure, Except.pure], .nothing kind _ hnothing,
          .inl ⟨rfl, .missing⟩⟩
      | some primary => exact absurd ⟨space, name, hsplit, hget⟩ (hnothing primary)

end Keys

/-! ## Function ingresses -/

namespace FunctionIngressCaches

/-- A write for the ingress of a function ingress, which is missing or may be replaced. -/
inductive MayWrite (caches : FunctionIngressCaches) (primary : FunctionIngress) :
    Write → Prop where
  /-- There is no ingress in the cache. -/
  | create (h : caches.ingresses.get? (primary.metadata.space.getD "")
      primary.metadata.displayName = none) :
    MayWrite caches primary (.createIngress (primary.metadata.space.getD "")
      (Ingress.build caches.api (desiredIngress primary)))
  /-- The ingress in the cache may be replaced. -/
  | replace {existing} (h : caches.ingresses.get? (primary.metadata.space.getD "")
      primary.metadata.displayName = some existing)
      (hreplaceable : Replaceable FunctionIngress.kind primary existing.metadata) :
    MayWrite caches primary (.replaceIngress (primary.metadata.space.getD "")
      (Ingress.converge caches.api existing (desiredIngress primary)))

/-- What the recorded part of a sync may write is what the sync may write. -/
theorem MayWrite.of_allowed {caches : FunctionIngressCaches} {primary : FunctionIngress}
    {write : Write}
    (h : WriteAllowed FunctionIngress.kind primary
      ((caches.ingresses.get? (primary.metadata.space.getD "")
        primary.metadata.displayName).map Ingress.metadata)
      (.createIngress (primary.metadata.space.getD "")
        (Ingress.build caches.api (desiredIngress primary)))
      (.replaceIngress (primary.metadata.space.getD "")
        (match caches.ingresses.get? (primary.metadata.space.getD "")
          primary.metadata.displayName with
        | some ingress => Ingress.converge caches.api ingress (desiredIngress primary)
        | none => Ingress.build caches.api (desiredIngress primary))) write) :
    caches.MayWrite primary write := by
  cases h with
  | create hmissing => exact .create (Option.map_eq_none_iff.1 hmissing)
  | replace hpresent hreplaceable =>
    obtain ⟨ingress, hget, rfl⟩ := Option.map_eq_some_iff.1 hpresent
    simp only [hget]
    exact .replace hget hreplaceable

/-- What a sync of a key may do. -/
structure SafeSync (caches : FunctionIngressCaches) (key : String) (result : SyncResult)
    (event : Option SyncEvent) (calls : List Call) : Prop where
  /-- There is at most one write. -/
  once : calls.length ≤ 1
  /-- It is allowed. -/
  allowed : ∀ call ∈ calls, ∃ primary, Names caches.primaries key primary ∧
    caches.MayWrite primary call.write
  /-- There is none if the sync is refused or has nothing to do. -/
  nothing : WritesNothing result → calls = []
  /-- The result is told. -/
  told : Told FunctionIngress.kind caches.primaries key result event

/-- A course of the sync of a function ingress makes at most one call, which is allowed. -/
theorem converge_course {caches : FunctionIngressCaches} {primary : FunctionIngress}
    {calls : List Call} {result : SyncResult} (h : (caches.converge primary).Course calls result) :
    calls.length ≤ 1 ∧ (∀ call ∈ calls, caches.MayWrite primary call.write) ∧
      (WritesNothing result → calls = []) := by
  obtain ⟨honce, hallowed, -, hnothing⟩ := recorded_step_safe h
  exact ⟨honce, fun call hcall => .of_allowed (hallowed call hcall), hnothing⟩

/-- Every sync of a key is safe. -/
theorem sync_safe {γ : Type} (caches : FunctionIngressCaches)
    (perform : Write → γ → Except ApiFailure Unit × γ) (key : String) (state : γ) :
    ∃ result event calls next,
      runSync FunctionIngress.kind caches.primaries caches.converge (Sync.noting perform) key
        ([], state) = (result, event, calls, next) ∧
      caches.SafeSync key result event calls := by
  obtain ⟨result, event, calls, next, hrun, htold, hcourse⟩ :=
    run_sync_course FunctionIngress.kind caches.primaries caches.converge perform key state
  refine ⟨result, event, calls, next, hrun, ?_⟩
  obtain ⟨rfl, -⟩ | ⟨primary, hnames, hcourse⟩ := hcourse
  · exact ⟨Nat.zero_le _, List.forall_mem_nil _, fun _ => rfl, htold⟩
  · obtain ⟨honce, hallowed, hnothing⟩ := converge_course hcourse
    exact ⟨honce, fun call hcall => ⟨primary, hnames, hallowed call hcall⟩, hnothing, htold⟩

end FunctionIngressCaches

/-! ## Functions -/

namespace FunctionCaches

/-- The part of a sync that brings the deployment of a function up to date. -/
def deploymentStep (caches : FunctionCaches) (primary : Function) : Sync :=
  let space := primary.metadata.space.getD ""
  let existing := caches.deployments.get? space primary.metadata.displayName
  recordedStep Function.kind primary (existing.map Derived.metadata)
    (.createDeployment space (Deployment.make caches.settings primary))
    (.replaceDeployment space (match existing with
      | some deployment => Deployment.converge caches.settings deployment primary
      | none => Deployment.make caches.settings primary))

/-- A write for the deployment of a function, which is missing or may be replaced. -/
inductive MayDeploy (caches : FunctionCaches) (primary : Function) : Write → Prop where
  /-- There is no deployment in the cache. -/
  | create (h : caches.deployments.get? (primary.metadata.space.getD "")
      primary.metadata.displayName = none) :
    MayDeploy caches primary (.createDeployment (primary.metadata.space.getD "")
      (Deployment.make caches.settings primary))
  /-- The deployment in the cache may be replaced. -/
  | replace {existing} (h : caches.deployments.get? (primary.metadata.space.getD "")
      primary.metadata.displayName = some existing)
      (hreplaceable : Replaceable Function.kind primary existing.metadata) :
    MayDeploy caches primary (.replaceDeployment (primary.metadata.space.getD "")
      (Deployment.converge caches.settings existing primary))

/-- What the recorded part of a sync may write is what the sync may write. -/
theorem MayDeploy.of_allowed {caches : FunctionCaches} {primary : Function}
    {write : Write}
    (h : WriteAllowed Function.kind primary
      ((caches.deployments.get? (primary.metadata.space.getD "")
        primary.metadata.displayName).map Derived.metadata)
      (.createDeployment (primary.metadata.space.getD "") (Deployment.make caches.settings primary))
      (.replaceDeployment (primary.metadata.space.getD "")
        (match caches.deployments.get? (primary.metadata.space.getD "")
          primary.metadata.displayName with
        | some deployment => Deployment.converge caches.settings deployment primary
        | none => Deployment.make caches.settings primary)) write) :
    caches.MayDeploy primary write := by
  cases h with
  | create hmissing => exact .create (Option.map_eq_none_iff.1 hmissing)
  | replace hpresent hreplaceable =>
    obtain ⟨deployment, hget, rfl⟩ := Option.map_eq_some_iff.1 hpresent
    simp only [hget]
    exact .replace hget hreplaceable

/-- A write for the service of a function, which is missing and is created. -/
inductive MayServe (caches : FunctionCaches) (primary : Function) : Write → Prop where
  /-- There is no service in the cache. -/
  | create (h : caches.services.get? (primary.metadata.space.getD "")
      primary.metadata.displayName = none) :
    MayServe caches primary (.createService (primary.metadata.space.getD "")
      (Service.make caches.settings primary))

/-- What a sync of a function may write: at first the deployment, at most once, and only if that
went well the service, at most once. -/
structure SafeCalls (caches : FunctionCaches) (primary : Function) (result : SyncResult)
    (deployment service : List Call) : Prop where
  /-- The deployment is written at most once. -/
  deployed_once : deployment.length ≤ 1
  /-- It is written as it is allowed. -/
  deployed : ∀ call ∈ deployment, caches.MayDeploy primary call.write
  /-- The service is written at most once. -/
  served_once : service.length ≤ 1
  /-- It is created, and never replaced. -/
  served : ∀ call ∈ service, caches.MayServe primary call.write
  /-- These are the calls of a deployment that failed, and there is no service, or of one that
  went well. -/
  in_order : (∃ failure, (caches.deploymentStep primary).Course deployment (.error failure) ∧
      service = [] ∧ result = .error failure) ∨
    ∃ outcome, (caches.deploymentStep primary).Course deployment (.ok outcome)

/-- What a sync of a key may do. -/
structure SafeSync (caches : FunctionCaches) (key : String) (result : SyncResult)
    (event : Option SyncEvent) (calls : List Call) : Prop where
  /-- The writes are those for a named object. -/
  allowed : calls = [] ∨ ∃ primary deployment service, Names caches.primaries key primary ∧
    calls = deployment ++ service ∧ caches.SafeCalls primary result deployment service
  /-- There are none if the sync is refused or has nothing to do. -/
  nothing : WritesNothing result → calls = []
  /-- The result is told. -/
  told : Told Function.kind caches.primaries key result event

/-- The deployment of a function is written at most once, as it is allowed. -/
theorem deployment_step_course {caches : FunctionCaches} {primary : Function} {calls : List Call}
    {result : SyncResult} (h : (caches.deploymentStep primary).Course calls result) :
    calls.length ≤ 1 ∧ (∀ call ∈ calls, caches.MayDeploy primary call.write) ∧
      result ≠ .ok .missing ∧ (WritesNothing result → calls = []) := by
  obtain ⟨honce, hallowed, hpresent, hnothing⟩ := recorded_step_safe h
  exact ⟨honce, fun call hcall => .of_allowed (hallowed call hcall), hpresent, hnothing⟩

/-- The service of a function is created at most once, and only if it is missing. -/
theorem converge_service_course {caches : FunctionCaches} {primary : Function}
    {outcome : SyncOutcome} {calls : List Call} {result : SyncResult}
    (h : (caches.convergeService primary outcome).Course calls result)
    (hpresent : outcome ≠ .missing) :
    calls.length ≤ 1 ∧ (∀ call ∈ calls, caches.MayServe primary call.write) ∧
      ¬ WritesNothing result := by
  unfold convergeService at h
  simp only at h
  split at h
  · obtain ⟨rfl, rfl⟩ := Sync.finished_course h
    exact ⟨Nat.zero_le _, List.forall_mem_nil _, not_writes_nothing_ok hpresent⟩
  · next hmissing =>
    obtain ⟨failure, rfl, rfl⟩ | ⟨later, rfl, hrest⟩ := Sync.attempt_course h
    · refine ⟨Nat.le_refl _, fun call hcall => ?_, not_writes_nothing_api⟩
      rw [List.mem_singleton.1 hcall]
      exact .create hmissing
    · obtain ⟨rfl, rfl⟩ := Sync.finished_course hrest
      refine ⟨Nat.le_refl _, fun call hcall => ?_, not_writes_nothing_ok ?_⟩
      · rw [List.mem_singleton.1 hcall]
        exact .create hmissing
      · split
        · exact nofun
        · exact hpresent

/-- A course of the sync of a function writes the deployment first and then the service. -/
theorem converge_course {caches : FunctionCaches} {primary : Function} {calls : List Call}
    {result : SyncResult} (h : (caches.converge primary).Course calls result) :
    ∃ deployment service, calls = deployment ++ service ∧
      caches.SafeCalls primary result deployment service ∧ (WritesNothing result → calls = []) := by
  -- the service comes into it only after a deployment that went well
  obtain ⟨failure, hstep, rfl⟩ | ⟨outcome, first, later, rfl, hstep, hrest⟩ :=
    converge_recorded_course h
  · obtain ⟨honce, hallowed, -, hnothing⟩ := deployment_step_course hstep
    exact ⟨calls, [], (List.append_nil _).symm,
      ⟨honce, hallowed, Nat.zero_le _, List.forall_mem_nil _,
        .inl ⟨failure, hstep, rfl, rfl⟩⟩, hnothing⟩
  · obtain ⟨honce, hallowed, hpresent, -⟩ := deployment_step_course hstep
    obtain ⟨hserved, hmay, hsome⟩ :=
      converge_service_course hrest fun hmissing => hpresent (congrArg _ hmissing)
    exact ⟨first, later, rfl, ⟨honce, hallowed, hserved, hmay, .inr ⟨outcome, hstep⟩⟩,
      fun hnothing => absurd hnothing hsome⟩

/-- Every sync of a key is safe. -/
theorem sync_safe {γ : Type} (caches : FunctionCaches)
    (perform : Write → γ → Except ApiFailure Unit × γ) (key : String) (state : γ) :
    ∃ result event calls next,
      runSync Function.kind caches.primaries caches.converge (Sync.noting perform) key
        ([], state) = (result, event, calls, next) ∧
      caches.SafeSync key result event calls := by
  obtain ⟨result, event, calls, next, hrun, htold, hcourse⟩ :=
    run_sync_course Function.kind caches.primaries caches.converge perform key state
  refine ⟨result, event, calls, next, hrun, ?_⟩
  obtain ⟨rfl, -⟩ | ⟨primary, hnames, hcourse⟩ := hcourse
  · exact ⟨.inl rfl, fun _ => rfl, htold⟩
  · obtain ⟨deployment, service, hcalls, hsafe, hnothing⟩ := converge_course hcourse
    exact ⟨.inr ⟨primary, deployment, service, hnames, hcalls, hsafe⟩, hnothing, htold⟩

end FunctionCaches

/-- Whatever the caches contain, the key is and the API answers, both handlers write only what is
theirs to write, in order and at most once, and tell the result once. -/
theorem run_sync_safe {γ : Type} (perform : Write → γ → Except ApiFailure Unit × γ)
    (key : String) (state : γ) :
    (∀ caches : FunctionIngressCaches, ∃ result event calls next,
      runSync FunctionIngress.kind caches.primaries caches.converge (Sync.noting perform) key
        ([], state) = (result, event, calls, next) ∧
      caches.SafeSync key result event calls) ∧
    ∀ caches : FunctionCaches, ∃ result event calls next,
      runSync Function.kind caches.primaries caches.converge (Sync.noting perform) key
        ([], state) = (result, event, calls, next) ∧
      caches.SafeSync key result event calls :=
  ⟨fun caches => caches.sync_safe perform key state,
    fun caches => caches.sync_safe perform key state⟩

end FunctionOperator
