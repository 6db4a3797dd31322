import FunctionOperator.Proofs.Cache.Store
import FunctionOperator.Proofs.Loop.Rounds
import FunctionOperator.Proofs.Sync.Records

/-!
# Repeated syncs of functions

A sync of a function writes two objects, and may fail before, between and after the writes. Read
`Turns` first, which says once what a round can do: it deals with the deployment and then, if that
went well, with the service. `Resumes` lists what follows for any number of rounds and any failures.
-/

namespace FunctionOperator

/-- What the view for functions learns does not depend on the API. -/
theorem FunctionLoop.wiring_detached : FunctionLoop.wiring.Detached FunctionView.learn where
  api_with _ _ := rfl
  with_api _ := rfl
  with_with _ _ _ := rfl
  learn_with _ _ write := by cases write <;> rfl

namespace Write

/-- The creation of a function's deployment. -/
def newDeployment (settings : WorkloadSettings) (primary : Function) : Write :=
  .createDeployment (primary.metadata.space.getD "") (Deployment.make settings primary)

/-- The creation of a function's service. -/
def newService (settings : WorkloadSettings) (primary : Function) : Write :=
  .createService (primary.metadata.space.getD "") (Service.make settings primary)

end Write

namespace FunctionView

variable {view next : FunctionView} {settings : WorkloadSettings} {key : String}
variable {primary : Function} {id : ObjectId} {failures : List (WriteCall × ApiFailure)}
variable {round : Round}

/-! ## What a view learns -/

/-- Learning of a write changes the deployments and the services only. -/
theorem learn_eq (view : FunctionView) (write : Write) :
    view.learn write = { view with
      deployments := (view.learn write).deployments
      services := (view.learn write).services } := by
  cases write <;> rfl

/-- Learning of a derived object puts its next version into the cache. -/
theorem store_learned {α : Type} (informer : Informer (Derived α)) {object : Derived α}
    (hid : object.metadata.objectId? = some id) :
    (learned informer object).store =
      informer.store.insert id { object with metadata := object.metadata.nextVersion } := by
  have hnext : (HasMetadata.metadata
      { object with metadata := object.metadata.nextVersion }).objectId? = some id := hid
  simp [learned, Informer.process?, hnext]

/-- A write is answered as told, and noted. -/
theorem perform_eq (write : Write) (hecho : view.echo = true) :
    view.perform write = ((view.api.failures.lookup write.call).elim (.ok ()) .error,
      FunctionLoop.wiring.noted learn view
        (write, view.api.failures.lookup write.call)) := by
  cases hfailure : view.api.failures.lookup write.call with
  | some failure => simp [perform, ScriptedApi.answer, hfailure, Wiring.noted, FunctionLoop.wiring]
  | none =>
    simp only [perform, ScriptedApi.answer, hfailure]
    rw [if_pos hecho]
    exact congrArg (Prod.mk _) (FunctionLoop.wiring_detached.learn_with view _ write)

/-! ## What a round can do -/

/-- The key names the function, whose deployments are found under their own names and are learned of
when they are written. -/
structure Fit (settings : WorkloadSettings) (key : String) (primary : Function)
    (view : FunctionView) : Prop where
  /-- The caches learn of performed writes. -/
  echo : view.echo = true
  /-- The function is known under the key. -/
  names : Names view.primaries.store key primary
  /-- Deployments are found under their own names. -/
  keyed : view.deployments.store.Keyed
  /-- The settings. -/
  configured : view.settings = settings

/-- The cache has a deployment that records the declared state. -/
def Deployed (primary : Function) (view : FunctionView) : Prop :=
  ∃ deployment, view.deployments.store.get? (primary.metadata.space.getD "")
    primary.metadata.displayName = some deployment ∧
      deployment.metadata.Records Function.kind primary

/-- The cache has a service. -/
def Served (primary : Function) (view : FunctionView) : Prop :=
  ∃ service, view.services.store.get? (primary.metadata.space.getD "")
    primary.metadata.displayName = some service

/-- What a round does with the service, once the deployment is as it should be and `outcome` is what
was done with it. -/
inductive Serves (failures : List (WriteCall × ApiFailure)) (settings : WorkloadSettings)
    (primary : Function) (outcome : SyncOutcome) (view : FunctionView) :
    Round → FunctionView → Prop where
  /-- There is a service. -/
  | present (h : Served primary view) :
    Serves failures settings primary outcome view ⟨.ok outcome, []⟩ view
  /-- There is none, and it cannot be created. -/
  | failed {failure} (h : ¬ Served primary view)
      (hfailure : failures.lookup .createService = some failure) :
    Serves failures settings primary outcome view
      ⟨.error (.api failure), [(.newService settings primary, some failure)]⟩ view
  /-- There is none, and it is created. -/
  | created (h : ¬ Served primary view) (hfailure : failures.lookup .createService = none) :
    Serves failures settings primary outcome view
      ⟨.ok (if outcome = .unchanged then .created else outcome),
        [(.newService settings primary, none)]⟩ (view.learn (.newService settings primary))

/-- What a round does: it deals with the deployment, and with the service if that went well. -/
inductive Turns (failures : List (WriteCall × ApiFailure)) (settings : WorkloadSettings)
    (primary : Function) (view : FunctionView) : Round → FunctionView → Prop where
  /-- The deployment records the declared state. -/
  | kept {later : Round} {last : FunctionView} (h : Deployed primary view)
      (hserves : Serves failures settings primary .unchanged view later last) :
    Turns failures settings primary view later last
  /-- There is another deployment, which may not be replaced. -/
  | refused {refusal} (h : ¬ Deployed primary view)
      (hthere : view.deployments.store.get? (primary.metadata.space.getD "")
        primary.metadata.displayName ≠ none) :
    Turns failures settings primary view ⟨.error refusal, []⟩ view
  /-- The deployment cannot be written. -/
  | failed {write failure} (h : ¬ Deployed primary view)
      (hmay : view.caches.MayDeploy primary write)
      (hfailure : failures.lookup write.call = some failure) :
    Turns failures settings primary view ⟨.error (.api failure), [(write, some failure)]⟩ view
  /-- The deployment is written. -/
  | deployed {write outcome} {later : Round} {last : FunctionView} (h : ¬ Deployed primary view)
      (hmay : view.caches.MayDeploy primary write)
      (hfailure : failures.lookup write.call = none)
      (hserves : Serves failures settings primary outcome (view.learn write) later last) :
    Turns failures settings primary view ⟨later.result, (write, none) :: later.attempts⟩ last

/-- A round comes to what the sync of the function comes to. -/
theorem Fit.round_eq (h : Fit settings key primary view)
    (failures : List (WriteCall × ApiFailure)) :
    ∃ api, FunctionLoop.wiring.round key failures view =
      ((view.caches.converge primary).round failures,
        { ((view.caches.converge primary).round failures).accepted.foldl learn view with
          api := api }) := by
  refine FunctionLoop.wiring_detached.round_eq (fun view => view.echo = true) rfl
    (fun write view => perform_eq write) ?_ h.echo h.names
  intro view attempt hecho
  show (if attempt.2.isNone then view.learn attempt.1 else view).echo = true
  split
  · rw [learn_eq]
    exact hecho
  · exact hecho

/-- The part of a sync that deals with the service does so. -/
theorem serves_round {caches : FunctionCaches} (hservices : caches.services = view.services.store)
    (hsettings : caches.settings = settings) (outcome : SyncOutcome) :
    Serves failures settings primary outcome view
      ((caches.convergeService primary outcome).round failures)
      (((caches.convergeService primary outcome).round failures).accepted.foldl learn view) := by
  cases hget : view.services.store.get? (primary.metadata.space.getD "")
      primary.metadata.displayName with
  | some service =>
    have hconverge : caches.convergeService primary outcome = .finished (.ok outcome) := by
      simp only [FunctionCaches.convergeService, hservices, hget]
    rw [hconverge]
    exact .present ⟨service, hget⟩
  | none =>
    have hmissing : ¬ Served primary view := by
      rintro ⟨service, hservice⟩
      cases hget.symm.trans hservice
    have hconverge : caches.convergeService primary outcome =
        .attempt (.newService settings primary)
          (.finished (.ok (if outcome = .unchanged then .created else outcome))) := by
      simp only [FunctionCaches.convergeService, hservices, hget, hsettings]
      rfl
    rw [hconverge]
    cases hfailure : failures.lookup (Write.newService settings primary).call with
    | some failure =>
      rw [Sync.round_attempt_failed hfailure]
      exact .failed hmissing hfailure
    | none =>
      rw [Sync.round_attempt_performed hfailure]
      exact .created hmissing hfailure

/-- A round does nothing else than to take a turn. -/
theorem Fit.turn (h : Fit settings key primary view)
    (failures : List (WriteCall × ApiFailure)) :
    ∃ round next api, FunctionLoop.wiring.round key failures view =
        (round, { next with api := api }) ∧
      Turns failures settings primary view round next := by
  obtain ⟨api, hround⟩ := h.round_eq failures
  refine ⟨_, _, api, hround, ?_⟩
  by_cases hdeployed : Deployed primary view
  · obtain ⟨deployment, hget, hrecords⟩ := hdeployed
    have hconverge : view.caches.converge primary =
        view.caches.convergeService primary .unchanged := by
      have hget' : view.caches.deployments.get? (primary.metadata.space.getD "")
          primary.metadata.displayName = some deployment := hget
      rw [FunctionCaches.converge, hget']
      exact converge_recorded_of_records hrecords _ _ _
    rw [hconverge]
    exact .kept ⟨deployment, hget, hrecords⟩ (serves_round rfl h.configured .unchanged)
  obtain ⟨refusal, hthere, -, hstep⟩ | ⟨⟨metadata, hexisting, hrecords⟩, -⟩ |
      ⟨write, outcome, hallowed, -, hstep⟩ :=
    converge_recorded_cases Function.kind primary
      ((view.caches.deployments.get? (primary.metadata.space.getD "")
        primary.metadata.displayName).map Derived.metadata) _ _
  · rw [show view.caches.converge primary = _ from hstep (view.caches.convergeService primary)]
    refine .refused hdeployed fun hnone => hthere ?_
    show (view.deployments.store.get? _ _).map _ = none
    rw [hnone]
    rfl
  · obtain ⟨deployment, hget, rfl⟩ := Option.map_eq_some_iff.1 hexisting
    exact absurd ⟨deployment, hget, hrecords⟩ hdeployed
  · rw [show view.caches.converge primary = _ from hstep (view.caches.convergeService primary)]
    have hmay : view.caches.MayDeploy primary write := .of_allowed hallowed
    cases hfailure : failures.lookup write.call with
    | some failure =>
      rw [Sync.round_attempt_failed hfailure]
      exact .failed hdeployed hmay hfailure
    | none =>
      rw [Sync.round_attempt_performed hfailure]
      have hservices : view.caches.services = (view.learn write).services.store := by
        cases hmay <;> rfl
      exact .deployed hdeployed hmay hfailure (serves_round hservices h.configured outcome)

/-! ## What a round leads to -/

/-- A performed write of the deployment is found, and records the declared state. -/
theorem Fit.deploy (h : Fit settings key primary view) (hnamed : primary.metadata.Named id)
    (hrange : primary.spec.InRange) {write : Write} (hmay : view.caches.MayDeploy primary write) :
    Fit settings key primary (view.learn write) ∧ Deployed primary (view.learn write) := by
  obtain ⟨object, objectId, hlearn, hid, hrecords, hfound⟩ : ∃ (object : Deployment) (objectId : _),
      view.learn write = { view with deployments := learned view.deployments object } ∧
      object.metadata.objectId? = some objectId ∧
      object.metadata.Records Function.kind primary ∧
      ∀ next, (view.deployments.store.insert objectId next).get?
        (primary.metadata.space.getD "") primary.metadata.displayName = some next := by
    cases hmay with
    | create hmissing =>
      obtain ⟨space, name, rfl, hspace, hname, hmetadata⟩ := hnamed.eq_some
      refine ⟨_, ⟨some space, _⟩, rfl, congrArg (fun space => some (ObjectId.mk space _)) hmetadata,
        Deployment.make_records hrange, fun next => ?_⟩
      rw [hmetadata]
      exact Store.get_insert_own _ hspace _ next
    | @replace existing hget hreplaceable =>
      obtain ⟨existingId, hid, hfound⟩ := h.keyed.get_insert hget
      refine ⟨_, existingId, rfl, ?_, Deployment.converge_records existing hrange, hfound⟩
      rw [Deployment.converge_metadata]
      exact hid
  rw [hlearn]
  have hstore := store_learned view.deployments hid
  refine ⟨⟨h.echo, h.names, ?_, h.configured⟩,
    { object with metadata := object.metadata.nextVersion }, ?_, hrecords.next_version⟩
  · show (learned view.deployments object).store.Keyed
    rw [hstore]
    exact h.keyed.insert hid
  · show (learned view.deployments object).store.get? _ _ = _
    rw [hstore]
    exact hfound _

/-- A performed creation of the service is found. -/
theorem served_learn (hnamed : primary.metadata.Named id) (settings : WorkloadSettings)
    (view : FunctionView) : Served primary (view.learn (.newService settings primary)) := by
  obtain ⟨space, name, rfl, hspace, hname, hmetadata⟩ := hnamed.eq_some
  have hid : (Service.make settings primary).metadata.objectId? =
      some ⟨some space, primary.metadata.displayName⟩ :=
    congrArg (fun space => some (ObjectId.mk space _)) hmetadata
  have hstore : (view.learn (.newService settings primary)).services.store = _ :=
    store_learned view.services hid
  rw [Served, hstore, hmetadata]
  exact ⟨_, Store.get_insert_own _ hspace _ _⟩

/-- Both objects are as they should be. -/
structure Settled (settings : WorkloadSettings) (key : String) (primary : Function)
    (view : FunctionView) : Prop extends Fit settings key primary view where
  /-- The deployment. -/
  deployed : Deployed primary view
  /-- The service. -/
  served : Served primary view

/-- The deployment is as it should be, but there is no service. -/
structure Halfway (settings : WorkloadSettings) (key : String) (primary : Function)
    (view : FunctionView) : Prop extends Fit settings key primary view where
  /-- The deployment. -/
  deployed : Deployed primary view
  /-- The service. -/
  unserved : ¬ Served primary view

/-- There is neither a deployment nor a service. -/
structure Bare (settings : WorkloadSettings) (key : String) (primary : Function)
    (view : FunctionView) : Prop extends Fit settings key primary view where
  /-- The deployment. -/
  missing : view.deployments.store.get? (primary.metadata.space.getD "")
    primary.metadata.displayName = none
  /-- The service. -/
  unserved : ¬ Served primary view

section Api

variable (api : ScriptedApi)

/-- The API is no part of what makes a view fit. -/
theorem Fit.with_api (h : Fit settings key primary view) :
    Fit settings key primary { view with api := api } := ⟨h.echo, h.names, h.keyed, h.configured⟩

/-- The API is no part of what settles a view. -/
theorem Settled.with_api (h : Settled settings key primary view) :
    Settled settings key primary { view with api := api } :=
  ⟨h.toFit.with_api api, h.deployed, h.served⟩

/-- Nor is it of what is done halfway. -/
theorem Halfway.with_api (h : Halfway settings key primary view) :
    Halfway settings key primary { view with api := api } :=
  ⟨h.toFit.with_api api, h.deployed, h.unserved⟩

/-- Nor is it of what is yet to be done. -/
theorem Bare.with_api (h : Bare settings key primary view) :
    Bare settings key primary { view with api := api } :=
  ⟨h.toFit.with_api api, h.missing, h.unserved⟩

end Api

/-- Dealing with the service settles the view, unless the service cannot be created. -/
theorem Serves.leads {outcome : SyncOutcome}
    (h : Serves failures settings primary outcome view round next)
    (hfit : Fit settings key primary view) (hdeployed : Deployed primary view)
    (hnamed : primary.metadata.Named id) :
    (∃ failure, failures.lookup .createService = some failure ∧
      round = ⟨.error (.api failure), [(.newService settings primary, some failure)]⟩ ∧
      Halfway settings key primary next) ∨
    (∀ attempt ∈ round.attempts, attempt.2 = none) ∧ Settled settings key primary next := by
  cases h with
  | present hserved => exact .inr ⟨List.forall_mem_nil _, hfit, hdeployed, hserved⟩
  | @failed failure hunserved hfailure =>
    exact .inl ⟨failure, hfailure, rfl, hfit, hdeployed, hunserved⟩
  | created hunserved hfailure =>
    refine .inr ⟨fun attempt hattempt => ?_, ⟨hfit.echo, hfit.names, hfit.keyed, hfit.configured⟩,
      hdeployed, served_learn hnamed settings view⟩
    rw [List.mem_singleton.1 hattempt]

/-- A settled view finds nothing to do. -/
theorem Settled.turn (h : Settled settings key primary view)
    (hturn : Turns failures settings primary view round next) : round = .idle ∧ next = view := by
  cases hturn with
  | kept _ hserves =>
    cases hserves with
    | present => exact ⟨rfl, rfl⟩
    | failed hunserved | created hunserved => exact absurd h.served hunserved
  | refused hother | failed hother | deployed hother => exact absurd h.deployed hother

/-- A view that is halfway has the service created, and nothing else, unless this fails. -/
theorem Halfway.turn (h : Halfway settings key primary view) (hnamed : primary.metadata.Named id)
    (hturn : Turns failures settings primary view round next) :
    (∃ failure, failures.lookup .createService = some failure ∧
      round = ⟨.error (.api failure), [(.newService settings primary, some failure)]⟩ ∧
      Halfway settings key primary next) ∨
    round = ⟨.ok .created, [(.newService settings primary, none)]⟩ ∧
      Settled settings key primary next := by
  cases hturn with
  | kept _ hserves =>
    obtain hfailed | ⟨hperformed, hsettled⟩ := hserves.leads h.toFit h.deployed hnamed
    · exact .inl hfailed
    · cases hserves with
      | present hserved => exact absurd hserved h.unserved
      | failed => cases hperformed _ List.mem_cons_self
      | created => exact .inr ⟨rfl, hsettled⟩
  | refused hother | failed hother | deployed hother => exact absurd h.deployed hother

/-- Where there is no deployment, only a new one may be written. -/
theorem Bare.may_deploy (h : Bare settings key primary view) {write : Write}
    (hmay : view.caches.MayDeploy primary write) : write = .newDeployment settings primary := by
  cases hmay with
  | create => rw [← h.configured]; rfl
  | replace hget => cases h.missing.symm.trans hget

/-- Where there is nothing, the deployment is created and then the service, as far as this does not
fail. -/
theorem Bare.turn (h : Bare settings key primary view) (hnamed : primary.metadata.Named id)
    (hrange : primary.spec.InRange) (hturn : Turns failures settings primary view round next) :
    (∃ failure, failures.lookup .createDeployment = some failure ∧
      round.attempts = [(.newDeployment settings primary, some failure)] ∧
      Bare settings key primary next) ∨
    (∃ failure, failures.lookup .createService = some failure ∧
      round.attempts = [(.newDeployment settings primary, none),
        (.newService settings primary, some failure)] ∧
      Halfway settings key primary next) ∨
    round.attempts = [(.newDeployment settings primary, none),
        (.newService settings primary, none)] ∧
      Settled settings key primary next := by
  cases hturn with
  | kept hdeployed =>
    obtain ⟨deployment, hget, -⟩ := hdeployed
    cases h.missing.symm.trans hget
  | refused _ hthere => exact absurd h.missing hthere
  | @failed write failure _ hmay hfailure =>
    obtain rfl := h.may_deploy hmay
    exact .inl ⟨failure, hfailure, rfl, h⟩
  | deployed _ hmay _ hserves =>
    obtain ⟨hfit, hdeployed⟩ := h.toFit.deploy hnamed hrange hmay
    obtain rfl := h.may_deploy hmay
    -- the new deployment changes nothing about the service, so the rest is a turn from halfway
    have hhalfway : Halfway settings key primary (view.learn (.newDeployment settings primary)) :=
      ⟨hfit, hdeployed, h.unserved⟩
    refine .inr ?_
    obtain ⟨failure, hfailure, hlater, hnext⟩ | ⟨hperformed, hsettled⟩ :=
      hserves.leads hfit hdeployed hnamed
    · exact .inl ⟨failure, hfailure, congrArg _ (congrArg Round.attempts hlater), hnext⟩
    · cases hserves with
      | present hserved => exact absurd hserved hhalfway.unserved
      | failed => cases hperformed _ List.mem_cons_self
      | created => exact .inr ⟨rfl, hsettled⟩

/-- Every round keeps a view fit, settles it if it goes well, and leaves it halfway if it fails to
create the service. -/
theorem Fit.turn_leads (h : Fit settings key primary view) (hnamed : primary.metadata.Named id)
    (hrange : primary.spec.InRange) (hturn : Turns failures settings primary view round next) :
    Fit settings key primary next ∧
    (∀ outcome, round.result = .ok outcome → Settled settings key primary next) ∧
    ∀ failure, (.newService settings primary, some failure) ∈ round.attempts →
      Halfway settings key primary next := by
  cases hturn with
  | kept hdeployed hserves =>
    obtain ⟨failure, -, rfl, hnext⟩ | ⟨hperformed, hsettled⟩ := hserves.leads h hdeployed hnamed
    · exact ⟨hnext.toFit, nofun, fun _ _ => hnext⟩
    · refine ⟨hsettled.toFit, fun _ _ => hsettled, fun failure hmem => ?_⟩
      cases hperformed _ hmem
  | refused => exact ⟨h, nofun, nofun⟩
  | failed _ hmay =>
    refine ⟨h, nofun, fun failure hmem => ?_⟩
    cases hmay <;> cases List.mem_singleton.1 hmem
  | deployed _ hmay _ hserves =>
    obtain ⟨hfit, hdeployed⟩ := h.deploy hnamed hrange hmay
    obtain ⟨failure, -, rfl, hnext⟩ | ⟨hperformed, hsettled⟩ := hserves.leads hfit hdeployed hnamed
    · exact ⟨hnext.toFit, nofun, fun _ _ => hnext⟩
    · refine ⟨hsettled.toFit, fun _ _ => hsettled, fun failure hmem => ?_⟩
      rcases List.mem_cons.1 hmem with heq | hmem
      · cases heq
      · cases hperformed _ hmem

/-! ## Any number of rounds -/

/-- A settled view finds nothing to do, and remains settled. -/
theorem Settled.round_idle (h : Settled settings key primary view)
    (failures : List (WriteCall × ApiFailure)) :
    (FunctionLoop.wiring.round key failures view).1 = .idle ∧
      Settled settings key primary (FunctionLoop.wiring.round key failures view).2 := by
  obtain ⟨round, next, api, hround, hturn⟩ := h.toFit.turn failures
  obtain ⟨rfl, rfl⟩ := h.turn hturn
  rw [hround]
  exact ⟨rfl, h.with_api api⟩

/-- A view that is halfway has the service created in the next round without a failed call. -/
theorem Halfway.resumed (h : Halfway settings key primary view)
    (hnamed : primary.metadata.Named id) {patterns : List (List (WriteCall × ApiFailure))}
    {between after : List Round}
    (hrounds : FunctionLoop.wiring.rounds key patterns view = between ++ round :: after)
    (hfailed : ∀ earlier ∈ between, earlier.Fails) (hperformed : ¬ round.Fails) :
    round = ⟨.ok .created, [(.newService settings primary, none)]⟩ := by
  induction patterns generalizing view between with
  | nil => cases between <;> cases hrounds
  | cons failures patterns ih =>
    obtain ⟨first, next, api, hround, hturn⟩ := h.toFit.turn failures
    rw [Wiring.rounds, hround] at hrounds
    obtain ⟨failure, -, rfl, hnext⟩ | ⟨rfl, -⟩ := h.turn hnamed hturn
    · cases between with
      | nil =>
        obtain rfl := (List.cons.inj hrounds).1
        exact absurd ⟨_, List.mem_cons_self, rfl⟩ hperformed
      | cons earlier between =>
        exact ih (hnext.with_api api) (List.cons.inj hrounds).2
          (fun other hother => hfailed other (List.mem_cons_of_mem _ hother))
    · cases between with
      | nil => exact (List.cons.inj hrounds).1.symm
      | cons earlier between =>
        obtain rfl := (List.cons.inj hrounds).1
        obtain ⟨attempt, hattempt, hfails⟩ := hfailed _ List.mem_cons_self
        rw [List.mem_singleton.1 hattempt] at hfails
        cases hfails

/-- Once the service could not be created, the next round without a failed call creates it, and
nothing else. -/
theorem Fit.resumed (h : Fit settings key primary view) (hnamed : primary.metadata.Named id)
    (hrange : primary.spec.InRange) {patterns : List (List (WriteCall × ApiFailure))}
    {before between after : List Round} {half : Round}
    (hrounds : FunctionLoop.wiring.rounds key patterns view =
      before ++ half :: (between ++ round :: after))
    (hhalf : ∃ failure, (.newService settings primary, some failure) ∈ half.attempts)
    (hfailed : ∀ earlier ∈ between, earlier.Fails) (hperformed : ¬ round.Fails) :
    round = ⟨.ok .created, [(.newService settings primary, none)]⟩ := by
  induction patterns generalizing view before with
  | nil => cases before <;> cases hrounds
  | cons failures patterns ih =>
    obtain ⟨first, next, api, hround, hturn⟩ := h.turn failures
    obtain ⟨hfit, -, hleads⟩ := h.turn_leads hnamed hrange hturn
    rw [Wiring.rounds, hround] at hrounds
    cases before with
    | nil =>
      obtain ⟨rfl, hlater⟩ := List.cons.inj hrounds
      obtain ⟨failure, hmem⟩ := hhalf
      exact ((hleads failure hmem).with_api api).resumed hnamed hlater hfailed hperformed
    | cons earlier before => exact ih (hfit.with_api api) (List.cons.inj hrounds).2

/-- The writes that are yet to be performed before a view is settled. -/
inductive Owes (settings : WorkloadSettings) (key : String) (primary : Function) :
    List Write → FunctionView → Prop where
  /-- Nothing is left to do. -/
  | nothing {view : FunctionView} (h : Settled settings key primary view) :
    Owes settings key primary [] view
  /-- The service is. -/
  | service {view : FunctionView} (h : Halfway settings key primary view) :
    Owes settings key primary [.newService settings primary] view
  /-- Both objects are. -/
  | both {view : FunctionView} (h : Bare settings key primary view) :
    Owes settings key primary [.newDeployment settings primary, .newService settings primary] view

/-- A round asks for nothing that is not owed, performs the first of the owed writes, and all of
them if nothing fails. -/
theorem Owes.turn {owed : List Write} (h : Owes settings key primary owed view)
    (hnamed : primary.metadata.Named id) (hrange : primary.spec.InRange)
    (failures : List (WriteCall × ApiFailure)) :
    ∃ round next rest, FunctionLoop.wiring.round key failures view = (round, next) ∧
      owed = round.accepted ++ rest ∧ Owes settings key primary rest next ∧
      (∀ attempt ∈ round.attempts, attempt.1 ∈ owed) ∧ (failures = [] → rest = []) := by
  cases h with
  | nothing hsettled =>
    obtain ⟨hround, hnext⟩ := hsettled.round_idle failures
    exact ⟨.idle, _, [], Prod.ext hround rfl, rfl, .nothing hnext, List.forall_mem_nil _,
      fun _ => rfl⟩
  | service hhalfway =>
    obtain ⟨round, next, api, hround, hturn⟩ := hhalfway.toFit.turn failures
    refine ⟨round, { next with api := api }, ?_⟩
    obtain ⟨failure, hfailure, rfl, hnext⟩ | ⟨rfl, hnext⟩ := hhalfway.turn hnamed hturn
    · refine ⟨_, hround, rfl, .service (hnext.with_api api), ?_, ?_⟩
      · simp
      · rintro rfl
        cases hfailure
    · exact ⟨_, hround, rfl, .nothing (hnext.with_api api), by simp, fun _ => rfl⟩
  | both hbare =>
    obtain ⟨round, next, api, hround, hturn⟩ := hbare.toFit.turn failures
    refine ⟨round, { next with api := api }, ?_⟩
    obtain ⟨failure, hfailure, hattempts, hnext⟩ | ⟨failure, hfailure, hattempts, hnext⟩ |
      ⟨hattempts, hnext⟩ := hbare.turn hnamed hrange hturn
    · refine ⟨_, hround, ?_, .both (hnext.with_api api), ?_, ?_⟩
      · rw [Round.accepted, hattempts]
        rfl
      · simp [hattempts]
      · rintro rfl
        cases hfailure
    · refine ⟨_, hround, ?_, .service (hnext.with_api api), ?_, ?_⟩
      · rw [Round.accepted, hattempts]
        rfl
      · simp [hattempts]
      · rintro rfl
        cases hfailure
    · refine ⟨_, hround, ?_, .nothing (hnext.with_api api), ?_, fun _ => rfl⟩
      · rw [Round.accepted, hattempts]
        rfl
      · simp [hattempts]

end FunctionView

/-- What repeated rounds do about owed writes: they ask for nothing else, each of them is performed
at most once and in their order, and all of them are if a single sync meets no failure. -/
structure Completes (owed : List Write) (patterns : List (List (WriteCall × ApiFailure)))
    (rounds : List Round) : Prop where
  /-- Only owed writes are asked for. -/
  asked : ∀ round ∈ rounds, ∀ attempt ∈ round.attempts, attempt.1 ∈ owed
  /-- The performed ones are the first of them. -/
  performed : rounds.flatMap Round.accepted <+: owed
  /-- They are all of them after a sync that meets no failure. -/
  completed : [] ∈ patterns → rounds.flatMap Round.accepted = owed

namespace FunctionView

variable {settings : WorkloadSettings} {key : String} {primary : Function} {id : ObjectId}

/-- The rounds perform what is owed. -/
theorem Owes.completes {view : FunctionView} {owed : List Write}
    (h : Owes settings key primary owed view) (hnamed : primary.metadata.Named id)
    (hrange : primary.spec.InRange) (patterns : List (List (WriteCall × ApiFailure))) :
    Completes owed patterns (FunctionLoop.wiring.rounds key patterns view) := by
  induction patterns generalizing owed view with
  | nil => exact ⟨nofun, List.nil_prefix, nofun⟩
  | cons failures patterns ih =>
    obtain ⟨round, next, rest, hround, rfl, hnext, hasked, hall⟩ := h.turn hnamed hrange failures
    obtain ⟨hlater, hperformed, hcompleted⟩ := ih hnext
    rw [Wiring.rounds, hround]
    refine ⟨?_, ?_, fun hmem => ?_⟩
    · refine List.forall_mem_cons.2 ⟨hasked, fun later hmem attempt hattempt => ?_⟩
      exact List.mem_append_right _ (hlater later hmem attempt hattempt)
    · exact (List.prefix_append_right_inj _).2 hperformed
    · refine congrArg (round.accepted ++ ·) ?_
      rcases List.mem_cons.1 hmem with hnone | hmem
      · rw [hall hnone.symm] at hperformed ⊢
        exact List.prefix_nil.1 hperformed
      · exact hcompleted hmem

/-- What repeated syncs of a function do, whatever the caches contain and whatever calls fail. -/
structure Resumes (key : String) (primary : Function) (view : FunctionView) : Prop where
  /-- After a sync that went well, every later one finds nothing to do. -/
  settled : ∀ patterns, (FunctionLoop.wiring.rounds key patterns view).Pairwise
    fun earlier later => (∃ outcome, earlier.result = .ok outcome) → later = .idle
  /-- After a sync that could not create the service, the next one without a failed call creates it,
  and nothing else. -/
  resumed : ∀ patterns before half between next after,
    FunctionLoop.wiring.rounds key patterns view =
      before ++ half :: (between ++ next :: after) →
    (∃ failure, (.newService view.settings primary, some failure) ∈ half.attempts) →
    (∀ round ∈ between, round.Fails) → ¬ next.Fails →
    next = ⟨.ok .created, [(.newService view.settings primary, none)]⟩
  /-- Where there is nothing, both objects are created once, and no object is replaced. -/
  completed : view.deployments.store = .empty → view.services.store = .empty →
    ∀ patterns, Completes
      [.newDeployment view.settings primary, .newService view.settings primary] patterns
      (FunctionLoop.wiring.rounds key patterns view)

end FunctionView

/-- Syncs of a function can be repeated and resumed: one that went well leaves nothing to do, and
what one could not do is done by a later one. -/
theorem FunctionLoop.rounds_resume {view : FunctionView} {key : String} {primary : Function}
    {id : ObjectId} (hecho : view.echo = true) (hnames : Names view.primaries.store key primary)
    (hnamed : primary.metadata.Named id) (hrange : primary.spec.InRange)
    (hkeyed : view.deployments.store.Keyed) : view.Resumes key primary := by
  have hfit : FunctionView.Fit view.settings key primary view := ⟨hecho, hnames, hkeyed, rfl⟩
  refine ⟨fun patterns => ?_, ?_, fun hdeployments hservices patterns => ?_⟩
  · refine Wiring.rounds_pairwise (FunctionView.Fit view.settings key primary)
      (FunctionView.Settled view.settings key primary) (fun failures view hfit => ?_)
      (fun failures view hsettled => hsettled.round_idle failures) patterns hfit
    obtain ⟨round, next, api, hround, hturn⟩ := hfit.turn failures
    obtain ⟨hnext, hok, -⟩ := hfit.turn_leads hnamed hrange hturn
    rw [hround]
    exact ⟨hnext.with_api api, fun outcome hresult => (hok outcome hresult).with_api api⟩
  · intro patterns before half between next after hrounds hhalf hfailed hperformed
    exact hfit.resumed hnamed hrange hrounds hhalf hfailed hperformed
  · have hbare : FunctionView.Bare view.settings key primary view := by
      refine ⟨hfit, ?_, ?_⟩
      · rw [hdeployments]
        rfl
      · rintro ⟨service, hget⟩
        rw [hservices] at hget
        cases hget
    exact (FunctionView.Owes.both hbare).completes hnamed hrange patterns

namespace FunctionLoop

/-- A function with an image. -/
def echoFunction : Function where
  metadata := { name := some "echo", space := some "web", uid := some "1" }
  spec := { name := "echo", image := "echo:1", replicas := some 2 }

/-- A view that knows the function and nothing else. -/
def echoView : FunctionView where
  primaries := { (.new : Informer Function) with
    store := Store.empty.insert ⟨some "web", "echo"⟩ echoFunction }
  settings := {}
  echo := true

/-- The deployment fails at first, and then the service, twice. -/
def echoFailures : List (List (WriteCall × ApiFailure)) :=
  [[(.createDeployment, .unavailable "gone")], [(.createService, .unavailable "gone")],
    [(.createService, .unavailable "gone")], [], []]

/-- The deployment is created in the second sync and the service in the fourth, and then nothing is
left to do. -/
theorem rounds_resume_echo :
    ∃ first second third fourth fifth,
      wiring.rounds "web/echo" echoFailures echoView = [first, second, third, fourth, fifth] ∧
      (∃ failure, (.newService {} echoFunction, some failure) ∈ second.attempts) ∧ third.Fails ∧
      fourth = ⟨.ok .created, [(.newService {} echoFunction, none)]⟩ ∧ fifth = .idle ∧
      [first, second, third, fourth, fifth].flatMap Round.accepted =
        [.newDeployment {} echoFunction, .newService {} echoFunction] := by
  have hresumes := rounds_resume (show echoView.echo = true from rfl)
    (show Names _ "web/echo" echoFunction from ⟨"web", "echo", by decide +kernel, rfl⟩)
    (show Metadata.Named _ ⟨some "web", "echo"⟩ from ⟨rfl, "web", rfl, by decide⟩)
    (show echoFunction.spec.InRange from by rintro _ ⟨⟩; decide) .empty
  obtain ⟨first, second, third, fourth, fifth, hrounds, hsecond, hthird, hfourth⟩ :
      ∃ first second third fourth fifth,
        wiring.rounds "web/echo" echoFailures echoView = [first, second, third, fourth, fifth] ∧
        (∃ failure, (.newService {} echoFunction, some failure) ∈ second.attempts) ∧
        third.Fails ∧ ¬ fourth.Fails :=
    ⟨_, _, _, _, _, rfl, ⟨_, List.mem_cons_of_mem _ List.mem_cons_self⟩, by decide +kernel,
      by decide +kernel⟩
  have hcreated := hresumes.resumed echoFailures [first] second [third] fourth [fifth] hrounds
    hsecond (fun round hround => List.mem_singleton.1 hround ▸ hthird) hfourth
  have hsettled := hresumes.settled echoFailures
  have hcompleted := (hresumes.completed rfl rfl echoFailures).completed (by simp [echoFailures])
  rw [hrounds] at hsettled hcompleted
  refine ⟨first, second, third, fourth, fifth, hrounds, hsecond, hthird, hcreated, ?_, hcompleted⟩
  simp only [List.pairwise_cons] at hsettled
  exact hsettled.2.2.2.1 fifth List.mem_cons_self ⟨_, congrArg Round.result hcreated⟩

end FunctionLoop

end FunctionOperator
