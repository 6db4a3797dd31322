import FunctionOperator.Proofs.Sync.Standing

/-!
# Derived objects without a record

What a sync does with a derived object that it controls and of which nobody knows what it was
rendered from: its record is missing or empty. Read `Primary.Vacant` first. The snapshot that stands
for an unknown one is an ordinary value, so it agrees with one declared state, in which nothing is
asked for; `records_iff_vacant` shows that it agrees with no other. Whatever else is declared, the
sync replaces the object; `vacant_left_alone` shows the exception.
-/

namespace FunctionOperator

section Unrecorded

variable {σ : Type} {kind : PrimaryKind σ} {metadata : Metadata} {primary : Primary σ}

/-- A declared object asks for nothing: its spec is the one that stands for an unknown one, and it
has no annotations of its own. -/
def Primary.Vacant (kind : PrimaryKind σ) (primary : Primary σ) : Prop :=
  primary.spec = kind.blank ∧ primary.metadata.userAnnotations = ∅

/-- The record of a derived object is missing or empty. -/
def Metadata.Unrecorded (kind : PrimaryKind σ) (metadata : Metadata) : Prop :=
  ∀ text, metadata.annotations.bind (·.get? kind.snapshotKey) = some text → text = ""

/-- What is recovered without a record is the snapshot that stands for an unknown one. -/
theorem recover_of_unrecorded (h : metadata.Unrecorded kind) :
    Snapshot.recover kind metadata.annotations = .ok (Snapshot.record kind).blank := by
  have hnone : (metadata.annotations.bind (·.get? kind.snapshotKey)).filter (!·.isEmpty) =
      none := by
    refine Option.filter_eq_none_iff.2 fun text htext => ?_
    simp [h text htext]
  rw [Snapshot.recover, hnone]

variable [DecidableEq σ]

/-- The snapshot that stands for an unknown one agrees with a declared object that asks for nothing,
and with no other. -/
theorem blank_agrees_iff :
    (Snapshot.record kind).blank.agrees (Snapshot.capture primary) = true ↔
      primary.Vacant kind := by
  unfold Snapshot.agrees Primary.Vacant
  simp only [Bool.and_eq_true, decide_eq_true_eq]
  exact and_congr eq_comm eq_comm

/-- A derived object without a record passes for one that records the declared state exactly if
nothing is asked for. -/
theorem records_iff_vacant (h : metadata.Unrecorded kind) :
    metadata.Records kind primary ↔ primary.Vacant kind := by
  rw [← blank_agrees_iff, Metadata.Records, recover_of_unrecorded h]
  constructor
  · rintro ⟨snapshot, hsnapshot, hagrees⟩
    rwa [Except.ok.inj hsnapshot]
  · exact fun hagrees => ⟨_, rfl, hagrees⟩

/-- An object without a record that its primary object controls is replaced, unless nothing is asked
for. -/
theorem converge_recorded_of_unrecorded (h : metadata.Unrecorded kind)
    (hcontrolled : metadata.isControlledBy kind.kind primary.metadata = true)
    (hwanted : ¬ primary.Vacant kind) (create replace : Write) (rest : SyncOutcome → Sync) :
    convergeRecorded kind primary (some metadata) create replace rest =
      .attempt replace (rest .updated) := by
  have hdiffers : (Snapshot.record kind).blank.agrees (Snapshot.capture primary) = false :=
    Bool.eq_false_iff.2 fun hagrees => hwanted (blank_agrees_iff.1 hagrees)
  -- without a record there is no name to be refused for
  have hrefusal : replaceRefusal? kind (Snapshot.record kind).blank metadata primary.metadata =
      none := by
    unfold replaceRefusal?
    simp only [hcontrolled, if_true]
    rfl
  simp only [convergeRecorded, recover_of_unrecorded h, hdiffers, hrefusal, Bool.false_eq_true,
    if_false]

end Unrecorded

/-! ## Both handlers -/

namespace FunctionIngressCaches

variable {caches : FunctionIngressCaches} {primary : FunctionIngress} {existing : Ingress}
variable {calls : List Call} {result : SyncResult}

/-- What a sync does with the ingress of a function ingress that has no record. -/
structure Relearns (caches : FunctionIngressCaches) (primary : FunctionIngress)
    (existing : Ingress) (result : SyncResult) (calls : List Call) : Prop where
  /-- It is taken for one that records the declared state exactly if nothing is asked for. -/
  records_iff : existing.metadata.Records FunctionIngress.kind primary ↔
    primary.Vacant FunctionIngress.kind
  /-- Otherwise it is replaced by what is asked for, and nothing else is written. -/
  replaced : ¬ primary.Vacant FunctionIngress.kind → ∃ answer,
    calls = [⟨.replaceIngress (primary.metadata.space.getD "")
      (Ingress.converge caches.api existing (desiredIngress primary)), answer⟩] ∧
    ((answer = .ok () ∧ result = .ok .updated) ∨
      ∃ failure, answer = .error failure ∧ result = .error (.api failure))

/-- Every course of a sync does this with an ingress that has no record. -/
theorem relearns_of_course (h : (caches.converge primary).Course calls result)
    (hexisting : caches.ingresses.get? (primary.metadata.space.getD "")
      primary.metadata.displayName = some existing)
    (hcontrolled : existing.metadata.isControlledBy FunctionIngress.kind.kind primary.metadata =
      true)
    (hunrecorded : existing.metadata.Unrecorded FunctionIngress.kind) :
    caches.Relearns primary existing result calls := by
  refine ⟨records_iff_vacant hunrecorded, fun hwanted => ?_⟩
  have hconverge : caches.converge primary =
      .attempt (.replaceIngress (primary.metadata.space.getD "")
        (Ingress.converge caches.api existing (desiredIngress primary)))
        (.finished (.ok .updated)) := by
    rw [converge, hexisting]
    exact converge_recorded_of_unrecorded hunrecorded hcontrolled hwanted _ _ _
  rw [hconverge] at h
  obtain ⟨failure, rfl, rfl⟩ | ⟨later, rfl, hrest⟩ := Sync.attempt_course h
  · exact ⟨_, rfl, .inr ⟨failure, rfl, rfl⟩⟩
  · obtain ⟨rfl, rfl⟩ := Sync.finished_course hrest
    exact ⟨_, rfl, .inl ⟨rfl, rfl⟩⟩

end FunctionIngressCaches

namespace FunctionCaches

variable {caches : FunctionCaches} {primary : Function} {existing : Deployment}
variable {calls : List Call} {result : SyncResult}

/-- What a sync does with the deployment of a function that has no record. -/
structure Relearns (caches : FunctionCaches) (primary : Function) (existing : Deployment)
    (result : SyncResult) (calls : List Call) : Prop where
  /-- It is taken for one that records the declared state exactly if nothing is asked for. -/
  records_iff : existing.metadata.Records Function.kind primary ↔ primary.Vacant Function.kind
  /-- Otherwise it is replaced by what is asked for before anything else is written. If this goes
  well the sync says so, unless the service cannot be created. -/
  replaced : ¬ primary.Vacant Function.kind → ∃ answer later,
    calls = ⟨.replaceDeployment (primary.metadata.space.getD "")
      (Deployment.converge caches.settings existing primary), answer⟩ :: later ∧
    ((answer = .ok () ∧ (result = .ok .updated ∨ ∃ failure, result = .error (.api failure))) ∨
      ∃ failure, answer = .error failure ∧ later = [] ∧ result = .error (.api failure))

/-- The service of a function whose deployment was replaced is there, or it is created, and this is
all that can fail. -/
theorem converge_service_updated
    (h : (caches.convergeService primary .updated).Course calls result) :
    result = .ok .updated ∨ ∃ failure, result = .error (.api failure) := by
  unfold convergeService at h
  simp only at h
  split at h
  · exact .inl (Sync.finished_course h).2
  · obtain ⟨failure, -, hfailed⟩ | ⟨later, -, hrest⟩ := Sync.attempt_course h
    · exact .inr ⟨failure, hfailed⟩
    · exact .inl (Sync.finished_course hrest).2

/-- Every course of a sync does this with a deployment that has no record. -/
theorem relearns_of_course (h : (caches.converge primary).Course calls result)
    (hexisting : caches.deployments.get? (primary.metadata.space.getD "")
      primary.metadata.displayName = some existing)
    (hcontrolled : existing.metadata.isControlledBy Function.kind.kind primary.metadata = true)
    (hunrecorded : existing.metadata.Unrecorded Function.kind) :
    caches.Relearns primary existing result calls := by
  refine ⟨records_iff_vacant hunrecorded, fun hwanted => ?_⟩
  have hconverge : caches.converge primary =
      .attempt (.replaceDeployment (primary.metadata.space.getD "")
        (Deployment.converge caches.settings existing primary))
        (caches.convergeService primary .updated) := by
    rw [converge, hexisting]
    exact converge_recorded_of_unrecorded hunrecorded hcontrolled hwanted _ _ _
  rw [hconverge] at h
  obtain ⟨failure, rfl, rfl⟩ | ⟨later, rfl, hrest⟩ := Sync.attempt_course h
  · exact ⟨_, [], rfl, .inr ⟨failure, rfl, rfl, rfl⟩⟩
  · exact ⟨_, later, rfl, .inl ⟨rfl, converge_service_updated hrest⟩⟩

end FunctionCaches

/-- Whatever else the caches contain and the API answers: a sync that finds a derived object which
its primary object controls and which has no record replaces it by what is asked for, unless nothing
is asked for. -/
theorem run_sync_relearns {γ : Type} (perform : Write → γ → Except ApiFailure Unit × γ)
    (key : String) (state : γ) :
    (∀ (caches : FunctionIngressCaches) (primary : FunctionIngress) (existing : Ingress),
      Names caches.primaries key primary →
      caches.ingresses.get? (primary.metadata.space.getD "") primary.metadata.displayName =
        some existing →
      existing.metadata.isControlledBy FunctionIngress.kind.kind primary.metadata = true →
      existing.metadata.Unrecorded FunctionIngress.kind →
      ∃ result event calls next,
        runSync FunctionIngress.kind caches.primaries caches.converge (Sync.noting perform) key
          ([], state) = (result, event, calls, next) ∧
        caches.Relearns primary existing result calls) ∧
    ∀ (caches : FunctionCaches) (primary : Function) (existing : Deployment),
      Names caches.primaries key primary →
      caches.deployments.get? (primary.metadata.space.getD "") primary.metadata.displayName =
        some existing →
      existing.metadata.isControlledBy Function.kind.kind primary.metadata = true →
      existing.metadata.Unrecorded Function.kind →
      ∃ result event calls next,
        runSync Function.kind caches.primaries caches.converge (Sync.noting perform) key
          ([], state) = (result, event, calls, next) ∧
        caches.Relearns primary existing result calls := by
  constructor
  · intro caches primary existing hnames hexisting hcontrolled hunrecorded
    obtain ⟨result, event, calls, next, hrun, -, hcourse⟩ :=
      run_sync_named_course hnames caches.converge perform state
    exact ⟨result, event, calls, next, hrun,
      FunctionIngressCaches.relearns_of_course hcourse hexisting hcontrolled hunrecorded⟩
  · intro caches primary existing hnames hexisting hcontrolled hunrecorded
    obtain ⟨result, event, calls, next, hrun, -, hcourse⟩ :=
      run_sync_named_course hnames caches.converge perform state
    exact ⟨result, event, calls, next, hrun,
      FunctionCaches.relearns_of_course hcourse hexisting hcontrolled hunrecorded⟩

/-- A derived object in the namespace `web` that is controlled and has no annotations. -/
def bare {σ : Type} (kind : PrimaryKind σ) (name : String) : Metadata where
  name := some name
  space := some "web"
  ownerReferences := some [⟨kind.apiVersion, some true, some true, kind.kind, name, "1"⟩]

/-- Such an object has no record. -/
theorem bare_unrecorded {σ : Type} (kind : PrimaryKind σ) (name : String) :
    (bare kind name).Unrecorded kind := nofun

/-- What a sync of a function ingress reads where its ingress has no record. -/
def besideBareIngress (primary : FunctionIngress) : FunctionIngressCaches where
  primaries := Store.empty.insert ⟨some "web", "shop"⟩ primary
  ingresses := Store.empty.insert ⟨some "web", "shop"⟩
    ⟨none, bare FunctionIngress.kind "shop", .object []⟩
  api := .networkingV1

/-- What a sync of a function reads where its deployment has no record. -/
def besideBareDeployment (primary : Function) : FunctionCaches where
  primaries := Store.empty.insert ⟨some "web", "echo"⟩ primary
  deployments := Store.empty.insert ⟨some "web", "echo"⟩ ⟨bare Function.kind "echo", none, none⟩
  services := .empty
  settings := {}

/-- A function ingress for a host. -/
def hosted : FunctionIngress := storefront "shop" "1" "shop.example"

/-- An ingress and a deployment without a record are replaced by what is asked for. -/
theorem run_sync_relearns_bare :
    (∃ event answer, runSync FunctionIngress.kind (besideBareIngress hosted).primaries
      (besideBareIngress hosted).converge (Sync.noting fun _ state => (.ok (), state)) "web/shop"
      ([], ()) = (.ok .updated, event, [⟨.replaceIngress "web" (Ingress.converge .networkingV1
        ⟨none, bare FunctionIngress.kind "shop", .object []⟩ (desiredIngress hosted)),
          answer⟩], ())) ∧
    ∃ event answer later, runSync Function.kind (besideBareDeployment (echoed "1")).primaries
      (besideBareDeployment (echoed "1")).converge (Sync.noting fun _ state => (.ok (), state))
      "web/echo" ([], ()) = (.ok .updated, event, ⟨.replaceDeployment "web" (Deployment.converge {}
        ⟨bare Function.kind "echo", none, none⟩ (echoed "1")), answer⟩ :: later, ()) := by
  constructor
  · obtain ⟨result, event, calls, next, hrun, hrelearns⟩ :=
      (run_sync_relearns (fun _ (state : Unit) => (.ok (), state)) "web/shop" ()).1
        (besideBareIngress hosted) hosted _ ⟨"web", "shop", by decide +kernel, rfl⟩ rfl rfl
        (bare_unrecorded _ _)
    obtain rfl : .ok .updated = result := congrArg Prod.fst hrun
    obtain ⟨answer, rfl, -⟩ := hrelearns.replaced fun hvacant => absurd hvacant.1 (by decide)
    exact ⟨event, answer, hrun⟩
  · obtain ⟨result, event, calls, next, hrun, hrelearns⟩ :=
      (run_sync_relearns (fun _ (state : Unit) => (.ok (), state)) "web/echo" ()).2
        (besideBareDeployment (echoed "1")) (echoed "1") _
        ⟨"web", "echo", by decide +kernel, rfl⟩ rfl rfl (bare_unrecorded _ _)
    obtain rfl : .ok .updated = result := congrArg Prod.fst hrun
    obtain ⟨answer, later, rfl, -⟩ := hrelearns.replaced fun hvacant => absurd hvacant.1 (by decide)
    exact ⟨event, answer, later, hrun⟩

/-- A function ingress that asks for nothing, as a client writes it. -/
def vacantText : String :=
  "\x7b\"metadata\":\x7b\"name\":\"shop\",\"namespace\":\"web\",\"uid\":\"1\"\x7d," ++
    "\"spec\":\x7b\"domain\":\"\",\"function\":\"\"\x7d\x7d"

/-- The text is accepted as a function ingress. -/
theorem vacant_text_read : ∃ primary : FunctionIngress,
    (Document.ofText vacantText).read FunctionIngress.kind.codec.read = .ok primary ∧
      primary.spec = {} ∧ primary.metadata.name = some "shop" ∧
      primary.metadata.space = some "web" ∧ primary.metadata.uid = some "1" ∧
      primary.metadata.annotations = none := by
  have hread : ((Document.ofText vacantText).read FunctionIngress.kind.codec.read).toOption.any
      (fun primary => primary.spec = {} ∧ primary.metadata.name = some "shop" ∧
        primary.metadata.space = some "web" ∧ primary.metadata.uid = some "1" ∧
        primary.metadata.annotations = none) = true := by decide +kernel
  cases htext : (Document.ofText vacantText).read FunctionIngress.kind.codec.read with
  | error cause =>
    rw [htext] at hread
    cases hread
  | ok primary =>
    rw [htext, Except.toOption, Option.any_some, decide_eq_true_eq] at hread
    exact ⟨primary, rfl, hread⟩

/-- The sync of a function ingress that asks for nothing takes an ingress without a record for its
own and leaves it alone. -/
theorem vacant_left_alone :
    ¬ ∀ (caches : FunctionIngressCaches) (key : String) (primary : FunctionIngress)
      (existing : Ingress),
      (∃ text, (Document.ofText text).read FunctionIngress.kind.codec.read = .ok primary) →
      Names caches.primaries key primary →
      caches.ingresses.get? (primary.metadata.space.getD "") primary.metadata.displayName =
        some existing →
      existing.metadata.isControlledBy FunctionIngress.kind.kind primary.metadata = true →
      existing.metadata.Unrecorded FunctionIngress.kind →
      ∀ perform : Write → Unit → Except ApiFailure Unit × Unit,
        (runSync FunctionIngress.kind caches.primaries caches.converge perform key ()).1 ≠
          .ok .unchanged := by
  intro h
  obtain ⟨primary, hread, hspec, hname, hspace, huid, hannotations⟩ := vacant_text_read
  have hnames : Names (besideBareIngress primary).primaries "web/shop" primary :=
    ⟨"web", "shop", by decide +kernel, rfl⟩
  have hget : (besideBareIngress primary).ingresses.get? (primary.metadata.space.getD "")
      primary.metadata.displayName =
        some ⟨none, bare FunctionIngress.kind "shop", .object []⟩ := by
    rw [Metadata.displayName, hname, hspace]
    rfl
  have hcontrolled : (bare FunctionIngress.kind "shop").isControlledBy FunctionIngress.kind.kind
      primary.metadata = true := by
    simp [Metadata.isControlledBy, huid, bare, Metadata.controller?, Metadata.owners,
      OwnerReference.isController]
  have hvacant : primary.Vacant FunctionIngress.kind :=
    ⟨hspec, by rw [Metadata.userAnnotations, hannotations]; rfl⟩
  have hconverge : (besideBareIngress primary).converge primary = .finished (.ok .unchanged) := by
    rw [FunctionIngressCaches.converge, hget]
    exact converge_recorded_of_records ((records_iff_vacant (bare_unrecorded _ _)).2 hvacant) _ _ _
  refine h (besideBareIngress primary) "web/shop" primary _ ⟨vacantText, hread⟩ hnames hget
    hcontrolled (bare_unrecorded _ _) (fun _ state => (.ok (), state)) ?_
  rw [run_sync_of_names hnames, hconverge]
  rfl

end FunctionOperator
