import FunctionOperator.Proofs.Convergence.Watches

/-!
# A cluster at rest

What the ingresses are once nothing is left to do. Read `run_at_rest` first: a sync that wrote
leaves an ingress that records the declared state; one that left the ingress alone does so exactly
if the API server's ingress recorded it when the cached one was read. The cached one may be older,
and a change of an ingress does not bring its function ingress back to the queue, so
`run_at_rest_stale` is a run after which the ingress stays wrong.
-/

namespace FunctionOperator

namespace Cluster

variable {backoff : Backoff} {api : IngressApi} {cluster next : Cluster}

/-- The clusters that may come about from the moment at which the operator has listed what there
is. -/
inductive Run (backoff : Backoff) (api : IngressApi) : Cluster → Prop where
  /-- The operator has listed what there is. -/
  | listed {primaries ingresses} (version : Nat)
      (hprimaries : ∀ id object, primaries.find? id = some object →
        admits object = true ∧ object.metadata.objectId? = some id)
      (hingresses : ingresses.Namespaced) :
      Run backoff api (Cluster.listed backoff api primaries ingresses version)
  /-- An action happens. -/
  | step {cluster action next} (hrun : Run backoff api cluster)
      (hact : cluster.act? action = some next) : Run backoff api next

/-- Nothing is left to do: both caches are what the API server has, and no key waits, is held or is
delayed. -/
structure AtRest (cluster : Cluster) : Prop where
  /-- The function ingresses. -/
  primaries : ∀ id, cluster.knownPrimaries.find? id = cluster.primaries.find? id
  /-- The ingresses. -/
  ingresses : ∀ id, cluster.knownIngresses.find? id = cluster.ingresses.find? id
  /-- No key waits. -/
  waiting : cluster.queue.waiting = []
  /-- No key is held. -/
  in_flight : cluster.queue.inFlight = []
  /-- No key is delayed. -/
  delayed : cluster.queue.delayed = []

namespace Run

/-- The invariant holds along every run. -/
theorem invariant (h : Run backoff api cluster) : cluster.Invariant := by
  induction h with
  | listed version hprimaries hingresses =>
    refine .listed backoff api version (fun id object hfind => ?_) hingresses
    obtain ⟨hadmits, hid⟩ := hprimaries id object hfind
    exact Invariant.admitted_of_admits hadmits hid
  | step hrun hact ih => exact ih.act hact

/-- The caches are mirrored along every run. -/
theorem mirrored (h : Run backoff api cluster) : cluster.Mirrored := by
  induction h with
  | listed => exact ⟨.refl _, .refl _⟩
  | step hrun hact ih => exact ih.act hrun.invariant hact

end Run

namespace AtRest

/-- Nothing is awaited at rest. -/
theorem not_awaits (h : cluster.AtRest) (hinvariant : cluster.Invariant) (key : String) :
    ¬ cluster.queue.Awaits key := by
  rintro (hdirty | ⟨entry, hentry, -⟩)
  · rcases hinvariant.single_flight.dirty_placed hinvariant.accepts key hdirty with hmem | hmem
    · rw [h.waiting] at hmem
      cases hmem
    · rw [h.in_flight] at hmem
      cases hmem
  · rw [h.delayed] at hentry
    cases hentry

/-- No worker is at anything at rest. -/
theorem jobs_eq_none (h : cluster.AtRest) (hinvariant : cluster.Invariant) (worker : Nat) :
    cluster.jobs worker = none := by
  cases hjob : cluster.jobs worker with
  | none => rfl
  | some job =>
    have hmem := (hinvariant.mem_in_flight job.key).2 ⟨worker, job, hjob, rfl⟩
    rw [h.in_flight] at hmem
    cases hmem

end AtRest

/-! ## Runs of given actions -/

/-- Lets actions happen one after the other. -/
def play? (cluster : Cluster) : List ClusterAction → Option Cluster
  | [] => some cluster
  | action :: actions => (cluster.act? action).bind (·.play? actions)

/-- What happens in a run belongs to it. -/
theorem Run.play (h : Run backoff api cluster) {actions : List ClusterAction}
    (hplay : cluster.play? actions = some next) : Run backoff api next := by
  induction actions generalizing cluster with
  | nil =>
    cases hplay
    exact h
  | cons action actions ih =>
    obtain ⟨stepped, hact, hplay⟩ := Option.bind_eq_some_iff.1 hplay
    exact ih (h.step hact) hplay

/-- Whether the watches have told everything and the queue has nothing left to do. -/
def drained (cluster : Cluster) : Bool :=
  cluster.primaryFeed.isEmpty && cluster.ingressFeed.isEmpty && cluster.queue.waiting.isEmpty &&
    cluster.queue.inFlight.isEmpty && cluster.queue.delayed.isEmpty

/-- A cluster is at rest once the watches have told everything and the queue is done. -/
theorem Run.at_rest (h : Run backoff api cluster) (hdrained : cluster.drained = true) :
    cluster.AtRest := by
  simp only [drained, Bool.and_eq_true, List.isEmpty_iff] at hdrained
  obtain ⟨⟨⟨⟨hprimaries, hingresses⟩, hwaiting⟩, hflight⟩, hdelayed⟩ := hdrained
  have hmirrored := h.mirrored
  refine ⟨fun id => ?_, fun id => ?_, hwaiting, hflight, hdelayed⟩
  · have hknown := hmirrored.primaries id
    rwa [hprimaries] at hknown
  · have hknown := hmirrored.ingresses id
    rwa [hingresses] at hknown

/-! ## What holds at rest -/

/-- At rest every function ingress was synced. If its last sync succeeded then it found the function
ingress, and the ingress of the same name records the declared state, except that an ingress that
was left alone does so exactly if it did when its cached version was read. -/
theorem run_at_rest (hrun : Run backoff api cluster) (hrest : cluster.AtRest) {id : ObjectId}
    {primary : FunctionIngress} (hfind : cluster.primaries.find? id = some primary) :
    ∃ last, cluster.last (Key.ofMetadata primary.metadata) = some last ∧
      ∀ outcome, last.result = .ok outcome → outcome ≠ .missing ∧
        (RecordedIn (cluster.ingresses.find? id) primary ↔
          (outcome = .unchanged → RecordedIn last.seen primary)) := by
  have hinvariant := hrun.invariant
  have hknown : cluster.knownPrimaries.find? id = some primary := (hrest.primaries id).trans hfind
  -- with nothing awaited and nobody at work, what is followed is done
  cases hinvariant.followed id primary hknown with
  | awaited hawaits => exact absurd hawaits (hrest.not_awaits hinvariant _)
  | served hjob =>
    rw [hrest.jobs_eq_none hinvariant] at hjob
    cases hjob
  | done hidle hlast hfits => exact ⟨_, hlast, hfits⟩

/-- A function ingress for a domain. -/
def shop (domain : String) : FunctionIngress where
  metadata := { name := some "shop", space := some "web", uid := some "1" }
  spec := { domain := domain, function := "shop" }

/-- The function ingress is declared and synced, and the operator learns of its ingress. -/
def shopOpens : List ClusterAction := [.declare (shop "old.example"), .learnPrimary,
  .take 0, .look 0, .read 0, .accept 0, .finish 0, .learnIngress]

/-- The domain of the function ingress is changed, and changed back before the operator learns what
became of its ingress. -/
def shopWavers : List ClusterAction := [
  .declare (shop "new.example"), .learnPrimary, .take 0, .look 0, .read 0, .accept 0, .finish 0,
  .declare (shop "old.example"), .learnPrimary, .take 0, .look 0, .read 0, .finish 0, .learnIngress]

/-- The cluster before anything is declared. -/
def vacant : Cluster := .listed .standard .networkingV1 .empty .empty 0

/-- What comes about from it belongs to a run. -/
theorem run_vacant {actions : List ClusterAction} (h : vacant.play? actions = some next) :
    Run .standard .networkingV1 next := by
  refine (Run.listed 0 (fun id object hfind => ?_) fun id object hfind => ?_).play h
  · cases hfind
  · cases hfind

/-- An ingress that was created records what is declared. -/
theorem run_at_rest_opened :
    ∃ cluster ∈ vacant.play? shopOpens, ∃ primary last, Run .standard .networkingV1 cluster ∧
      cluster.AtRest ∧ cluster.primaries.find? ⟨some "web", "shop"⟩ = some primary ∧
      cluster.last (Key.ofMetadata primary.metadata) = some last ∧ last.result = .ok .created ∧
      RecordedIn (cluster.ingresses.find? ⟨some "web", "shop"⟩) primary := by
  obtain ⟨cluster, hplay, hdrained, primary, hfind, last, hlast, hresult⟩ :
      ∃ cluster ∈ vacant.play? shopOpens, cluster.drained = true ∧
        ∃ primary ∈ cluster.primaries.find? ⟨some "web", "shop"⟩,
          ∃ last ∈ cluster.last (Key.ofMetadata primary.metadata),
            last.result = .ok .created := by
    decide +kernel
  have hrun := run_vacant hplay
  have hrest := hrun.at_rest hdrained
  obtain ⟨found, hfound, hfits⟩ := run_at_rest hrun hrest hfind
  cases hlast.symm.trans hfound
  obtain ⟨-, hrecorded⟩ := hfits .created hresult
  exact ⟨cluster, hplay, primary, last, hrun, hrest, hfind, hlast, hresult, hrecorded.2 nofun⟩

/-- Not every function ingress whose last sync succeeded has an ingress that records it: the
ingress was left alone for the sake of a version that had long been replaced. -/
theorem run_at_rest_stale :
    ¬ ∀ backoff api cluster id primary last outcome, Run backoff api cluster → cluster.AtRest →
      cluster.primaries.find? id = some primary → primary.metadata.uid.isSome = true →
      cluster.last (Key.ofMetadata primary.metadata) = some last → last.result = .ok outcome →
      RecordedIn (cluster.ingresses.find? id) primary := by
  obtain ⟨cluster, hplay, hdrained, primary, hfind, huid, last, hlast, hresult, hwrong⟩ :
      ∃ cluster ∈ vacant.play? (shopOpens ++ shopWavers), cluster.drained = true ∧
        ∃ primary ∈ cluster.primaries.find? ⟨some "web", "shop"⟩,
          primary.metadata.uid.isSome = true ∧
          ∃ last ∈ cluster.last (Key.ofMetadata primary.metadata),
            last.result = .ok .unchanged ∧
            ¬ RecordedIn (cluster.ingresses.find? ⟨some "web", "shop"⟩) primary := by
    decide +kernel
  have hrun := run_vacant hplay
  intro h
  exact hwrong (h _ _ cluster _ primary last _ hrun (hrun.at_rest hdrained) hfind huid hlast hresult)

end Cluster

end FunctionOperator
