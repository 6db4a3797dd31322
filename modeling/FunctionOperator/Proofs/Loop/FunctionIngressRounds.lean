import FunctionOperator.Proofs.Cache.Store
import FunctionOperator.Proofs.Loop.Rounds
import FunctionOperator.Proofs.Sync.Records

/-!
# Repeated syncs of function ingresses

Once a sync of a function ingress went well, its ingress is left alone. Read `Settled` first, which
is what a sync that goes well leads to, and what every later one keeps. The record is what makes the
difference, so this is proved for function ingresses that carry no annotation in its place:
`rounds_marked` shows how one of those is written again and again.
-/

namespace FunctionOperator

/-- What the view for function ingresses learns does not depend on the API. -/
theorem FunctionIngressLoop.wiring_detached :
    FunctionIngressLoop.wiring.Detached FunctionIngressView.learn where
  api_with _ _ := rfl
  with_api _ := rfl
  with_with _ _ _ := rfl
  learn_with view api write := by
    cases write with
    | createIngress space object | replaceIngress space object =>
      simp only [FunctionIngressView.learn, FunctionIngressLoop.wiring]
      cases view.ingresses.process? _ <;> rfl
    | createDeployment | replaceDeployment | createService => rfl

namespace FunctionIngressView

variable {view : FunctionIngressView} {key : String} {primary : FunctionIngress}
variable {failures : List (WriteCall × ApiFailure)}

/-- Learning of a write changes the ingresses only. -/
theorem learn_eq (view : FunctionIngressView) (write : Write) :
    view.learn write = { view with ingresses := (view.learn write).ingresses } := by
  cases write with
  | createIngress space object | replaceIngress space object =>
    simp only [learn]
    cases view.ingresses.process? _ <;> rfl
  | createDeployment | replaceDeployment | createService => rfl

/-- Learning of an ingress puts its next version into the cache. -/
theorem store_learn (view : FunctionIngressView) {write : Write} {space : String}
    {object : Ingress} {id : ObjectId}
    (hwrite : write = .createIngress space object ∨ write = .replaceIngress space object)
    (hid : object.metadata.objectId? = some id) :
    (view.learn write).ingresses.store =
      view.ingresses.store.insert id { object with metadata := object.metadata.nextVersion } := by
  have hnext : (HasMetadata.metadata
      { object with metadata := object.metadata.nextVersion }).objectId? = some id := hid
  rcases hwrite with rfl | rfl <;>
    simp only [learn, Informer.process?, hnext, bind, Option.bind_some, pure]

/-- A write is answered as told, and noted. -/
theorem perform_eq (write : Write) (hecho : view.echo = true) :
    view.perform write = ((view.api.failures.lookup write.call).elim (.ok ()) .error,
      FunctionIngressLoop.wiring.noted learn view
        (write, view.api.failures.lookup write.call)) := by
  cases hfailure : view.api.failures.lookup write.call with
  | some failure => simp [perform, ScriptedApi.answer, hfailure, Wiring.noted,
      FunctionIngressLoop.wiring]
  | none =>
    simp only [perform, ScriptedApi.answer, hfailure]
    rw [if_pos hecho]
    exact congrArg (Prod.mk _) (FunctionIngressLoop.wiring_detached.learn_with view _ write)

/-- The key names the function ingress, whose ingresses are found under their own names and are
learned of when they are written. -/
structure Fit (key : String) (primary : FunctionIngress) (view : FunctionIngressView) : Prop where
  /-- The caches learn of performed writes. -/
  echo : view.echo = true
  /-- The function ingress is known under the key. -/
  names : Names view.primaries.store key primary
  /-- Ingresses are found under their own names. -/
  keyed : view.ingresses.store.Keyed

/-- The cache has an ingress that records the declared state. -/
structure Settled (key : String) (primary : FunctionIngress) (view : FunctionIngressView) : Prop
    extends Fit key primary view where
  /-- The ingress. -/
  recorded : ∃ ingress, view.ingresses.store.get? (primary.metadata.space.getD "")
    primary.metadata.displayName = some ingress ∧
      ingress.metadata.Records FunctionIngress.kind primary

/-- A round comes to what the sync of the function ingress comes to. -/
theorem Fit.round_eq (h : Fit key primary view) (failures : List (WriteCall × ApiFailure)) :
    ∃ api, FunctionIngressLoop.wiring.round key failures view =
      ((view.caches.converge primary).round failures,
        { ((view.caches.converge primary).round failures).accepted.foldl learn view with
          api := api }) := by
  refine FunctionIngressLoop.wiring_detached.round_eq (fun view => view.echo = true) rfl
    (fun write view => perform_eq write) ?_ h.echo h.names
  intro view attempt hecho
  show (if attempt.2.isNone then view.learn attempt.1 else view).echo = true
  split
  · rw [learn_eq]
    exact hecho
  · exact hecho

/-- A written ingress settles the loop if it records the declared state and is found where the
function ingress looks for it. -/
theorem Fit.learn_ingress (h : Fit key primary view) {write : Write} {space : String}
    {object : Ingress} {id : ObjectId}
    (hwrite : write = .createIngress space object ∨ write = .replaceIngress space object)
    (hid : object.metadata.objectId? = some id)
    (hrecords : object.metadata.Records FunctionIngress.kind primary)
    (hfound : ∀ next, (view.ingresses.store.insert id next).get?
      (primary.metadata.space.getD "") primary.metadata.displayName = some next) :
    Settled key primary (view.learn write) := by
  have hstore := view.store_learn hwrite hid
  refine ⟨⟨?_, ?_, ?_⟩, { object with metadata := object.metadata.nextVersion }, ?_,
    hrecords.next_version⟩
  · rw [learn_eq]
    exact h.echo
  · rw [learn_eq]
    exact h.names
  · rw [hstore]
    exact h.keyed.insert hid
  · rw [hstore]
    exact hfound _

/-- An allowed write that is performed settles the loop. -/
theorem Fit.learn (h : Fit key primary view) {id : ObjectId} (hnamed : primary.metadata.Named id)
    (hunmarked : primary.metadata.userAnnotations.get? FunctionIngress.kind.snapshotKey = none)
    {write : Write} (hwrite : view.caches.MayWrite primary write) :
    Settled key primary (view.learn write) := by
  cases hwrite with
  | create hmissing =>
    obtain ⟨space, name, rfl, hspace, hname, hmetadata⟩ := hnamed.eq_some
    refine h.learn_ingress (.inl rfl) rfl (Ingress.build_records hunmarked) fun next => ?_
    show (view.ingresses.store.insert ⟨some (primary.metadata.space.getD ""), _⟩ next).get? _ _ = _
    rw [hmetadata]
    exact Store.get_insert_own _ hspace _ next
  | @replace existing hget hreplaceable =>
    obtain ⟨id, hid, hfound⟩ := h.keyed.get_insert hget
    refine h.learn_ingress (.inr rfl) ?_ (Ingress.converge_records existing hunmarked) hfound
    rw [Ingress.converge_metadata]
    exact hid

/-- The API is no part of what makes a view fit. -/
theorem Fit.with_api (h : Fit key primary view) (api : ScriptedApi) :
    Fit key primary { view with api := api } := ⟨h.echo, h.names, h.keyed⟩

/-- The API is no part of what settles a view. -/
theorem Settled.with_api (h : Settled key primary view) (api : ScriptedApi) :
    Settled key primary { view with api := api } := ⟨h.toFit.with_api api, h.recorded⟩

/-- Where an ingress records the declared state, a round finds nothing to do. -/
theorem Settled.round_idle (h : Settled key primary view)
    (failures : List (WriteCall × ApiFailure)) :
    (FunctionIngressLoop.wiring.round key failures view).1 = .idle ∧
      Settled key primary (FunctionIngressLoop.wiring.round key failures view).2 := by
  obtain ⟨ingress, hget, hrecords⟩ := h.recorded
  have hconverge : view.caches.converge primary = .finished (.ok .unchanged) := by
    have hget' : view.caches.ingresses.get? (primary.metadata.space.getD "")
        primary.metadata.displayName = some ingress := hget
    rw [FunctionIngressCaches.converge, hget']
    exact converge_recorded_of_records hrecords _ _ _
  obtain ⟨api, hround⟩ := h.toFit.round_eq failures
  rw [hround, hconverge]
  exact ⟨rfl, h.with_api api⟩

/-- A round keeps a view fit, and settles it if it goes well. -/
theorem Fit.round_settles (h : Fit key primary view) {id : ObjectId}
    (hnamed : primary.metadata.Named id)
    (hunmarked : primary.metadata.userAnnotations.get? FunctionIngress.kind.snapshotKey = none)
    (failures : List (WriteCall × ApiFailure)) :
    Fit key primary (FunctionIngressLoop.wiring.round key failures view).2 ∧
      ∀ outcome, (FunctionIngressLoop.wiring.round key failures view).1.result = .ok outcome →
        Settled key primary (FunctionIngressLoop.wiring.round key failures view).2 := by
  obtain ⟨api, hround⟩ := h.round_eq failures
  rw [hround]
  obtain ⟨refusal, -, -, hstep⟩ | ⟨⟨metadata, hexisting, hrecords⟩, hstep⟩ |
      ⟨write, outcome, hallowed, -, hstep⟩ :=
    converge_recorded_cases FunctionIngress.kind primary
      ((view.caches.ingresses.get? (primary.metadata.space.getD "")
        primary.metadata.displayName).map Ingress.metadata) _ _
  all_goals
    rw [show view.caches.converge primary = _ from hstep fun outcome => .finished (.ok outcome)]
  · exact ⟨h.with_api api, nofun⟩
  · obtain ⟨ingress, hget, rfl⟩ := Option.map_eq_some_iff.1 hexisting
    exact ⟨h.with_api api, fun _ _ => ⟨h.with_api api, ingress, hget, hrecords⟩⟩
  · cases hfailure : failures.lookup write.call with
    | some failure =>
      rw [Sync.round_attempt_failed hfailure]
      exact ⟨h.with_api api, nofun⟩
    | none =>
      rw [Sync.round_attempt_performed hfailure]
      have hsettled := (h.learn hnamed hunmarked (.of_allowed hallowed)).with_api api
      exact ⟨hsettled.toFit, fun _ _ => hsettled⟩

end FunctionIngressView

namespace FunctionIngressLoop

/-- For a function ingress that carries no record of its own, whatever is in the cache of ingresses
and whatever calls fail: after a sync that went well, every later one finds nothing to do. -/
theorem rounds_settle {view : FunctionIngressView} {key : String}
    {primary : FunctionIngress} {id : ObjectId} (hecho : view.echo = true)
    (hnames : Names view.primaries.store key primary) (hnamed : primary.metadata.Named id)
    (hkeyed : view.ingresses.store.Keyed)
    (hunmarked : primary.metadata.userAnnotations.get? FunctionIngress.kind.snapshotKey = none)
    (patterns : List (List (WriteCall × ApiFailure))) :
    (wiring.rounds key patterns view).Pairwise fun earlier later =>
      (∃ outcome, earlier.result = .ok outcome) → later = .idle :=
  Wiring.rounds_pairwise (FunctionIngressView.Fit key primary)
    (FunctionIngressView.Settled key primary)
    (fun failures _ hfit => hfit.round_settles hnamed hunmarked failures)
    (fun failures _ hsettled => hsettled.round_idle failures) patterns ⟨hecho, hnames, hkeyed⟩

/-- A function ingress for a host, with annotations. -/
def shop (host : String) (annotations : List (String × String)) : FunctionIngress where
  metadata := {
    annotations := some (SortedMap.ofList annotations)
    name := some "shop"
    space := some "web"
    uid := some "1" }
  spec := { domain := host, function := "shop" }

/-- A view that knows a function ingress and an ingress that was made for another version of it. -/
def shopView (primary : FunctionIngress) (rendered : Option FunctionIngress) :
    FunctionIngressView where
  primaries := { (.new : Informer FunctionIngress) with
    store := Store.empty.insert ⟨some "web", "shop"⟩ primary }
  ingresses := { (.new : Informer Ingress) with
    store := rendered.elim Store.empty fun old =>
      Store.empty.insert ⟨some "web", "shop"⟩ (Ingress.build .networkingV1 (desiredIngress old)) }
  ingressApi := .networkingV1
  echo := true

/-- An ingress of another version is replaced as soon as this does not fail, and then left alone. -/
theorem rounds_settle_updated :
    ∃ first second third,
      wiring.rounds "web/shop" [[(.replaceIngress, .unavailable "gone")], [], []]
        (shopView (shop "new.example" []) (some (shop "old.example" []))) =
          [first, second, third] ∧
      first.result = .error (.api (.unavailable "gone")) ∧ second.result = .ok .updated ∧
      third = .idle := by
  have hsettle := rounds_settle
    (show (shopView (shop "new.example" []) (some (shop "old.example" []))).echo = true from rfl)
    (show Names _ "web/shop" (shop "new.example" []) from ⟨"web", "shop", by decide +kernel, rfl⟩)
    (show Metadata.Named _ ⟨some "web", "shop"⟩ from ⟨rfl, "web", rfl, by decide⟩)
    (Store.Keyed.empty.insert rfl) (by decide +kernel)
    [[(.replaceIngress, .unavailable "gone")], [], []]
  obtain ⟨first, second, third, hrounds, hfirst, hsecond⟩ :
      ∃ first second third,
        wiring.rounds "web/shop" [[(.replaceIngress, .unavailable "gone")], [], []]
          (shopView (shop "new.example" []) (some (shop "old.example" []))) =
            [first, second, third] ∧
        first.result = .error (.api (.unavailable "gone")) ∧ second.result = .ok .updated :=
    ⟨_, _, _, rfl, by decide +kernel, by decide +kernel⟩
  rw [hrounds, List.pairwise_cons, List.pairwise_pair] at hsettle
  exact ⟨first, second, third, hrounds, hfirst, hsecond, hsettle.2 ⟨.updated, hsecond⟩⟩

/-- An annotation in the place of the record makes the operator write the same ingress in every
sync. -/
theorem rounds_marked :
    ¬ ∀ (view : FunctionIngressView) (key : String) (primary : FunctionIngress) (id : ObjectId),
      view.echo = true → Names view.primaries.store key primary → primary.metadata.Named id →
      primary.metadata.uid.isSome = true → view.ingresses.store.Keyed →
      ∀ patterns, (wiring.rounds key patterns view).Pairwise fun earlier later =>
        earlier.result = .ok .created ∨ earlier.result = .ok .updated → later = .idle := by
  intro h
  have hpairwise := h (shopView (shop "shop.example" [("com.openfaas.spec", "\x7b\x7d")]) none)
    "web/shop" (shop "shop.example" [("com.openfaas.spec", "\x7b\x7d")]) ⟨some "web", "shop"⟩ rfl
    ⟨"web", "shop", by decide +kernel, rfl⟩ ⟨rfl, "web", rfl, by decide⟩ rfl .empty [[], []]
  obtain ⟨first, second, hrounds, hfirst, hsecond⟩ :
      ∃ first second, wiring.rounds "web/shop" [[], []]
          (shopView (shop "shop.example" [("com.openfaas.spec", "\x7b\x7d")]) none) =
            [first, second] ∧
        first.result = .ok .created ∧ second.result = .ok .updated :=
    ⟨_, _, rfl, by decide +kernel, by decide +kernel⟩
  rw [hrounds, List.pairwise_pair] at hpairwise
  rw [hpairwise (.inl hfirst)] at hsecond
  cases hsecond

end FunctionIngressLoop

end FunctionOperator
