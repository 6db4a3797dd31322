import FunctionOperator.Metrics
import FunctionOperator.Resource.Function
import FunctionOperator.Resource.FunctionIngress
import Mathlib.Data.List.Nodup
import Mathlib.Data.List.ProdSigma

/-!
# What the counters count

How a finished sync changes the counters. Read `Metrics.reconcile_count_record` first: it changes
the count of its own control loop and result and no other. Samples are found by the digests of their
labels, so this needs that the digests differ; `digest_results_inj` and `digest_kinds_inj` compute
that they do for the kinds that the operator controls.
-/

namespace FunctionOperator

namespace Family

variable {α : Type}

/-- The first sample with the digest counts. -/
theorem get?_cons (sampled : Sampled α) (family : Family α) (labels : List String) :
    Family.get? (sampled :: family) labels =
      if digest sampled.labels = digest labels then some sampled.value
      else Family.get? family labels := by
  by_cases h : digest sampled.labels = digest labels <;> simp [get?, h]

/-- A change under labels changes what is counted under every label of the same digest. -/
theorem get?_update (family : Family α) (labels other : List String) (first : α)
    (change : α → α) :
    get? (update labels first change family) other =
      if digest labels = digest other then some (change ((get? family labels).getD first))
      else get? family other := by
  induction family with
  | nil => rw [update, get?_cons]; rfl
  | cons sampled family ih =>
    by_cases hown : digest sampled.labels = digest labels
    · rw [update, if_pos hown, get?_cons, get?_cons, get?_cons, if_pos hown, hown]
      split <;> rfl
    · rw [update, if_neg hown, get?_cons, get?_cons, get?_cons, if_neg hown, ih]
      by_cases heq : digest labels = digest other
      · rw [if_pos heq, if_pos heq, if_neg fun h => hown (h.trans heq.symm)]
      · rw [if_neg heq, if_neg heq]

end Family

/-! ## Labels that are told apart -/

/-- The kinds of objects that the control loops of the operator are about. -/
def controllerKinds : List String := [FunctionIngress.kind.kind, Function.kind.kind]

/-- The ways in which a sync ends. -/
def SyncLabel.all : List SyncLabel := [.success, .retry, .dropped]

theorem SyncLabel.mem_all (label : SyncLabel) : label ∈ SyncLabel.all := by
  cases label <;> decide

/-- The digests tell the results of all controllers apart. -/
theorem digest_results_inj {controller other : String} {label result : SyncLabel}
    (hcontroller : controller ∈ controllerKinds) (hother : other ∈ controllerKinds)
    (h : digest [controller, label.name] = digest [other, result.name]) :
    controller = other ∧ label = result := by
  have hnodup : ((controllerKinds ×ˢ SyncLabel.all).map fun pair =>
      digest [pair.1, pair.2.name]).Nodup := by
    decide +kernel
  have hpair := List.inj_on_of_nodup_map hnodup
    (List.mem_product.2 ⟨hcontroller, label.mem_all⟩)
    (List.mem_product.2 ⟨hother, result.mem_all⟩) h
  exact Prod.mk.inj hpair

/-- The digests tell the controllers apart. -/
theorem digest_kinds_inj {controller other : String} (hcontroller : controller ∈ controllerKinds)
    (hother : other ∈ controllerKinds) (h : digest [controller] = digest [other]) :
    controller = other := by
  have hnodup : (controllerKinds.map fun controller => digest [controller]).Nodup := by
    decide +kernel
  exact List.inj_on_of_nodup_map hnodup hcontroller hother h

namespace Metrics

variable {metrics : Metrics} {controller other : String} {label result : SyncLabel}

/-- A finished sync counts for its control loop and its result. -/
theorem reconcile_count_record (hcontroller : controller ∈ controllerKinds)
    (hother : other ∈ controllerKinds) (seconds : Binary64) :
    (metrics.recordSync controller label.name seconds).reconcileCount other result.name =
      metrics.reconcileCount other result.name +
        if controller = other ∧ label = result then 1 else 0 := by
  simp only [reconcileCount, recordSync, Family.get?_update]
  by_cases heq : controller = other ∧ label = result
  · obtain ⟨rfl, rfl⟩ := heq
    simp
  · rw [if_neg fun h => heq (digest_results_inj hcontroller hother h), if_neg heq, Nat.add_zero]

/-- A finished sync that will be tried again counts for its control loop. -/
theorem retry_count_record (hcontroller : controller ∈ controllerKinds)
    (hother : other ∈ controllerKinds) (seconds : Binary64) :
    (metrics.recordSync controller label.name seconds).retryCount other =
      metrics.retryCount other + if controller = other ∧ label = .retry then 1 else 0 := by
  have hname : label.name = SyncLabel.retry.name ↔ label = .retry := by
    cases label <;> decide
  by_cases hretry : label = .retry
  · simp only [retryCount, recordSync, if_pos (hname.2 hretry), Family.get?_update]
    by_cases heq : controller = other
    · simp [heq, hretry]
    · rw [if_neg fun h => heq (digest_kinds_inj hcontroller hother h), if_neg fun h => heq h.1,
        Nat.add_zero]
  · simp [retryCount, recordSync, hname, hretry]

/-- The number of waiting keys is shown beside the counts. -/
theorem reconcile_count_depth (metrics : Metrics) (shown : String) (depth : Nat)
    (controller result : String) :
    (metrics.setQueueDepth shown depth).reconcileCount controller result =
      metrics.reconcileCount controller result :=
  rfl

/-- So it is beside the count of retries. -/
theorem retry_count_depth (metrics : Metrics) (shown : String) (depth : Nat)
    (controller : String) :
    (metrics.setQueueDepth shown depth).retryCount controller = metrics.retryCount controller :=
  rfl

end Metrics

end FunctionOperator
