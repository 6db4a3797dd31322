import FunctionOperator.Binary64
import FunctionOperator.Duration

/-!
# Metrics

What the operator counts about its work, and the text in which it is exposed. Read
`Metrics.recordSync` and `Metrics.lines` first. Families are listed by their names and samples by
the values of their labels; a family without samples is left out. A sample is found by a digest of
its labels' values, one behind the other, so that `a`, `bc` and `ab`, `c` are one sample: the one
that came up first.
-/

namespace FunctionOperator

/-- A duration in seconds: the sum of the whole seconds and the fraction, each of them rounded. -/
def Duration.toBinary64 (duration : Duration) : Binary64 :=
  let fraction := (Binary64.ofRatio? false duration.subsecond 1_000_000_000).getD .zero
  ((Binary64.ofNat duration.seconds).addSizes? fraction).getD .zero

/-! ## Samples by labels -/

/-- The digest of texts: that of their bytes, one text behind the other. -/
def digest (texts : List String) : UInt64 :=
  (texts.flatMap fun text => text.toUTF8.toList).foldl
    (fun acc byte => (acc ^^^ byte.toUInt64) * 0x100000001b3) 0xcbf29ce484222325

/-- What is counted under the values of some labels. -/
structure Sampled (α : Type) where
  /-- The values of the labels. -/
  labels : List String
  /-- What is counted. -/
  value : α

/-- The samples of a family, in the order in which they came up. -/
abbrev Family (α : Type) := List (Sampled α)

namespace Family

variable {α : Type}

/-- What is counted under labels. -/
def get? (family : Family α) (labels : List String) : Option α :=
  (family.find? fun sampled => digest sampled.labels = digest labels).map (·.value)

/-- Changes what is counted under labels, which starts with a first value. -/
def update (labels : List String) (first : α) (change : α → α) : Family α → Family α
  | [] => [⟨labels, change first⟩]
  | sampled :: family =>
    if digest sampled.labels = digest labels then
      { sampled with value := change sampled.value } :: family
    else sampled :: update labels first change family

/-- The samples in the order of their labels. -/
def ordered (family : Family α) : List (Sampled α) :=
  family.mergeSort fun first second =>
    !second.labels.lex first.labels fun one other => decide (one < other)

end Family

/-! ## Counters -/

/-- The distribution of durations in seconds. -/
structure Histogram where
  /-- The durations that do not exceed each bound, in the order of the bounds. -/
  within : List Nat
  /-- The number of durations. -/
  count : Nat
  /-- Their sum. -/
  sum : Binary64

namespace Histogram

/-- The bounds in seconds: their texts, and their values as ratios. -/
def bounds : List (String × Nat × Nat) := [
  ("0.005", 5, 1000), ("0.01", 1, 100), ("0.025", 25, 1000), ("0.05", 5, 100), ("0.1", 1, 10),
  ("0.25", 25, 100), ("0.5", 1, 2), ("1", 1, 1), ("2.5", 5, 2), ("5", 5, 1), ("10", 10, 1)]

/-- The value of a bound. -/
def boundValue (bound : String × Nat × Nat) : Binary64 :=
  (Binary64.ofRatio? false bound.2.1 bound.2.2).getD default

/-- The distribution of no durations. -/
def empty : Histogram := ⟨bounds.map fun _ => 0, 0, .zero⟩

/-- Adds a duration. -/
def observe (histogram : Histogram) (seconds : Binary64) : Histogram where
  within := (histogram.within.zip bounds).map fun (count, bound) =>
    if seconds.sizeLe (boundValue bound) then count + 1 else count
  count := histogram.count + 1
  sum := (histogram.sum.addSizes? seconds).getD histogram.sum

end Histogram

/-- How a sync ended, for the counters. -/
inductive SyncLabel where
  /-- It succeeded. -/
  | success
  /-- It will be tried again. -/
  | retry
  /-- It failed for good. -/
  | dropped
deriving DecidableEq

/-- The value of the label. -/
def SyncLabel.name : SyncLabel → String
  | .success => "success"
  | .retry => "retry"
  | .dropped => "dropped"

/-- The counters of the operator. -/
structure Metrics where
  /-- The distribution of the syncs' durations, by control loop. -/
  durations : Family Histogram := []
  /-- The number of syncs, by control loop and result. -/
  reconciles : Family Nat := []
  /-- The number of waiting keys, by control loop. -/
  depths : Family Nat := []
  /-- The number of syncs that will be tried again, by control loop. -/
  retries : Family Nat := []

namespace Metrics

/-- The number of syncs of a control loop with a result. -/
def reconcileCount (metrics : Metrics) (controller result : String) : Nat :=
  (metrics.reconciles.get? [controller, result]).getD 0

/-- The number of syncs of a control loop that will be tried again. -/
def retryCount (metrics : Metrics) (controller : String) : Nat :=
  (metrics.retries.get? [controller]).getD 0

/-- Counts a finished sync. -/
def recordSync (metrics : Metrics) (controller result : String) (seconds : Binary64) : Metrics :=
  { metrics with
    reconciles := metrics.reconciles.update [controller, result] 0 (· + 1)
    durations := metrics.durations.update [controller] .empty (·.observe seconds)
    retries :=
      if result = SyncLabel.retry.name then metrics.retries.update [controller] 0 (· + 1)
      else metrics.retries }

/-- Sets the number of waiting keys, as far as a signed number of 64 bits counts. -/
def setQueueDepth (metrics : Metrics) (controller : String) (depth : Nat) : Metrics :=
  { metrics with
    depths := metrics.depths.update [controller] 0 fun _ => min depth 9_223_372_036_854_775_807 }

/-! ## Exposition -/

/-- A label's value inside quotes. -/
def escapeLabel (value : String) : String :=
  String.ofList (value.toList.flatMap fun c =>
    if c = '\\' then ['\\', '\\']
    else if c = '"' then ['\\', '"']
    else if c = '\n' then ['\\', 'n']
    else [c])

/-- One line: a name, labels and a value. -/
def line (name : String) (labels : List (String × String)) (value : Binary64) : String :=
  let shown := labels.map fun label => label.1 ++ "=\"" ++ escapeLabel label.2 ++ "\""
  name ++ "\x7b" ++ ",".intercalate shown ++ "\x7d " ++ value.toPlain

/-- A family with its heading; nothing if it has no samples. -/
def headed (name help kind : String) (lines : List String) : List String :=
  if lines.isEmpty then []
  else ["# HELP " ++ name ++ " " ++ help, "# TYPE " ++ name ++ " " ++ kind] ++ lines

/-- The lines of a family of numbers. -/
def countLines (name : String) (labels : List String) (family : Family Nat) : List String :=
  family.ordered.map fun sampled => line name (labels.zip sampled.labels) (.ofNat sampled.value)

/-- The lines of a distribution. -/
def histogramLines (name : String) (labels : List (String × String)) (histogram : Histogram) :
    List String :=
  ((histogram.within.zip Histogram.bounds).map fun (count, bound) =>
    line (name ++ "_bucket") (labels ++ [("le", bound.1)]) (.ofNat count)) ++ [
  line (name ++ "_bucket") (labels ++ [("le", "+Inf")]) (.ofNat histogram.count),
  line (name ++ "_sum") labels histogram.sum,
  line (name ++ "_count") labels (.ofNat histogram.count)]

/-- The lines of the exposition. -/
def lines (metrics : Metrics) : List String :=
  let durations := "ingress_operator_reconcile_duration_seconds"
  let reconciles := "ingress_operator_reconcile_total"
  let depths := "ingress_operator_workqueue_depth"
  let retries := "ingress_operator_workqueue_retries_total"
  headed durations "Sync duration in seconds" "histogram"
    (metrics.durations.ordered.flatMap fun sampled =>
      histogramLines durations (["controller"].zip sampled.labels) sampled.value) ++
  headed reconciles "Total number of syncs by result" "counter"
    (countLines reconciles ["controller", "result"] metrics.reconciles) ++
  headed depths "Keys waiting in the work queue" "gauge"
    (countLines depths ["controller"] metrics.depths) ++
  headed retries "Keys requeued with backoff" "counter"
    (countLines retries ["controller"] metrics.retries)

/-- Whether a line is a sample that does not depend on how long syncs take. -/
def isTimeless (line : String) : Bool :=
  let name := String.ofList (line.toList.takeWhile fun c => c != '\x7b' && c != ' ')
  !line.startsWith "#" && !name.endsWith "_bucket" && !name.endsWith "_sum"

/-- The samples that do not depend on how long syncs take. -/
def timelessLines (metrics : Metrics) : List String := metrics.lines.filter isTimeless

/-- The text of the exposition. -/
def exposition (metrics : Metrics) : String :=
  String.join (metrics.lines.map (· ++ "\n"))

end Metrics

end FunctionOperator
