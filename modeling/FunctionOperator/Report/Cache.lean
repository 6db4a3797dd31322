import FunctionOperator.Cache.Informer
import FunctionOperator.Json.Printer

/-!
# Reports of caches

The documents that show what a cache holds and what an informer tells. Objects are shown by their
keys and versions. Neither a cache nor the deletions that a completed list leads to have an order
of their own, so both are shown in the order of their texts.
-/

namespace FunctionOperator

variable {α : Type} [HasMetadata α]

/-- A text, or `null`. -/
def Json.ofText? (text : Option String) : Json := .ofOption (text.map .string)

/-- The version of an object. -/
def versionReport (object : α) : Json := .ofText? (HasMetadata.metadata object).resourceVersion

/-- The key and the version of an object. -/
def objectReport (object : α) : List Json :=
  [.string (Informer.keyOf object), versionReport object]

namespace Notification

/-- The report of a notification. -/
def report : Notification α → Json
  | .added object => .array (.string "add" :: objectReport object)
  | .updated old new =>
    .array [.string "update", .string (Informer.keyOf new), versionReport old, versionReport new]
  | .removed object => .array (.string "delete" :: objectReport object)

/-- Whether two notifications belong to one run of deletions. -/
def bothRemoved (first second : Notification α) : Bool :=
  match first, second with
  | .removed _, .removed _ => true
  | _, _ => false

/-- The reports of notifications. -/
def reports (told : List (Notification α)) : List Json :=
  (told.splitBy bothRemoved).flatMap fun run => (run.map report).mergeSort fun first second =>
    decide (first.render ≤ second.render)

end Notification

/-- The report of a store: its objects in the order of their texts. -/
def Store.report (store : Store α) : Json :=
  .array ((store.objects.map fun object => Json.array (objectReport object)).mergeSort
    fun first second => decide (first.render ≤ second.render))

end FunctionOperator
