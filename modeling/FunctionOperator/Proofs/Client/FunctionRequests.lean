import FunctionOperator.Proofs.Client.Functions
import FunctionOperator.Proofs.Json.Members
import FunctionOperator.Proofs.Json.Unknown
import FunctionOperator.Proofs.Snapshot
import FunctionOperator.Proofs.Text.Numeral
import FunctionOperator.Proofs.Text.Percent
import Mathlib.Data.List.TakeWhile

/-!
# What requests for functions ask for

A server knows of a call no more than its request. Read `FunctionRequest.of?` first: the method, the
path and the body of a request say which function is asked for or which change, and parameters are
not looked at. `of_request` then says that the request of a change asks for this very change, with
the version that its function tells, and has no parameters. For names with characters that have a
meaning in paths this is not so: such a request may name another function, or none. Still a function
that is replaced is the one that was sent, and is named by the path under which it was read, which
is `SentAs.replaced`.
-/

namespace FunctionOperator

/-- A document is that of a function: it says so, and tells its name, namespace and version. -/
def Function.ToldBy (function : Function) (document : Json) : Prop :=
  let text (name : String) := (document.get? name).bind Json.string?
  let detail (name : String) :=
    ((document.get? "metadata").bind (·.get? name)).bind Json.string?
  text "apiVersion" = some "openfaas.com/v1alpha2" ∧ text "kind" = some "Function" ∧
    detail "name" = function.metadata.name ∧ detail "namespace" = function.metadata.space ∧
    detail "resourceVersion" = function.metadata.resourceVersion

instance (function : Function) (document : Json) : Decidable (function.ToldBy document) :=
  inferInstanceAs (Decidable (_ ∧ _ ∧ _ ∧ _ ∧ _))

/-- What a request for functions asks for. -/
inductive FunctionRequest where
  /-- The function of a name. -/
  | ask (space name : String)
  /-- A change. -/
  | change (change : FunctionWrite)

namespace FunctionRequest

/-- The namespace that a path names, and the function if it names one. What is escaped is read
before the path is cut. -/
def address? (path : String) : Option (String × Option String) := do
  let path ← Text.percentDecoded? path
  match (path.toList.splitOn '/').map String.ofList with
  | ["", "apis", "openfaas.com", "v1alpha2", "namespaces", space, "functions"] => some (space, none)
  | ["", "apis", "openfaas.com", "v1alpha2", "namespaces", space, "functions", name] =>
    some (space, some name)
  | _ => none

/-- The function that a body brings to a namespace. It has a name, and no other namespace. -/
def function? (space : String) (body : Option (String × Json)) : Option Function := do
  let (type, document) ← body
  let function ← (Function.collection.codec.read (Draft.ofJson document)).toOption
  if type = "application/json" ∧ function.ToldBy document ∧ function.metadata.name.isSome ∧
      function.metadata.space.all (· = space) then function
  else none

/-- The number of replicas that a merged body sets, if it sets nothing else. -/
def replicas? : Option (String × Json) → Option Int
  | some ("application/merge-patch+json",
      .object [("spec", .object [("replicas", .number (.whole replicas))])]) => some replicas
  | _ => none

/-- What a request asks for; nothing if it is none of the requests for functions. A function is put
only under its own name. -/
def of? (request : ApiRequest) : Option FunctionRequest :=
  match request.method, address? request.path with
  | "GET", some (space, some name) => some (.ask space name)
  | "POST", some (space, none) =>
    (function? space request.body).map fun function => .change (.create space function)
  | "PUT", some (space, some name) =>
    ((function? space request.body).filter fun function => function.metadata.name = some name).map
      fun function => .change (.replace space function)
  | "DELETE", some (space, some name) => some (.change (.delete space name))
  | "PATCH", some (space, some name) =>
    (replicas? request.body).map fun replicas => .change (.scale space name replicas)
  | _, _ => none

end FunctionRequest

/-! ## Requests of calls -/

namespace ApiRequest

/-- The path of a target: it ends where a query or a fragment starts. -/
def pathOf (target : String) : String :=
  let path := target.toList.takeWhile fun c => c != '#' && c != '?'
  String.ofList (if path.isEmpty then ['/'] else path)

/-- A part of a list that stops at two characters stops at the first of them. -/
theorem take_path (cs : List Char) :
    (cs.takeWhile (· != '#')).takeWhile (· != '?') =
      cs.takeWhile fun c => c != '#' && c != '?' := by
  induction cs with
  | nil => rfl
  | cons c cs ih => by_cases hhash : c = '#' <;> by_cases hmark : c = '?' <;> simp [*]

/-- The parameters behind a path do not matter for it. -/
theorem take_path_concat (cs : List Char) :
    (cs ++ ['?']).takeWhile (fun c => c != '#' && c != '?') =
      cs.takeWhile fun c => c != '#' && c != '?' := by
  induction cs with
  | nil => rfl
  | cons c cs ih =>
    rw [List.cons_append, List.takeWhile_cons, List.takeWhile_cons, ih]

/-- A request is made from the parts of its target. -/
theorem to_parts {method target : String} {body : Option (String × Json)} {request : ApiRequest}
    (h : to? method target body = some request) :
    ∃ path query, Text.Target.leadingParts?
        (if method = "GET" then target else target ++ "?").toList = some (path, query) ∧
      request = ⟨method, String.ofList path, String.ofList query, body⟩ := by
  simp only [to?] at h
  generalize (if method = "GET" then target else target ++ "?") = whole at h ⊢
  by_cases hlong : Text.Target.mostBytes < whole.utf8ByteSize
  · rw [if_pos hlong] at h
    cases h
  · rw [if_neg hlong] at h
    obtain ⟨⟨path, query⟩, hparts, hrequest⟩ := Option.bind_eq_some_iff.1 h
    exact ⟨path, query, hparts, (Option.some.inj hrequest).symm⟩

/-- A request has the given method and body, and the path of its target. -/
theorem to_eq_some {method target : String} {body : Option (String × Json)} {request : ApiRequest}
    (h : to? method target body = some request) :
    request.method = method ∧ request.path = pathOf target ∧ request.body = body := by
  obtain ⟨path, query, hparts, rfl⟩ := to_parts h
  have hwhole : ((if method = "GET" then target else target ++ "?").toList.takeWhile fun c =>
      c != '#' && c != '?') = target.toList.takeWhile fun c => c != '#' && c != '?' := by
    split
    · rfl
    · rw [String.toList_append]
      exact take_path_concat _
  simp only [Text.Target.leadingParts?, take_path, hwhole, Option.ite_none_right_eq_some] at hparts
  cases hparts.2
  exact ⟨rfl, rfl, rfl⟩

end ApiRequest

namespace Function

/-- The target of the requests for a function. -/
def target (space name : String) : String := collection.path space ++ "/" ++ name

/-- The target of a function is its path. -/
theorem target_of_path {space name path : String}
    (h : collection.objectPath? space name = some path) : path = target space name := by
  unfold Collection.objectPath? at h
  split at h
  · cases h
  · exact (Option.some.inj h).symm

/-- The request for a function. -/
theorem get_request {space name : String} {request : ApiRequest}
    (h : (collection.get space name).request = some request) :
    request.method = "GET" ∧ request.path = ApiRequest.pathOf (target space name) := by
  obtain ⟨path, hpath, hrequest⟩ := Option.bind_eq_some_iff.1 h
  obtain rfl := target_of_path hpath
  obtain ⟨hmethod, hpath, -⟩ := ApiRequest.to_eq_some hrequest
  exact ⟨hmethod, hpath⟩

end Function

namespace FunctionWrite

/-- The method of the request of a change. -/
def method : FunctionWrite → String
  | .create .. => "POST"
  | .replace .. => "PUT"
  | .delete .. => "DELETE"
  | .scale .. => "PATCH"

/-- The target of the request of a change. -/
def target : FunctionWrite → String
  | .create space _ => Function.collection.path space
  | .replace space function => Function.target space function.metadata.displayName
  | .delete space name => Function.target space name
  | .scale space name _ => Function.target space name

/-- The type and the content of the body of the request of a change. -/
def body : FunctionWrite → String × Json
  | .create _ function => (ApiRequest.jsonType, Function.collection.codec.write function)
  | .replace _ function => (ApiRequest.jsonType, Function.collection.codec.write function)
  | .delete .. => (ApiRequest.jsonType, .object [])
  | .scale _ _ replicas => (ApiRequest.mergeType, Function.scalePatch replicas)

/-- The request of a change. -/
theorem api_call_request {change : FunctionWrite} {request : ApiRequest}
    (h : change.apiCall.request = some request) :
    ApiRequest.to? change.method change.target (some change.body) = some request := by
  cases change with
  | create space function => exact h
  | replace space function =>
    obtain ⟨path, hpath, hrequest⟩ := Option.bind_eq_some_iff.1 h
    obtain rfl := Function.target_of_path hpath
    exact hrequest
  | delete space name =>
    obtain ⟨path, hpath, hrequest⟩ := Option.bind_eq_some_iff.1 h
    obtain rfl := Function.target_of_path hpath
    exact hrequest
  | scale space name replicas =>
    obtain ⟨path, hpath, hrequest⟩ := Option.bind_eq_some_iff.1 h
    obtain rfl := Function.target_of_path hpath
    exact hrequest

end FunctionWrite

/-! ## Functions that are sent -/

/-- A declared object is read back from its document if its parts are. -/
theorem PrimaryKind.read_of_written {σ : Type} (kind : PrimaryKind σ) {object : Primary σ}
    {levels : Nat} (hmetadata : Metadata.codec.Restores levels object.metadata)
    (hspec : kind.spec.Restores levels object.spec) :
    kind.codec.read (Draft.ofJson (kind.codec.write object)) = .ok object := by
  have hrestores : kind.record.closed.Restores (levels + 1) object := by
    refine Record.closed_restores (show ["metadata", "spec"].Nodup by decide) ?_
    exact .required hmetadata (.required hspec .nil)
  -- the other members are not looked at
  exact (Record.closed_read_known kind.record _).trans hrestores.read

/-- Metadata that tell no more than a name, a namespace and a version are restored. -/
theorem Metadata.restores_named (name space version : Option String) :
    Metadata.codec.Restores 1 { name := name, space := space, resourceVersion := version } := by
  have htext (text : String) : Codec.string.Restores 0 text ∧ Codec.string.write text ≠ .null :=
    ⟨Codec.string_restores 0 text, nofun⟩
  refine Record.opened_restores (by decide) ?_
  refine .maybe nofun rfl (.maybe nofun rfl (.maybe nofun rfl (.maybe nofun rfl ?_)))
  refine .maybe nofun rfl (.maybe nofun rfl (.maybe nofun rfl (.maybe nofun rfl ?_)))
  refine .maybe nofun rfl (.maybe (fun text _ => htext text) rfl ?_)
  refine .maybe (fun text _ => htext text) rfl (.maybe nofun rfl ?_)
  exact .maybe (fun text _ => htext text) rfl (.maybe nofun rfl (.maybe nofun rfl .nil))

/-- An object that has a name is known by it. -/
theorem Metadata.display_name_of_name {metadata : Metadata} {name : String}
    (h : metadata.name = some name) : metadata.displayName = name := by
  rw [displayName, h, Option.getD_some]

/-- The least number of replicas has 32 bits. -/
theorem Function.min_replicas_in_range (labels : Option TextMap) :
    -2_147_483_648 ≤ minReplicas labels ∧ minReplicas labels ≤ 2_147_483_647 := by
  have hchosen (wanted : Option Int)
      (h : ∀ n, wanted = some n → -2_147_483_648 ≤ n ∧ n ≤ 2_147_483_647) :
      -2_147_483_648 ≤ (wanted.filter (0 < ·)).getD 1 ∧
        (wanted.filter (0 < ·)).getD 1 ≤ 2_147_483_647 := by
    cases hfilter : wanted.filter (0 < ·) with
    | none => decide
    | some n => exact h n (Option.filter_eq_some_iff.1 hfilter).1
  refine hchosen _ fun n hn => ?_
  obtain ⟨_, -, hn⟩ := Option.bind_eq_some_iff.1 hn
  obtain ⟨text, -, hread⟩ := Option.bind_eq_some_iff.1 hn
  exact (Text.IntegerType.read_int32_iff.1 hread).2

/-- A function that the server takes in a namespace: it is read back from its document, and has a
name and this namespace. -/
structure Function.Sendable (function : Function) (space : String) : Prop where
  /-- It is read back. -/
  read : collection.codec.read (Draft.ofJson (collection.codec.write function)) = .ok function
  /-- It has a name. -/
  named : function.metadata.name.isSome
  /-- It has the namespace. -/
  space : function.metadata.space = some space

namespace DeploymentRequest

variable (deployment : DeploymentRequest) (space : String)

/-- The spec of the function that a client asks for is restored. -/
theorem spec_restores : FunctionSpec.codec.Restores 2 (deployment.toFunction space).spec := by
  refine FunctionSpec.restores fun replicas hreplicas => ?_
  obtain rfl := Option.some.inj hreplicas
  exact Function.min_replicas_in_range deployment.labels

/-- The function that a client asks for can be sent. -/
theorem to_function_sendable : (deployment.toFunction space).Sendable space where
  read := Function.kind.read_of_written
    ((Metadata.restores_named _ _ none).mono (by decide)) (deployment.spec_restores space)
  named := rfl
  space := rfl

/-- So can the one that is sent in the place of a stored one. -/
theorem replacement_sendable (stored : Function) :
    (deployment.replacement space stored).Sendable space where
  read := Function.kind.read_of_written
    ((Metadata.restores_named _ _ _).mono (by decide)) (deployment.spec_restores space)
  named := rfl
  space := rfl

end DeploymentRequest

namespace FunctionWrite

/-- A function of the change can be sent. -/
def Sendable : FunctionWrite → Prop
  | .create space function => function.Sendable space
  | .replace space function => function.Sendable space
  | _ => True

end FunctionWrite

/-- The changes that an admin request asks for can be sent. -/
theorem AdminServer.Plan.sendable {admin : AdminServer} {request : AdminRequest}
    {handling last : Handling} {exchanges : List FunctionExchange}
    (hplan : admin.Plan request handling) (h : handling.Course exchanges last)
    {asked : FunctionWrite} {answer : Except ApiFailure Bool}
    (hmem : .write asked answer ∈ exchanges) : asked.Sendable := by
  obtain ⟨rfl, -⟩ | ⟨change, name, hmiss, hchange⟩ | ⟨deployment, -, hdeployed⟩ :=
    hplan.course_cases h
  · cases hmem
  · obtain ⟨_, hwrite, -⟩ := Handling.attempt_exchange hchange hmem
    cases hwrite
    cases asked with
    | create | replace => cases hmiss
    | delete | scale => trivial
  · cases hdeployed with
    | waiting => cases hmem
    | unread failure => cases List.mem_singleton.1 hmem
    | missing hcreate =>
      obtain ⟨_, hwrite, -⟩ :=
        Handling.attempt_exchange hcreate ((List.mem_cons.1 hmem).resolve_left nofun)
      cases hwrite
      exact deployment.to_function_sendable admin.space
    | stored stored hreplace =>
      obtain ⟨_, hwrite, -⟩ :=
        Handling.attempt_exchange hreplace ((List.mem_cons.1 hmem).resolve_left nofun)
      cases hwrite
      exact deployment.replacement_sendable admin.space stored

/-! ## What is asked for -/

namespace FunctionRequest

variable {request : ApiRequest} {space name : String} {function : Function}

/-- A function that is taken from the body of another one is this one, in its own namespace. -/
theorem eq_of_function {sent : Function} {own : String} (hsent : sent.Sendable own)
    (h : function? space (some (ApiRequest.jsonType, Function.collection.codec.write sent)) =
      some function) : function = sent ∧ space = own := by
  simp only [function?, Option.bind_eq_bind, Option.bind_some, hsent.read, Except.toOption,
    hsent.space, Option.ite_none_right_eq_some] at h
  obtain ⟨⟨-, -, -, hspace⟩, hfound⟩ := h
  exact ⟨(Option.some.inj hfound).symm, (of_decide_eq_true hspace).symm⟩

/-- What a request asks for, with all that is looked at. -/
inductive Asks (request : ApiRequest) : FunctionRequest → Prop where
  /-- The path names the function. -/
  | ask {space name : String} (hmethod : request.method = "GET")
    (haddress : address? request.path = some (space, some name)) : Asks request (.ask space name)
  /-- The body brings a new function. -/
  | create {space : String} {function : Function} (hmethod : request.method = "POST")
    (haddress : address? request.path = some (space, none))
    (hbody : function? space request.body = some function) :
    Asks request (.change (.create space function))
  /-- The body brings the function that the path names. -/
  | replace {space name : String} {function : Function} (hmethod : request.method = "PUT")
    (haddress : address? request.path = some (space, some name))
    (hbody : function? space request.body = some function)
    (hname : function.metadata.name = some name) : Asks request (.change (.replace space function))
  /-- The path names the function that is to go. -/
  | delete {space name : String} (hmethod : request.method = "DELETE")
    (haddress : address? request.path = some (space, some name)) :
    Asks request (.change (.delete space name))
  /-- The body sets a number of replicas. -/
  | scale {space name : String} {replicas : Int} (hmethod : request.method = "PATCH")
    (haddress : address? request.path = some (space, some name))
    (hbody : replicas? request.body = some replicas) :
    Asks request (.change (.scale space name replicas))

/-- A request asks for what it is taken for. -/
theorem of_eq_some_iff {asked : FunctionRequest} :
    of? request = some asked ↔ Asks request asked := by
  constructor
  · intro h
    unfold of? at h
    split at h
    · next hmethod haddress =>
      cases h
      exact .ask hmethod haddress
    · next hmethod haddress =>
      obtain ⟨function, hbody, rfl⟩ := Option.map_eq_some_iff.1 h
      exact .create hmethod haddress hbody
    · next hmethod haddress =>
      obtain ⟨function, hfilter, rfl⟩ := Option.map_eq_some_iff.1 h
      obtain ⟨hbody, hname⟩ := Option.filter_eq_some_iff.1 hfilter
      exact .replace hmethod haddress hbody (of_decide_eq_true hname)
    · next hmethod haddress =>
      cases h
      exact .delete hmethod haddress
    · next hmethod haddress =>
      obtain ⟨replicas, hbody, rfl⟩ := Option.map_eq_some_iff.1 h
      exact .scale hmethod haddress hbody
    · cases h
  · intro h
    cases h with
    | ask hmethod haddress => simp only [of?, hmethod, haddress]
    | create hmethod haddress hbody => simp only [of?, hmethod, haddress, hbody, Option.map_some]
    | replace hmethod haddress hbody hname =>
      simp only [of?, hmethod, haddress, hbody, Option.filter_some, hname, decide_true, if_true,
        Option.map_some]
    | delete hmethod haddress => simp only [of?, hmethod, haddress]
    | scale hmethod haddress hbody => simp only [of?, hmethod, haddress, hbody, Option.map_some]

/-- A request has the method of the change that it asks for. -/
theorem Asks.method {change : FunctionWrite} (h : Asks request (.change change)) :
    request.method = change.method := by
  cases h with
  | create hmethod => exact hmethod
  | replace hmethod => exact hmethod
  | delete hmethod => exact hmethod
  | scale hmethod => exact hmethod

end FunctionRequest

/-! ## Plain names -/

/-- A text that stands for itself as a segment of a path. -/
def PlainSegment (text : String) : Prop := ∀ c ∈ text.toList, c ∉ ['/', '?', '#', '%']

instance (text : String) : Decidable (PlainSegment text) := List.decidableBAll _ _

/-- The characters of a path are slashes and those of its segments. -/
theorem mem_path_cases {c : Char} {segments : List (List Char)}
    (h : c ∈ ['/'].intercalate segments) : c = '/' ∨ ∃ segment ∈ segments, c ∈ segment := by
  induction segments with
  | nil => simp at h
  | cons first rest ih =>
    by_cases hrest : rest = []
    · subst hrest
      rw [List.intercalate_singleton] at h
      exact .inr ⟨first, List.mem_cons_self, h⟩
    · rw [List.intercalate_cons_of_ne_nil hrest, List.append_assoc, List.mem_append,
        List.singleton_append, List.mem_cons] at h
      obtain hfirst | hslash | hlater := h
      · exact .inr ⟨first, List.mem_cons_self, hfirst⟩
      · exact .inl hslash
      · refine (ih hlater).imp_right ?_
        rintro ⟨segment, hsegment, hc⟩
        exact ⟨segment, List.mem_cons_of_mem _ hsegment, hc⟩

/-- In a target of plain segments no character has a meaning but the slash. -/
theorem chars_of_segments {target : String} {segments : List String}
    (htarget : target.toList = ['/'].intercalate (segments.map String.toList))
    (hplain : ∀ segment ∈ segments, PlainSegment segment) :
    ∀ c ∈ target.toList, c ≠ '?' ∧ c ≠ '#' ∧ c ≠ '%' := by
  intro c hc
  rw [htarget] at hc
  obtain rfl | ⟨cs, hcs, hc⟩ := mem_path_cases hc
  · decide
  · obtain ⟨segment, hsegment, rfl⟩ := List.mem_map.1 hcs
    have hplain := hplain segment hsegment c hc
    simp only [List.mem_cons, List.not_mem_nil, or_false, not_or] at hplain
    exact hplain.2

namespace Function

variable {space name : String}

/-- Where functions are found. -/
theorem path_eq (space : String) : collection.path space =
    "/apis/openfaas.com/v1alpha2/namespaces/" ++ space ++ "/functions" := by
  have hgroup : "openfaas.com/v1alpha2".contains '/' = true := by simp
  have hroot : Collection.root collection.apiVersion = "/apis/" ++ "openfaas.com/v1alpha2" :=
    if_pos hgroup
  rw [Collection.path, hroot]
  apply String.toList_inj.1
  simp [collection, PrimaryKind.collection, kind]

/-- The segments of the paths below a namespace. -/
def segments (space : String) (names : List String) : List String :=
  ["", "apis", "openfaas.com", "v1alpha2", "namespaces", space, "functions"] ++ names

/-- They are plain where the namespace and the names are. -/
theorem segments_plain {names : List String} (hspace : PlainSegment space)
    (hnames : ∀ name ∈ names, PlainSegment name) :
    ∀ segment ∈ segments space names, PlainSegment segment := by
  simp only [segments, List.cons_append, List.nil_append, List.forall_mem_cons]
  exact ⟨by decide, by decide, by decide, by decide, by decide, hspace, by decide, hnames⟩

/-- The segments of the path of a namespace. -/
theorem path_segments (space : String) : (collection.path space).toList =
    ['/'].intercalate ((segments space []).map String.toList) := by
  simp [segments, path_eq, List.intercalate]

/-- The segments of the path of a function. -/
theorem target_segments (space name : String) : (target space name).toList =
    ['/'].intercalate ((segments space [name]).map String.toList) := by
  simp [segments, target, path_eq, List.intercalate]

/-- The path of a function names it. -/
def Addressed (space name : String) : Prop :=
  FunctionRequest.address? (ApiRequest.pathOf (target space name)) = some (space, some name)

/-- The request for a function asks for it if its path names it. -/
theorem of_get_request {request : ApiRequest}
    (h : (collection.get space name).request = some request) (haddressed : Addressed space name) :
    FunctionRequest.of? request = some (.ask space name) := by
  obtain ⟨hmethod, hpath⟩ := get_request h
  exact FunctionRequest.of_eq_some_iff.2 (.ask hmethod (hpath ▸ haddressed))

end Function

namespace FunctionWrite

variable {asked change : FunctionWrite} {request : ApiRequest}

/-- The namespace and the name of a change stand for themselves in a path. -/
structure Plain (change : FunctionWrite) : Prop where
  /-- The namespace does. -/
  space : PlainSegment change.space
  /-- The name does. -/
  name : PlainSegment change.name

/-- In the target of a change that is plain no character has a meaning but the slash. -/
theorem Plain.target (h : change.Plain) :
    ∀ c ∈ change.target.toList, c ≠ '?' ∧ c ≠ '#' ∧ c ≠ '%' := by
  have hnamed := chars_of_segments (Function.target_segments change.space change.name)
    (Function.segments_plain h.space (List.forall_mem_singleton.2 h.name))
  cases change with
  | create space function =>
    exact chars_of_segments (Function.path_segments space)
      (Function.segments_plain h.space (List.forall_mem_nil _))
  | replace | delete | scale => exact hnamed

/-- The request of the first change asks for the second one. -/
def SentAs (asked change : FunctionWrite) : Prop :=
  ∃ request, asked.apiCall.request = some request ∧
    FunctionRequest.of? request = some (.change change)

namespace SentAs

/-- A change is sent as a change of the same method. -/
theorem method (h : asked.SentAs change) : asked.method = change.method := by
  obtain ⟨request, hrequest, hof⟩ := h
  have hsent := (ApiRequest.to_eq_some (api_call_request hrequest)).1
  exact hsent.symm.trans (FunctionRequest.of_eq_some_iff.1 hof).method

/-- Whatever its name is, a function that is replaced is the one that was sent, and its path names
it. -/
theorem replaced {space : String} {function : Function}
    (h : asked.SentAs (.replace space function)) (hsendable : asked.Sendable) :
    asked = .replace space function ∧ Function.Addressed space function.metadata.displayName := by
  have hmethod := h.method
  obtain ⟨request, hrequest, hof⟩ := h
  obtain ⟨-, hpath, hbody⟩ := ApiRequest.to_eq_some (api_call_request hrequest)
  cases asked with
  | replace own sent =>
    cases FunctionRequest.of_eq_some_iff.1 hof with
    | replace _ haddress hfunction hname =>
      rw [hbody] at hfunction
      obtain ⟨rfl, rfl⟩ := FunctionRequest.eq_of_function hsendable hfunction
      rw [hpath, ← Metadata.display_name_of_name hname] at haddress
      exact ⟨rfl, haddress⟩
  | create | delete | scale => simp [FunctionWrite.method] at hmethod

end SentAs

end FunctionWrite

end FunctionOperator
