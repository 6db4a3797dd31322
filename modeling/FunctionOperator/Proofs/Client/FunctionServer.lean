import FunctionOperator.Proofs.Cache.Store
import FunctionOperator.Proofs.Client.FunctionRequests

/-!
# An API server for functions

What a server does with the requests that reach it, and what a client makes of the replies. Read
`FunctionServer.perform?` and `FunctionServer.Answers` first: the server acts on the requests alone,
each at once; it may refuse any of them or fail, and then it is left as it was. `ask_served` and
`change_served` follow the two kinds of calls through such a server: what a client reads is stored,
and a change that was performed is the one that the client's request asks for.
-/

namespace FunctionOperator

/-- By what the server finds the function of a change. -/
def FunctionWrite.id (change : FunctionWrite) : ObjectId := ⟨some change.space, change.name⟩

/-- A change that was performed. -/
structure NotedChange where
  /-- The change. -/
  change : FunctionWrite
  /-- The function of its name before. -/
  overwritten : Option Function

/-- The functions of an API server. -/
structure FunctionServer where
  /-- The functions. -/
  stored : Store Function
  /-- The versions that were given so far. -/
  spent : List String
  /-- The changes that were performed so far, in their order. -/
  noted : List NotedChange

namespace FunctionServer

/-- Notes a change and the version that is given to it. -/
def note (server : FunctionServer) (version : String) (change : FunctionWrite) :
    FunctionServer where
  stored := server.stored
  spent := version :: server.spent
  noted := server.noted ++ [⟨change, server.stored.find? change.id⟩]

/-- Stores the function of a change as a new version, with what the server adds to its metadata. -/
def put (server : FunctionServer) (version : String) (settle : Metadata → Metadata)
    (change : FunctionWrite) (function : Function) : FunctionServer where
  __ := server.note version change
  stored := server.stored.insert change.id { function with
    metadata := { settle function.metadata with resourceVersion := some version } }

/-- Forgets the function of a change. -/
def remove (server : FunctionServer) (version : String) (change : FunctionWrite) :
    FunctionServer where
  __ := server.note version change
  stored := server.stored.erase change.id

/-- Performs a change, to which a version is given. The server takes no new function of an existing
name, no function in the place of another version than the one that it tells, and no change of a
function that is not there. -/
def perform? (server : FunctionServer) (version : String) (settle : Metadata → Metadata)
    (change : FunctionWrite) : Option FunctionServer :=
  match change, server.stored.find? change.id with
  | .create _ function, none => some (server.put version settle change function)
  | .replace _ function, some stored =>
    if function.metadata.resourceVersion.all (stored.metadata.resourceVersion == some ·) then
      some (server.put version settle change function)
    else none
  | .delete .., some _ => some (server.remove version change)
  | .scale _ _ replicas, some stored => some (server.put version settle change
      { stored with spec := { stored.spec with replicas := some replicas } })
  | _, _ => none

/-- Every function has a version that the server gave. -/
def Sound (server : FunctionServer) : Prop :=
  ∀ id function, server.stored.find? id = some function →
    ∃ version ∈ server.spent, function.metadata.resourceVersion = some version

/-! ## Changes -/

/-- What every change does: it is noted, uses its version up, leaves all other functions alone, and
leaves either no function or one of its version. -/
structure Performed (server : FunctionServer) (version : String) (change : FunctionWrite)
    (next : FunctionServer) : Prop where
  /-- The versions. -/
  spent : next.spent = version :: server.spent
  /-- The notes. -/
  noted : next.noted = server.noted ++ [⟨change, server.stored.find? change.id⟩]
  /-- The other functions. -/
  others : ∀ other, other ≠ change.id → next.stored.find? other = server.stored.find? other
  /-- The function of the change. -/
  own : ∀ function, next.stored.find? change.id = some function →
    function.metadata.resourceVersion = some version

variable {server next : FunctionServer} {version : String} {settle : Metadata → Metadata}
variable {change : FunctionWrite}

theorem put_performed (server : FunctionServer) (version : String) (settle : Metadata → Metadata)
    (change : FunctionWrite) (function : Function) :
    Performed server version change (server.put version settle change function) where
  spent := rfl
  noted := rfl
  others other hne := by rw [put, Store.find_insert, if_neg hne]
  own stored hstored := by
    rw [put, Store.find_insert, if_pos rfl] at hstored
    cases hstored
    rfl

theorem remove_performed (server : FunctionServer) (version : String) (change : FunctionWrite) :
    Performed server version change (server.remove version change) where
  spent := rfl
  noted := rfl
  others other hne := by rw [remove, Store.find_erase, if_neg hne]
  own stored hstored := by
    rw [remove, Store.find_erase, if_pos rfl] at hstored
    cases hstored

/-- A change that is performed does what every change does. -/
theorem performed_of_perform (h : server.perform? version settle change = some next) :
    Performed server version change next := by
  unfold perform? at h
  split at h
  · cases h
    exact put_performed _ _ _ _ _
  · split at h
    · cases h
      exact put_performed _ _ _ _ _
    · cases h
  · cases h
    exact remove_performed _ _ _
  · cases h
    exact put_performed _ _ _ _ _
  · cases h

/-- A change keeps every function at a version that the server gave. -/
theorem Sound.performed (h : server.Sound) (hperformed : Performed server version change next) :
    next.Sound := by
  intro other function hfind
  rw [hperformed.spent]
  by_cases hid : other = change.id
  · exact ⟨version, List.mem_cons_self, hperformed.own function (hid ▸ hfind)⟩
  · rw [hperformed.others other hid] at hfind
    obtain ⟨earlier, hspent, hversion⟩ := h other function hfind
    exact ⟨earlier, List.mem_cons_of_mem _ hspent, hversion⟩

/-- A version that the server gave and that the function of a name does not have. -/
structure Outdated (server : FunctionServer) (id : ObjectId) (version : String) : Prop where
  /-- It was given. -/
  spent : version ∈ server.spent
  /-- The function has another one. -/
  other : ∀ function, server.stored.find? id = some function →
    function.metadata.resourceVersion ≠ some version

/-- A change with a new version outdates all earlier ones. -/
theorem Performed.outdates {old : String} (h : Performed server version change next)
    (hfresh : version ∉ server.spent) (hold : old ∈ server.spent) :
    next.Outdated change.id old where
  spent := by rw [h.spent]; exact List.mem_cons_of_mem _ hold
  other function hfind hversion := by
    rw [h.own function hfind, Option.some.injEq] at hversion
    exact hfresh (hversion ▸ hold)

/-- A version that is outdated stays so. -/
theorem Outdated.performed {id : ObjectId} {old : String} (h : server.Outdated id old)
    (hperformed : Performed server version change next) (hfresh : version ∉ server.spent) :
    next.Outdated id old := by
  by_cases hid : id = change.id
  · subst hid
    exact hperformed.outdates hfresh h.spent
  · exact ⟨by rw [hperformed.spent]; exact List.mem_cons_of_mem _ h.spent,
      fun function hfind => h.other function (hperformed.others id hid ▸ hfind)⟩

end FunctionServer

/-! ## Replies -/

namespace Reply

/-- The reply brings a function. -/
structure Tells (reply : Reply) (function : Function) : Prop where
  /-- It does not refuse the request. -/
  accepts : reply.refuses = false
  /-- The body is a document of the function. -/
  document : ∃ document, (Document.ofText reply.body).read Codec.json.read = .ok document ∧
    function.ToldBy document
  /-- It tells all of the function. -/
  read : (Document.ofText reply.body).read Function.collection.codec.read = .ok function

/-- The reply brings a report. -/
structure TellsReport (reply : Reply) (report : Report) : Prop where
  /-- It does not refuse the request. -/
  accepts : reply.refuses = false
  /-- The body is a document of a report. -/
  document : ∃ document, (Document.ofText reply.body).read Codec.json.read = .ok document ∧
    document.get? "kind" = some (.string "Status")
  /-- It tells all of the report. -/
  read : (Document.ofText reply.body).read Report.codec.read = .ok report

variable {reply : Reply}

/-- What is read of a body is what it is parsed as. -/
theorem parse_of_read {α : Type} {body : String} {read : Draft → Except Cause α} {value : α}
    (h : (Document.ofText body).read read = .ok value) : parse body read = .ok value := by
  rw [parse, h]

/-- A function that is told is read. -/
theorem Tells.decode {function : Function} (h : reply.Tells function) :
    reply.decode Function.collection.codec.read = .ok function := by
  rw [Reply.decode, h.accepts, if_neg Bool.false_ne_true, parse_of_read h.read]

/-- A client that has asked for a function gets the one that is told. -/
theorem Tells.receive_get {function : Function} (h : reply.Tells function) (space name : String) :
    (Function.collection.get space name).receive reply = .ok (some function) := by
  simp only [Collection.get, h.decode]

/-- A function that is about to go is a good answer to its deletion. -/
theorem Tells.check_deleted {function : Function} (h : reply.Tells function) :
    Function.collection.checkDeleted reply.body = .ok () := by
  obtain ⟨document, hdocument, -, htext, -⟩ := h.document
  have hkind : document.get? "kind" = some (.string "Function") := by
    obtain ⟨kind, hkind, htext⟩ := Option.bind_eq_some_iff.1 htext
    rw [hkind, Json.eq_of_string htext]
  simp [Collection.checkDeleted, parse_of_read hdocument, hkind, parse_of_read h.read, bind,
    Except.bind, pure, Except.pure]

/-- So is a report. -/
theorem TellsReport.check_deleted {report : Report} (h : reply.TellsReport report) :
    Function.collection.checkDeleted reply.body = .ok () := by
  obtain ⟨document, hdocument, hkind⟩ := h.document
  simp [Collection.checkDeleted, parse_of_read hdocument, hkind, parse_of_read h.read, bind,
    Except.bind, pure, Except.pure]

end Reply

namespace FunctionServer

variable {server next : FunctionServer} {change : FunctionWrite} {reply : Reply}

/-- What the reply to a change brings, once the server has performed it. -/
inductive Reports (server : FunctionServer) (reply : Reply) : FunctionWrite → Prop where
  /-- The function as it is stored now. -/
  | stored {change : FunctionWrite} {function : Function}
    (hstored : server.stored.find? change.id = some function)
    (htells : reply.Tells function) : Reports server reply change
  /-- A report of a deletion. -/
  | reported {space name : String} {report : Report} (htells : reply.TellsReport report) :
    Reports server reply (.delete space name)
  /-- The function that was deleted. -/
  | gone {space name : String} {function : Function} (htells : reply.Tells function) :
    Reports server reply (.delete space name)

/-- A client that has asked for a change of the same method learns that it was made. -/
theorem Reports.receive {asked : FunctionWrite} (h : server.Reports reply change)
    (hmethod : asked.method = change.method) : asked.apiCall.receive reply = .ok true := by
  have hdeleted (space name : String) (haccepts : reply.refuses = false)
      (h : Function.collection.checkDeleted reply.body = .ok ()) :
      (Function.delete space name).receive reply = .ok true := by
    simp [Function.delete, ApiCall.found, Collection.delete, haccepts, h]
  have hdecoded {function : Function} (htells : reply.Tells function) :
      asked.apiCall.receive reply = .ok true := by
    cases asked with
    | create | replace =>
      simp [FunctionWrite.apiCall, ApiCall.map, Collection.create, Collection.replace,
        htells.decode, Except.map]
    | delete space name => exact hdeleted space name htells.accepts htells.check_deleted
    | scale =>
      simp [FunctionWrite.apiCall, Function.scale, ApiCall.found, Collection.merge, htells.decode]
  cases h with
  | stored _ htells => exact hdecoded htells
  | gone htells => exact hdecoded htells
  | reported htells =>
    cases asked with
    | delete space name => exact hdeleted space name htells.accepts htells.check_deleted
    | create | replace | scale => simp [FunctionWrite.method] at hmethod

/-- How a server may answer a request, and what it is then. -/
inductive Answers (server : FunctionServer) (request : ApiRequest) :
    Except ApiFailure Reply → FunctionServer → Prop where
  /-- The request gets lost, and nothing is done. -/
  | failed (failure) : Answers server request (.error failure) server
  /-- The request is refused, and nothing is done. -/
  | refused {reply : Reply} (h : reply.refuses = true) : Answers server request (.ok reply) server
  /-- The function that is asked for is told. -/
  | told {space name : String} {function : Function} {reply : Reply}
    (hrequest : FunctionRequest.of? request = some (.ask space name))
    (hstored : server.stored.find? ⟨some space, name⟩ = some function)
    (htells : reply.Tells function) : Answers server request (.ok reply) server
  /-- The change that is asked for is performed as a new version. -/
  | performed {change : FunctionWrite} {next : FunctionServer} {reply : Reply} (version : String)
    (settle : Metadata → Metadata)
    (hrequest : FunctionRequest.of? request = some (.change change))
    (hfresh : version ∉ server.spent)
    (hperform : server.perform? version settle change = some next)
    (hreports : next.Reports reply change) : Answers server request (.ok reply) next

/-- Whatever reaches it, the server behind a transport answers as it may. -/
def Serves (transport : Transport FunctionServer) : Prop :=
  ∀ request server, Answers server request (transport request server).1 (transport request server).2

/-- A call fails and leaves the server as it was, or its request is replied to. -/
theorem run_served {α : Type} {call : ApiCall α} {answer : Except ApiFailure α}
    {transport : Transport FunctionServer} (hserves : Serves transport)
    (h : call.run transport server = (answer, next)) :
    (next = server ∧ ∃ failure, answer = .error failure) ∨
    ∃ request reply, call.request = some request ∧ Answers server request (.ok reply) next ∧
      answer = call.receive reply := by
  obtain ⟨rfl, rfl⟩ | ⟨request, hrequest, ⟨failure, hsent, rfl⟩ | ⟨reply, hsent, rfl⟩⟩ :=
    ApiCall.run_cases h
  · exact .inl ⟨rfl, _, rfl⟩
  · have hanswers := hserves request server
    rw [hsent] at hanswers
    cases hanswers with
    | failed => exact .inl ⟨rfl, _, rfl⟩
  · have hanswers := hserves request server
    rw [hsent] at hanswers
    exact .inr ⟨request, reply, hrequest, hanswers, rfl⟩

/-- A client that asks for a function leaves the server as it was. What it gets is stored, if the
path of its request names the function. -/
theorem ask_served {space name : String} {answer : Except ApiFailure (Option Function)}
    {transport : Transport FunctionServer} (hserves : Serves transport)
    (h : (FunctionApi.over transport).read space name server = (some answer, next)) :
    next = server ∧ ∀ function, answer = .ok (some function) → Function.Addressed space name →
      server.stored.find? ⟨some space, name⟩ = some function := by
  obtain ⟨rfl, failure, rfl⟩ | ⟨request, reply, hrequest, hanswers, rfl⟩ :=
    run_served hserves (FunctionApi.run_of_read h)
  · exact ⟨rfl, fun _ => nofun⟩
  · cases hanswers with
    | refused hrefuses =>
      refine ⟨rfl, fun function hfunction => ?_⟩
      simp only [Collection.get, Reply.decode_of_refuses hrefuses] at hfunction
      split at hfunction <;> cases hfunction
    | told hasked hstored htells =>
      refine ⟨rfl, fun function hfunction haddressed => ?_⟩
      rw [htells.receive_get] at hfunction
      cases hfunction
      rw [Function.of_get_request hrequest haddressed] at hasked
      cases hasked
      exact hstored
    | @performed change _ _ _ _ hasked =>
      -- a request that only asks is no request of a change
      have hmethod := (FunctionRequest.of_eq_some_iff.1 hasked).method
      rw [(Function.get_request hrequest).1] at hmethod
      cases change <;> simp [FunctionWrite.method] at hmethod

/-- A client that asks for a change leaves the server as it was, and learns so; or the change that
its request asks for is performed, and it learns that. -/
theorem change_served {asked : FunctionWrite} {answer : Except ApiFailure Bool}
    {transport : Transport FunctionServer} (hserves : Serves transport)
    (h : (FunctionApi.over transport).write asked server = (some answer, next)) :
    (next = server ∧ ((∃ failure, answer = .error failure) ∨
      answer = .ok false ∧ asked.mayMiss = true)) ∨
    ∃ change version settle, asked.SentAs change ∧ version ∉ server.spent ∧
      server.perform? version settle change = some next ∧ answer = .ok true := by
  obtain ⟨rfl, hfailed⟩ | ⟨request, reply, hrequest, hanswers, rfl⟩ :=
    run_served hserves (FunctionApi.run_of_write h)
  · exact .inl ⟨rfl, .inl hfailed⟩
  · cases hanswers with
    | refused hrefuses => exact .inl ⟨rfl, asked.receive_of_refuses hrefuses⟩
    | told hasked =>
      -- a request of a change is none that only asks
      cases FunctionRequest.of_eq_some_iff.1 hasked with
      | ask hmethod =>
        rw [(ApiRequest.to_eq_some (FunctionWrite.api_call_request hrequest)).1] at hmethod
        cases asked <;> simp [FunctionWrite.method] at hmethod
    | @performed change _ _ version settle hasked hfresh hperform hreports =>
      have hsent : asked.SentAs change := ⟨request, hrequest, hasked⟩
      exact .inr ⟨change, version, settle, hsent, hfresh, hperform, hreports.receive hsent.method⟩

end FunctionServer

end FunctionOperator
