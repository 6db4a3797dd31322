import FunctionOperator.Proofs.Client.FunctionServer
import Mathlib.Data.List.Basic
import Mathlib.Logic.Function.Basic

/-!
# Admin requests side by side

An API server for functions and any number of admin requests whose calls reach it in any order. Read
`AdminTraffic.Step` first: a request makes the call that its handling asks for, through a transport
behind which a server is, and goes on with what its client makes of the reply. What the call does to
the functions is left to the server, and is what it notes. A `Run` lists the calls in the order in
which they happened. `Run.course` shows that each request follows one of its courses, and
`Run.standing` that a function which was read either still stands or will not come back with its
version.
-/

namespace FunctionOperator

/-! ## The requests -/

/-- A call of one of the requests. -/
structure AdminEvent where
  /-- The request. -/
  request : Nat
  /-- The call as its request sees it. -/
  exchange : FunctionExchange
  /-- The changes that the server has performed for the call. -/
  changes : List NotedChange

namespace AdminEvent

/-- The function of a name was changed. -/
def Changes (event : AdminEvent) (id : ObjectId) : Prop :=
  ∃ noted ∈ event.changes, noted.change.id = id

/-- The calls of a request. -/
def callsOf (request : Nat) (history : List AdminEvent) : List FunctionExchange :=
  (history.filter fun event => event.request = request).map exchange

/-- The changes that were performed for a request. -/
def changesOf (request : Nat) (history : List AdminEvent) : List NotedChange :=
  (history.filter fun event => event.request = request).flatMap changes

theorem calls_of_append (request : Nat) (first second : List AdminEvent) :
    callsOf request (first ++ second) = callsOf request first ++ callsOf request second := by
  simp [callsOf]

/-- A call of a history is one of its request. -/
theorem mem_calls_of {event : AdminEvent} {history : List AdminEvent} (h : event ∈ history) :
    event.exchange ∈ callsOf event.request history :=
  List.mem_map.2 ⟨event, List.mem_filter.2 ⟨h, decide_eq_true rfl⟩, rfl⟩

end AdminEvent

/-- An API server and the requests that are handled at the same time. -/
structure AdminTraffic where
  /-- The server. -/
  server : FunctionServer
  /-- What is left to be done for each request. -/
  handlings : Nat → Handling

namespace AdminTraffic

open AdminEvent

/-- Goes on with a request. -/
def resume (traffic : AdminTraffic) (request : Nat) (handling : Handling)
    (server : FunctionServer) : AdminTraffic where
  server := server
  handlings := Function.update traffic.handlings request handling

@[simp] theorem resume_own (traffic : AdminTraffic) (request : Nat) (handling : Handling)
    (server : FunctionServer) :
    (traffic.resume request handling server).handlings request = handling :=
  Function.update_self _ _ _

theorem resume_other (traffic : AdminTraffic) {request other : Nat} (h : other ≠ request)
    (handling : Handling) (server : FunctionServer) :
    (traffic.resume request handling server).handlings other = traffic.handlings other :=
  Function.update_of_ne h _ _

/-- What may happen next: a request makes its call, and a server behind a transport answers it. -/
inductive Step (traffic : AdminTraffic) : AdminEvent → AdminTraffic → Prop where
  /-- A function is asked for. -/
  | read {request space name resume answer server changes} (transport : Transport FunctionServer)
      (hserves : FunctionServer.Serves transport)
      (hhandling : traffic.handlings request = .reading space name resume)
      (hanswer : (FunctionApi.over transport).read space name traffic.server =
        (some answer, server))
      (hchanges : server.noted = traffic.server.noted ++ changes) :
    Step traffic ⟨request, .read space name answer, changes⟩
      (traffic.resume request (resume answer) server)
  /-- A change is asked for. -/
  | write {request change resume answer server changes} (transport : Transport FunctionServer)
      (hserves : FunctionServer.Serves transport)
      (hhandling : traffic.handlings request = .writing change resume)
      (hanswer : (FunctionApi.over transport).write change traffic.server =
        (some answer, server))
      (hchanges : server.noted = traffic.server.noted ++ changes) :
    Step traffic ⟨request, .write change answer, changes⟩
      (traffic.resume request (resume answer) server)

/-- What may come about, with the calls so far in their order. -/
inductive Run (start : AdminTraffic) : List AdminEvent → AdminTraffic → Prop where
  /-- Nothing has happened. -/
  | start : Run start [] start
  /-- One more call happens. -/
  | step {history traffic event next} (hrun : Run start history traffic)
      (hstep : traffic.Step event next) : Run start (history ++ [event]) next

variable {start traffic next : AdminTraffic} {event : AdminEvent} {history : List AdminEvent}

/-! ## What one call does -/

/-- What a call may do: it leaves the server as it was, and its answer tells so; or one change is
performed as a new version, and the answer tells so. -/
inductive Effect (server : FunctionServer) (event : AdminEvent) (next : FunctionServer) : Prop where
  /-- Nothing is changed. -/
  | none (hserver : next = server) (hchanges : event.changes = [])
    (hmade : event.exchange.made? = none) (hpossible : event.exchange.Possible)
  /-- The change is performed that the request of a call asks for. -/
  | change {asked change : FunctionWrite} {version : String} {settle : Metadata → Metadata}
    (hexchange : event.exchange = .write asked (.ok true)) (hsent : asked.SentAs change)
    (hfresh : version ∉ server.spent)
    (hperform : server.perform? version settle change = some next)
    (hchanges : event.changes = [⟨change, server.stored.find? change.id⟩])

/-- The answer tells whether a change was performed, and misses only what may be missed. -/
theorem Effect.told {server after : FunctionServer} (h : Effect server event after) :
    event.exchange.made?.toList.length = event.changes.length ∧ event.exchange.Possible := by
  obtain ⟨-, hchanges, hmade, hpossible⟩ | ⟨hexchange, -, -, -, hchanges⟩ := h
  · exact ⟨by rw [hchanges, hmade]; rfl, hpossible⟩
  · rw [hchanges, hexchange]
    exact ⟨rfl, fun _ => nofun⟩

/-- A change that is noted for a call is the one that its request asks for, performed on what was
stored. -/
theorem Effect.noted {server after : FunctionServer} (h : Effect server event after)
    {noted : NotedChange} (hnoted : noted ∈ event.changes) :
    ∃ asked version settle, event.exchange = .write asked (.ok true) ∧
      asked.SentAs noted.change ∧ version ∉ server.spent ∧
      server.perform? version settle noted.change = some after ∧
      noted.overwritten = server.stored.find? noted.change.id := by
  obtain ⟨-, hchanges⟩ | ⟨hexchange, hsent, hfresh, hperform, hchanges⟩ := h
  · rw [hchanges] at hnoted
    cases hnoted
  · rw [hchanges, List.mem_singleton] at hnoted
    subst hnoted
    exact ⟨_, _, _, hexchange, hsent, hfresh, hperform, rfl⟩

namespace Step

/-- A request goes on with the answer to its call, and the others do not notice. -/
theorem course (h : traffic.Step event next) (request : Nat) :
    (traffic.handlings request).Course (callsOf request [event]) (next.handlings request) := by
  by_cases hrequest : event.request = request
  · subst hrequest
    have hcalls : callsOf event.request [event] = [event.exchange] := by simp [callsOf]
    rw [hcalls]
    cases h with
    | read transport hserves hhandling =>
      simp only [hhandling, resume_own]
      exact .reading _ .rest
    | write transport hserves hhandling =>
      simp only [hhandling, resume_own]
      exact .writing _ .rest
  · have hcalls : callsOf request [event] = [] := by simp [callsOf, hrequest]
    have hsame : next.handlings request = traffic.handlings request := by
      cases h <;> exact resume_other _ (Ne.symm hrequest) _ _
    rw [hcalls, hsame]
    exact .rest

/-- Every call has one of the effects. -/
theorem effect (h : traffic.Step event next) : Effect traffic.server event next.server := by
  cases h with
  | read transport hserves _ hanswer hchanges =>
    obtain ⟨rfl, -⟩ := FunctionServer.ask_served hserves hanswer
    exact .none rfl (List.self_eq_append_right.1 hchanges) rfl fun _ => nofun
  | @write request asked resume answer server changes transport hserves _ hanswer hchanges =>
    obtain ⟨rfl, hdenied⟩ | ⟨change, version, settle, hsent, hfresh, hperform, rfl⟩ :=
      FunctionServer.change_served hserves hanswer
    · have hnone := List.self_eq_append_right.1 hchanges
      obtain ⟨failure, rfl⟩ | ⟨rfl, hmiss⟩ := hdenied
      · exact .none rfl hnone rfl fun _ => nofun
      · refine .none rfl hnone rfl fun other hother => ?_
        cases hother
        exact hmiss
    · have hnoted := (FunctionServer.performed_of_perform hperform).noted
      exact .change rfl hsent hfresh hperform (List.append_cancel_left (hchanges.symm.trans hnoted))

/-- A function that is read is the stored one, if the path of the request names it. -/
theorem read_stored {request : Nat} {space name : String} {function : Function}
    {changes : List NotedChange}
    (h : traffic.Step ⟨request, .read space name (.ok (some function)), changes⟩ next)
    (haddressed : Function.Addressed space name) :
    traffic.server.stored.find? ⟨some space, name⟩ = some function ∧
      next.server = traffic.server ∧ changes = [] := by
  cases h with
  | read transport hserves _ hanswer hchanges =>
    obtain ⟨rfl, hstored⟩ := FunctionServer.ask_served hserves hanswer
    exact ⟨hstored function rfl haddressed, rfl, List.self_eq_append_right.1 hchanges⟩

/-- Every function keeps a version that the server gave. -/
theorem sound (h : traffic.Step event next) (hsound : traffic.server.Sound) :
    next.server.Sound := by
  obtain ⟨hserver⟩ | ⟨-, -, -, hperform⟩ := h.effect
  · rwa [hserver]
  · exact hsound.performed (FunctionServer.performed_of_perform hperform)

/-- A version that is outdated stays so. -/
theorem outdated {id : ObjectId} {version : String} (h : traffic.Step event next)
    (houtdated : traffic.server.Outdated id version) : next.server.Outdated id version := by
  obtain ⟨hserver⟩ | ⟨-, -, hfresh, hperform⟩ := h.effect
  · rwa [hserver]
  · exact houtdated.performed (FunctionServer.performed_of_perform hperform) hfresh

/-- A function that stands is left alone, or its version is outdated. -/
theorem standing {id : ObjectId} {function : Function} {version : String}
    (h : traffic.Step event next) (hfind : traffic.server.stored.find? id = some function)
    (hspent : version ∈ traffic.server.spent) :
    (next.server.stored.find? id = some function ∧ ¬ event.Changes id) ∨
      next.server.Outdated id version := by
  by_cases hchanges : event.Changes id
  · obtain ⟨noted, hnoted, rfl⟩ := hchanges
    obtain ⟨_, _, _, -, -, hfresh, hperform, -⟩ := h.effect.noted hnoted
    exact .inr ((FunctionServer.performed_of_perform hperform).outdates hfresh hspent)
  · refine .inl ⟨?_, hchanges⟩
    obtain ⟨hserver⟩ | ⟨-, -, -, hperform, hnoted⟩ := h.effect
    · rw [hserver, hfind]
    · rw [(FunctionServer.performed_of_perform hperform).others id, hfind]
      rintro rfl
      exact hchanges ⟨_, hnoted ▸ List.mem_cons_self, rfl⟩

end Step

/-! ## What a run does -/

namespace Run

/-- Every function keeps a version that the server gave. -/
theorem sound (h : Run start history traffic) (hsound : start.server.Sound) :
    traffic.server.Sound := by
  induction h with
  | start => exact hsound
  | step _ hstep ih => exact hstep.sound ih

/-- A request follows one of its courses. -/
theorem course (h : Run start history traffic) (request : Nat) :
    (start.handlings request).Course (callsOf request history) (traffic.handlings request) := by
  induction h with
  | start => exact .rest
  | step _ hstep ih =>
    rw [calls_of_append]
    exact ih.append (hstep.course request)

/-- Each call of a run has one of the effects. -/
theorem effect (h : Run start history traffic) :
    ∀ event ∈ history, ∃ server next, Effect server event next := by
  induction h with
  | start => exact List.forall_mem_nil _
  | step _ hstep ih =>
    exact List.forall_mem_append.2 ⟨ih, List.forall_mem_singleton.2 ⟨_, _, hstep.effect⟩⟩

/-- The answers tell how many changes were performed, and miss only what may be missed. -/
theorem told (h : Run start history traffic) (request : Nat) :
    ((callsOf request history).filterMap FunctionExchange.made?).length =
        (changesOf request history).length ∧
      ∀ exchange ∈ callsOf request history, exchange.Possible := by
  have hall (event : AdminEvent) (hevent : event ∈ history) :
      event.exchange.made?.toList.length = event.changes.length ∧ event.exchange.Possible := by
    obtain ⟨server, after, heffect⟩ := h.effect event hevent
    exact heffect.told
  constructor
  · rw [callsOf, changesOf, List.filterMap_map, List.filterMap_eq_flatMap_toList,
      List.length_flatMap, List.length_flatMap]
    exact congrArg List.sum (List.map_congr_left fun event hevent =>
      (hall event (List.mem_of_mem_filter hevent)).1)
  · intro exchange hexchange
    obtain ⟨event, hevent, rfl⟩ := List.mem_map.1 hexchange
    exact (hall event (List.mem_of_mem_filter hevent)).2

/-- A function that was read under a path which names it has a version. Either it still stands and
was left alone, or its version is outdated. -/
theorem standing (h : Run start history traffic) (hsound : start.server.Sound)
    {earlier between : List AdminEvent} {request : Nat} {space name : String} {function : Function}
    {changes : List NotedChange} (haddressed : Function.Addressed space name)
    (hhistory : history = earlier ++
      ⟨request, .read space name (.ok (some function)), changes⟩ :: between) :
    ∃ version, function.metadata.resourceVersion = some version ∧
      ((traffic.server.stored.find? ⟨some space, name⟩ = some function ∧
          ∀ event ∈ between, ¬ event.Changes ⟨some space, name⟩) ∨
        traffic.server.Outdated ⟨some space, name⟩ version) := by
  -- from the last call backwards to the one that read the function
  induction h generalizing between with
  | start => simp at hhistory
  | @step history traffic _ _ hrun hstep ih =>
    obtain rfl | ⟨between, last, rfl⟩ := List.eq_nil_or_concat' between
    · obtain ⟨rfl, hevent⟩ := List.append_inj' hhistory rfl
      obtain rfl := List.singleton_inj.1 hevent
      obtain ⟨hfind, hserver, -⟩ := hstep.read_stored haddressed
      obtain ⟨version, -, hversion⟩ := hrun.sound hsound _ _ hfind
      exact ⟨version, hversion, .inl ⟨hserver ▸ hfind, List.forall_mem_nil _⟩⟩
    · rw [← List.cons_append, ← List.append_assoc] at hhistory
      obtain ⟨hearlier, hlast⟩ := List.append_inj' hhistory rfl
      obtain rfl := List.singleton_inj.1 hlast
      obtain ⟨version, hversion, ⟨hfind, hbetween⟩ | houtdated⟩ := ih hearlier
      · obtain ⟨given, hspent, hgiven⟩ := hrun.sound hsound _ _ hfind
        obtain rfl : version = given := Option.some.inj (hversion.symm.trans hgiven)
        refine ⟨version, hversion, (hstep.standing hfind hspent).imp_left ?_⟩
        rintro ⟨hstands, hleft⟩
        exact ⟨hstands, List.forall_mem_append.2 ⟨hbetween, List.forall_mem_singleton.2 hleft⟩⟩
      · exact ⟨version, hversion, .inr (hstep.outdated houtdated)⟩

end Run

end AdminTraffic

end FunctionOperator
