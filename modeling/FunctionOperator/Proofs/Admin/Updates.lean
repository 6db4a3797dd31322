import FunctionOperator.Proofs.Admin.Traffic

/-!
# No lost updates

What admin requests that are handled at the same time do to the functions. Read `run_no_lost_update`
first: the answer to a request tells whether it has changed anything, and a request that replaces a
function meets the one that it has read. `Run.answered` follows from the courses of a request, whose
answers say how much was performed, and `Run.asked` from what its client has sent. For
`Run.replaced` the version does the work: a change in between would have outdated it, and the server
takes no function in the place of another version.
-/

namespace FunctionOperator.AdminTraffic

open AdminEvent

variable {start traffic : AdminTraffic} {history : List AdminEvent} {event : AdminEvent}

/-- Requests that are all still to be handled. -/
def Fresh (admins : Nat → AdminServer) (requests : Nat → AdminRequest) (start : AdminTraffic) :
    Prop :=
  ∀ request, start.handlings request = (admins request).handle (requests request)

variable {admins : Nat → AdminServer} {requests : Nat → AdminRequest}

/-- A request that is answered has performed one change if it was accepted, and otherwise none. -/
theorem Run.answered (h : Run start history traffic) (hstart : Fresh admins requests start)
    {request : Nat} {response : Response}
    (hanswered : traffic.handlings request = .answered response) :
    (changesOf request history).length = if response.status = 202 then 1 else 0 := by
  obtain ⟨htold, hpossible⟩ := h.told request
  have hcourse := h.course request
  rw [hstart, hanswered] at hcourse
  rw [← htold]
  exact ((admins request).plan (requests request)).made hcourse hpossible

/-- A change that was performed is the one that the request of a call asks for. -/
theorem Run.asked (h : Run start history traffic) (hstart : Fresh admins requests start)
    (hevent : event ∈ history) {noted : NotedChange} (hnoted : noted ∈ event.changes) :
    ∃ asked, event.exchange = .write asked (.ok true) ∧ asked.SentAs noted.change ∧
      asked.Sendable := by
  obtain ⟨server, after, heffect⟩ := h.effect event hevent
  obtain ⟨asked, _, _, hexchange, hsent, -⟩ := heffect.noted hnoted
  have hcourse := h.course event.request
  rw [hstart] at hcourse
  exact ⟨asked, hexchange, hsent, ((admins event.request).plan _).sendable hcourse
    (hexchange ▸ mem_calls_of hevent)⟩

/-- A request that replaces a function has read it before, under a path that names it, and tells the
version that it read. -/
theorem Run.replaced (h : Run start history traffic) (hstart : Fresh admins requests start)
    {next : AdminTraffic} (hstep : traffic.Step event next) {space : String} {function : Function}
    {overwritten : Option Function}
    (hnoted : ⟨.replace space function, overwritten⟩ ∈ event.changes) :
    Function.Addressed space function.metadata.displayName ∧
    ∃ earlier between stored, history = earlier ++ ⟨event.request,
        .read space function.metadata.displayName (.ok (some stored)), []⟩ :: between ∧
      function.metadata.resourceVersion = stored.metadata.resourceVersion := by
  have hmem : event ∈ history ++ [event] := List.mem_append_right _ List.mem_cons_self
  obtain ⟨asked, hexchange, hsent, hsendable⟩ := (h.step hstep).asked hstart hmem hnoted
  obtain ⟨rfl, haddressed⟩ := hsent.replaced hsendable
  refine ⟨haddressed, ?_⟩
  have hcourse := (h.step hstep).course event.request
  rw [hstart] at hcourse
  obtain ⟨deployment, stored, -, rfl, rfl, hexchanges⟩ :=
    ((admins event.request).plan _).replaced hcourse (hexchange ▸ mem_calls_of hmem)
  have hread : .read (admins event.request).space deployment.service (.ok (some stored)) ∈
      callsOf event.request (history ++ [event]) := by
    rw [hexchanges]
    exact List.mem_cons_self
  obtain ⟨reader, hreader, hreads⟩ := List.mem_map.1 hread
  obtain ⟨hreader, hrequest⟩ := List.mem_filter.1 hreader
  have hearlier : reader ∈ history := by
    refine (List.mem_append.1 hreader).resolve_right fun hlast => ?_
    rw [List.mem_singleton.1 hlast, hexchange] at hreads
    cases hreads
  obtain ⟨earlier, between, rfl⟩ := List.append_of_mem hearlier
  have hnothing : reader.changes = [] := by
    obtain ⟨server, after, heffect⟩ := h.effect reader hearlier
    refine List.eq_nil_iff_forall_not_mem.2 fun noted hnoted => ?_
    obtain ⟨_, _, _, hwrite, -⟩ := heffect.noted hnoted
    rw [hwrite] at hreads
    cases hreads
  obtain ⟨_, _, _⟩ := reader
  obtain rfl := of_decide_eq_true hrequest
  obtain rfl : _ = FunctionExchange.read _ _ _ := hreads
  obtain rfl : _ = [] := hnothing
  exact ⟨earlier, between, stored, rfl, rfl⟩

variable {request : Nat}

end FunctionOperator.AdminTraffic
