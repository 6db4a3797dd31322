import FunctionOperator.Client.Functions
import FunctionOperator.Proofs.Admin.Courses

/-!
# What the answers to changes mean

How a client of the API for functions runs its calls and reads refusals. Read `receive_of_refuses`
first: a refused change is a failure, or the answer that there is no function to change.
-/

namespace FunctionOperator

namespace Reply

variable {α : Type} {reply : Reply}

/-- A refusal is read as one. -/
theorem decode_of_refuses (h : reply.refuses = true) (read : Draft → Except Cause α) :
    reply.decode read = .error (.refused reply.refusal) := if_pos h

end Reply

namespace ApiCall

variable {α : Type}

/-- A call is not sent, or fails on its way, or a reply to its request is read. -/
theorem run_cases {σ : Type} {call : ApiCall α} {transport : Transport σ} {state next : σ}
    {answer : Except ApiFailure α} (h : call.run transport state = (answer, next)) :
    (answer = .error .unbuildable ∧ next = state) ∨
    ∃ request, call.request = some request ∧
      ((∃ failure, transport request state = (.error failure, next) ∧ answer = .error failure) ∨
        ∃ reply, transport request state = (.ok reply, next) ∧ answer = call.receive reply) := by
  unfold run at h
  split at h
  · cases h
    exact .inl ⟨rfl, rfl⟩
  · next request hrequest =>
    refine .inr ⟨request, hrequest, ?_⟩
    split at h
    · next hsent =>
      cases h
      exact .inl ⟨_, hsent, rfl⟩
    · next hsent =>
      cases h
      exact .inr ⟨_, hsent, rfl⟩

/-- A refused call fails, or tells that there is no object. -/
theorem found_of_refused {call : ApiCall α} {reply : Reply} {refusal : Refusal}
    (h : call.receive reply = .error (.refused refusal)) :
    (∃ failure, call.found.receive reply = .error failure) ∨
      call.found.receive reply = .ok false := by
  simp only [ApiCall.found, h]
  split
  · exact .inr rfl
  · exact .inl ⟨_, rfl⟩

end ApiCall

namespace FunctionApi

variable {σ : Type} {transport : Transport σ} {state next : σ}

/-- What a client that asks for a function sees is what its call gives. -/
theorem run_of_read {space name : String} {answer : Except ApiFailure (Option Function)}
    (h : (FunctionApi.over transport).read space name state = (some answer, next)) :
    (Function.collection.get space name).run transport state = (answer, next) := by
  obtain ⟨hanswer, hnext⟩ := Prod.ext_iff.1 h
  exact Prod.ext (Option.some.inj hanswer) hnext

/-- What a client that asks for a change sees is what its call gives. -/
theorem run_of_write {change : FunctionWrite} {answer : Except ApiFailure Bool}
    (h : (FunctionApi.over transport).write change state = (some answer, next)) :
    change.apiCall.run transport state = (answer, next) := by
  obtain ⟨hanswer, hnext⟩ := Prod.ext_iff.1 h
  exact Prod.ext (Option.some.inj hanswer) hnext

end FunctionApi

namespace FunctionWrite

variable {reply : Reply}

/-- A refused change fails, or is answered by that there is no function to change. -/
theorem receive_of_refuses (change : FunctionWrite) (h : reply.refuses = true) :
    (∃ failure, change.apiCall.receive reply = .error failure) ∨
      change.apiCall.receive reply = .ok false ∧ change.mayMiss = true := by
  cases change with
  | create space function =>
    refine .inl ⟨.refused reply.refusal, ?_⟩
    simp [apiCall, ApiCall.map, Collection.create, Reply.decode_of_refuses h, Except.map]
  | replace space function =>
    refine .inl ⟨.refused reply.refusal, ?_⟩
    simp [apiCall, ApiCall.map, Collection.replace, Reply.decode_of_refuses h, Except.map]
  | delete space name =>
    have hrefused : (Function.collection.delete space name).receive reply =
        .error (.refused reply.refusal) := if_pos h
    exact (ApiCall.found_of_refused hrefused).imp_right fun hfound => ⟨hfound, rfl⟩
  | scale space name replicas =>
    have hrefused : (Function.collection.merge space name
        (Function.scalePatch replicas)).receive reply = .error (.refused reply.refusal) :=
      Reply.decode_of_refuses h _
    exact (ApiCall.found_of_refused hrefused).imp_right fun hfound => ⟨hfound, rfl⟩

end FunctionWrite

end FunctionOperator
