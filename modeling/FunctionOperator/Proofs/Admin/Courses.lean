import FunctionOperator.Admin.Server
import Mathlib.Data.List.Basic

/-!
# The courses of an admin request

What the handling of a request may do, whatever the API answers. Read `Handling.Course` first: a
course is a path through the tree of a handling, with the calls on it and what is left at its end.
`run_noting` shows that every run against an API takes such a course. `AdminServer.plan` then says
once what a request comes down to, from which its courses follow: it asks for nothing, or for one
change, or for a function and then for one change.
-/

namespace FunctionOperator

/-- A call for a request, with its answer. -/
inductive FunctionExchange where
  /-- A stored function was asked for. -/
  | read (space name : String) (answer : Except ApiFailure (Option Function))
  /-- A change was asked for. -/
  | write (change : FunctionWrite) (answer : Except ApiFailure Bool)

/-- Whether the answer to a change may be that there is no function to change. -/
def FunctionWrite.mayMiss : FunctionWrite → Bool
  | .create .. => false
  | .replace .. => false
  | .delete .. => true
  | .scale .. => true

namespace FunctionExchange

/-- The change that was made, as far as the answer tells. -/
def made? : FunctionExchange → Option FunctionWrite
  | write change (.ok true) => some change
  | _ => none

/-- An answer that a call may get: only some changes miss their function. -/
def Possible (exchange : FunctionExchange) : Prop :=
  ∀ change, exchange = write change (.ok false) → change.mayMiss = true

end FunctionExchange

namespace Handling

/-- The courses of a handling, each with its calls in their order and what is left to be done. -/
inductive Course : Handling → List FunctionExchange → Handling → Prop where
  /-- Nothing happens. -/
  | rest {handling} : Course handling [] handling
  /-- A function is asked for, and the answer decides how the handling goes on. -/
  | reading {space name resume exchanges last} (answer)
      (hresume : Course (resume answer) exchanges last) :
    Course (.reading space name resume) (.read space name answer :: exchanges) last
  /-- A change is asked for, and the answer decides how the handling goes on. -/
  | writing {write resume exchanges last} (answer)
      (hresume : Course (resume answer) exchanges last) :
    Course (.writing write resume) (.write write answer :: exchanges) last

/-- An API that answers as another one does and notes the calls that are answered. -/
def noting {σ : Type} (api : FunctionApi σ) : FunctionApi (List FunctionExchange × σ) where
  read space name state :=
    let (answer, next) := api.read space name state.2
    (answer, state.1 ++ (answer.map (.read space name)).toList, next)
  write change state :=
    let (answer, next) := api.write change state.2
    (answer, state.1 ++ (answer.map (.write change)).toList, next)

/-- A run takes one of the courses to its end, and notes the calls on it, unless a call is not
answered. -/
theorem run_noting {σ : Type} (api : FunctionApi σ) (handling : Handling)
    (noted : List FunctionExchange) (state : σ) :
    ∃ exchanges, handling.run (noting api) (noted, state) =
        ((handling.run api state).1, noted ++ exchanges, (handling.run api state).2) ∧
      (handling.Course exchanges (.answered (handling.run api state).1) ∨
        (handling.run api state).1 = .late) := by
  -- along the handling, whatever was noted before and whatever state the API is in
  induction handling generalizing noted state with
  | answered response => exact ⟨[], by simp [run], .inl .rest⟩
  | reading space name resume ih =>
    cases hread : api.read space name state with
    | mk answer next =>
      cases answer with
      | none => exact ⟨[], by simp [run, noting, hread], .inr (by simp [run, hread])⟩
      | some answer =>
        obtain ⟨exchanges, hrun, hcourse⟩ := ih answer (noted ++ [.read space name answer]) next
        refine ⟨.read space name answer :: exchanges, ?_, ?_⟩
        · simpa [run, noting, hread] using hrun
        · simpa only [run, hread] using hcourse.imp_left (.reading answer)
  | writing write resume ih =>
    cases hwrite : api.write write state with
    | mk answer next =>
      cases answer with
      | none => exact ⟨[], by simp [run, noting, hwrite], .inr (by simp [run, hwrite])⟩
      | some answer =>
        obtain ⟨exchanges, hrun, hcourse⟩ := ih answer (noted ++ [.write write answer]) next
        refine ⟨.write write answer :: exchanges, ?_, ?_⟩
        · simpa [run, noting, hwrite] using hrun
        · simpa only [run, hwrite] using hcourse.imp_left (.writing answer)

variable {exchanges : List FunctionExchange} {last : Handling}

/-- A course goes on from where another one ends. -/
theorem Course.append {handling next : Handling} {later : List FunctionExchange}
    (h : handling.Course exchanges next) (hlater : next.Course later last) :
    handling.Course (exchanges ++ later) last := by
  induction h with
  | rest => exact hlater
  | reading answer _ ih => exact .reading answer (ih hlater)
  | writing answer _ ih => exact .writing answer (ih hlater)

/-- A request that is answered stays so. -/
theorem answered_course {response : Response}
    (h : (Handling.answered response).Course exchanges last) :
    exchanges = [] ∧ last = .answered response := by
  cases h
  exact ⟨rfl, rfl⟩

/-- A change that is attempted is still to be asked for, or failed, or its answer decided. -/
theorem attempt_course {write : FunctionWrite} {rest : Bool → Response}
    (h : (attempt write rest).Course exchanges last) :
    (exchanges = [] ∧ last = attempt write rest) ∨
    (∃ failure, exchanges = [.write write (.error failure)] ∧
      last = .answered (.ofFailure failure)) ∨
    ∃ found, exchanges = [.write write (.ok found)] ∧ last = .answered (rest found) := by
  cases h with
  | rest => exact .inl ⟨rfl, rfl⟩
  | writing answer hresume =>
    cases answer with
    | error failure =>
      obtain ⟨rfl, rfl⟩ := answered_course hresume
      exact .inr (.inl ⟨failure, rfl, rfl⟩)
    | ok found =>
      obtain ⟨rfl, rfl⟩ := answered_course hresume
      exact .inr (.inr ⟨found, rfl, rfl⟩)

/-- Nothing but the change itself is asked for. -/
theorem attempt_exchange {write : FunctionWrite} {rest : Bool → Response}
    {exchange : FunctionExchange} (h : (attempt write rest).Course exchanges last)
    (hmem : exchange ∈ exchanges) :
    ∃ answer, exchange = .write write answer ∧ exchanges = [.write write answer] := by
  obtain ⟨rfl, -⟩ | ⟨failure, rfl, -⟩ | ⟨found, rfl, -⟩ := attempt_course h
  · cases hmem
  · exact ⟨_, List.mem_singleton.1 hmem, rfl⟩
  · exact ⟨_, List.mem_singleton.1 hmem, rfl⟩

end Handling

/-! ## What a request comes down to -/

/-- The function that is written in the place of a stored one: nothing of the stored one is in it
but its version. -/
def DeploymentRequest.replacement (deployment : DeploymentRequest) (space : String)
    (stored : Function) : Function where
  metadata := { (deployment.toFunction space).metadata with
    resourceVersion := stored.metadata.resourceVersion }
  spec := (deployment.toFunction space).spec

namespace AdminServer

/-- What a request comes down to. -/
inductive Plan (admin : AdminServer) (request : AdminRequest) : Handling → Prop where
  /-- It is answered at once, and nothing is accepted. -/
  | answer {response} (h : response.status ≠ 202) : Plan admin request (.answered response)
  /-- One change is asked for, and accepted if there is a function to change. -/
  | change {write} (name) (h : write.mayMiss = true) :
    Plan admin request (.attempt write (changed name))
  /-- A function is asked for, and created or replaced. -/
  | deploy {deployment resume}
      (hbody : request.jsonBody DeploymentRequest.codec = .ok deployment)
      (hfailed : ∀ failure, resume (.error failure) = .answered (.ofFailure failure))
      (hmissing : resume (.ok none) =
        .attempt (.create admin.space (deployment.toFunction admin.space)) fun _ => .accepted)
      (hstored : ∀ stored, resume (.ok (some stored)) =
        .attempt (.replace admin.space (deployment.replacement admin.space stored))
          fun _ => .accepted) :
    Plan admin request (.reading admin.space deployment.service resume)

variable {admin : AdminServer} {request : AdminRequest} {handling : Handling}

/-- What cannot be had is told, and otherwise the rest decides. -/
theorem handle_plan {α : Type} {extracted : Extracted α} {rest : α → Handling}
    (hrefused : ∀ response, extracted = .error response → response.status ≠ 202)
    (hrest : ∀ value, extracted = .ok value → admin.Plan request (rest value)) :
    admin.Plan request (extracted.handle rest) := by
  cases hextracted : extracted with
  | error response => exact .answer (hrefused response hextracted)
  | ok value => exact hrest value hextracted

/-- A body that cannot be had is not accepted. -/
theorem json_body_status {α : Type} (codec : Codec α) (response : Response)
    (h : request.jsonBody codec = .error response) : response.status ≠ 202 := by
  unfold AdminRequest.jsonBody at h
  split at h
  · split at h
    · cases h
      decide
    · split at h <;> cases h <;> exact (by decide)
  · cases h
    decide

/-- A name that cannot be had is not accepted. -/
theorem path_name_status {encoded : String} (response : Response)
    (h : pathName encoded = .error response) : response.status ≠ 202 := by
  unfold pathName at h
  split at h <;> cases h
  exact (by decide)

/-- Reading is not accepting. -/
theorem read_status (admin : AdminServer) (route : Route) : (admin.read route).status ≠ 202 := by
  unfold read
  split
  · exact (by decide : (200 : Nat) ≠ 202)
  · split
    · exact path_name_status _ ‹_›
    · split <;> exact nofun
  all_goals exact nofun

theorem apply_plan (deployment : DeploymentRequest)
    (hbody : request.jsonBody DeploymentRequest.codec = .ok deployment) :
    admin.Plan request (admin.apply deployment) := by
  unfold apply
  split
  · exact .answer nofun
  · split
    · exact .answer nofun
    · exact .deploy hbody (fun _ => rfl) rfl (fun _ => rfl)

theorem delete_plan (deletion : DeletionRequest) : admin.Plan request (admin.delete deletion) := by
  unfold delete
  simp only
  split
  · exact .answer nofun
  · exact .change _ rfl

theorem scale_plan (name : String) (scaling : ScaleRequest) :
    admin.Plan request (admin.scale name scaling) := by
  unfold scale
  split
  · exact .answer nofun
  · exact .change _ rfl

/-- Every request has a plan. -/
theorem plan (admin : AdminServer) (request : AdminRequest) :
    admin.Plan request (admin.handle request) := by
  unfold handle
  split
  · exact .answer nofun
  · split
    · unfold handleRoute
      split
      · refine handle_plan path_name_status fun name _ => ?_
        exact handle_plan (json_body_status _) fun scaling _ => scale_plan name scaling
      · exact handle_plan (json_body_status _) apply_plan
      · exact handle_plan (json_body_status _) apply_plan
      · exact handle_plan (json_body_status _) fun deletion _ => delete_plan deletion
      · exact .answer (read_status admin _)
      · exact .answer (read_status admin _)
    · exact .answer nofun

/-- The courses of a deployment: nothing has happened, or the function cannot be read, or it is
created, or the stored one is replaced. -/
inductive Deployed (admin : AdminServer) (deployment : DeploymentRequest) :
    List FunctionExchange → Handling → Prop where
  /-- Nothing has happened. -/
  | waiting {resume} :
    Deployed admin deployment [] (.reading admin.space deployment.service resume)
  /-- The function cannot be read. -/
  | unread (failure) : Deployed admin deployment
      [.read admin.space deployment.service (.error failure)] (.answered (.ofFailure failure))
  /-- There is no function. -/
  | missing {later last}
      (h : (Handling.attempt (.create admin.space (deployment.toFunction admin.space))
        fun _ => .accepted).Course later last) :
    Deployed admin deployment (.read admin.space deployment.service (.ok none) :: later) last
  /-- There is one. -/
  | stored (stored) {later last}
      (h : (Handling.attempt (.replace admin.space (deployment.replacement admin.space stored))
        fun _ => .accepted).Course later last) :
    Deployed admin deployment (.read admin.space deployment.service (.ok (some stored)) :: later)
      last

variable {exchanges : List FunctionExchange} {last : Handling} {response : Response}

/-- A request has no calls to make, or asks for one change, or is a deployment. -/
theorem Plan.course_cases (hplan : admin.Plan request handling)
    (h : handling.Course exchanges last) :
    (exchanges = [] ∧ ∃ response : Response, response.status ≠ 202 ∧ last = .answered response) ∨
    (∃ write name, write.mayMiss = true ∧
      (Handling.attempt write (changed name)).Course exchanges last) ∨
    ∃ deployment, request.jsonBody DeploymentRequest.codec = .ok deployment ∧
      admin.Deployed deployment exchanges last := by
  cases hplan with
  | answer hstatus =>
    obtain ⟨rfl, rfl⟩ := Handling.answered_course h
    exact .inl ⟨rfl, _, hstatus, rfl⟩
  | change name hmiss => exact .inr (.inl ⟨_, name, hmiss, h⟩)
  | deploy hbody hfailed hmissing hstored =>
    refine .inr (.inr ⟨_, hbody, ?_⟩)
    cases h with
    | rest => exact .waiting
    | reading answer hresume =>
      match answer with
      | .error failure =>
        rw [hfailed] at hresume
        obtain ⟨rfl, rfl⟩ := Handling.answered_course hresume
        exact .unread failure
      | .ok none => exact .missing (hmissing ▸ hresume)
      | .ok (some stored) => exact .stored stored (hstored stored ▸ hresume)

/-! ## What the answer tells -/

/-- Whether a change was made can be seen from the answer that it leads to. -/
theorem attempt_made {write : FunctionWrite} {rest : Bool → Response}
    (hrest : ∀ found, (found = false → write.mayMiss = true) →
      ((rest found).status = 202 ↔ found = true))
    (h : (Handling.attempt write rest).Course exchanges (.answered response))
    (hpossible : ∀ exchange ∈ exchanges, exchange.Possible) :
    (exchanges.filterMap FunctionExchange.made?).length =
      if response.status = 202 then 1 else 0 := by
  obtain ⟨-, hlast⟩ | ⟨failure, rfl, hlast⟩ | ⟨found, rfl, hlast⟩ := Handling.attempt_course h
  · cases hlast
  · cases hlast
    simp [FunctionExchange.made?, Response.ofFailure, Response.text]
  · cases hlast
    have hstatus := hrest found fun hfound =>
      hpossible _ List.mem_cons_self write (by rw [hfound])
    cases found <;> simp [FunctionExchange.made?, hstatus]

/-- A change that never misses is made if it is accepted. -/
theorem attempt_accepted_made {write : FunctionWrite} (hnever : write.mayMiss = false)
    (h : (Handling.attempt write fun _ => .accepted).Course exchanges (.answered response))
    (hpossible : ∀ exchange ∈ exchanges, exchange.Possible) :
    (exchanges.filterMap FunctionExchange.made?).length =
      if response.status = 202 then 1 else 0 := by
  refine attempt_made (fun found hfound => ?_) h hpossible
  cases found with
  | true => exact ⟨fun _ => rfl, fun _ => rfl⟩
  | false => exact nomatch hnever.symm.trans (hfound rfl)

/-- A request that is answered has made exactly one change if it was accepted, and otherwise
none. -/
theorem Plan.made (hplan : admin.Plan request handling)
    (h : handling.Course exchanges (.answered response))
    (hpossible : ∀ exchange ∈ exchanges, exchange.Possible) :
    (exchanges.filterMap FunctionExchange.made?).length =
      if response.status = 202 then 1 else 0 := by
  obtain ⟨rfl, _, hstatus, hlast⟩ | ⟨write, name, -, hchange⟩ | ⟨deployment, -, hdeployed⟩ :=
    hplan.course_cases h
  · cases hlast
    rw [if_neg hstatus]
    rfl
  · refine attempt_made (fun found _ => ?_) hchange hpossible
    cases found <;> simp [changed, notFound, Response.text, Response.accepted]
  · cases hdeployed with
    | unread failure => rfl
    | missing hcreate =>
      rw [List.filterMap_cons_none rfl]
      exact attempt_accepted_made rfl hcreate (List.forall_mem_cons.1 hpossible).2
    | stored stored hreplace =>
      rw [List.filterMap_cons_none rfl]
      exact attempt_accepted_made rfl hreplace (List.forall_mem_cons.1 hpossible).2

/-- A function is replaced only by a request that has read it right before, and by what the request
asks for with the version that was read. -/
theorem Plan.replaced (hplan : admin.Plan request handling) (h : handling.Course exchanges last)
    {space : String} {function : Function} {answer : Except ApiFailure Bool}
    (hmem : .write (.replace space function) answer ∈ exchanges) :
    ∃ deployment stored, request.jsonBody DeploymentRequest.codec = .ok deployment ∧
      space = admin.space ∧ function = deployment.replacement admin.space stored ∧
      exchanges = [.read admin.space deployment.service (.ok (some stored)),
        .write (.replace space function) answer] := by
  obtain ⟨rfl, -⟩ | ⟨write, name, hmiss, hchange⟩ | ⟨deployment, hbody, hdeployed⟩ :=
    hplan.course_cases h
  · cases hmem
  · obtain ⟨answer, hwrite, -⟩ := Handling.attempt_exchange hchange hmem
    cases hwrite
    cases hmiss
  · cases hdeployed with
    | waiting => cases hmem
    | unread failure => cases List.mem_singleton.1 hmem
    | missing hcreate =>
      obtain ⟨_, hwrite, -⟩ :=
        Handling.attempt_exchange hcreate ((List.mem_cons.1 hmem).resolve_left nofun)
      cases hwrite
    | stored stored hreplace =>
      obtain ⟨_, hwrite, rfl⟩ :=
        Handling.attempt_exchange hreplace ((List.mem_cons.1 hmem).resolve_left nofun)
      cases hwrite
      exact ⟨deployment, stored, hbody, rfl, rfl, rfl⟩

/-- A request that has read a function and is accepted has replaced it by what it asks for with the
version that was read. -/
theorem Plan.replaces (hplan : admin.Plan request handling)
    (h : handling.Course exchanges (.answered response)) (haccepted : response.status = 202)
    {space name : String} {stored : Function}
    (hmem : .read space name (.ok (some stored)) ∈ exchanges) :
    ∃ deployment found, request.jsonBody DeploymentRequest.codec = .ok deployment ∧
      exchanges = [.read admin.space deployment.service (.ok (some stored)),
        .write (.replace admin.space (deployment.replacement admin.space stored)) (.ok found)] := by
  obtain ⟨rfl, -⟩ | ⟨write, _, -, hchange⟩ | ⟨deployment, hbody, hdeployed⟩ := hplan.course_cases h
  · cases hmem
  · obtain ⟨answer, hwrite, -⟩ := Handling.attempt_exchange hchange hmem
    cases hwrite
  · cases hdeployed with
    | unread failure => cases List.mem_singleton.1 hmem
    | missing hcreate =>
      obtain ⟨_, hwrite, -⟩ :=
        Handling.attempt_exchange hcreate ((List.mem_cons.1 hmem).resolve_left nofun)
      cases hwrite
    | stored read hreplace =>
      obtain hread | hlater := List.mem_cons.1 hmem
      · cases hread
        obtain ⟨-, hlast⟩ | ⟨failure, -, hlast⟩ | ⟨found, rfl, -⟩ :=
          Handling.attempt_course hreplace
        · cases hlast
        · cases hlast
          cases haccepted
        · exact ⟨deployment, found, hbody, rfl⟩
      · obtain ⟨_, hwrite, -⟩ := Handling.attempt_exchange hreplace hlater
        cases hwrite

end AdminServer

/-! ## A deployment -/

/-- An admin server for the namespace `web`. -/
def webAdmin : AdminServer := ⟨"web", .empty, .empty, {}⟩

/-- A wish for a new image. -/
def echoDeployment : DeploymentRequest := { service := "echo", image := "echo:2" }

/-- A request with the wish. -/
def echoRequest : AdminRequest where
  method := "PUT"
  path := "/system/functions"
  contentType := some "application/json"
  body := "\x7b\"service\":\"echo\",\"image\":\"echo:2\"\x7d"

/-- The request asks for the function and replaces what it finds. -/
theorem echo_request_handling : ∃ resume,
    webAdmin.handle echoRequest = .reading "web" "echo" resume ∧
    ∀ stored, resume (.ok (some stored)) =
      .attempt (.replace "web" (echoDeployment.replacement "web" stored)) fun _ => .accepted := by
  have hroute : Route.ofPath? echoRequest.path = some .functions := by decide
  have hbody : echoRequest.jsonBody DeploymentRequest.codec = .ok echoDeployment := by
    decide +kernel
  have hhandle : webAdmin.handle echoRequest = webAdmin.apply echoDeployment := by
    unfold AdminServer.handle
    rw [hroute]
    show (echoRequest.jsonBody DeploymentRequest.codec).handle webAdmin.apply = _
    rw [hbody]
    rfl
  rw [hhandle]
  exact ⟨_, rfl, fun _ => rfl⟩

end FunctionOperator
