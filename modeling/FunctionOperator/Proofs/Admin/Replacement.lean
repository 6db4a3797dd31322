import FunctionOperator.Admin.FunctionShelf
import FunctionOperator.Proofs.Admin.Courses

/-!
# What a deployment leaves of a stored function

Read `run_replaces_whole` first: a deployment of a function that is already there replaces the whole
object, and takes nothing but the version from the stored one. Labels, annotations, finalizers and
owners that clients gave to the stored function are lost, as `echo_loses_notes` shows.
-/

namespace FunctionOperator

/-- What clients note in the metadata of an object is the same: no labels are as good as none. -/
structure Metadata.SameNotes (first second : Metadata) : Prop where
  /-- The labels. -/
  labels : first.labels.getD ∅ = second.labels.getD ∅
  /-- The annotations. -/
  annotations : first.annotations.getD ∅ = second.annotations.getD ∅
  /-- The finalizers. -/
  finalizers : first.finalizers.getD [] = second.finalizers.getD []
  /-- The owners. -/
  owners : first.owners = second.owners

/-- Whatever the API answers: a request that has read a function and is answered with 202 has
replaced it, by the spec that it asks for under its name, in the namespace of the admin server and
with the version that was read. What clients have noted in the metadata of the stored function is
kept only if it is what blank metadata have. -/
theorem run_replaces_whole {σ : Type} (api : FunctionApi σ) (admin : AdminServer)
    (request : AdminRequest) (state : σ) {response : Response}
    {exchanges : List FunctionExchange} {next : σ}
    (hrun : (admin.handle request).run (Handling.noting api) ([], state) =
      (response, exchanges, next))
    (haccepted : response.status = 202) {space name : String} {stored : Function}
    (hread : .read space name (.ok (some stored)) ∈ exchanges) :
    ∃ deployment written found, request.jsonBody DeploymentRequest.codec = .ok deployment ∧
      exchanges = [.read admin.space deployment.service (.ok (some stored)),
        .write (.replace admin.space written) (.ok found)] ∧
      written.spec = (deployment.toFunction admin.space).spec ∧
      written.metadata = {
        name := some deployment.service
        space := some admin.space
        resourceVersion := stored.metadata.resourceVersion } ∧
      (written.metadata.SameNotes stored.metadata ↔ Metadata.SameNotes {} stored.metadata) := by
  obtain ⟨calls, hcalls, hcourse⟩ := Handling.run_noting api (admin.handle request) [] state
  obtain ⟨rfl, rfl, -⟩ : (_ = response) ∧ calls = exchanges ∧ _ := by
    simpa only [Prod.mk.injEq, List.nil_append] using hcalls.symm.trans hrun
  replace hcourse := hcourse.resolve_right fun hlate => by
    rw [hlate] at haccepted
    cases haccepted
  obtain ⟨deployment, found, hbody, hexchanges⟩ :=
    (admin.plan request).replaces hcourse haccepted hread
  refine ⟨deployment, _, found, hbody, hexchanges, rfl, rfl, ?_⟩
  exact ⟨fun h => ⟨h.labels, h.annotations, h.finalizers, h.owners⟩,
    fun h => ⟨h.labels, h.annotations, h.finalizers, h.owners⟩⟩

/-- A function with a label. -/
def labelledEcho : Function where
  metadata := { name := some "echo", space := some "web", resourceVersion := some "7",
                labels := some (SortedMap.ofList [("team", "web")]) }
  spec := { name := "echo", image := "echo:1" }

/-- An API that stores this function. -/
def labelledShelf : FunctionShelf := { stored := SortedMap.ofList [("web/echo", labelledEcho)] }

/-- A deployment replaces it. -/
theorem echo_request_run : ∃ exchanges next,
    (webAdmin.handle echoRequest).run (Handling.noting FunctionShelf.api) ([], labelledShelf) =
      (.accepted, exchanges, next) ∧
    .read "web" "echo" (.ok (some labelledEcho)) ∈ exchanges ∧
    .write (.replace "web" (echoDeployment.replacement "web" labelledEcho)) (.ok true) ∈
      exchanges := by
  obtain ⟨resume, hhandle, hresume⟩ := echo_request_handling
  have hread : (Handling.noting FunctionShelf.api).read "web" "echo" ([], labelledShelf) =
      (some (.ok (some labelledEcho)), [.read "web" "echo" (.ok (some labelledEcho))],
        { labelledShelf with calls := [⟨.get, "web", "echo"⟩] }) := rfl
  rw [hhandle]
  simp only [Handling.run, hread, hresume]
  exact ⟨_, _, rfl, List.mem_cons_self, List.mem_cons_of_mem _ List.mem_cons_self⟩

/-- The label is a note that blank metadata do not have. -/
theorem labelled_echo_noted : ¬ Metadata.SameNotes {} labelledEcho.metadata := fun h =>
  absurd h.labels (by decide)

/-- The labelled function is replaced by one without its label. -/
theorem run_replaces_whole_labelled : ∃ exchanges next written found,
    (webAdmin.handle echoRequest).run (Handling.noting FunctionShelf.api) ([], labelledShelf) =
      (.accepted, exchanges, next) ∧
    .write (.replace "web" written) (.ok found) ∈ exchanges ∧
    written.metadata.resourceVersion = some "7" ∧
    ¬ written.metadata.SameNotes labelledEcho.metadata := by
  obtain ⟨exchanges, next, hrun, hread, -⟩ := echo_request_run
  obtain ⟨deployment, written, found, -, hexchanges, -, hmetadata, hnotes⟩ :=
    run_replaces_whole FunctionShelf.api webAdmin echoRequest labelledShelf hrun rfl hread
  refine ⟨exchanges, next, written, found, hrun, ?_, by rw [hmetadata]; rfl, ?_⟩
  · rw [hexchanges]
    exact List.mem_cons_of_mem _ List.mem_cons_self
  · exact fun h => labelled_echo_noted (hnotes.1 h)

/-- It is not so that a deployment which is accepted keeps what clients have noted in the metadata
of the stored function. -/
theorem echo_loses_notes :
    ¬ ∀ (admin : AdminServer) (request : AdminRequest) (shelf next : FunctionShelf)
      (response : Response) (exchanges : List FunctionExchange) (space name : String)
      (stored written : Function) (found : Bool),
      (admin.handle request).run (Handling.noting FunctionShelf.api) ([], shelf) =
        (response, exchanges, next) →
      response.status = 202 → .read space name (.ok (some stored)) ∈ exchanges →
      .write (.replace space written) (.ok found) ∈ exchanges →
      written.metadata.SameNotes stored.metadata := by
  intro h
  obtain ⟨exchanges, next, hrun, hread, hwrite⟩ := echo_request_run
  have hnotes := h _ _ _ _ _ _ _ _ _ _ _ hrun rfl hread hwrite
  exact labelled_echo_noted ⟨hnotes.labels, hnotes.annotations, hnotes.finalizers, hnotes.owners⟩

end FunctionOperator
