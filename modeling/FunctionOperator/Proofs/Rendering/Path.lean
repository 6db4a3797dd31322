import FunctionOperator.Proofs.Rendering.Annotations
import FunctionOperator.Proofs.Text.Cuts

/-!
# The path of a route

Which path an ingress routes to its service. Read `FunctionIngressSpec.AsksPath` and
`FunctionIngressSpec.Routes` first, which say without a look at the rendering what path a spec asks
for and what becomes of it: most classes take it as it is, and the class `traefik`, which knows no
patterns, gets the longest start that does not end like a pattern. `resolved_path_iff` says that
this is the path of the route, that there always is one, and that it is not resolved any further.
-/

namespace FunctionOperator

namespace FunctionIngressSpec

/-- The path that a spec asks for. -/
inductive AsksPath (spec : FunctionIngressSpec) : String → Prop where
  /-- A path is given. -/
  | given (h : spec.path ≠ "") : AsksPath spec spec.path
  /-- No path is given, and the gateway is bypassed. -/
  | root (h : spec.path = "") (hbypass : spec.bypassGateway = true) : AsksPath spec "/"
  /-- No path is given, and the gateway takes them all. -/
  | all (h : spec.path = "") (hgateway : spec.bypassGateway = false) : AsksPath spec "/(.*)"

/-- The characters that a pattern or a directory ends with. -/
def patternEnds : List Char := ['/', '(', '.', '*', ')']

/-- The path of the route where a path is asked for. -/
inductive Routes (spec : FunctionIngressSpec) (path : String) : String → Prop where
  /-- The class knows patterns. -/
  | whole {name} (hclass : spec.OfClass name) (hname : name ≠ "traefik") : Routes spec path path
  /-- Something is left without the end of the pattern. -/
  | start {start : String} (hclass : spec.OfClass "traefik")
    (hstart : Text.LongestStart patternEnds path.toList start.toList) (hne : start ≠ "") :
    Routes spec path start
  /-- Nothing is left. -/
  | root (hclass : spec.OfClass "traefik")
    (hstart : Text.LongestStart patternEnds path.toList []) : Routes spec path "/"

variable {spec : FunctionIngressSpec} {path result : String}

/-- There is one path that is asked for. -/
theorem asks_path_iff : spec.AsksPath path ↔ spec.wantedPath = path := by
  unfold wantedPath
  constructor
  · rintro (h | ⟨h, hbypass⟩ | ⟨h, hgateway⟩)
    · rw [if_pos (by simpa using h)]
    · rw [if_neg (by simpa using h), if_pos hbypass]
    · rw [if_neg (by simpa using h), if_neg (by simpa using hgateway)]
  · rintro rfl
    split
    · next h => exact .given (by simpa using h)
    · next h =>
      have h : spec.path = "" := by simpa using h
      split
      · next hbypass => exact .root h hbypass
      · next hgateway => exact .all h (by simpa using hgateway)

/-- A path that is asked for is not empty. -/
theorem AsksPath.ne_empty (h : spec.AsksPath path) : path ≠ "" := by
  cases h with
  | given h => exact h
  | root => decide
  | all => decide

/-- The characters that are dropped are those that a pattern ends with. -/
theorem pattern_tail_iff (c : Char) : isPatternTail c = true ↔ c ∈ patternEnds := by
  simp [isPatternTail, patternEnds, or_assoc]

/-- What is left of a path without the end of its pattern. -/
def withoutEnd (path : String) : String :=
  String.ofList (Text.dropTail isPatternTail path.toList)

/-- The longest start that does not end like a pattern is what is left. -/
theorem without_end_iff {start : String} :
    Text.LongestStart patternEnds path.toList start.toList ↔ withoutEnd path = start := by
  rw [Text.longest_start_iff pattern_tail_iff, withoutEnd, ← String.toList_inj,
    String.toList_ofList]

/-- A class that knows patterns gets the path as it is, and any other what is left without their
end, or the root if that is nothing. -/
theorem resolved_path_eq (spec : FunctionIngressSpec) : spec.resolvedPath =
    if spec.ingressClass = "traefik" then
      if withoutEnd spec.wantedPath = "" then "/" else withoutEnd spec.wantedPath
    else spec.wantedPath := by
  by_cases hclass : spec.ingressClass = "traefik"
  · rw [if_pos hclass, resolvedPath, if_neg (by simp [isStartOnly, hclass]), withoutEnd]
    cases Text.dropTail isPatternTail spec.wantedPath.toList with
    | nil => rfl
    | cons c cs => rw [if_neg (by simp)]
  · rw [if_neg hclass, resolvedPath, if_pos (by simpa [isStartOnly] using hclass)]

/-- There is one path of the route. -/
theorem routes_iff (h : spec.AsksPath path) :
    spec.Routes path result ↔ spec.resolvedPath = result := by
  rw [resolved_path_eq, asks_path_iff.1 h]
  constructor
  · rintro (⟨hclass, hname⟩ | ⟨hclass, hstart, hne⟩ | ⟨hclass, hstart⟩)
    · rw [of_class_iff.1 hclass, if_neg hname]
    · rw [if_pos (of_class_iff.1 hclass), without_end_iff.1 hstart, if_neg hne]
    · rw [if_pos (of_class_iff.1 hclass), if_pos (without_end_iff.1 hstart)]
  · rintro rfl
    split
    · next hclass =>
      split
      · next hempty => exact .root (of_class_iff.2 hclass) (without_end_iff.2 hempty)
      · next hne => exact .start (of_class_iff.2 hclass) (without_end_iff.2 rfl) hne
    · next hclass => exact .whole (of_class_iff.2 rfl) hclass

/-- The path of the route ends like a pattern only if it is the root. -/
theorem Routes.last (h : spec.Routes path result) (hclass : spec.OfClass "traefik")
    (hlast : ∃ c ∈ result.toList.getLast?, c ∈ patternEnds) : result = "/" := by
  obtain ⟨c, hc, hend⟩ := hlast
  cases h with
  | whole hother hname =>
    exact absurd ((of_class_iff.1 hother).symm.trans (of_class_iff.1 hclass)) hname
  | start _ hstart => exact absurd hend (hstart.outside c hc)
  | root => rfl

/-- The path of a route is not empty. -/
theorem Routes.ne_empty (h : spec.Routes path result) (hpath : path ≠ "") : result ≠ "" := by
  cases h with
  | whole => exact hpath
  | start _ _ hne => exact hne
  | root => decide

/-- The class does not depend on the path. -/
theorem OfClass.with_path {name : String} (h : spec.OfClass name) (path : String) :
    { spec with path := path }.OfClass name := by
  cases h with
  | given h => exact .given h
  | default h => exact .default h

/-- The path of a route is routed as it is when it is asked for. -/
theorem Routes.again (h : spec.Routes path result) :
    { spec with path := result }.Routes result result := by
  cases h with
  | whole hclass hname => exact .whole (hclass.with_path path) hname
  | start hclass hstart hne =>
    refine .start (hclass.with_path result) ⟨List.prefix_rfl, hstart.outside, ?_⟩ hne
    exact fun other hother _ => hother.length_le
  | root hclass =>
    exact .root (hclass.with_path "/") ((Text.longest_start_iff pattern_tail_iff).2 (by decide))

end FunctionIngressSpec

/-- For every spec there is one path of the route: the path that is asked for, or, where the class
knows no patterns, what is left of it without the end of a pattern. It ends like a pattern for such
a class only if it is the root, it is never empty, and when it is asked for it is left as it is. -/
theorem resolved_path_iff (spec : FunctionIngressSpec) :
    (∀ result, spec.resolvedPath = result ↔
      ∃ path, spec.AsksPath path ∧ spec.Routes path result) ∧
    (spec.OfClass "traefik" → (∃ c ∈ spec.resolvedPath.toList.getLast?,
      c ∈ FunctionIngressSpec.patternEnds) → spec.resolvedPath = "/") ∧
    spec.resolvedPath ≠ "" ∧
    { spec with path := spec.resolvedPath }.resolvedPath = spec.resolvedPath := by
  have hasks : spec.AsksPath spec.wantedPath := FunctionIngressSpec.asks_path_iff.2 rfl
  have hroutes : spec.Routes spec.wantedPath spec.resolvedPath :=
    (FunctionIngressSpec.routes_iff hasks).2 rfl
  have hne : spec.resolvedPath ≠ "" := hroutes.ne_empty hasks.ne_empty
  refine ⟨fun result => ⟨?_, ?_⟩, hroutes.last, hne, ?_⟩
  · rintro rfl
    exact ⟨_, hasks, hroutes⟩
  · rintro ⟨path, hpath, hresult⟩
    exact (FunctionIngressSpec.routes_iff hpath).1 hresult
  · exact (FunctionIngressSpec.routes_iff (.given hne)).1 hroutes.again

/-- A directory of patterns loses the pattern and the slash before it. -/
example : ({ path := "/v1/profiles/(.*)", ingressType := "traefik" } :
    FunctionIngressSpec).resolvedPath = "/v1/profiles" := by decide

end FunctionOperator
