import FunctionOperator.Proofs.Text.Cuts
import FunctionOperator.Proofs.Text.Numeral
import FunctionOperator.Settings

/-!
# Which environments are admitted

Three variables can be at fault: the number of workers, the forced API for ingresses and the policy
for fetching images. Read `Refuses` and `Accepts` first. `Refuses` says which fault is told, the
first one in this order. `Accepts` says what the settings of an environment without faults are:
every number is what its variable denotes or its default, every field depends on its own variables
alone, and every number that cannot be read is warned of once. `of_variables_outcome` says that
every environment comes out in one of these two ways.

Underneath, `Gives` and `Fails` say how a reading ends and what it logs; there is one lemma on each
part of `load`, and `gives_load` and `Refuses.fails` put them together.
-/

namespace FunctionOperator.Settings

open Text (Trims IntegerType)

/-! ## Faults -/

/-- No workers are asked for. -/
def NoWorkers (environment : Variables) : Prop :=
  ∃ raw text, environment "WORKERS" = some raw ∧ Trims raw text ∧ IntegerType.uint64.Reads text 0

/-- An API for ingresses is forced that there is not. -/
def UnknownApi (environment : Variables) (version : String) : Prop :=
  environment "INGRESS_API_VERSION" = some version ∧ version ≠ "" ∧ ∃ text, Trims version text ∧
    text ∉ ["networking.k8s.io/v1", "networking.k8s.io/v1beta1", "extensions/v1beta1"]

/-- Images are to be fetched by a policy that there is not. -/
def UnknownPolicy (environment : Variables) (policy : String) : Prop :=
  environment "image_pull_policy" = some policy ∧ policy ∉ ["Always", "IfNotPresent", "Never"]

/-- An environment has a fault. -/
def Faulty (environment : Variables) : Prop :=
  NoWorkers environment ∨ (∃ version, UnknownApi environment version) ∨
    ∃ policy, UnknownPolicy environment policy

/-- The first fault of an environment is told. -/
inductive Refuses (environment : Variables) : OperatorFailure → Prop where
  /-- There are no workers. -/
  | workers (h : NoWorkers environment) :
    Refuses environment (.invalidConfig "WORKERS must be at least 1")
  /-- There are workers, and the API is unknown. -/
  | api {version} (hworkers : ¬NoWorkers environment) (h : UnknownApi environment version) :
    Refuses environment (.invalidConfig ("Unsupported INGRESS_API_VERSION: " ++ version))
  /-- There are workers, the API is fine, and the policy is unknown. -/
  | policy {policy} (hworkers : ¬NoWorkers environment)
    (hapi : ∀ version, ¬UnknownApi environment version) (h : UnknownPolicy environment policy) :
    Refuses environment (.invalidConfig ("Invalid image_pull_policy configured: " ++ policy))

/-! ## Numbers -/

/-- What a probe is for. -/
inductive ProbeRole where
  /-- When a container may receive requests. -/
  | readiness
  /-- When a container has to be started anew. -/
  | liveness
deriving DecidableEq

/-- The word in the names of a probe's variables. -/
def ProbeRole.word : ProbeRole → String
  | readiness => "readiness"
  | liveness => "liveness"

/-- The timing of a probe. -/
def ProbeRole.timing (settings : WorkloadSettings) : ProbeRole → ProbeTiming
  | readiness => settings.readiness
  | liveness => settings.liveness

/-- A setting that is a whole number. -/
inductive Number where
  /-- The number of workers of each control loop. -/
  | workers
  /-- The admin server's port. -/
  | port
  /-- The seconds for reading a request. -/
  | readTimeout
  /-- The seconds for writing an answer. -/
  | writeTimeout
  /-- The seconds before the first probe. -/
  | initialDelay (role : ProbeRole)
  /-- The seconds for one probe. -/
  | timeout (role : ProbeRole)
  /-- The seconds between two probes. -/
  | period (role : ProbeRole)
deriving DecidableEq

namespace Number

/-- The numbers in the order in which they are read. -/
def all : List Number :=
  [workers, port, readTimeout, writeTimeout, initialDelay .readiness, timeout .readiness,
    period .readiness, initialDelay .liveness, timeout .liveness, period .liveness]

/-- The name of a number's variable. -/
def name : Number → String
  | workers => "WORKERS"
  | port => "port"
  | readTimeout => "read_timeout"
  | writeTimeout => "write_timeout"
  | initialDelay role => role.word ++ "_probe_initial_delay_seconds"
  | timeout role => role.word ++ "_probe_timeout_seconds"
  | period role => role.word ++ "_probe_period_seconds"

/-- The type of a number. Workers are counted in a machine word, which has 64 bits. -/
def type : Number → IntegerType
  | workers | readTimeout | writeTimeout => .uint64
  | port => .uint16
  | initialDelay _ | timeout _ | period _ => .int32

/-- The default of a number. -/
def fallback : Number → Int
  | workers => 2
  | port => 8081
  | readTimeout | writeTimeout => 8
  | initialDelay _ | period _ => 2
  | timeout _ => 1

/-- The number in given settings. -/
def value (settings : Settings) : Number → Int
  | workers => settings.workers
  | port => settings.port
  | readTimeout => settings.readTimeout
  | writeTimeout => settings.writeTimeout
  | initialDelay role => (role.timing settings.workload).initialDelay
  | timeout role => (role.timing settings.workload).timeout
  | period role => (role.timing settings.workload).period

/-- A variable is set to a text that is not a number of the right type. -/
def Unread (environment : Variables) (number : Number) : Prop :=
  ∃ raw text, environment number.name = some raw ∧ Trims raw text ∧
    ∀ value, ¬number.type.Reads text value

/-- What a number is in an environment. -/
inductive Takes (environment : Variables) (number : Number) : Int → Prop where
  /-- The variable is not set. -/
  | unset (h : environment number.name = none) : Takes environment number number.fallback
  /-- The variable is set to a number of the right type, with blanks around it. -/
  | read {raw text value} (hset : environment number.name = some raw) (htrim : Trims raw text)
    (hreads : number.type.Reads text value) : Takes environment number value
  /-- The variable is set to something else. -/
  | unread (h : Unread environment number) : Takes environment number number.fallback

/-- A text is the warning of a variable's number. -/
def Warns (environment : Variables) (number : Number) (text : String) : Prop :=
  ∃ raw, environment number.name = some raw ∧ text = warning number.name raw

end Number

/-! ## Fields -/

/-- A field of the settings. -/
inductive Field where
  /-- A whole number. -/
  | number (number : Number)
  /-- The only namespace that is watched. -/
  | watchNamespace
  /-- The forced API for ingresses. -/
  | ingressApi
  /-- The port of a function's server. -/
  | httpPort
  /-- Whether probes are requests. -/
  | httpProbe
  /-- When an image is fetched. -/
  | imagePullPolicy
  /-- Whether containers run as an unprivileged user. -/
  | nonRootUser

namespace Field

/-- The names of a field's variables. -/
def names : Field → List String
  | number which => [which.name]
  | watchNamespace => ["WATCH_NAMESPACE", "function_namespace"]
  | ingressApi => ["INGRESS_API_VERSION"]
  | httpPort => []
  | httpProbe => ["http_probe"]
  | imagePullPolicy => ["image_pull_policy"]
  | nonRootUser => ["set_nonroot_user"]

/-- Two settings are the same in a field. -/
def Same (first second : Settings) : Field → Prop
  | number which => which.value first = which.value second
  | watchNamespace => first.watchNamespace = second.watchNamespace
  | ingressApi => first.ingressApi = second.ingressApi
  | httpPort => first.workload.httpPort = second.workload.httpPort
  | httpProbe => first.workload.httpProbe = second.workload.httpProbe
  | imagePullPolicy => first.workload.imagePullPolicy = second.workload.imagePullPolicy
  | nonRootUser => first.workload.nonRootUser = second.workload.nonRootUser

/-- There are no other fields. -/
theorem eq_of_same {first second : Settings} (h : ∀ field, Same first second field) :
    first = second := by
  have hnumber (which : Number) : which.value first = which.value second := h (.number which)
  have htiming (role : ProbeRole) :
      role.timing first.workload = role.timing second.workload := by
    rw [ProbeTiming.mk.injEq]
    exact ⟨hnumber (.initialDelay role), hnumber (.timeout role), hnumber (.period role)⟩
  have hworkload : first.workload = second.workload := by
    rw [WorkloadSettings.mk.injEq]
    exact ⟨h .httpPort, h .httpProbe, htiming .readiness, htiming .liveness, h .imagePullPolicy,
      h .nonRootUser⟩
  rw [Settings.mk.injEq]
  exact ⟨h .watchNamespace, Int.ofNat.inj (hnumber .workers), h .ingressApi,
    Int.ofNat.inj (hnumber .port), Int.ofNat.inj (hnumber .readTimeout),
    Int.ofNat.inj (hnumber .writeTimeout), hworkload⟩

/-- The variables of a field are looked at. -/
theorem names_subset (field : Field) : field.names ⊆ Settings.names := by
  cases field with
  | number which =>
    cases which with
    | workers | port | readTimeout | writeTimeout => decide
    | initialDelay role | timeout role | period role => cases role <;> decide
  | watchNamespace | ingressApi | httpPort | httpProbe | imagePullPolicy | nonRootUser => decide

end Field

/-- Settings are those of an environment without faults. -/
structure Accepts (environment : Variables) (settings : Settings) : Prop where
  /-- Every number is what its variable denotes, or its default. -/
  numbers : ∀ number : Number, number.Takes environment (number.value settings)
  /-- A field is the same in any other environment whose settings are admitted, and that has the
  same variables of the field. -/
  fields : ∀ (field : Field) other otherSettings, ofVariables other = .ok otherSettings →
    (∀ name ∈ field.names, environment name = other name) →
    field.Same settings otherSettings
  /-- The numbers that cannot be read are warned of, once each. Nothing else is warned of. -/
  warned : ∃ unread : List Number, unread.Nodup ∧
    (∀ number, number ∈ unread ↔ number.Unread environment) ∧
    List.Forall₂ (Number.Warns environment) unread (warnings environment)

/-! ## Reading -/

section Reading

variable {α β : Type} {reading : Reading α} {next : α → Reading β} {value : α} {result : β}
  {first second : List String} {failure : OperatorFailure}

/-- A reading ends with a value, and logs some warnings. -/
def Gives (reading : Reading α) (value : α) (logged : List String) : Prop :=
  ∀ log, reading.run.run log = (.ok value, log ++ logged)

/-- A reading fails. -/
def Fails (reading : Reading α) (failure : OperatorFailure) : Prop :=
  ∀ log, (reading.run.run log).1 = .error failure

/-- What is logged can be written in another way. -/
theorem Gives.of_eq (h : Gives reading value first) (hlogged : first = second) :
    Gives reading value second :=
  hlogged ▸ h

/-- What follows a reading is run with its value. -/
theorem Gives.run_bind (h : Gives reading value first) (next : α → Reading β) (log : List String) :
    (reading >>= next).run.run log = (next value).run.run (log ++ first) := by
  rw [ExceptT.run_bind, StateT.run_bind, h log]
  rfl

/-- Two readings log one after the other. -/
theorem Gives.bind (h : Gives reading value first) (hnext : Gives (next value) result second) :
    Gives (reading >>= next) result (first ++ second) := by
  intro log
  rw [h.run_bind, hnext (log ++ first), List.append_assoc]

/-- What follows a reading can fail. -/
theorem Gives.fails_bind (h : Gives reading value first) (hnext : Fails (next value) failure) :
    Fails (reading >>= next) failure := by
  intro log
  rw [h.run_bind]
  exact hnext (log ++ first)

/-- Nothing follows a reading that fails. -/
theorem Fails.bind (h : Fails reading failure) (next : α → Reading β) :
    Fails (reading >>= next) failure := by
  intro log
  have hfailed := h log
  rw [ExceptT.run_bind, StateT.run_bind]
  cases hrun : reading.run.run log with
  | mk outcome logged =>
    rw [hrun] at hfailed
    cases hfailed
    rfl

/-- A value is given without a warning. -/
theorem gives_pure (value : α) : Gives (pure value) value [] := by
  intro log
  rw [List.append_nil]
  rfl

/-- A value is given as it is. -/
theorem gives_of_except (value : α) : Gives (ofExcept (.ok value)) value [] :=
  gives_pure value

/-- A failure is told as it is. -/
theorem fails_of_except (failure : OperatorFailure) :
    Fails (ofExcept (.error failure) : Reading α) failure :=
  fun _ => rfl

end Reading

/-! ## Reading numbers -/

namespace Number

/-- Every number is read once. -/
theorem nodup_all : all.Nodup := by decide

/-- Every number is read. -/
theorem mem_all (number : Number) : number ∈ all := by
  cases number with
  | workers | port | readTimeout | writeTimeout => decide
  | initialDelay role | timeout role | period role => cases role <;> decide

/-- A text as a number of the right type. -/
def read? (number : Number) (text : String) : Option Int :=
  match number with
  | workers | readTimeout | writeTimeout => (Text.readUInt64? text).map Int.ofNat
  | port => (Text.readUInt16? text).map Int.ofNat
  | initialDelay _ | timeout _ | period _ => Text.readInt32? text

/-- The numbers of the right type are read. -/
theorem read_iff {number : Number} {text : String} {value : Int} :
    number.read? text = some value ↔ number.type.Reads text value := by
  cases number with
  | workers | readTimeout | writeTimeout => exact IntegerType.read_uint64_iff
  | port => exact IntegerType.read_uint16_iff
  | initialDelay | timeout | period => exact IntegerType.read_int32_iff

variable {environment : Variables} {number : Number}

/-- The number that a variable is set to, if it can be read. -/
def found? (environment : Variables) (number : Number) : Option Int :=
  (environment number.name).bind fun raw => number.read? (Text.trim raw)

/-- What is found is a number of the right type, with blanks around it. -/
theorem found_iff {value : Int} : number.found? environment = some value ↔
    ∃ raw text, environment number.name = some raw ∧ Trims raw text ∧
      number.type.Reads text value := by
  rw [found?, Option.bind_eq_some_iff]
  constructor
  · rintro ⟨raw, hset, hread⟩
    exact ⟨raw, _, hset, Text.trims_trim raw, read_iff.1 hread⟩
  · rintro ⟨raw, text, hset, htrim, hreads⟩
    obtain rfl := Text.trims_iff.1 htrim
    exact ⟨raw, hset, read_iff.2 hreads⟩

/-- A number that cannot be read is set, and not found. -/
theorem unread_iff : number.Unread environment ↔
    (∃ raw, environment number.name = some raw) ∧ number.found? environment = none := by
  rw [Option.eq_none_iff_forall_ne_some]
  constructor
  · rintro ⟨raw, text, hset, htrim, hnone⟩
    refine ⟨⟨raw, hset⟩, fun value hfound => ?_⟩
    obtain ⟨raw', text', hset', htrim', hreads⟩ := found_iff.1 hfound
    obtain rfl : raw = raw' := Option.some.inj (hset.symm.trans hset')
    obtain rfl : text = text' := (Text.trims_iff.1 htrim).symm.trans (Text.trims_iff.1 htrim')
    exact hnone value hreads
  · rintro ⟨⟨raw, hset⟩, hnone⟩
    exact ⟨raw, _, hset, Text.trims_trim raw, fun value hreads =>
      hnone value (found_iff.2 ⟨raw, _, hset, Text.trims_trim raw, hreads⟩)⟩

/-- The number that is taken: the one that is found, or the default. -/
def taken (environment : Variables) (number : Number) : Int :=
  (number.found? environment).getD number.fallback

/-- What is taken is what the number is, and it is nothing else. -/
theorem takes_iff {value : Int} :
    number.Takes environment value ↔ number.taken environment = value := by
  rw [taken]
  constructor
  · intro h
    cases h with
    | unset hset =>
      rw [found?, hset]
      rfl
    | read hset htrim hreads =>
      rw [found_iff.2 ⟨_, _, hset, htrim, hreads⟩]
      rfl
    | unread h =>
      rw [(unread_iff.1 h).2]
      rfl
  · rintro rfl
    cases hfound : number.found? environment with
    | some value =>
      obtain ⟨raw, text, hset, htrim, hreads⟩ := found_iff.1 hfound
      exact .read hset htrim hreads
    | none =>
      cases hset : environment number.name with
      | none => exact .unset hset
      | some raw => exact .unread (unread_iff.2 ⟨⟨raw, hset⟩, hfound⟩)

/-- Only the number's own variable is looked at. -/
theorem taken_congr {other : Variables} (h : environment number.name = other number.name) :
    number.taken environment = number.taken other := by
  rw [taken, taken, found?, found?, h]

/-- What is logged while a number is read. -/
def logged (environment : Variables) (number : Number) : List String :=
  match environment number.name, number.found? environment with
  | some raw, none => [warning number.name raw]
  | _, _ => []

/-- A number is read into any type whose texts are read like those of the number's own type. -/
theorem gives_number {α : Type} {read : String → Option α} (environment : Variables)
    (number : Number) (embed : α → Int) (fallback : α)
    (hread : ∀ text, (read text).map embed = number.read? text)
    (hfallback : embed fallback = number.fallback) :
    ∃ value, Gives (Settings.number environment number.name read fallback) value
      (number.logged environment) ∧ embed value = number.taken environment := by
  rw [Settings.number, logged, taken, found?]
  cases environment number.name with
  | none => exact ⟨fallback, gives_pure fallback, hfallback⟩
  | some raw =>
    dsimp only
    rw [Option.bind_some, ← hread]
    cases read (Text.trim raw) with
    | some value => exact ⟨value, gives_pure value, rfl⟩
    | none => exact ⟨fallback, fun log => rfl, hfallback⟩

/-- A number of seconds of a probe is read. -/
theorem gives_seconds (environment : Variables) (number : Number)
    (hread : ∀ text, Text.readInt32? text = number.read? text) :
    Gives (Settings.number environment number.name Text.readInt32? number.fallback)
      (number.taken environment) (number.logged environment) := by
  obtain ⟨value, hvalue, htaken⟩ := gives_number environment number id number.fallback
    (fun text => Option.map_id_apply.trans (hread text)) rfl
  exact htaken ▸ hvalue

/-- A number is warned of if it cannot be read, and then once. -/
theorem logged_cases (environment : Variables) (number : Number) :
    number.Unread environment ∧ (∃ text, number.logged environment = [text] ∧
      number.Warns environment text) ∨
    ¬number.Unread environment ∧ number.logged environment = [] := by
  rw [unread_iff, logged]
  cases hset : environment number.name with
  | none => exact .inr ⟨by simp, rfl⟩
  | some raw =>
    cases hfound : number.found? environment with
    | none => exact .inl ⟨⟨⟨raw, rfl⟩, rfl⟩, _, rfl, raw, hset, rfl⟩
    | some value => exact .inr ⟨by simp, rfl⟩

/-- What is logged while numbers are read are the warnings of those that cannot be read. -/
theorem warned_of (environment : Variables) (numbers : List Number) :
    ∃ unread, unread.Sublist numbers ∧
      (∀ number, number ∈ unread ↔ number ∈ numbers ∧ number.Unread environment) ∧
      List.Forall₂ (Warns environment) unread (numbers.flatMap (logged environment)) := by
  induction numbers with
  | nil => exact ⟨[], .slnil, by simp, .nil⟩
  | cons number numbers ih =>
    obtain ⟨unread, hsub, hmem, hwarns⟩ := ih
    rw [List.flatMap_cons]
    rcases logged_cases environment number with ⟨hunread, text, hlogged, hwarn⟩ | ⟨hread, hlogged⟩
    · refine ⟨number :: unread, hsub.cons_cons number, fun other => ?_, ?_⟩
      · rw [List.mem_cons, List.mem_cons, hmem, or_and_right]
        exact or_congr_left ⟨fun h => ⟨h, h ▸ hunread⟩, And.left⟩
      · rw [hlogged]
        exact .cons hwarn hwarns
    · refine ⟨unread, hsub.cons number, fun other => ?_, ?_⟩
      · rw [hmem, List.mem_cons, or_and_right]
        exact (or_iff_right fun h : other = number ∧ _ => hread (h.1 ▸ h.2)).symm
      · rw [hlogged]
        exact hwarns

end Number

/-! ## Reading the settings -/

variable {environment : Variables}

/-- The timing of a probe is read. -/
theorem gives_timing (environment : Variables) (role : ProbeRole) :
    Gives (Settings.timing environment role.word)
      ⟨(Number.initialDelay role).taken environment, (Number.timeout role).taken environment,
        (Number.period role).taken environment⟩
      ([.initialDelay role, .timeout role, .period role].flatMap (Number.logged environment)) :=
  (Number.gives_seconds environment (.initialDelay role) fun _ => rfl).bind <|
    (Number.gives_seconds environment (.timeout role) fun _ => rfl).bind <|
    (Number.gives_seconds environment (.period role) fun _ => rfl).bind <| gives_pure _

/-- There are no workers if zero is taken as their number. -/
theorem no_workers_iff : NoWorkers environment ↔ Number.workers.taken environment = 0 := by
  have hfound : Number.workers.found? environment = some 0 ↔ NoWorkers environment :=
    Number.found_iff
  rw [← hfound, Number.taken]
  cases Number.workers.found? environment with
  | none => simp [Number.fallback]
  | some value => simp

/-- The workers are counted. -/
theorem gives_worker_count (h : ¬NoWorkers environment) :
    ∃ workers : Nat, Gives (workerCount environment) workers (Number.workers.logged environment) ∧
      workers = Number.workers.taken environment := by
  obtain ⟨workers, hworkers, htaken⟩ := Number.gives_number environment .workers Int.ofNat 2
    (fun _ => rfl) rfl
  have hne : workers ≠ 0 := by
    rintro rfl
    exact h (no_workers_iff.2 htaken.symm)
  refine ⟨workers, ?_, htaken⟩
  rw [← List.append_nil (Number.workers.logged environment)]
  refine hworkers.bind ?_
  rw [if_neg hne]
  exact gives_pure workers

/-- Without workers nothing else is read. -/
theorem fails_worker_count (h : NoWorkers environment) :
    Fails (workerCount environment) (.invalidConfig "WORKERS must be at least 1") := by
  obtain ⟨workers, hworkers, htaken⟩ := Number.gives_number environment .workers Int.ofNat 2
    (fun _ => rfl) rfl
  have hzero : workers = 0 := Int.ofNat.inj (htaken.trans (no_workers_iff.1 h))
  refine hworkers.fails_bind ?_
  rw [if_pos hzero]
  exact fun _ => rfl

/-- A text is the version of an API if it is one of the three, with blanks around it. -/
theorem of_api_version_eq_none {version : String} : IngressApi.ofApiVersion? version = none ↔
    Text.trim version ∉
      ["networking.k8s.io/v1", "networking.k8s.io/v1beta1", "extensions/v1beta1"] := by
  have hversions : IngressApi.all.map IngressApi.apiVersion =
    ["networking.k8s.io/v1", "networking.k8s.io/v1beta1", "extensions/v1beta1"] := by decide
  rw [← hversions, IngressApi.ofApiVersion?, List.find?_eq_none, List.mem_map]
  simp only [beq_iff_eq, not_exists, not_and]

/-- An unknown API is told. -/
theorem forced_api_error {version : String} (h : UnknownApi environment version) :
    forcedApi environment =
      .error (.invalidConfig ("Unsupported INGRESS_API_VERSION: " ++ version)) := by
  obtain ⟨hset, hne, text, htrim, htext⟩ := h
  obtain rfl := Text.trims_iff.1 htrim
  have hforced : (environment "INGRESS_API_VERSION").filter (!·.isEmpty) = some version :=
    Option.filter_eq_some_iff.2 ⟨hset, by simpa using hne⟩
  rw [forcedApi, hforced]
  dsimp only
  rw [of_api_version_eq_none.2 htext]

/-- Without an unknown API, one is forced or none is. -/
theorem forced_api_ok (h : ∀ version, ¬UnknownApi environment version) :
    ∃ api, forcedApi environment = .ok api := by
  rw [forcedApi]
  cases hfilter : (environment "INGRESS_API_VERSION").filter (!·.isEmpty) with
  | none => exact ⟨none, rfl⟩
  | some version =>
    obtain ⟨hset, hne⟩ := Option.filter_eq_some_iff.1 hfilter
    dsimp only
    cases hapi : IngressApi.ofApiVersion? version with
    | some api => exact ⟨some api, rfl⟩
    | none =>
      exact absurd ⟨hset, by simpa using hne, _, Text.trims_trim version,
        of_api_version_eq_none.1 hapi⟩ (h version)

/-- An unknown policy is told. -/
theorem pull_policy_error {policy : String} (h : UnknownPolicy environment policy) :
    pullPolicy environment =
      .error (.invalidConfig ("Invalid image_pull_policy configured: " ++ policy)) := by
  obtain ⟨hset, hunknown⟩ := h
  rw [pullPolicy, hset]
  exact if_neg fun hknown => hunknown (List.contains_iff_mem.1 hknown)

/-- Without an unknown policy there is one. -/
theorem pull_policy_ok (h : ∀ policy, ¬UnknownPolicy environment policy) :
    ∃ policy, pullPolicy environment = .ok policy := by
  rw [pullPolicy]
  cases hset : environment "image_pull_policy" with
  | none => exact ⟨"Always", rfl⟩
  | some policy =>
    refine ⟨policy, if_pos (List.contains_iff_mem.2 ?_)⟩
    by_contra hunknown
    exact h policy ⟨hset, hunknown⟩

/-- What the settings of an environment are, field by field. -/
structure Described (environment : Variables) (settings : Settings) : Prop where
  /-- Every number is the one that is taken. -/
  numbers : ∀ number : Number, number.value settings = number.taken environment
  /-- The first variable of the namespace counts, and the second one if it is not set. -/
  watchNamespace : settings.watchNamespace = watched environment
  /-- The forced API is known, if there is one. -/
  ingressApi : forcedApi environment = .ok settings.ingressApi
  /-- The port of a function's server is fixed. -/
  httpPort : settings.workload.httpPort = 8080
  /-- Probes are requests by default. -/
  httpProbe : settings.workload.httpProbe = flag environment "http_probe" true
  /-- The policy is known. -/
  imagePullPolicy : pullPolicy environment = .ok settings.workload.imagePullPolicy
  /-- Containers run as they like by default. -/
  nonRootUser : settings.workload.nonRootUser = flag environment "set_nonroot_user" false

/-- A field is described by its own variables alone. -/
theorem Described.same {settings otherSettings : Settings} {other : Variables}
    (h : Described environment settings) (hother : Described other otherSettings) {field : Field}
    (hagree : ∀ name ∈ field.names, environment name = other name) :
    field.Same settings otherSettings := by
  cases field with
  | number which =>
    have hname : environment which.name = other which.name := hagree _ List.mem_cons_self
    calc which.value settings = which.taken environment := h.numbers which
      _ = which.taken other := Number.taken_congr hname
      _ = which.value otherSettings := (hother.numbers which).symm
  | watchNamespace =>
    have hwatch := hagree "WATCH_NAMESPACE" (by decide)
    have hfunction := hagree "function_namespace" (by decide)
    calc settings.watchNamespace = watched environment := h.watchNamespace
      _ = watched other := by rw [watched, watched, hwatch, hfunction]
      _ = otherSettings.watchNamespace := hother.watchNamespace.symm
  | ingressApi =>
    have hforced : forcedApi environment = forcedApi other := by
      rw [forcedApi, forcedApi, hagree "INGRESS_API_VERSION" (by decide)]
    exact Except.ok.inj (h.ingressApi.symm.trans (hforced.trans hother.ingressApi))
  | httpPort => exact h.httpPort.trans hother.httpPort.symm
  | httpProbe =>
    have hflag : flag environment "http_probe" true = flag other "http_probe" true := by
      rw [flag, flag, hagree "http_probe" (by decide)]
    exact h.httpProbe.trans (hflag.trans hother.httpProbe.symm)
  | imagePullPolicy =>
    have hpolicy : pullPolicy environment = pullPolicy other := by
      rw [pullPolicy, pullPolicy, hagree "image_pull_policy" (by decide)]
    exact Except.ok.inj (h.imagePullPolicy.symm.trans (hpolicy.trans hother.imagePullPolicy))
  | nonRootUser =>
    have hflag :
        flag environment "set_nonroot_user" false = flag other "set_nonroot_user" false := by
      rw [flag, flag, hagree "set_nonroot_user" (by decide)]
    exact h.nonRootUser.trans (hflag.trans hother.nonRootUser.symm)

/-- An environment without faults has settings, and every number is read on the way. -/
theorem gives_load (h : ¬Faulty environment) : ∃ settings,
    Gives (load environment) settings (Number.all.flatMap (Number.logged environment)) ∧
      Described environment settings := by
  obtain ⟨hworkers, hrest⟩ := not_or.1 h
  obtain ⟨hapi, hpolicy⟩ := not_or.1 hrest
  obtain ⟨api, hforced⟩ := forced_api_ok (not_exists.1 hapi)
  obtain ⟨policy, hpull⟩ := pull_policy_ok (not_exists.1 hpolicy)
  obtain ⟨workers, hgives, hcount⟩ := gives_worker_count hworkers
  obtain ⟨port, hport, hportTaken⟩ := Number.gives_number environment .port Int.ofNat 8081
    (fun _ => rfl) rfl
  obtain ⟨readTimeout, hread, hreadTaken⟩ := Number.gives_number environment .readTimeout
    Int.ofNat 8 (fun _ => rfl) rfl
  obtain ⟨writeTimeout, hwrite, hwriteTaken⟩ := Number.gives_number environment .writeTimeout
    Int.ofNat 8 (fun _ => rfl) rfl
  have hload : Gives (load environment) _ _ :=
    hgives.bind <| (hforced ▸ gives_of_except api).bind <| hport.bind <| hread.bind <|
      hwrite.bind <| (hpull ▸ gives_of_except policy).bind <|
      (gives_timing environment .readiness).bind <|
      (gives_timing environment .liveness).bind <| gives_pure _
  refine ⟨_, hload.of_eq (by simp [Number.all]), ?_⟩
  exact {
    numbers := fun number => by
      cases number with
      | workers => exact hcount
      | port => exact hportTaken
      | readTimeout => exact hreadTaken
      | writeTimeout => exact hwriteTaken
      | initialDelay role | timeout role | period role => cases role <;> rfl
    watchNamespace := rfl
    ingressApi := hforced
    httpPort := rfl
    httpProbe := rfl
    imagePullPolicy := hpull
    nonRootUser := rfl }

/-- The fault that is told is the one that the reading fails with. -/
theorem Refuses.fails {failure : OperatorFailure} (h : Refuses environment failure) :
    Fails (load environment) failure := by
  cases h with
  | workers h => exact (fails_worker_count h).bind _
  | api hworkers h =>
    obtain ⟨workers, hgives, -⟩ := gives_worker_count hworkers
    exact hgives.fails_bind <| (forced_api_error h ▸ fails_of_except _).bind _
  | policy hworkers hapi h =>
    obtain ⟨workers, hgives, -⟩ := gives_worker_count hworkers
    obtain ⟨api, hforced⟩ := forced_api_ok hapi
    obtain ⟨port, hport, -⟩ := Number.gives_number environment .port Int.ofNat 8081
      (fun _ => rfl) rfl
    obtain ⟨readTimeout, hread, -⟩ := Number.gives_number environment .readTimeout Int.ofNat 8
      (fun _ => rfl) rfl
    obtain ⟨writeTimeout, hwrite, -⟩ := Number.gives_number environment .writeTimeout Int.ofNat 8
      (fun _ => rfl) rfl
    exact hgives.fails_bind <| (hforced ▸ gives_of_except api).fails_bind <| hport.fails_bind <|
      hread.fails_bind <| hwrite.fails_bind <| (pull_policy_error h ▸ fails_of_except _).bind _

/-- What is told is a fault. -/
theorem Refuses.faulty {failure : OperatorFailure} (h : Refuses environment failure) :
    Faulty environment := by
  cases h with
  | workers h => exact .inl h
  | api _ h => exact .inr (.inl ⟨_, h⟩)
  | policy _ _ h => exact .inr (.inr ⟨_, h⟩)

/-- Of the faults of an environment one is told. -/
theorem Faulty.refuses (h : Faulty environment) : ∃ failure, Refuses environment failure := by
  by_cases hworkers : NoWorkers environment
  · exact ⟨_, .workers hworkers⟩
  by_cases hapi : ∃ version, UnknownApi environment version
  · obtain ⟨version, hversion⟩ := hapi
    exact ⟨_, .api hworkers hversion⟩
  obtain ⟨policy, hpolicy⟩ := (h.resolve_left hworkers).resolve_left hapi
  exact ⟨_, .policy hworkers (not_exists.1 hapi) hpolicy⟩

/-- Settings are described by the environment that they are read from. -/
theorem described_of_variables {settings : Settings}
    (h : ofVariables environment = .ok settings) : Described environment settings := by
  have hfine : ¬Faulty environment := by
    intro hfaulty
    obtain ⟨failure, hrefuses⟩ := hfaulty.refuses
    cases h.symm.trans (hrefuses.fails [])
  obtain ⟨other, hload, hdescribed⟩ := gives_load hfine
  have hother : ofVariables environment = .ok other := congrArg Prod.fst (hload [])
  obtain rfl : settings = other := Except.ok.inj (h.symm.trans hother)
  exact hdescribed

/-- The settings that are read are those of the environment. -/
theorem accepts_of_not_faulty (h : ¬Faulty environment) :
    ∃ settings, ofVariables environment = .ok settings ∧ Accepts environment settings := by
  obtain ⟨settings, hload, hdescribed⟩ := gives_load h
  obtain ⟨unread, hsub, hmem, hwarns⟩ := Number.warned_of environment Number.all
  have hlogged : warnings environment = Number.all.flatMap (Number.logged environment) :=
    congrArg Prod.snd (hload [])
  exact ⟨settings, congrArg Prod.fst (hload []), {
    numbers := fun number => Number.takes_iff.2 (hdescribed.numbers number).symm
    fields := fun field other otherSettings hother hagree =>
      hdescribed.same (described_of_variables hother) hagree
    warned := ⟨unread, hsub.nodup Number.nodup_all,
      fun number => (hmem number).trans (and_iff_right number.mem_all), hlogged ▸ hwarns⟩ }⟩

/-- Variables with other names than `names` make no difference, so the command passes on no others. -/
theorem of_variables_congr {other : Variables}
    (h : ∀ name ∈ names, environment name = other name) :
    ofVariables environment = ofVariables other := by
  have hworkers : NoWorkers environment ↔ NoWorkers other := by
    rw [NoWorkers, NoWorkers, h "WORKERS" (by decide)]
  have hapi (version : String) : UnknownApi environment version ↔ UnknownApi other version := by
    rw [UnknownApi, UnknownApi, h "INGRESS_API_VERSION" (by decide)]
  have hpolicy (policy : String) :
      UnknownPolicy environment policy ↔ UnknownPolicy other policy := by
    rw [UnknownPolicy, UnknownPolicy, h "image_pull_policy" (by decide)]
  by_cases hfaulty : Faulty environment
  · obtain ⟨failure, hrefuses⟩ := hfaulty.refuses
    have hother : Refuses other failure := by
      cases hrefuses with
      | workers hno => exact .workers (hworkers.1 hno)
      | api hsome hunknown => exact .api (mt hworkers.2 hsome) ((hapi _).1 hunknown)
      | policy hsome hknown hunknown =>
        exact .policy (mt hworkers.2 hsome) (fun version => mt (hapi version).2 (hknown version))
          ((hpolicy _).1 hunknown)
    exact (hrefuses.fails []).trans (hother.fails []).symm
  · have hfine : ¬Faulty other := by
      rwa [Faulty, ← hworkers, ← exists_congr hapi, ← exists_congr hpolicy]
    obtain ⟨settings, hload, hdescribed⟩ := gives_load hfaulty
    obtain ⟨otherSettings, hotherLoad, hother⟩ := gives_load hfine
    obtain rfl : settings = otherSettings := Field.eq_of_same fun field =>
      hdescribed.same hother fun name hname => h name (field.names_subset hname)
    exact (congrArg Prod.fst (hload [])).trans (congrArg Prod.fst (hotherLoad [])).symm

/-- Every environment is refused with its first fault, or accepted if it has none. -/
theorem of_variables_outcome (environment : Variables) :
    (∀ failure, ofVariables environment = .error failure ↔ Refuses environment failure) ∧
      ((∃ failure, ofVariables environment = .error failure) ↔ Faulty environment) ∧
      (¬Faulty environment →
        ∃ settings, ofVariables environment = .ok settings ∧ Accepts environment settings) := by
  have hrefuses (failure : OperatorFailure) :
      ofVariables environment = .error failure ↔ Refuses environment failure := by
    refine ⟨fun h => ?_, fun h => h.fails []⟩
    by_cases hfaulty : Faulty environment
    · obtain ⟨first, hfirst⟩ := hfaulty.refuses
      obtain rfl : failure = first := Except.error.inj (h.symm.trans (hfirst.fails []))
      exact hfirst
    · obtain ⟨settings, hsettings, -⟩ := accepts_of_not_faulty hfaulty
      cases h.symm.trans hsettings
  refine ⟨hrefuses, ?_, accepts_of_not_faulty⟩
  constructor
  · rintro ⟨failure, h⟩
    exact ((hrefuses failure).1 h).faulty
  · intro h
    obtain ⟨failure, hfirst⟩ := h.refuses
    exact ⟨failure, (hrefuses failure).2 hfirst⟩

/-- Some variables: signs and blanks around what can be read, and a port out of its range. -/
def garbled : Variables := fun name =>
  [("WORKERS", " +3 "), ("port", "65536"), ("INGRESS_API_VERSION", "\textensions/v1beta1"),
    ("liveness_probe_period_seconds", "-5"), ("WATCH_NAMESPACE", " "),
    ("function_namespace", "functions")].lookup name

/-- The garbled variables are accepted, with the default port and one warning. -/
theorem of_variables_outcome_garbled : ∃ settings, ofVariables garbled = .ok settings ∧
    Accepts garbled settings ∧ settings.watchNamespace = none ∧ settings.workers = 3 ∧
    settings.port = 8081 ∧ settings.workload.liveness.period = -5 ∧
    warnings garbled = [warning "port" "65536"] := by
  have hsome : (ofVariables garbled).toOption.map (fun settings => (settings.watchNamespace,
      settings.workers, settings.port, settings.workload.liveness.period)) =
    some (none, 3, 8081, -5) := by decide
  have hfine : ¬Faulty garbled := by
    rw [← (of_variables_outcome garbled).2.1]
    rintro ⟨failure, h⟩
    rw [h] at hsome
    cases hsome
  obtain ⟨settings, hok, haccepts⟩ := (of_variables_outcome garbled).2.2 hfine
  rw [hok] at hsome
  obtain ⟨hwatch, hworkers, hport, hperiod⟩ : settings.watchNamespace = none ∧
      settings.workers = 3 ∧ settings.port = 8081 ∧ settings.workload.liveness.period = -5 := by
    simpa [Except.toOption] using hsome
  exact ⟨settings, hok, haccepts, hwatch, hworkers, hport, hperiod, rfl⟩

end FunctionOperator.Settings
