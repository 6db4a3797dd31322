import FunctionOperator.Admin.Body
import FunctionOperator.Proofs.Resource.Revisions

/-!
# Values that are exchanged as texts

The operator exchanges specs with the cluster and bodies with the clients of the admin API. Read
`Exchanged` first, which lists the types of these values with their codecs, and `sparing`, which
lists their fields that are left out where they say no more than their absence. `read_written` says
of all types that a value is read back from its text, and of these fields when they are left out.

Every type has two lemmas that follow the fields of its record: `restores`, that a value is read
back, and `spares`, which of the fields are left out.
-/

namespace FunctionOperator

/-! ## Fields that are left out -/

/-- Whether a value says no more than its absence: nothing, the truth value that is meant without
one, an empty text or an empty list. An object with no members is none of these. -/
def Json.isBlank : Json → Bool
  | .null => true
  | .bool value => !value
  | .string value => value.isEmpty
  | .array items => items.isEmpty
  | .number _ | .object _ => false

namespace Field

variable {σ α : Type} {name : String} {codec : Codec α} {set : α → σ → σ}

/-- The field is written in the given form, and left out where this form is blank. -/
def Sparing (field : Field σ) (form : σ → Json) : Prop :=
  ∀ value, field.write value = if (form value).isBlank then none else some (form value)

/-- A field that is left out where what is written is blank is sparing. -/
theorem of_sparing {presence : Presence} {get : σ → α} {leaveOut : α → Bool}
    (h : ∀ value, leaveOut value = (codec.write value).isBlank) :
    (of name presence codec get set leaveOut).Sparing fun value => codec.write (get value) := by
  intro value
  show (if leaveOut (get value) then none else some _) = _
  rw [h]

/-- A field that is left out where it is absent is sparing if nothing else is blank. -/
theorem absent_sparing {presence : Presence} {get : σ → Option α} {set : Option α → σ → σ}
    (h : ∀ value, (codec.write value).isBlank = false) :
    (of name presence codec.option get set Option.isNone).Sparing fun value =>
      codec.option.write (get value) :=
  of_sparing fun
    | none => rfl
    | some value => (h value).symm

/-- Texts are left out where they are empty. -/
theorem text_sparing {get : σ → String} {set : String → σ → σ} :
    (omitted name .string get set String.isEmpty).Sparing fun value => .string (get value) :=
  of_sparing fun _ => rfl

/-- Truth values are left out where they are false. -/
theorem flag_sparing {get : σ → Bool} {set : Bool → σ → σ} :
    (omitted name .bool get set (!·)).Sparing fun value => .bool (get value) :=
  of_sparing fun _ => rfl

/-- Lists are left out where they are empty. -/
theorem list_sparing {get : σ → List α} {set : List α → σ → σ} :
    (omitted name codec.list get set List.isEmpty).Sparing fun value =>
      codec.list.write (get value) :=
  of_sparing fun _ => List.isEmpty_map.symm

end Field

namespace Record

variable {σ : Type}

/-- Some of the fields are sparing, each in a form. -/
inductive Spares : List (Field σ) → List (String × (σ → Json)) → Prop where
  /-- There are no more fields. -/
  | nil : Spares [] []
  /-- Nothing is said of the field. -/
  | skip {field fields forms} (h : Spares fields forms) : Spares (field :: fields) forms
  /-- The field is sparing. -/
  | sparing {field form fields forms} (hfield : field.Sparing form) (h : Spares fields forms) :
    Spares (field :: fields) ((field.name, form) :: forms)

/-- A form is that of a sparing field. -/
theorem Spares.mem {fields : List (Field σ)} {forms : List (String × (σ → Json))}
    (h : Spares fields forms) {form : String × (σ → Json)} (hform : form ∈ forms) :
    ∃ field ∈ fields, field.name = form.1 ∧ field.Sparing form.2 := by
  induction h with
  | nil => cases hform
  | skip _ ih =>
    obtain ⟨field, hfield, hname⟩ := ih hform
    exact ⟨field, List.mem_cons_of_mem _ hfield, hname⟩
  | sparing hsparing _ ih =>
    rcases List.mem_cons.1 hform with rfl | hform
    · exact ⟨_, List.mem_cons_self, rfl, hsparing⟩
    · obtain ⟨field, hfield, hname⟩ := ih hform
      exact ⟨field, List.mem_cons_of_mem _ hfield, hname⟩

/-- A sparing field is among the written members exactly if its form is not blank. -/
theorem Spares.get?_write {record : Record σ} {forms : List (String × (σ → Json))}
    (h : Spares record.fields forms) (hnames : (record.fields.map (·.name)).Nodup) (value : σ) :
    ∀ form ∈ forms, (record.write value).get? form.1 =
      if (form.2 value).isBlank then none else some (form.2 value) := by
  intro form hform
  obtain ⟨field, hfield, hname, hsparing⟩ := h.mem hform
  rw [← hname, ← hsparing value]
  exact lookup_written hnames value hfield

end Record

/-! ## Specs -/

namespace ObjectReference

/-- The fields that are left out, with the forms in which they are written otherwise. -/
def sparing : List (String × (ObjectReference → Json)) :=
  [("kind", fun reference => .string reference.kind)]

theorem spares : Record.Spares record.fields sparing :=
  .skip (.sparing Field.text_sparing .nil)

end ObjectReference

namespace FunctionIngressSpec

/-- The fields that are left out, with the forms in which they are written otherwise. -/
def sparing : List (String × (FunctionIngressSpec → Json)) := [
  ("functionNamespace", fun spec => .string spec.functionNamespace),
  ("path", fun spec => .string spec.path),
  ("ingressType", fun spec => .string spec.ingressType),
  ("tls", fun spec => TlsOptions.codec.option.write spec.tls),
  ("bypassGateway", fun spec => .bool spec.bypassGateway)]

theorem spares : Record.Spares record.fields sparing := by
  refine .skip (.skip ?_)
  refine .sparing Field.text_sparing (.sparing Field.text_sparing ?_)
  refine .sparing Field.text_sparing (.sparing (Field.absent_sparing fun _ => rfl) ?_)
  exact .sparing Field.flag_sparing .nil

end FunctionIngressSpec

namespace EarlierFunctionIngressSpec

/-- The fields that are left out, with the forms in which they are written otherwise. -/
def sparing : List (String × (EarlierFunctionIngressSpec → Json)) := [
  ("ingressType", fun spec => .string spec.ingressType),
  ("tls", fun spec => TlsOptions.codec.option.write spec.tls)]

theorem spares : Record.Spares record.fields sparing := by
  refine .skip (.skip ?_)
  exact .sparing Field.text_sparing (.sparing (Field.absent_sparing fun _ => rfl) .nil)

end EarlierFunctionIngressSpec

namespace FunctionResources

/-- The fields that are left out, with the forms in which they are written otherwise. -/
def sparing : List (String × (FunctionResources → Json)) := [
  ("memory", fun resources => .string resources.memory),
  ("cpu", fun resources => .string resources.cpu)]

theorem spares : Record.Spares record.fields sparing :=
  .sparing Field.text_sparing (.sparing Field.text_sparing .nil)

end FunctionResources

namespace FunctionSpec

/-- The fields that are left out, with the forms in which they are written otherwise. -/
def sparing : List (String × (FunctionSpec → Json)) := [
  ("replicas", fun spec => Codec.int32.option.write spec.replicas),
  ("handler", fun spec => .string spec.handler),
  ("annotations", fun spec => Codec.textMap.option.write spec.annotations),
  ("labels", fun spec => Codec.textMap.option.write spec.labels),
  ("environment", fun spec => Codec.textMap.option.write spec.environment),
  ("constraints", fun spec => Codec.string.list.write spec.constraints),
  ("secrets", fun spec => Codec.string.list.write spec.secrets),
  ("limits", fun spec => FunctionResources.codec.option.write spec.limits),
  ("requests", fun spec => FunctionResources.codec.option.write spec.requests),
  ("readOnlyRootFilesystem", fun spec => .bool spec.readOnlyRootFilesystem)]

theorem spares : Record.Spares record.fields sparing := by
  refine .skip (.skip ?_)
  refine .sparing (Field.absent_sparing fun _ => rfl) (.sparing Field.text_sparing ?_)
  refine .sparing (Field.absent_sparing fun _ => rfl) ?_
  refine .sparing (Field.absent_sparing fun _ => rfl) ?_
  refine .sparing (Field.absent_sparing fun _ => rfl) ?_
  refine .sparing Field.list_sparing (.sparing Field.list_sparing ?_)
  refine .sparing (Field.absent_sparing fun _ => rfl) ?_
  refine .sparing (Field.absent_sparing fun _ => rfl) ?_
  exact .sparing Field.flag_sparing .nil

end FunctionSpec

/-! ## Bodies of the admin API -/

/-- Maps of texts that may be absent are restored. -/
theorem Codec.option_text_map_restores (texts : Option TextMap) :
    Codec.textMap.option.Restores 1 texts :=
  option_restores fun _ _ => ⟨map_restores fun _ _ => string_restores 0 _, nofun⟩

/-- Lists of texts are restored. -/
theorem Codec.text_list_restores (texts : List String) : Codec.string.list.Restores 1 texts :=
  list_restores fun _ _ => string_restores 0 _

/-- Requests for a function are restored. -/
theorem DeploymentRequest.restores (request : DeploymentRequest) :
    DeploymentRequest.codec.Restores 2 request := by
  have hresources : ∀ resources : Option FunctionResources,
      FunctionResources.codec.option.Restores 1 resources := fun _ =>
    Codec.option_restores fun resources _ => ⟨resources.restores, nofun⟩
  refine Record.closed_restores (by decide) ?_
  refine .required (Codec.string_restores 1 _) ?_
  refine .required (Codec.string_restores 1 _) ?_
  refine .defaulted (Codec.string_restores 1 _) ?_
  refine .defaulted (Codec.map_restores fun _ _ => Codec.string_restores 0 _) ?_
  refine .defaulted (Codec.option_text_map_restores _) ?_
  refine .defaulted (Codec.option_text_map_restores _) ?_
  refine .defaulted (Codec.text_list_restores _) ?_
  refine .defaulted (Codec.text_list_restores _) ?_
  refine .defaulted (hresources _) ?_
  refine .defaulted (hresources _) ?_
  exact .defaulted (Codec.bool_restores 1 _) .nil

namespace FunctionStatus

/-- The numbers of replicas have 64 bits. -/
def InRange (status : FunctionStatus) : Prop :=
  status.replicas < 18_446_744_073_709_551_616 ∧
    status.availableReplicas < 18_446_744_073_709_551_616

/-- What a client is told about a function is restored. -/
theorem restores {status : FunctionStatus} (h : status.InRange) :
    FunctionStatus.codec.Restores 2 status := by
  have htexts : ∀ texts : TextMap, Codec.textMap.Restores 1 texts := fun _ =>
    Codec.map_restores fun _ _ => Codec.string_restores 0 _
  refine Record.closed_restores (by decide) ?_
  refine .required (Codec.string_restores 1 _) ?_
  refine .required (Codec.string_restores 1 _) ?_
  refine .required (Codec.string_restores 1 _) ?_
  refine .required (Codec.nat64_restores 1 h.1) ?_
  refine .required (Codec.nat64_restores 1 h.2) ?_
  refine .optional (fun texts _ => ⟨htexts texts, nofun⟩) rfl ?_
  exact .optional (fun texts _ => ⟨htexts texts, nofun⟩) rfl .nil

/-- The fields that are left out, with the forms in which they are written otherwise. -/
def sparing : List (String × (FunctionStatus → Json)) := [
  ("labels", fun status => Codec.textMap.option.write status.labels),
  ("annotations", fun status => Codec.textMap.option.write status.annotations)]

theorem spares : Record.Spares record.fields sparing := by
  refine .skip (.skip (.skip (.skip (.skip ?_))))
  refine .sparing (Field.absent_sparing fun _ => rfl) ?_
  exact .sparing (Field.absent_sparing fun _ => rfl) .nil

end FunctionStatus

/-- Requests for a deletion are restored. -/
theorem DeletionRequest.restores (request : DeletionRequest) :
    DeletionRequest.codec.Restores 1 request :=
  Record.closed_restores (show ["functionName"].Nodup by decide)
    (.required (Codec.string_restores 0 _) .nil)

namespace ScaleRequest

/-- The number of replicas has 64 bits. -/
def InRange (request : ScaleRequest) : Prop := request.replicas < 18_446_744_073_709_551_616

/-- Requests for a number of replicas are restored. -/
theorem restores {request : ScaleRequest} (h : request.InRange) :
    ScaleRequest.codec.Restores 1 request := by
  refine Record.closed_restores (by decide) ?_
  refine .defaulted (Codec.string_restores 0 _) ?_
  exact .required (Codec.nat64_restores 0 h) .nil

end ScaleRequest

/-- What was built is restored. -/
theorem ProviderVersion.restores (version : ProviderVersion) :
    ProviderVersion.codec.Restores 1 version := by
  refine Record.closed_restores (by decide) ?_
  refine .required (Codec.string_restores 0 _) ?_
  exact .required (Codec.string_restores 0 _) .nil

/-- What a client is told about the operator is restored. -/
theorem ProviderInfo.restores (info : ProviderInfo) : ProviderInfo.codec.Restores 2 info := by
  refine Record.closed_restores (by decide) ?_
  refine .required (Codec.string_restores 1 _) ?_
  refine .required (Codec.string_restores 1 _) ?_
  exact .required info.version.restores .nil

/-! ## All of them -/

/-- The types whose values are exchanged as texts. -/
inductive Exchanged where
  /-- Specs of function ingresses. -/
  | functionIngress
  /-- Specs of function ingresses of the earlier revision. -/
  | earlierFunctionIngress
  /-- Options for encryption. -/
  | tlsOptions
  /-- References to issuers. -/
  | reference
  /-- Specs of functions. -/
  | function
  /-- Quantities of resources. -/
  | resources
  /-- Requests for a function. -/
  | deployment
  /-- What a client is told about a function. -/
  | status
  /-- Requests for a deletion. -/
  | deletion
  /-- Requests for a number of replicas. -/
  | scale
  /-- What a client is told about the operator. -/
  | provider

namespace Exchanged

/-- The values of a type. -/
def Value : Exchanged → Type
  | functionIngress => FunctionIngressSpec
  | earlierFunctionIngress => EarlierFunctionIngressSpec
  | tlsOptions => TlsOptions
  | reference => ObjectReference
  | function => FunctionSpec
  | resources => FunctionResources
  | deployment => DeploymentRequest
  | status => FunctionStatus
  | deletion => DeletionRequest
  | scale => ScaleRequest
  | provider => ProviderInfo

/-- The codec of a type. -/
def codec : (type : Exchanged) → Codec type.Value
  | functionIngress => FunctionIngressSpec.codec
  | earlierFunctionIngress => EarlierFunctionIngressSpec.codec
  | tlsOptions => TlsOptions.codec
  | reference => ObjectReference.codec
  | function => FunctionSpec.codec
  | resources => FunctionResources.codec
  | deployment => DeploymentRequest.codec
  | status => FunctionStatus.codec
  | deletion => DeletionRequest.codec
  | scale => ScaleRequest.codec
  | provider => ProviderInfo.codec

/-- The whole numbers of a value have the bits that their fields have. -/
def InRange : (type : Exchanged) → type.Value → Prop
  | function, spec => FunctionSpec.InRange spec
  | status, told => FunctionStatus.InRange told
  | scale, request => ScaleRequest.InRange request
  | _, _ => True

/-- The fields of a type that are left out where they say no more than their absence, with the forms
in which they are written otherwise. -/
def sparing : (type : Exchanged) → List (String × (type.Value → Json))
  | functionIngress => FunctionIngressSpec.sparing
  | earlierFunctionIngress => EarlierFunctionIngressSpec.sparing
  | reference => ObjectReference.sparing
  | function => FunctionSpec.sparing
  | resources => FunctionResources.sparing
  | status => FunctionStatus.sparing
  | tlsOptions | deployment | deletion | scale | provider => []

/-- All values in range are restored, whatever their type. -/
theorem restores (type : Exchanged) {value : type.Value} (h : type.InRange value) :
    type.codec.Restores 3 value := by
  cases type with
  | functionIngress => exact FunctionIngressSpec.restores value
  | earlierFunctionIngress => exact EarlierFunctionIngressSpec.restores value
  | tlsOptions => exact (TlsOptions.restores value).mono (by decide)
  | reference => exact (ObjectReference.restores value).mono (by decide)
  | function => exact (FunctionSpec.restores h).mono (by decide)
  | resources => exact (FunctionResources.restores value).mono (by decide)
  | deployment => exact (DeploymentRequest.restores value).mono (by decide)
  | status => exact (FunctionStatus.restores h).mono (by decide)
  | deletion => exact (DeletionRequest.restores value).mono (by decide)
  | scale => exact (ScaleRequest.restores h).mono (by decide)
  | provider => exact (ProviderInfo.restores value).mono (by decide)

/-- The fields that may be left out are so exactly where they say no more than their absence. -/
theorem get?_sparing (type : Exchanged) (value : type.Value) :
    ∀ field ∈ type.sparing, (type.codec.write value).get? field.1 =
      if (field.2 value).isBlank then none else some (field.2 value) := by
  cases type with
  | functionIngress => exact FunctionIngressSpec.spares.get?_write (by decide) value
  | earlierFunctionIngress => exact EarlierFunctionIngressSpec.spares.get?_write (by decide) value
  | reference => exact ObjectReference.spares.get?_write (by decide) value
  | function => exact FunctionSpec.spares.get?_write (by decide) value
  | resources => exact FunctionResources.spares.get?_write (by decide) value
  | status => exact FunctionStatus.spares.get?_write (by decide) value
  | tlsOptions | deployment | deletion | scale | provider => nofun

/-- For every type whose values are exchanged as texts, a value whose whole numbers are in range is
read back from its text as it was. Of its fields those that say no more than their absence are left
out of the text, where the type has such fields. -/
theorem read_written (type : Exchanged) (value : type.Value) (h : type.InRange value) :
    (Document.ofText (type.codec.write value).render).read type.codec.read = .ok value ∧
      ∀ field ∈ type.sparing, (type.codec.write value).get? field.1 =
        if (field.2 value).isBlank then none else some (field.2 value) :=
  ⟨(type.restores h).of_text (by decide), type.get?_sparing value⟩

/-- A spec with fewer than no replicas, annotations of which there are none, no labels, no secrets,
and texts that have to be escaped. -/
def terse : FunctionSpec where
  name := "écho"
  image := "echo\n\"1\"\\"
  replicas := some (-2_147_483_648)
  annotations := some ∅
  labels := none
  environment := some (SortedMap.ofList [("", ""), ("\u0001", "\t𝄞")])
  secrets := []

/-- The terse spec is read back. No annotations and annotations of which there are none are kept
apart, and an empty list leaves no trace. -/
theorem read_written_terse :
    InRange .function terse ∧
      (Document.ofText (FunctionSpec.codec.write terse).render).read FunctionSpec.codec.read =
        .ok terse ∧
      (FunctionSpec.codec.write terse).get? "annotations" = some (.object []) ∧
      (FunctionSpec.codec.write terse).get? "labels" = none ∧
      (FunctionSpec.codec.write terse).get? "secrets" = none := by
  have hrange : InRange .function terse := by
    rintro _ ⟨⟩
    decide
  obtain ⟨hread, hfields⟩ := read_written .function terse hrange
  have hannotations := hfields _ (.tail _ (.tail _ (.head _)))
  have hlabels := hfields _ (.tail _ (.tail _ (.tail _ (.head _))))
  have hsecrets := hfields _ (.tail _ (.tail _ (.tail _ (.tail _ (.tail _ (.tail _ (.head _)))))))
  exact ⟨hrange, hread, hannotations, hlabels, hsecrets⟩

end Exchanged

end FunctionOperator
