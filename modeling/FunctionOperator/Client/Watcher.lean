import FunctionOperator.Cache.Informer
import FunctionOperator.Client.Collection
import FunctionOperator.Text.Percent

/-!
# Watching a collection

A watcher lists a collection, page by page, and then watches it. Read `Watcher.receive` first: it
says which events a reply brings and what is asked for next. Any failure of a list starts the list
anew; a failed or ended watch is simply repeated. The lines of a watch count whatever the status of
their reply is.
-/

namespace FunctionOperator

/-- The metadata of a page. -/
structure PageMetadata where
  /-- The mark of the next page. -/
  next : Option String := none
  /-- The version of the list. -/
  resourceVersion : Option String := none

/-- A page of a list. -/
structure Page (α : Type) where
  /-- The metadata. -/
  metadata : PageMetadata
  /-- The objects. -/
  items : List α

namespace Page

/-- The codec of the metadata. -/
def metadataCodec : Codec PageMetadata :=
  (⟨{}, [
    .maybe "continue" .string (·.next) fun v r => { r with next := v },
    .ignored "remainingItemCount" .int64,
    .maybe "resourceVersion" .string (·.resourceVersion)
      fun v r => { r with resourceVersion := v },
    .ignored "selfLink" .string]⟩ : Record PageMetadata).opened

/-- The fields of a page. -/
def record {α : Type} (codec : Codec α) : Record (Page α) where
  blank := ⟨{}, []⟩
  fields := [
    .defaulted "metadata" metadataCodec (·.metadata) fun v r => { r with metadata := v },
    .required "items" (codec.list.orElse []) (·.items) fun v r => { r with items := v }]

/-- A text that is not empty. -/
def filled (text : Option String) : Option String := text.filter (· != "")

end Page

/-- One line of a watch. -/
inductive WatchLine (α : Type) where
  /-- An object was created or changed. -/
  | upserted (object : α)
  /-- An object was deleted. -/
  | deleted (object : α)
  /-- Everything up to a version was told. -/
  | marked (version : String)
  /-- The server reports a failure. -/
  | failed (refusal : Refusal)

namespace WatchLine

/-- The kinds of lines. -/
inductive Kind where
  /-- An object was created. -/
  | added
  /-- An object was changed. -/
  | modified
  /-- An object was deleted. -/
  | deleted
  /-- A version is told. -/
  | bookmark
  /-- A failure is told. -/
  | error
deriving DecidableEq

/-- The words for the kinds of lines. -/
def Kind.words : List (String × Kind) := [
  ("ADDED", .added), ("MODIFIED", .modified), ("DELETED", .deleted), ("BOOKMARK", .bookmark),
  ("ERROR", .error)]

/-- The version that a mark tells. -/
def markRecord : Record String where
  blank := ""
  fields := [
    .required "apiVersion" .string (fun _ => "") fun _ version => version,
    .required "kind" .string (fun _ => "") fun _ version => version,
    .required "metadata"
      (⟨"", [.required "resourceVersion" .string id fun version _ => version,
        .checked "annotations" .textMap]⟩ : Record String).closed id fun version _ => version]

/-- Reads what a line of a kind is about. -/
def readObject {α : Type} (codec : Codec α) (draft : Draft) : Kind → Except Cause (WatchLine α)
  | .added => (codec.read draft).map .upserted
  | .modified => (codec.read draft).map .upserted
  | .deleted => (codec.read draft).map .deleted
  | .bookmark => (markRecord.gathering.read draft).map .marked
  | .error => (Refusal.codec.read draft).map .failed

/-- The fields of a line: its kind, and what it is about. What comes before the kind is looked at as
a whole, because only the kind tells how to read it. -/
def record (kind : Codec Kind) : Record (Option Kind × Option Draft) where
  blank := (none, none)
  fields := [
    .required "type" kind (·.1.getD .error) fun kind line => (some kind, line.2),
    { name := "object", presence := .required
      read := fun draft line => do
        if line.1.isNone then draft.inspect
        return (line.1, some draft)
      write := fun _ => none }]

/-- Reads the parts of a line. In the list form the kind is a plain word. -/
def readParts : Draft → Except Cause (Option Kind × Option Draft)
  | .array items stop => (record (.word Kind.words)).closed.read (.array items stop)
  | draft => (record (.choice Kind.words)).closed.read draft

/-- Reads a line; nothing comes of a line that cannot be read. -/
def ofText? {α : Type} (codec : Codec α) (line : String) : Option (WatchLine α) :=
  match (Document.ofText line).read readParts with
  | .ok (some kind, some draft) => (readObject codec draft kind).toOption
  | _ => none

end WatchLine

/-- What a watcher asks for next. -/
inductive Watcher where
  /-- The first page of a list, or the one of a mark. -/
  | listing (next : Option String)
  /-- The changes since a version. -/
  | watching (version : String)
deriving DecidableEq

namespace Watcher

variable {α : Type} [HasMetadata α]

/-- What a watcher does when it starts, and whenever it has to start anew. -/
def restart : List (WatchEvent α) × Watcher := ([.listStarted], .listing none)

/-- The events of a page, and what is asked for after it. -/
def receivePage (page : Page α) : List (WatchEvent α) × Watcher :=
  let items := page.items.map WatchEvent.listed
  match Page.filled page.metadata.next, Page.filled page.metadata.resourceVersion with
  | some next, _ => (items, .listing (some next))
  | none, some version => (items ++ [.listCompleted], .watching version)
  | none, none => restart

/-- The version of an object, without which a watch cannot go on. -/
def versionOf? (object : α) : Option String :=
  Page.filled (HasMetadata.metadata object).resourceVersion

/-- The events of a watch's lines, and what is asked for after them. A version that is gone starts
the list anew, and what follows in the reply is dropped. -/
def receiveLines (version : String) :
    List (Option (WatchLine α)) → List (WatchEvent α) × Watcher
  | [] => ([], .watching version)
  | line :: lines =>
    let goOn (object : α) (event : WatchEvent α) :=
      match versionOf? object with
      | none => restart
      | some version =>
        let (events, next) := receiveLines version lines
        (event :: events, next)
    match line with
    | some (.upserted object) => goOn object (.applied object)
    | some (.deleted object) => goOn object (.deleted object)
    | some (.marked version) => receiveLines version lines
    | some (.failed refusal) =>
      if refusal.code = 410 then restart else receiveLines version lines
    | none => receiveLines version lines

/-- The events that a reply brings, and what is asked for next. -/
def receive (codec : Codec α) (watcher : Watcher) (answer : Except ApiFailure Reply) :
    List (WatchEvent α) × Watcher :=
  match watcher with
  | .listing _ =>
    match answer.bind fun reply => reply.decode (Page.record codec).gathering.read with
    | .ok page => receivePage page
    | .error _ => restart
  | .watching version =>
    match answer with
    | .ok reply => receiveLines version ((reply.body.splitOn "\n").map (WatchLine.ofText? codec))
    | .error _ => ([], .watching version)

/-- The events that a list of replies brings after the start. -/
def events (codec : Codec α) : Watcher → List (Except ApiFailure Reply) → List (WatchEvent α)
  | _, [] => []
  | watcher, answer :: answers =>
    let (first, watcher) := receive codec watcher answer
    first ++ events codec watcher answers

/-- The target of what a watcher asks for, in one namespace or in all. -/
def target (collection : Collection α) (space : Option String) (watcher : Watcher) : String :=
  let path := match space with
    | some space => collection.path space
    | none => Collection.root collection.apiVersion ++ "/" ++ collection.plural
  match watcher with
  | .listing none => path ++ "?limit=500"
  | .listing (some next) => path ++ "?limit=500&continue=" ++ Text.formEncoded next
  | .watching version => path ++ "?watch=true&resourceVersion=" ++ Text.formEncoded version

/-- Asks for what comes next, and tells the events of the answer. -/
def ask {σ : Type} (collection : Collection α) (space : Option String) (transport : Transport σ)
    (watcher : Watcher) (state : σ) : (List (WatchEvent α) × Watcher) × σ :=
  match ApiRequest.to? "GET" (watcher.target collection space) with
  | none => (watcher.receive collection.codec (.error .unbuildable), state)
  | some request =>
    let (answer, state) := transport request state
    (watcher.receive collection.codec answer, state)

end Watcher

namespace Informer

variable {α : Type} [HasMetadata α]

/-- Takes in a list of events and tells what has changed. -/
def processAll? (informer : Informer α) :
    List (WatchEvent α) → Option (List (Notification α) × Informer α)
  | [] => some ([], informer)
  | event :: events => do
    let (told, informer) ← informer.process? event
    let (more, informer) ← processAll? informer events
    return (told ++ more, informer)

/-- Lets an informer watch a collection whose server gives some replies and no more. -/
def watch? (codec : Codec α) (answers : List (Except ApiFailure Reply)) :
    Option (List (Notification α) × Informer α) :=
  (new : Informer α).processAll? (.listStarted :: Watcher.events codec (.listing none) answers)

end Informer

end FunctionOperator
