import MeshRegistry.Cluster.Exchange
import MeshRegistry.Mesh.Informer
/-!
# Watching a cluster

The entries of a cluster are followed by listing them, page by page, and then watching their
changes from there on. A list that fails is asked for again from its start. A watch that ends is
started again where it stopped; when the cluster has forgotten that place, or an object comes
without a version, everything is listed again.

Replies are taken in the order in which they come: the first one answers the first list.

## Main definitions

- `ListPage.ofJson?`: a page of a list.
- `WatchLine.ofJson?`: a line of a watch.
- `watchEvents`: the events that a list of replies gives rise to.
-/

namespace MeshRegistry

/-! ## Pages and lines -/

/-- A page of a list. -/
structure ListPage where
  /-- The entries on the page. -/
  entries : List ServiceEntry
  /-- The version of the list. -/
  version : Option String
  /-- Where the next page begins, if there is one. -/
  next : Option String

namespace ListPage

/-- The metadata of a list, as far as they are used: its version and its next page. -/
structure Marks where
  /-- The version of the list. -/
  version : Option String := none
  /-- Where the next page begins. -/
  next : Option String := none

/-- The marks with one more field read. -/
def Marks.put? (m : Marks) : String × Json → Option Marks
  | ("resourceVersion", j) =>
    (Json.orUnset? Json.encoding.text? j).map fun version => { m with version }
  | ("continue", j) => (Json.orUnset? Json.encoding.text? j).map fun next => { m with next }
  | ("selfLink", j) => (Json.orUnset? Json.encoding.text? j).map fun _ => m
  | ("remainingItemCount", j) => (Json.orUnset? Json.int64? j).map fun _ => m
  | _ => some m

/-- The marks that a value describes. -/
def marks? : Json → Option Marks
  | .obj fields => fields.foldlM Marks.put? {}
  | _ => none

/-- The fields of a page that are read. -/
def shape : List FieldName := FieldName.plain ["metadata", "items"]

/-- Whether a field can be read: one that is passed over must hold a value that can be kept. -/
def isReadable (field : String × Json) : Bool :=
  shape.any (·.accepts field.1) || field.2.isKeepable 1

/-- The items of a page; null stands for none. -/
def items? : Json → Option (List ServiceEntry)
  | .null => some []
  | j => Json.listOf? (ServiceEntry.read? (Json.Origin.whole.inside 2)) j

/-- The page that a value describes. -/
def ofJson? : Json → Option ListPage
  | .obj fields => do
    if !fields.all isReadable then none
    let given ← Record.collect? shape fields
    let r : Record Json := ⟨Json.encoding, given⟩
    let marks ← r.orElse "metadata" {} marks?
    let entries ← r.required "items" items?
    return {
      entries
      version := marks.version.filter (· != "")
      next := marks.next.filter (· != "")
    }
  | _ => none

/-- The page in a reply; there is none when the reply cannot be used. -/
def ofReply? (r : ClusterReply) : Option ListPage := do
  let body ← (ClusterReply.body? (some r)).toOption
  let page ← (Json.parse? body).bind ofJson?
  -- Without a version there is nothing to watch from.
  if page.version.isNone && page.next.isNone then none else some page

end ListPage

/-- A line of a watch. -/
inductive WatchLine where
  /-- An entry was created or replaced. -/
  | changed (entry : ServiceEntry)
  /-- An entry was removed. -/
  | removed (entry : ServiceEntry)
  /-- The watch has failed. -/
  | failed (reason : Refusal)

namespace WatchLine

/-- The fields of a line. -/
def shape : List FieldName := FieldName.plain ["type", "object"]

/-- Whether the object of a line comes before its type. It is kept then until the type is known. -/
def isObjectFirst : Json → Bool
  | .obj fields =>
    (fields.find? fun f => f.1 == "type" || f.1 == "object").any fun f => f.1 == "object"
  | _ => false

/-- The reading of the object of a line. -/
def object? {α : Type} (j : Json) (read : Json.Origin → Json → Option α) (object : Json) :
    Option α :=
  if isObjectFirst j then
    if object.isKeepable 1 then read .kept object else none
  else read (Json.Origin.whole.inside 1) object

/-- The line that a value describes. Marks of progress are not lines, as nothing follows from
them. -/
def ofJson? (j : Json) : Option WatchLine := do
  let r ← Json.encoding.record? shape j
  let type ← r.required "type" (Json.variant? .whole)
  match type with
  | "ADDED" => (r.required "object" (object? j ServiceEntry.read?)).map changed
  | "MODIFIED" => (r.required "object" (object? j ServiceEntry.read?)).map changed
  | "DELETED" => (r.required "object" (object? j ServiceEntry.read?)).map removed
  | "ERROR" => (r.required "object" (object? j fun _ => Refusal.ofJson?)).map failed
  | _ => none

end WatchLine

/-- Whether an entry carries a version. -/
def ServiceEntry.isVersioned (e : ServiceEntry) : Bool :=
  e.metadata.resourceVersion.any (· != "")

/-- The number that says that a version is forgotten. -/
def forgottenCode : Nat := 410

/-- The events of the lines of a watch, and whether everything has to be listed again; the lines
after such a point are lost. What cannot be read is passed over. -/
def lineEvents : List String → List WatchEvent × Bool
  | [] => ([], false)
  | line :: rest =>
    match (Json.parse? line).bind WatchLine.ofJson? with
    | none => lineEvents rest
    | some (.changed e) =>
      if e.isVersioned then
        let (events, again) := lineEvents rest
        (.apply e :: events, again)
      else ([], true)
    | some (.removed e) =>
      if e.isVersioned then
        let (events, again) := lineEvents rest
        (.delete e :: events, again)
      else ([], true)
    | some (.failed reason) =>
      -- Other failures leave the watch as it is.
      if reason.code = forgottenCode then ([], true) else lineEvents rest

/-! ## From replies to events -/

/-- What the next reply is an answer to. -/
inductive WatchPhase where
  /-- A list, from its beginning. -/
  | listing
  /-- A further page of a list. -/
  | paging
  /-- A watch. -/
  | watching
deriving DecidableEq, Repr

/-- The events of one reply, and what the next one will be an answer to. -/
def replyEvents (phase : WatchPhase) (r : ClusterReply) : List WatchEvent × WatchPhase :=
  match phase with
  | .watching =>
    let (events, again) := lineEvents (Text.split '\n' r.body)
    (events, if again then .listing else .watching)
  | _ =>
    match ListPage.ofReply? r with
    | none => ([], .listing)
    | some page =>
      let shown := page.entries.map WatchEvent.initApply
      if page.next.isSome then (shown, .paging) else (shown ++ [.initDone], .watching)

/-- The events that a list of replies gives rise to. A list is announced before it is asked
for. -/
def watchEvents (phase : WatchPhase) : List ClusterReply → List WatchEvent
  | [] => if phase = .listing then [.init] else []
  | r :: rest =>
    let (events, next) := replyEvents phase r
    (if phase = .listing then [WatchEvent.init] else []) ++ events ++ watchEvents next rest

end MeshRegistry
