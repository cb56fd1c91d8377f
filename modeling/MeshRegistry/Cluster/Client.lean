import MeshRegistry.Cluster.Exchange
import MeshRegistry.Mesh.Session
/-!
# The mesh in a cluster

The calls of the mesh API as requests to the API server of a cluster. Entries live under the path
of their namespace; a namespace is created when it is missing, and it does not matter when
somebody else creates it in between.

## Main definitions

- `Cluster.perform`: a call as a conversation with the API server.
- `Cluster.api`: a cluster as an API.
-/

namespace MeshRegistry.Cluster

/-! ## Paths -/

/-- The path of the entries in a namespace. -/
def entriesPathIn (space : String) : String :=
  "/apis/" ++ ServiceEntry.apiVersion ++ "/namespaces/" ++ space ++ "/serviceentries"

/-- The path of an entry. -/
def entryPath (key : ObjectKey) : String := entriesPathIn key.space ++ "/" ++ key.name

/-- The path of all namespaces. -/
def spacesPath : String := "/api/v1/namespaces"

/-- The path of a namespace. -/
def spacePath (space : String) : String := spacesPath ++ "/" ++ space

/-! ## Objects other than entries -/

/-- The object of a namespace. -/
def spaceObject (space : String) : Json :=
  .obj [("apiVersion", .str "v1"), ("kind", .str "Namespace"),
    ("metadata", .obj [("name", .str space)])]

/-- A value that is null, or is read. -/
def orNull? {α : Type} (read : Json → Option α) (j : Json) : Option Unit :=
  (Json.orUnset? read j).map fun _ => ()

/-- Whether every known field of an object can be read. -/
def fieldsReadable (read : String → Json → Option Unit) : Json → Bool
  | .obj fields => fields.all fun f => (read f.1 f.2).isSome
  | _ => false

/-- The reading of an object by its fields. -/
def object? (read : String → Json → Option Unit) (j : Json) : Option Unit :=
  if fieldsReadable read j then some () else none

/-- The reading of a field that has one value only. -/
def only? (value : String) (j : Json) : Option Unit :=
  (Json.encoding.text? j).bind fun s => if s = value then some () else none

/-- The reading of a field of a condition of a namespace. -/
def condition? : Json → Option Unit :=
  object? fun
    | "lastTransitionTime" => orNull? Json.moment?
    | "message" => orNull? Json.encoding.text?
    | "reason" => orNull? Json.encoding.text?
    | "status" => orNull? Json.encoding.text?
    | "type" => orNull? Json.encoding.text?
    | _ => fun _ => some ()

/-- Whether a value is a namespace. -/
def isSpace : Json → Bool :=
  fieldsReadable fun
    | "apiVersion" => only? "v1"
    | "kind" => only? "Namespace"
    | "metadata" => orNull? (ObjectMeta.read? (Json.Origin.whole.inside 1))
    | "spec" => orNull? (object? fun
      | "finalizers" => orNull? (Json.listOf? Json.encoding.text?)
      | _ => fun _ => some ())
    | "status" => orNull? (object? fun
      | "conditions" => orNull? (Json.listOf? condition?)
      | "phase" => orNull? Json.encoding.text?
      | _ => fun _ => some ())
    | _ => fun _ => some ()

/-- A cause in the details of a status. -/
def cause? (j : Json) : Option Unit := do
  let r ← Json.encoding.record? (FieldName.plain ["reason", "message", "field"]) j
  let _ ← r.text "reason"
  let _ ← r.text "message"
  let _ ← r.text "field"

/-- The details of a status. -/
def details? (j : Json) : Option Unit := do
  let r ← Json.encoding.record?
    (FieldName.plain ["name", "group", "kind", "uid", "causes", "retryAfterSeconds"]) j
  let _ ← r.text "name"
  let _ ← r.text "group"
  let _ ← r.text "kind"
  let _ ← r.text "uid"
  let _ ← r.list "causes" cause?
  let _ ← r.orElse "retryAfterSeconds" 0 Json.encoding.word32?

/-- The outcome that a status names. -/
def outcome? (j : Json) : Option Unit :=
  (j.variant? .whole).bind fun s => if s = "Success" ∨ s = "Failure" then some () else none

/-- Whether a value can be read as a status. -/
def isStatus (j : Json) : Bool :=
  Option.isSome do
    let r ← Json.encoding.record?
      (FieldName.plain ["status", "code", "message", "reason", "details"]) j
    let _ ← r.optional "status" outcome?
    let _ ← r.orElse "code" 0 Json.word16?
    let _ ← r.text "message"
    let _ ← r.text "reason"
    r.optional "details" details?

/-- Whether a value says that it is a status. -/
def saysStatus (j : Json) : Bool := (j.get? "kind").bind Json.encoding.text? == some "Status"

/-- Whether the answer to a deletion can be read: it is a status or the removed entry. -/
def isDeletion (j : Json) : Bool :=
  j.isKeepable 0 && if saysStatus j then isStatus j else (ServiceEntry.ofJson? j).isSome

/-! ## Calls -/

variable {σ : Type}

/-- The body of the reply to a request, where the request can be made at all. -/
def ask (t : Transport σ) (method : HttpMethod) (target : String) (body : Option Json) (s : σ) :
    Except MeshError String × σ :=
  match ClusterRequest.to? method target body with
  | none => (.error .noAnswer, s)
  | some r =>
    let (reply, s) := t.send r s
    (ClusterReply.body? reply, s)

/-- What is read from a body. -/
def read? {α : Type} (read : Json → Option α) (body : String) : Except MeshError α :=
  match (Json.parse? body).bind read with
  | some a => .ok a
  | none => .error .noAnswer

/-- What is read from a body, or nothing when the object does not exist. -/
def readOrAbsent? {α : Type} (read : Json → Option α) :
    Except MeshError String → Except MeshError (Option α)
  | .ok body => (read? read body).map some
  | .error (.status code reason message) =>
    if reason = "NotFound" then .ok none else .error (.status code reason message)
  | .error e => .error e

/-- Whether a failure carries a code. -/
def hasCode (code : Nat) : MeshError → Bool
  | .status c _ _ => c == code
  | _ => false

/-- Fetch an entry. -/
def get (t : Transport σ) (key : ObjectKey) (s : σ) :
    Except MeshError (Option ServiceEntry) × σ :=
  if key.name = "" then (.error .noAnswer, s)
  else
    let (body, s) := ask t .get (entryPath key) none s
    (readOrAbsent? ServiceEntry.ofJson? body, s)

/-- Whether an entry has a name and a namespace. -/
def isNamed (e : ServiceEntry) : Bool := e.space != "" && e.name != ""

/-- Store a new entry. -/
def create (t : Transport σ) (e : ServiceEntry) (s : σ) : Except MeshError ServiceEntry × σ :=
  if isNamed e then
    let (body, s) := ask t .post (entriesPathIn e.space) (some e.toJson) s
    (body.bind (read? ServiceEntry.ofJson?), s)
  else (.error .unnamed, s)

/-- Replace an entry. -/
def update (t : Transport σ) (e : ServiceEntry) (s : σ) : Except MeshError ServiceEntry × σ :=
  if isNamed e then
    let (body, s) := ask t .put (entryPath e.key) (some e.toJson) s
    (body.bind (read? ServiceEntry.ofJson?), s)
  else (.error .unnamed, s)

/-- Remove an entry. -/
def delete (t : Transport σ) (key : ObjectKey) (s : σ) : Except MeshError Unit × σ :=
  if key.name = "" then (.error .noAnswer, s)
  else
    let (body, s) := ask t .delete (entryPath key) (some (.obj [])) s
    match body with
    | .ok body => (read? (fun j => if isDeletion j then some () else none) body, s)
    -- Here the code decides; where an object is fetched, the reason does.
    | .error e => (.error (if hasCode 404 e then .notFound .entry key else e), s)

/-- What is read from a namespace. -/
def space? (j : Json) : Option Unit := if isSpace j then some () else none

/-- Create a namespace unless it exists. -/
def ensureSpace (t : Transport σ) (space : String) (s : σ) : Except MeshError Unit × σ :=
  if space = "" then (.error .noAnswer, s)
  else
    let (body, s) := ask t .get (spacePath space) none s
    match readOrAbsent? space? body with
    | .error e => (.error e, s)
    | .ok (some ()) => (.ok (), s)
    | .ok none =>
      let (body, s) := ask t .post spacesPath (some (spaceObject space)) s
      match body with
      | .ok body => (read? space? body, s)
      -- Somebody else has created it in between.
      | .error e => (if hasCode 409 e then .ok () else .error e, s)

/-- The result of a call and the state of the network after it. -/
def perform (t : Transport σ) (c : Call) (s : σ) : c.Result × σ :=
  match c with
  | .get key => get t key s
  | .create e => create t e s
  | .update e => update t e s
  | .delete key => delete t key s
  | .ensureSpace space => ensureSpace t space s

/-- A cluster as an API, with the ownership model that follows it. -/
def api (t : Transport σ) (ownership : σ → OwnershipModel) : MeshApi σ where
  perform := perform t
  ownership := ownership

end MeshRegistry.Cluster
