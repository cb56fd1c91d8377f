import MeshRegistry.Discovery.Backoff
import MeshRegistry.Discovery.NodeIdentity
import MeshRegistry.Discovery.Received
import MeshRegistry.Files
import MeshRegistry.Mesh.Apply
import MeshRegistry.Net.Uri
import MeshRegistry.Queue
import MeshRegistry.Wire.MeshConfig
/-!
# The discovery client

The client takes in the answers of a discovery server. Service entries become operations in a
bounded queue; the configuration of the mesh is kept and stored; of endpoints and routes only the
names are held. Each answer is acknowledged, and the first answer of each type is announced on a
second queue.

A resource whose version is the one last seen under its name is passed over. When the queue of
operations is full the client waits: `Handling.waiting` says what is left to be done, so that
whoever runs the client may receive an operation in between, or drop the rest.

## Main definitions

- `ClientConfig`, `DiscoveryClient`: the configuration and the state of a client.
- `DiscoveryClient.create`: a new client, or why there is none.
- `DiscoveryClient.handle`, `resume`: taking in an answer, and going on after waiting.
- `DiscoveryClient.acknowledgment`: the reply to an answer.
- `DiscoveryClient.close`: ending the two queues.
-/

namespace MeshRegistry

/-- How many announcements may wait. -/
def announcementCapacity : Nat := 100

/-- The configuration of a client. -/
structure ClientConfig where
  /-- The address of the server. -/
  address : String
  /-- The identity under which the client presents itself. -/
  identity : NodeIdentity
  /-- What the path of the stored mesh configuration begins with; nothing is stored when unset. -/
  cacheDir : Option String := none
  /-- How long to wait before reconnecting; a lost stream ends the client when unset. -/
  backoff : Option Backoff.Policy := some {}
  /-- How many operations may wait. -/
  queueCapacity : Nat := 50
deriving DecidableEq

/-- The configuration that settings describe, on a host with a given address. -/
def ClientConfig.ofSettings (hostAddress address : String) (s : DiscoverySettings) :
    ClientConfig where
  address
  identity := .ofSettings hostAddress s
  cacheDir := s.cacheDir.filter (· != "")
  backoff := if s.reconnect then some {} else none
  queueCapacity := max 1 s.queueCapacity.toNat

/-- Where the configuration of the mesh is stored. -/
def meshCachePath (cacheDir : String) : String := cacheDir ++ "_mesh.json"

/-- A client and what it has learnt. -/
structure DiscoveryClient where
  /-- The configuration. -/
  config : ClientConfig
  /-- The last version of each type. -/
  versions : SortedMap String String := .empty
  /-- The types of which there was an answer. -/
  received : List String := []
  /-- The types that have been announced. -/
  announced : List String := []
  /-- The version last seen under each name of a resource. -/
  resourceVersions : SortedMap String String := .empty
  /-- The names that are held of endpoints and of routes. -/
  held : SortedMap String (List String) := .empty
  /-- The configuration of the mesh. -/
  meshConfig : Option MeshConfig := none
  /-- The files in which the configuration of the mesh is stored. -/
  files : Files := {}
  /-- The operations that wait to be applied. -/
  operations : Queue EntryOp
  /-- The announcements of types; an empty one says that the client is closed. -/
  announcements : Queue String := ⟨announcementCapacity, [], true, true⟩
  /-- Whether the client is closed. -/
  closed : Bool := false

/-- How far the handling of an answer has come. -/
inductive Handling where
  /-- It is done, and this is the acknowledgment. -/
  | acknowledged (request : DiscoveryRequest)
  /-- The client is closed. -/
  | refused
  /-- An operation waits for room, and resources are left. -/
  | waiting (op : EntryOp) (rest : List Any)

namespace DiscoveryClient

/-- The address as it is connected to; blanks around it do not count. -/
def connectTo (address : String) : String := Uri.withScheme (Text.trim address)

/-- A text is an address that can be connected to. -/
def IsAddress (address : String) : Prop :=
  Text.trim address ≠ "" ∧ Uri.isAbsolute (connectTo address) = true

instance (address : String) : Decidable (IsAddress address) :=
  inferInstanceAs (Decidable (_ ∧ _))

/-- A new client, or why there is none. -/
def create (config : ClientConfig) (files : Files) : Except DiscoveryError DiscoveryClient :=
  if ¬ IsAddress config.address then .error .invalidAddress
  else if Queue.greatestCapacity < config.queueCapacity then .error .queueTooLong
  else .ok { config, files, operations := ⟨max 1 config.queueCapacity, [], true, true⟩ }

theorem create_eq_ok_iff {config : ClientConfig} {files : Files} {client : DiscoveryClient} :
    create config files = .ok client ↔
      IsAddress config.address ∧ config.queueCapacity ≤ Queue.greatestCapacity ∧
        client = { config, files, operations := ⟨max 1 config.queueCapacity, [], true, true⟩ } := by
  by_cases haddress : IsAddress config.address
  · by_cases hroom : config.queueCapacity ≤ Queue.greatestCapacity
    · simp [create, haddress, hroom, Nat.not_lt.mpr hroom, eq_comm]
    · simp [create, haddress, hroom, Nat.not_le.mp hroom]
  · simp [create, haddress]

theorem create_eq_queueTooLong_iff {config : ClientConfig} {files : Files} :
    create config files = .error .queueTooLong ↔
      IsAddress config.address ∧ Queue.greatestCapacity < config.queueCapacity := by
  by_cases haddress : IsAddress config.address
  · by_cases hlong : Queue.greatestCapacity < config.queueCapacity <;>
      simp [create, haddress, hlong]
  · simp [create, haddress]

/-! ## Requests -/

/-- The first request on a stream: service entries, under the client's identity. -/
def initialRequest (c : DiscoveryClient) (nonce : String) : DiscoveryRequest where
  node := some c.config.identity.node
  typeUrl := TypeUrl.serviceEntry
  responseNonce := nonce

/-- Whether the names of a type are held. -/
def holdsNames (typeUrl : String) : Bool := typeUrl == TypeUrl.endpoint || typeUrl == TypeUrl.route

/-- The reply to an answer. It lists the held names of the types of which names are held. -/
def acknowledgment (c : DiscoveryClient) (r : DiscoveryResponse) : DiscoveryRequest where
  versionInfo := r.versionInfo
  node := some c.config.identity.node
  resourceNames := if holdsNames r.typeUrl then (c.held.get? r.typeUrl).getD [] else []
  typeUrl := r.typeUrl
  responseNonce := r.nonce

/-! ## The parts of an answer -/

/-- Note that there was an answer of a type. -/
def noteReceived (c : DiscoveryClient) (typeUrl : String) : DiscoveryClient :=
  { c with received := c.received.insert typeUrl }

/-- Note the version of a type. -/
def noteVersion (c : DiscoveryClient) (typeUrl version : String) : DiscoveryClient :=
  { c with versions := c.versions.insert typeUrl version }

/-- Store the text of a configuration of the mesh. A failure is passed over. -/
def store (c : DiscoveryClient) (m : MeshConfig) : DiscoveryClient :=
  match c.config.cacheDir with
  | none => c
  | some dir => { c with files := (c.files.write? (meshCachePath dir) m.stored).getD c.files }

/-- Keep the configuration of the mesh in a resource. One that cannot be read counts as the
configuration without fields. -/
def keepMeshConfig (c : DiscoveryClient) (a : Any) : DiscoveryClient :=
  let m := (MeshConfig.decode? a.value).getD {}
  { c.store m with meshConfig := some m }

/-- The names of resources: those that can be read and are not empty, each once, in ascending
order. -/
def namesOf (resources : List Any) : List String :=
  let names := resources.filterMap fun a => (NamedResource.decode? a.value).map (·.name)
  (SortedMap.ofList ((names.filter (· != "")).map fun n => (n, ()))).keys

/-- Hold the names of resources of a type. -/
def holdNames (c : DiscoveryClient) (typeUrl : String) (resources : List Any) : DiscoveryClient :=
  { c with held := c.held.insert typeUrl (namesOf resources) }

/-- The operation that a resource gives rise to, and the client with its version noted. There is
none when the resource cannot be used or its version has been seen; an entry without endpoints is
to be deleted, and its version forgotten. -/
def consider (c : DiscoveryClient) (a : Any) : DiscoveryClient × Option EntryOp :=
  match McpResource.decode? a.value with
  | none => (c, none)
  | some r =>
    match r.metadata with
    | none => (c, none)
    | some m =>
      -- The version is compared before the body is read.
      if c.resourceVersions.get? m.name = some m.version then (c, none)
      else
        match translate r with
        | .error _ => (c, none)
        | .ok e =>
          if e.spec.endpoints = [] then
            -- Forgetting the version lets the same one bring the entry back.
            ({ c with resourceVersions := c.resourceVersions.erase m.name }, some (.delete e))
          else
            ({ c with resourceVersions := c.resourceVersions.insert m.name m.version },
              some (.upsert e))

/-- Announce a type at its first answer. The announcement is lost when there is no room. -/
def announce (c : DiscoveryClient) (typeUrl : String) : DiscoveryClient :=
  match TypeName.ofUrl? typeUrl with
  | none => c
  | some t =>
    if c.announced.contains t.url then c
    else
      { c with announced := c.announced ++ [t.url], announcements := c.announcements.offer t.url }

/-! ## Answers -/

/-- The end of handling an answer: its type is announced and it is acknowledged. -/
def finish (c : DiscoveryClient) (r : DiscoveryResponse) : DiscoveryClient × Handling :=
  let c := c.announce r.typeUrl
  (c, .acknowledged (c.acknowledgment r))

/-- Put operations of resources into the queue, as far as there is room, and finish. -/
def work (c : DiscoveryClient) (r : DiscoveryResponse) : List Any → DiscoveryClient × Handling
  | [] => c.finish r
  | a :: rest =>
    match c.consider a with
    | (c, none) => c.work r rest
    | (c, some op) =>
      match c.operations.room with
      | .free => { c with operations := c.operations.push op }.work r rest
      | .full => (c, .waiting op rest)
      | .gone => (c, .refused)

/-- Take in an answer. -/
def handle (c : DiscoveryClient) (r : DiscoveryResponse) : DiscoveryClient × Handling :=
  let c := c.noteReceived r.typeUrl
  if r.typeUrl = TypeUrl.meshConfig then
    match r.resources with
    | [] => c.finish r
    | a :: _ => (c.keepMeshConfig a).finish r
  else
    let c := c.noteVersion r.typeUrl r.versionInfo
    if holdsNames r.typeUrl then (c.holdNames r.typeUrl r.resources).finish r
    else if (TypeName.ofUrl? r.typeUrl).isSome then c.work r r.resources
    else c.finish r

/-- Go on with an answer after waiting for room. The operation that waits is accepted even if the
client has been closed in between. -/
def resume (c : DiscoveryClient) (r : DiscoveryResponse) (op : EntryOp) (rest : List Any) :
    DiscoveryClient × Handling :=
  match c.operations.roomForWaiting with
  | .free => { c with operations := c.operations.push op }.work r rest
  | .full => (c, .waiting op rest)
  | .gone => (c, .refused)

/-- Close the client: nothing is put into the queue of operations any more, and the end is
announced. Closing again does nothing. -/
def close (c : DiscoveryClient) : DiscoveryClient :=
  if c.closed then c
  else
    { c with
      closed := true
      operations := c.operations.dropSender
      announcements := c.announcements.offer "" }

end DiscoveryClient

end MeshRegistry
