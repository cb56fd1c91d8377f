import MeshRegistry.Discovery.Client
/-!
# Running a discovery client

A client connects, sends its first request, and takes in the answers of the server until the
stream ends. Without a policy for reconnecting the client is then closed; with one it connects
again. On the other side of the queue somebody receives operations: whenever the client waits for
room, the oldest operation is received first.

A watcher receives operations by applying them to a mesh, and applies what is left once the client
is closed.

## Main definitions

- `Connection`: what comes of an attempt to connect.
- `StreamRun`: a client, the requests it has sent, and the receiving side.
- `StreamRun.run`: the client run over some attempts to connect.
- `StreamWatcher`: a client whose operations are applied to a mesh.
-/

namespace MeshRegistry

/-- What comes of an attempt to connect. -/
inductive Connection where
  /-- There is no stream. -/
  | refused
  /-- There is a stream with some answers. -/
  | opened (answers : List DiscoveryResponse)

/-- A client that is run, and the receiving side of its operations. -/
structure StreamRun (σ : Type) where
  /-- The client. -/
  client : DiscoveryClient
  /-- The receiving side. -/
  receiver : σ
  /-- The requests that have been sent, stream by stream. -/
  sent : List (List DiscoveryRequest) := []

namespace StreamRun

variable {σ : Type}

/-- The run after the oldest waiting operation is received, if there is one. -/
def receive (take : EntryOp → σ → σ) (s : StreamRun σ) : StreamRun σ :=
  match s.client.operations.pop? with
  | none => s
  | some (op, operations) =>
    { s with client := { s.client with operations }, receiver := take op s.receiver }

/-- The run after all waiting operations are received. -/
def receiveAll (take : EntryOp → σ → σ) (s : StreamRun σ) : StreamRun σ :=
  { s with
    client := { s.client with operations := s.client.operations.drained }
    receiver := s.client.operations.items.foldl (fun r op => take op r) s.receiver }

/-- Bring the handling of an answer to its end: while it waits, an operation is received. Each
wait leaves fewer resources, so their number bounds the waits. -/
def settle (take : EntryOp → σ → σ) (r : DiscoveryResponse) :
    Nat → StreamRun σ → Handling → StreamRun σ × Option DiscoveryRequest
  | _, s, .acknowledged request => (s, some request)
  | _, s, .refused => (s, none)
  | 0, s, .waiting _ _ => (s, none)
  | n + 1, s, .waiting op rest =>
    let s := s.receive take
    let (client, h) := s.client.resume r op rest
    settle take r n { s with client } h

/-- The run over the answers of a stream: whether the client is still open, and the
acknowledgments. -/
def answers (take : EntryOp → σ → σ) :
    List DiscoveryResponse → StreamRun σ → StreamRun σ × Bool × List DiscoveryRequest
  | [], s => (s, true, [])
  | r :: rest, s =>
    let (client, h) := s.client.handle r
    match settle take r (r.resources.length + 1) { s with client } h with
    | (s, none) => (s, false, [])
    | (s, some request) =>
      let (s, isOpen, requests) := answers take rest s
      (s, isOpen, request :: requests)

/-- The run over attempts to connect. After an attempt the next one is only made by a client that
is open and reconnects; at the end the client is closed. -/
def run (take : EntryOp → σ → σ) : List Connection → StreamRun σ → StreamRun σ
  | [], s => { s with client := s.client.close }
  | .refused :: rest, s =>
    if s.client.config.backoff.isSome then run take rest s
    else { s with client := s.client.close }
  | .opened as :: rest, s =>
    let (s, isOpen, requests) := s.answers take as
    let s := { s with sent := s.sent ++ [s.client.initialRequest "" :: requests] }
    -- A client that was refused room is not connected again.
    if isOpen && s.client.config.backoff.isSome then run take rest s
    else { s with client := s.client.close }

end StreamRun

/-- A client whose operations are applied to a mesh. -/
structure StreamWatcher where
  /-- The client. -/
  client : DiscoveryClient
  /-- The namespace of entries that name none. -/
  targetSpace : String

namespace StreamWatcher

/-- Watchers have no cache of hosts and no prefix of their own. -/
def hostPrefix : String := ""

/-- The mesh after an operation is applied to it. A failure is passed over. -/
def applyTo {σ : Type} (api : MeshApi σ) (op : EntryOp) (mesh : σ) : σ :=
  (op.apply.run api mesh).2

/-- The watcher run over attempts to connect: what was sent, the client and the mesh. -/
def run {σ : Type} (w : StreamWatcher) (api : MeshApi σ) (connections : List Connection)
    (mesh : σ) : StreamRun σ :=
  ((StreamRun.mk w.client mesh []).run (applyTo api) connections).receiveAll (applyTo api)

end StreamWatcher

end MeshRegistry
