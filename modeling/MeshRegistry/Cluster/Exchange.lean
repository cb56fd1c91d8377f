import MeshRegistry.Entry.Json
import MeshRegistry.Json.Parser
import MeshRegistry.Mesh.Error
import MeshRegistry.Net.Uri
/-!
# Requests to a cluster and their replies

The API server of a cluster is spoken to in JSON over HTTP. A reply is refused when its status
code is one of a failure; its body then says why, as a status object, or is passed on as it is. A
reply that is not refused is read as the object that was asked for.

What happens on the network is a parameter: a function from requests to replies, with a state of
its own, such as what is left of a script.

## Main definitions

- `ClusterRequest`, `ClusterReply`: what is sent and received.
- `Transport`: the network.
- `Refusal`: the reason that a cluster gives for a failure.
- `ClusterReply.body?`: the body of a reply that is not refused.
-/

namespace MeshRegistry

/-! ## What is sent and received -/

/-- What a request does. -/
inductive HttpMethod where
  /-- Read an object or a list. -/
  | get
  /-- Create an object. -/
  | post
  /-- Replace an object. -/
  | put
  /-- Remove an object. -/
  | delete
deriving DecidableEq, Repr

/-- The name of a method. -/
def HttpMethod.text : HttpMethod → String
  | .get => "GET"
  | .post => "POST"
  | .put => "PUT"
  | .delete => "DELETE"

/-- A request. -/
structure ClusterRequest where
  /-- What the request does. -/
  method : HttpMethod
  /-- The path of the object or the list. -/
  path : String
  /-- The body, if there is one. -/
  body : Option Json := none

/-- A reply. -/
structure ClusterReply where
  /-- The status code. -/
  status : Nat
  /-- The body. -/
  body : String
deriving DecidableEq, Repr

/-- A network: how requests are answered, if at all. -/
structure Transport (σ : Type) where
  /-- The reply to a request, and the state of the network after it. -/
  send : ClusterRequest → σ → Option ClusterReply × σ

namespace ClusterRequest

/-- A request as JSON. -/
def toJson (r : ClusterRequest) : Json :=
  .obj [("method", .str r.method.text), ("path", .str r.path), ("body", r.body.getD .null)]

/-- The request for a target, which must be a path with an optional query. The query and anything
behind it is not part of the request's path. -/
def to? (method : HttpMethod) (target : String) (body : Option Json) : Option ClusterRequest :=
  let octets := Text.octets target
  if Uri.isPathAndQuery octets && decide (octets.length ≤ Uri.lengthLimit) then
    some
      { method, body,
        path := String.ofList (target.toList.takeWhile fun c => c != '?' && c != '#') }
  else none

end ClusterRequest

/-! ## Why a request is refused -/

/-- The reason that a cluster gives for a failure. -/
structure Refusal where
  /-- The outcome in one word. -/
  status : String
  /-- The reason in words. -/
  message : String := ""
  /-- The reason in one word. -/
  reason : String := ""
  /-- The number of the failure. -/
  code : Nat
deriving DecidableEq, Repr

/-- A natural number of 16 bits. -/
def Json.word16? (j : Json) : Option Nat := (Json.encoding.nat? j).filter (· < UInt16.size)

namespace Refusal

/-- The fields of a refusal. -/
def shape : List FieldName := FieldName.plain ["status", "message", "reason", "code"]

/-- The refusal that a value describes. -/
def ofJson? (j : Json) : Option Refusal := do
  let r ← Json.encoding.record? shape j
  let status ← r.required "status" Json.encoding.text?
  let message ← r.text "message"
  let reason ← r.text "reason"
  let code ← r.required "code" Json.word16?
  return { status, message, reason, code }

/-- The word for a refusal whose body says nothing. -/
def unreadableReason : String := "Failed to parse error data"

/-- The error of a reply that is refused. -/
def errorOf (status : Nat) (body : String) : MeshError :=
  match (Json.parse? body).bind ofJson? with
  | some r => .status r.code r.reason r.message
  | none => .status status unreadableReason (Text.shown body)

end Refusal

namespace ClusterReply

/-- Whether the status code is one of a failure, on either side. -/
def isRefused (r : ClusterReply) : Bool := 400 ≤ r.status && r.status < 600

/-- The body of a reply that is not refused. -/
def body? (reply : Option ClusterReply) : Except MeshError String :=
  match reply with
  | none => .error .noAnswer
  | some r => if r.isRefused then .error (Refusal.errorOf r.status r.body) else .ok r.body

end ClusterReply

end MeshRegistry
