import MeshRegistry.Catalog.Instance
import MeshRegistry.Json.Parser
import MeshRegistry.Net.Url
import MeshRegistry.Text.Ranges
/-!
# The catalog client

A catalog is asked over HTTP, for the names of its services and for the instances of one service.
The list of services is asked for together with the last known index of the catalog: the answer is
held back until the catalog has changed or a waiting time has passed, and says which index it
shows.

What happens on the network is a parameter: a function from requests to replies.

## Main definitions

- `CatalogError`, `CatalogError.message?`: why the client fails, and how that is worded.
- `CatalogConfig`, `CatalogClient`: how a catalog is asked.
- `CatalogClient.create`: a client, or why there is none.
- `CatalogRequest`, `CatalogReply`: requests and replies.
- `Catalog`: what can be asked of a catalog.
- `CatalogClient.catalog`: the catalog behind a network.
-/

namespace MeshRegistry

/-! ## Errors -/

/-- Why the catalog client fails. -/
inductive CatalogError where
  /-- There was no answer, or its body cannot be read. -/
  | noAnswer
  /-- The catalog refused to answer. -/
  | status (code : Nat) (body : String)
  /-- The answer does not say which state of the catalog it shows. -/
  | invalidIndex (raw : String)
  /-- The address of the catalog is none. -/
  | invalidEndpoint (endpoint : String) (reason : Option AddressError)
  /-- The time limit of a request is longer than any span of time. -/
  | limitTooLong
deriving DecidableEq, Repr

namespace CatalogError

/-- How a failure is worded, where the wording is this library's. -/
def message? : CatalogError → Option String
  | .noAnswer => none
  | .status code body => some ("consul returned status " ++ toString code ++ ": " ++ body)
  | .invalidIndex raw => some ("invalid X-Consul-Index header: " ++ raw)
  | .invalidEndpoint endpoint none => some ("invalid consul endpoint: " ++ endpoint)
  | .invalidEndpoint endpoint (some reason) =>
    some ("invalid consul endpoint: " ++ endpoint ++ ": " ++ reason.message)
  | .limitTooLong => none

end CatalogError

/-! ## Requests and replies -/

/-- How a catalog is asked. -/
structure CatalogConfig where
  /-- The address of the catalog. -/
  endpoint : String
  /-- The namespace in the catalog; empty for the default one. -/
  space : String := ""
  /-- The access token. -/
  token : Option String := none
  /-- How long an answer may be held back, in milliseconds. -/
  wait : Nat := 5000
deriving DecidableEq, Repr

/-- A client of a catalog. -/
structure CatalogClient where
  /-- The address under which the catalog is asked. -/
  base : Url
  /-- How the catalog is asked. -/
  config : CatalogConfig
deriving DecidableEq, Repr

/-- A request. -/
structure CatalogRequest where
  /-- The address with the path of the request. -/
  url : Url
  /-- What is appended to the query, in order. -/
  query : List (String × String) := []
  /-- The access token. -/
  token : Option String := none
deriving DecidableEq, Repr

/-- A reply. -/
structure CatalogReply where
  /-- The status code. -/
  status : Nat := 200
  /-- The index of the catalog that is shown, by the codes of its octets. -/
  index : Option String := none
  /-- The body. -/
  body : String := ""
deriving DecidableEq, Repr

/-- The names of services with their tags. -/
abbrev ServiceNames : Type := SortedMap String (List String)

/-- What can be asked of a catalog. -/
structure Catalog where
  /-- The services and the index of the catalog, asked with the last known index. -/
  services : Nat → Except CatalogError (ServiceNames × Nat)
  /-- The instances of a service. -/
  instances : String → Except CatalogError (List ServiceInstance)

namespace CatalogClient

/-! ## Creating a client -/

/-- The web address of a catalog; blanks around it do not count, and it must have a host. -/
def address (endpoint : String) : Except CatalogError Url :=
  let endpoint := Text.trim endpoint
  if endpoint = "" then .error (.invalidEndpoint endpoint none)
  else
    let address :=
      if Text.occursIn "://".toList endpoint.toList then endpoint else "http://" ++ endpoint
    match Url.parse address with
    | .error reason => .error (.invalidEndpoint endpoint (some reason))
    | .ok url => if url.host.isNone then .error (.invalidEndpoint endpoint none) else .ok url

/-- The time limit of a request, in nanoseconds: the waiting time and a sixteenth of it, by which
the catalog spreads its answers, and ten seconds. -/
def timeLimit (wait : Nat) : Nat :=
  let nanos := wait * 1000000
  nanos + nanos / 16 + 10000000000

/-- No span of time is as long as this, in nanoseconds. -/
def spanBound : Nat := UInt64.size * 1000000000

/-- A client, or why there is none. -/
def create (config : CatalogConfig) : Except CatalogError CatalogClient := do
  let base ← address config.endpoint
  -- The time limit is a span of time, and there is none of this length.
  if timeLimit config.wait < spanBound then return { base, config } else throw .limitTooLong

/-! ## Requests -/

/-- A request for a path below the address of the catalog. -/
def request (c : CatalogClient) (path : List String) : CatalogRequest where
  url := c.base.extend path
  query := if c.config.space = "" then [] else [("ns", c.config.space)]
  token := c.config.token

/-- The request for the services. -/
def servicesRequest (c : CatalogClient) (index : Nat) : CatalogRequest :=
  let r := c.request ["v1", "catalog", "services"]
  { r with
    query := r.query ++ [("index", toString index), ("wait", toString c.config.wait ++ "ms")] }

/-- The request for the instances of a service. -/
def instancesRequest (c : CatalogClient) (service : String) : CatalogRequest :=
  c.request ["v1", "catalog", "service", service]

/-! ## Replies -/

/-- Whether a status code is one of success. -/
def isSuccess (status : Nat) : Bool := 200 ≤ status && status < 300

/-- The reply to a request, if it is one of success. -/
def successful (reply : Option CatalogReply) : Except CatalogError CatalogReply :=
  match reply with
  | none => .error .noAnswer
  | some r => if isSuccess r.status then .ok r else .error (.status r.status r.body)

/-- Whether a character shows in the value of a header. -/
def isVisible (c : Char) : Bool := (32 ≤ c.toNat && c.toNat < 127) || c == '\t'

/-- A header value between quotes, with the octets that do not show given in hexadecimal. -/
def shownHeader (s : String) : String :=
  let shown (c : Char) : List Char :=
    if c = '"' then ['\\', '"']
    else if isVisible c then [c]
    else '\\' :: 'x' :: Nat.toDigits 16 c.toNat
  String.ofList ('"' :: s.toList.flatMap shown ++ ['"'])

/-- The index in the header of a reply. -/
def indexOf (header : Option String) : Except CatalogError Nat :=
  match header with
  | none => .error (.invalidIndex "missing")
  | some raw =>
    if raw.toList.all isVisible then
      match Text.word64? raw with
      | some n => .ok n
      | none => .error (.invalidIndex raw)
    else .error (.invalidIndex (shownHeader raw))

/-- The services in the body of a reply. -/
def servicesOf (body : String) : Except CatalogError ServiceNames :=
  match (Json.parse? body).bind
      (Json.encoding.map? (Json.encoding.list? Json.encoding.text?)) with
  | some services => .ok services
  | none => .error .noAnswer

/-- The instances in the body of a reply. -/
def instancesOf (body : String) : Except CatalogError (List ServiceInstance) :=
  match (Json.parse? body).bind ServiceInstance.listOfJson? with
  | some instances => .ok instances
  | none => .error .noAnswer

/-- The catalog behind a network: how requests are answered, if at all. -/
def catalog (c : CatalogClient) (send : CatalogRequest → Option CatalogReply) : Catalog where
  services index := do
    let reply ← successful (send (c.servicesRequest index))
    -- The index is looked at before the body: without it the body is of no use.
    let index ← indexOf reply.index
    let services ← servicesOf reply.body
    return (services, index)
  instances service := do
    let reply ← successful (send (c.instancesRequest service))
    instancesOf reply.body

end CatalogClient

end MeshRegistry
