import MeshRegistry.Mesh.Error
import MeshRegistry.Net.Uri
import MeshRegistry.Text.Pem
import MeshRegistry.Yaml.Tagged
/-!
# Descriptions of clusters

A file describes clusters, users, and contexts that join one of each with a namespace, and names
the context that is in use. What is needed of it is the address of the cluster and the namespace
of that context. A file of several documents is read as one: a later document adds what the
earlier ones do not have.

All of a description must have the right form, also the parts that are not needed here. Of the
cluster in use, the certificates must be readable and the address of the proxy must be one.

## Main definitions

- `ClusterFile.parse`: the description in a text.
- `ClusterFile.current`: the cluster of the context in use.
-/

namespace MeshRegistry

/-- How a cluster is reached. -/
structure ClusterAccess where
  /-- The address of the server. -/
  server : Option String
  /-- The certificates of authorities in base 64. -/
  authorityData : Option String
  /-- The name of a file with such certificates. -/
  authorityFile : Option String
  /-- The address of a proxy. -/
  proxy : Option String
deriving DecidableEq, Repr

/-- A cluster of a description. -/
structure NamedCluster where
  /-- The name of the cluster. -/
  name : String
  /-- How the cluster is reached. -/
  cluster : Option ClusterAccess
deriving DecidableEq, Repr

/-- The parts that a context joins. -/
structure ClusterContext where
  /-- The name of the cluster. -/
  cluster : String
  /-- The name of the user. -/
  user : Option String
  /-- The namespace. -/
  space : Option String
deriving DecidableEq, Repr

/-- A context of a description. -/
structure NamedContext where
  /-- The name of the context. -/
  name : String
  /-- The parts that it joins. -/
  context : Option ClusterContext
deriving DecidableEq, Repr

/-- A user of a description. -/
structure NamedUser where
  /-- The name of the user. -/
  name : String
deriving DecidableEq, Repr

/-- A description of clusters. -/
structure ClusterFile where
  /-- The clusters. -/
  clusters : List NamedCluster := []
  /-- The users. -/
  users : List NamedUser := []
  /-- The contexts. -/
  contexts : List NamedContext := []
  /-- The name of the context in use. -/
  currentContext : Option String := none
  /-- The kind of the description. -/
  kind : Option String := none
  /-- The version of the description's form. -/
  apiVersion : Option String := none
deriving DecidableEq, Repr

/-- The cluster that is in use. -/
structure ClusterTarget where
  /-- The address of the server. -/
  server : String
  /-- The namespace. -/
  space : String
deriving DecidableEq, Repr

namespace ClusterFile

/-! ## Reading -/

/-- The values of a description. -/
abbrev Value : Type := Yaml.TaggedValue

/-- How values of a description are read: without conversions. -/
def encoding : Encoding Value := Yaml.TaggedValue.encoding

/-- The fields of a record. -/
def record? (names : List String) (v : Value) : Option (Record Value) :=
  encoding.record? (FieldName.plain names) v

/-- A list that may be left out or null. -/
def listOrNull {α : Type} (r : Record Value) (name : String) (read : Value → Option α) :
    Option (List α) :=
  (r.optional name (encoding.list? read)).map (·.getD [])

/-- Texts that may be left out or null, by their names. -/
def texts? (r : Record Value) (names : List String) : Option (List (Option String)) :=
  names.mapM fun name => r.optional name encoding.text?

/-- Truth values that may be left out or null, by their names. -/
def flags? (r : Record Value) (names : List String) : Option (List (Option Bool)) :=
  names.mapM fun name => r.optional name encoding.flag?

/-- A table of texts. -/
def textTable? (v : Value) : Option (SortedMap String String) := encoding.map? encoding.text? v

/-- An extension: a name with any plain data. -/
def extension? (v : Value) : Option Unit := do
  let r ← record? ["name", "extension"] v
  let _ ← r.required "name" encoding.text?
  let data ← r.required "extension" some
  if data.isPlainData then return ()
  none

/-- The extensions of a record, if it has any. -/
def extensions? (r : Record Value) : Option (Option (List Unit)) :=
  r.optional "extensions" (encoding.list? extension?)

/-- The settings of a program that uses descriptions, which are not needed. -/
def preferences? (v : Value) : Option Unit := do
  let r ← record? ["colors", "extensions"] v
  let _ ← flags? r ["colors"]
  let _ ← extensions? r
  return ()

/-- How a cluster is reached. -/
def access? (v : Value) : Option ClusterAccess := do
  let r ← record?
    ["server", "insecure-skip-tls-verify", "certificate-authority", "certificate-authority-data",
      "proxy-url", "disable-compression", "tls-server-name", "extensions"] v
  let server ← r.optional "server" encoding.text?
  let authorityFile ← r.optional "certificate-authority" encoding.text?
  let authorityData ← r.optional "certificate-authority-data" encoding.text?
  let proxy ← r.optional "proxy-url" encoding.text?
  let _ ← texts? r ["tls-server-name"]
  let _ ← flags? r ["insecure-skip-tls-verify", "disable-compression"]
  let _ ← extensions? r
  return { server, authorityData, authorityFile, proxy }

/-- A cluster. -/
def cluster? (v : Value) : Option NamedCluster := do
  let r ← record? ["name", "cluster"] v
  let name ← r.required "name" encoding.text?
  let cluster ← r.optional "cluster" access?
  return { name, cluster }

/-- A provider of tokens for a user. -/
def provider? (v : Value) : Option Unit := do
  let r ← record? ["name", "config"] v
  let _ ← r.required "name" encoding.text?
  let _ ← r.orElse "config" .empty textTable?
  return ()

/-- When a program may ask a user for something. -/
def interaction? (v : Value) : Option Unit :=
  let modes := ["Never", "IfAvailable", "Always"]
  match v with
  | .text s => if modes.contains s then some () else none
  | .tagged mode content =>
    -- A tag may take the place of the text.
    match content.untag with
    | .null => if modes.contains mode then some () else none
    | _ => none
  | _ => none

/-- A program that signs a user in. -/
def program? (v : Value) : Option Unit := do
  let r ← record?
    ["apiVersion", "command", "args", "env", "interactiveMode", "provideClusterInfo"] v
  let _ ← texts? r ["apiVersion", "command"]
  let _ ← r.optional "args" (encoding.list? encoding.text?)
  let _ ← r.optional "env" (encoding.list? textTable?)
  let _ ← r.optional "interactiveMode" interaction?
  let _ ← r.orElse "provideClusterInfo" false encoding.flag?
  return ()

/-- How a user signs in. -/
def signIn? (v : Value) : Option Unit := do
  let plain := ["username", "password", "token", "tokenFile", "client-certificate",
    "client-certificate-data", "client-key", "client-key-data", "as"]
  let r ← record? (plain ++ ["as-groups", "auth-provider", "exec"]) v
  let _ ← texts? r plain
  let _ ← r.optional "as-groups" (encoding.list? encoding.text?)
  let _ ← r.optional "auth-provider" provider?
  let _ ← r.optional "exec" program?
  return ()

/-- A user. -/
def user? (v : Value) : Option NamedUser := do
  let r ← record? ["name", "user"] v
  let name ← r.required "name" encoding.text?
  let _ ← r.optional "user" signIn?
  return { name }

/-- The parts of a context. -/
def parts? (v : Value) : Option ClusterContext := do
  let r ← record? ["cluster", "user", "namespace", "extensions"] v
  let cluster ← r.required "cluster" encoding.text?
  let user ← r.optional "user" encoding.text?
  let space ← r.optional "namespace" encoding.text?
  let _ ← extensions? r
  return { cluster, user, space }

/-- A context. -/
def context? (v : Value) : Option NamedContext := do
  let r ← record? ["name", "context"] v
  let name ← r.required "name" encoding.text?
  let context ← r.optional "context" parts?
  return { name, context }

/-- The description that a value gives. -/
def read? (v : Value) : Option ClusterFile := do
  let r ← record?
    ["preferences", "clusters", "users", "contexts", "current-context", "extensions", "kind",
      "apiVersion"] v
  let _ ← r.optional "preferences" preferences?
  let clusters ← listOrNull r "clusters" cluster?
  let users ← listOrNull r "users" user?
  let contexts ← listOrNull r "contexts" context?
  let currentContext ← r.optional "current-context" encoding.text?
  let _ ← extensions? r
  let kind ← r.optional "kind" encoding.text?
  let apiVersion ← r.optional "apiVersion" encoding.text?
  return { clusters, users, contexts, currentContext, kind, apiVersion }

/-- A list with those items of another whose names it does not have. -/
def addMissing {α : Type} (name : α → String) (here more : List α) : List α :=
  here ++ more.filter fun a => !here.any fun b => name b == name a

/-- Whether two values agree as far as both are given. -/
def agree (a b : Option String) : Bool := a.isNone || b.isNone || a == b

/-- A description with what another one of the same kind and version has besides. -/
def merge? (f g : ClusterFile) : Option ClusterFile :=
  if agree f.kind g.kind && agree f.apiVersion g.apiVersion then
    some
      { clusters := addMissing NamedCluster.name f.clusters g.clusters
        users := addMissing NamedUser.name f.users g.users
        contexts := addMissing NamedContext.name f.contexts g.contexts
        currentContext := f.currentContext <|> g.currentContext
        kind := f.kind <|> g.kind
        apiVersion := f.apiVersion <|> g.apiVersion }
  else none

/-- The description in a text of one or more documents. An empty text describes nothing. -/
def parse (text : String) : Option ClusterFile := do
  let files ← (← Yaml.TaggedValue.documents? (Text.unmarked text)).mapM read?
  match files with
  | [] => return {}
  | f :: rest => rest.foldlM merge? f

/-! ## The context in use -/

/-- Whether the certificates of a cluster can be read. There is no file to read them from. -/
def hasReadableAuthority (c : ClusterAccess) : Bool :=
  match c.authorityData with
  | some data => ((Text.ofBase64? data.toList).bind Pem.sections?).isSome
  | none => c.authorityFile.isNone

/-- Whether the proxy of a cluster, where it has one, has an address. -/
def hasReadableProxy (c : ClusterAccess) : Bool :=
  match c.proxy with
  | none => true
  | some address => address == "" || (Uri.normal? address).isSome

/-- The cluster of the context in use. -/
def current? (f : ClusterFile) : Option ClusterTarget := do
  let name ← f.currentContext
  let context ← (f.contexts.find? fun c => c.name == name).bind NamedContext.context
  let cluster ← (f.clusters.find? fun c => c.name == context.cluster).bind NamedCluster.cluster
  let server ← cluster.server.bind Uri.normal?
  if !hasReadableAuthority cluster || !hasReadableProxy cluster then none
  return { server, space := context.space.getD "default" }

/-- The cluster that a file describes, if the file is there and can be used. -/
def target (content : Option String) : Except MeshError ClusterTarget :=
  match (content.bind parse).bind current? with
  | some t => .ok t
  | none => .error .badClusterFile

end ClusterFile

end MeshRegistry
