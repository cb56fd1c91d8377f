import MeshRegistry.CommandLine
import MeshRegistry.Config.Controller
import MeshRegistry.Files
import MeshRegistry.Text.Octets
/-!
# Loading the configuration

The configuration of a process is put together from a file, the environment and the command line,
each laid over the ones before. When no registry is configured, the list of registries is read
from a file of its own. The result is checked before it is used.

A file of settings may be missing. Its notation follows from the extension of its name; a file
whose extension stands for no notation does not count. When there is no file of the given name, an
extension is appended to it.

## Main definitions

- `SettingsFile.find?`: the file of settings among files.
- `SettingsFile.read?`: the settings in it.
- `LoadError`: why there is no configuration.
- `ControllerConfig.load`: the configuration of a process.
-/

namespace MeshRegistry

/-! ## The file of settings -/

/-- The notations of files of settings. -/
inductive Notation where
  /-- JSON. -/
  | json
  /-- YAML. -/
  | yaml
deriving DecidableEq, Repr

/-- A file of settings. -/
structure SettingsFile where
  /-- The notation of the file. -/
  form : Notation
  /-- The text in the file. -/
  content : String
deriving DecidableEq, Repr

namespace SettingsFile

/-- The extensions of file names, with their notations. -/
def extensions : List (String × Notation) := [("json", .json), ("yaml", .yaml), ("yml", .yaml)]

/-- The extension of a file name: what follows its last point, unless that begins the name. -/
def extensionOf (path : String) : String :=
  let name := (path.toList.reverse.takeWhile (· != '/'))
  let extension := name.takeWhile (· != '.')
  -- The name is reversed here, so a point at its end is one at the beginning.
  if extension.length + 1 < name.length then String.ofList extension.reverse else ""

/-- A path with an extension appended to its name, which a slash or a point behind it is no part
of. A path that leads up has no name. -/
def extended? (path extension : String) : Option String :=
  match (Text.split '/' path).reverse.dropWhile fun step => step == "" || step == "." with
  | [] => none
  | name :: before =>
    if name = ".." then none
    else some (Text.join "/" (before.reverse ++ [name ++ "." ++ extension]))

example : extended? "a/c.local" "json" = some "a/c.local.json" ∧
    extended? "/a/c/./" "yml" = some "/a/c.yml" ∧ extended? "a/.." "yml" = none := by
  decide +kernel

/-- The file of settings under a path, or under the path with an extension appended. -/
def find? (files : Files) (path : String) : Option SettingsFile :=
  match files.read? path with
  | some content =>
    (extensions.lookup (extensionOf path)).map fun form => { form, content }
  | none =>
    extensions.findSome? fun e => do
      let content ← files.read? (← extended? path e.1)
      return { form := e.2, content }

/-- The fields of a table, which is what a file of settings must hold. -/
def table? : Datum → Option Settings
  | .table fields => some fields
  | _ => none

/-- The settings in a file. An empty text in YAML has none. -/
def read? (f : SettingsFile) : Option Settings :=
  let text := Text.unmarked f.content
  match f.form with
  | .json => do
    let j ← Json.parse? text
    if j.isKeepable 0 then (Datum.ofJson? j).bind table? else none
  | .yaml => do
    match ← Yaml.Value.documents? text with
    | [] => return []
    | [document] => (Datum.ofYaml? document).bind table?
    | _ => none

end SettingsFile

/-! ## All settings -/

/-- Why there is no configuration. -/
inductive LoadError where
  /-- The file of settings cannot be read. -/
  | unreadableSources
  /-- The settings are not those of a controller. -/
  | malformed
  /-- The list of registries cannot be read. -/
  | registryFile (path : String) (cause : ConfigError)
  /-- The configuration is not acceptable. -/
  | unacceptable (cause : ConfigError)
deriving DecidableEq, Repr

namespace LoadError

/-- The wording of an error. -/
def message : LoadError → String
  | .unreadableSources => "failed to read configuration sources"
  | .malformed => "failed to parse configuration"
  | .registryFile path _ => "failed to load registry file " ++ path
  | .unacceptable _ => "invalid configuration"

/-- The error behind an error. -/
def cause? : LoadError → Option ConfigError
  | .registryFile _ cause => some cause
  | .unacceptable cause => some cause
  | _ => none

end LoadError

namespace CommandLine

/-- The settings of a command line. -/
def layer (c : CommandLine) : List (String × Datum) :=
  let text (name : String) (v : Option String) : List (String × Datum) :=
    (v.map fun s => (name, Datum.text s)).toList
  let flag (name : String) (raised : Bool) : List (String × Datum) :=
    if raised then [(name, .flag true)] else []
  text "mesh_id" c.meshId ++ text "region_id" c.regionId ++ text "namespace" c.space
    ++ text "kubeconfig" c.kubeconfig ++ flag "debug" c.debug ++ flag "dry_run" c.dryRun

end CommandLine

namespace ControllerConfig

/-- The file of registries where none is named. -/
def defaultRegistryFile : String := "/etc/istio/serviceregistry/RegistryConfig"

/-- The settings in the file of settings; there are none when it is missing. -/
def fileSettings (files : Files) (path : String) : Except LoadError Settings :=
  match SettingsFile.find? files path with
  | none => .ok []
  | some f =>
    match f.read? with
    | some settings => .ok (layOver [] settings)
    | none => .error .unreadableSources

/-- The configuration that the sources describe. -/
def ofSources (c : CommandLine) (env : Environment) (files : Files) :
    Except LoadError ControllerConfig := do
  let settings ← fileSettings files c.configPath
  let settings := layOver (layOver settings env.layer) c.layer
  match read? Datum.encoding (.table settings) with
  | some config => return config
  | none => throw .malformed

/-- The registries in the file of registries. -/
def registriesIn (files : Files) (path : String) : Except ConfigError (List RegistryConfig) :=
  match files.read? path with
  | some text => RegistryConfig.parseList text
  | none => .error .unreadable

/-- The configuration with the registries from their file, where it has none. The file may be
missing unless it is named. -/
def withRegistries (c : CommandLine) (files : Files) (config : ControllerConfig) :
    Except LoadError ControllerConfig :=
  let path := c.registryConfig.getD defaultRegistryFile
  if config.registries = [] ∧ (c.registryConfig.isSome ∨ (files.read? path).isSome) then
    match registriesIn files path with
    | .ok registries => .ok { config with registries }
    | .error e => .error (.registryFile path e)
  else .ok config

/-- The configuration of a process. -/
def load (c : CommandLine) (env : Environment) (files : Files) :
    Except LoadError ControllerConfig := do
  let config ← ofSources c env files
  let config ← withRegistries c files config
  let space := config.resolveSpace (env.get? "PUBLISH_NAMESPACE") (env.get? "POD_NAMESPACE")
  let config := { config with space }
  match config.validate with
  | .ok () => return config
  | .error e => throw (.unacceptable e)

end ControllerConfig

end MeshRegistry
