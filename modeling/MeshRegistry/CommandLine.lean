import MeshRegistry.Config.Layers
/-!
# The command line

The words after the program's name are options with a value, or flags without one. An option has
a long name and may have a letter; its value follows after an equals sign, as the next word, or
right behind the letter. Letters of flags can be joined. Nothing may be given twice, and there are
no words besides options. Some options can be given by variables of the environment instead.

An option whose value is still missing is only noticed at the next known option or at the end, so
a word that is not known in between is reported first.

## Main definitions

- `CommandLine`: what the words say.
- `UsageError`: why they say nothing.
- `CommandLine.parse`: the reading of the words and of the environment.
-/

namespace MeshRegistry

/-! ## Options and flags -/

/-- The options with a value. -/
inductive ValueOption where
  /-- The file of settings. -/
  | config
  /-- The file of registries. -/
  | registryConfig
  /-- The identity of the mesh. -/
  | meshId
  /-- The identity of the region. -/
  | regionId
  /-- The namespace for registries that name none. -/
  | space
  /-- The file that describes the mesh cluster. -/
  | kubeconfig
deriving DecidableEq, Repr

namespace ValueOption

/-- All options. -/
def all : List ValueOption := [config, registryConfig, meshId, regionId, space, kubeconfig]

/-- The long name of an option. -/
def name : ValueOption → String
  | config => "config"
  | registryConfig => "registry-config"
  | meshId => "mesh-id"
  | regionId => "region-id"
  | space => "namespace"
  | kubeconfig => "kubeconfig"

/-- The letter of an option. -/
def letter? : ValueOption → Option Char
  | config => some 'c'
  | space => some 'n'
  | _ => none

/-- The variable that stands in for an option. -/
def standIn? : ValueOption → Option String
  | config => some "MESHSYNC_CONFIG_FILE"
  | registryConfig => some "MESHSYNC_REGISTRY_CONFIG"
  | meshId => some "MESH_ID"
  | regionId => some "REGION_ID"
  | space => none
  | kubeconfig => none

/-- Whether the value of an option is a path, which must not be empty. -/
def isPath : ValueOption → Bool
  | config => true
  | registryConfig => true
  | kubeconfig => true
  | _ => false

end ValueOption

/-- The flags. -/
inductive Flag where
  /-- Log everything. -/
  | debug
  /-- Keep entries in memory. -/
  | dryRun
  /-- Show how the program is used. -/
  | help
  /-- Show the version of the program. -/
  | version
deriving DecidableEq, Repr

namespace Flag

/-- All flags. -/
def all : List Flag := [debug, dryRun, help, version]

/-- The long name of a flag. -/
def name : Flag → String
  | debug => "debug"
  | dryRun => "dry-run"
  | help => "help"
  | version => "version"

/-- The letter of a flag. -/
def letter? : Flag → Option Char
  | help => some 'h'
  | version => some 'V'
  | _ => none

end Flag

/-- Why a command line cannot be used. -/
inductive UsageError where
  /-- There is no such option. -/
  | unknown
  /-- An option has no value, or an empty one that must be a path. -/
  | badValue
  /-- An option is given twice. -/
  | repeated
  /-- A flag has a value. -/
  | needlessValue
  /-- Help is asked for. -/
  | help
  /-- The version is asked for. -/
  | version
deriving DecidableEq, Repr

/-! ## Reading words -/

/-- What has been read of a command line. -/
structure CommandLine.Reading where
  /-- The options with their values. -/
  values : List (ValueOption × String) := []
  /-- The flags. -/
  flags : List Flag := []
  /-- The last option, while it is not known whether a value follows. -/
  pending : Option (ValueOption × Option String) := none

namespace CommandLine.Reading

/-- The value of an option. -/
def value? (r : Reading) (o : ValueOption) : Option String :=
  (r.values.find? fun v => v.1 == o).map (·.2)

/-- Take in the value of an option. -/
def accept (r : Reading) (o : ValueOption) (v : String) : Except UsageError Reading :=
  if (r.value? o).isSome then .error .repeated
  else if o.isPath && v == "" then .error .badValue
  else .ok { r with values := r.values ++ [(o, v)] }

/-- Take in the option that was pending; it must have got its value by now. -/
def settle (r : Reading) : Except UsageError Reading :=
  match r.pending with
  | none => .ok r
  -- The option ended without its value.
  | some (_, none) => .error .badValue
  | some (o, some v) => accept { r with pending := none } o v

/-- Take in a flag. -/
def raise (r : Reading) (f : Flag) : Except UsageError Reading :=
  match f with
  | .help => .error .help
  | .version => .error .version
  | f => if r.flags.contains f then .error .repeated else .ok { r with flags := r.flags ++ [f] }

/-- A long name with what follows its equals sign, if there is one. -/
def long (r : Reading) (name : String) (attached : Option String) : Except UsageError Reading :=
  match ValueOption.all.find? fun o => o.name == name, Flag.all.find? fun f => f.name == name with
  | some o, _ => do
    let r ← r.settle
    match attached with
    | some v => r.accept o v
    | none => return { r with pending := some (o, none) }
  | none, some f =>
    match attached with
    | some _ => .error .needlessValue
    | none => r.settle.bind fun r => r.raise f
  | none, none => .error .unknown

/-- Letters behind a dash. The first option among them takes the rest as its value. -/
def letters (r : Reading) : List Char → Except UsageError Reading
  | [] => .ok r
  | c :: rest =>
    match ValueOption.all.find? fun o => o.letter? == some c,
        Flag.all.find? fun f => f.letter? == some c with
    | some o, _ => do
      let r ← r.settle
      match rest with
      | [] => return { r with pending := some (o, none) }
      -- The sign between a letter and its value may be left out.
      | '=' :: v => r.accept o (String.ofList v)
      | v => r.accept o (String.ofList v)
    | none, some f =>
      match r.settle.bind fun r => r.raise f with
      | .ok r => letters r rest
      | .error e => .error e
    | none, none => .error .unknown

/-- A word that is neither an option nor a flag: the value of the option before it. -/
def plain (r : Reading) (word : String) : Except UsageError Reading :=
  match r.pending with
  | some (o, none) => .ok { r with pending := some (o, some word) }
  | _ => .error .unknown

/-- One more word. -/
def take (r : Reading) (word : String) : Except UsageError Reading :=
  match word.toList with
  | '-' :: '-' :: cs =>
    match Text.cutFirst? '=' cs with
    | some (name, v) => r.long (String.ofList name) (some (String.ofList v))
    | none => r.long (String.ofList cs) none
  | '-' :: c :: cs => r.letters (c :: cs)
  | _ => r.plain word

/-- All words. Two dashes end the options, and nothing may follow them. -/
def takeAll (r : Reading) : List String → Except UsageError Reading
  | [] => r.settle
  | word :: rest =>
    if word = "--" then if rest = [] then r.settle else .error .unknown
    else
      match r.take word with
      | .ok r => takeAll r rest
      | .error e => .error e

/-- The variable for an option that is not given. -/
def takeVariable (env : Environment) (r : Reading) (o : ValueOption) :
    Except UsageError Reading :=
  match r.value? o, o.standIn?.bind env.get? with
  -- The words of the command line win over the environment.
  | none, some v => r.accept o v
  | _, _ => .ok r

end CommandLine.Reading

/-! ## What the words say -/

/-- What a command line says. -/
structure CommandLine where
  /-- The file of settings. -/
  config : Option String := none
  /-- The file of registries. -/
  registryConfig : Option String := none
  /-- The identity of the mesh. -/
  meshId : Option String := none
  /-- The identity of the region. -/
  regionId : Option String := none
  /-- The namespace for registries that name none. -/
  space : Option String := none
  /-- The file that describes the mesh cluster. -/
  kubeconfig : Option String := none
  /-- Whether everything is logged. -/
  debug : Bool := false
  /-- Whether entries are kept in memory. -/
  dryRun : Bool := false
deriving DecidableEq, Repr

namespace CommandLine

/-- The file of settings where none is named. -/
def defaultConfig : String := "/etc/meshsync/config.yaml"

/-- The file of settings. -/
def configPath (c : CommandLine) : String := c.config.getD defaultConfig

/-- What a reading says. -/
def ofReading (r : Reading) : CommandLine where
  config := r.value? .config
  registryConfig := r.value? .registryConfig
  meshId := r.value? .meshId
  regionId := r.value? .regionId
  space := r.value? .space
  kubeconfig := r.value? .kubeconfig
  debug := r.flags.contains .debug
  dryRun := r.flags.contains .dryRun

/-- The reading of the words of a command line, with the environment standing in for options that
are not given. -/
def parse (words : List String) (env : Environment) : Except UsageError CommandLine := do
  let r ← Reading.takeAll {} words
  let r ← ValueOption.all.foldlM (Reading.takeVariable env) r
  return ofReading r

end CommandLine

end MeshRegistry
