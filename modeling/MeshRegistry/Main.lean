import MeshRegistry.Config.Load
import MeshRegistry.Controller.Assembly
import MeshRegistry.Json.Printer
/-!
# The program

The program reads its command line, loads the configuration and shows the parts of the controller
that it describes. Whatever is wrong with them is reported, and the exit code tells of it.

## Main definitions

- `Program.outcome`: what is shown, and the exit code.
- `main`: the program.
-/

namespace MeshRegistry.Program

/-! ## What is shown -/

/-- What a run shows, and its exit code. -/
structure Outcome where
  /-- What is shown on the output. -/
  output : String := ""
  /-- What is shown as an error. -/
  error : String := ""
  /-- The exit code. -/
  code : UInt32 := 0

/-- How the program is used. -/
def usage : String :=
  "Usage: meshsync [OPTIONS]\n\n"
    ++ "  -c, --config <FILE>           Configuration file; missing files are ignored\n"
    ++ "      --registry-config <FILE>  JSON registry list\n"
    ++ "      --mesh-id <ID>            Identity of the mesh\n"
    ++ "      --region-id <ID>          Identity of the region\n"
    ++ "  -n, --namespace <NAME>        Namespace to publish into when a registry names none\n"
    ++ "      --kubeconfig <FILE>       Description of the mesh cluster\n"
    ++ "      --debug                   Log everything\n"
    ++ "      --dry-run                 Keep entries in memory\n"
    ++ "  -h, --help                    Show this help\n"
    ++ "  -V, --version                 Show the version\n"

/-- The name and version of the program. -/
def versionLine : String := "meshsync 0.1.0\n"

/-- What is wrong with a command line. -/
def usageMessage : UsageError → String
  | .unknown => "unexpected argument"
  | .badValue => "a value is required"
  | .repeated => "an argument cannot be used multiple times"
  | .needlessValue => "unexpected value for a flag"
  | .help => usage
  | .version => versionLine

/-- What is shown of a command line that cannot be used. -/
def ofUsageError : UsageError → Outcome
  | .help => { output := usage }
  | .version => { output := versionLine }
  | e => { error := "error: " ++ usageMessage e ++ "\n\n" ++ usage, code := 2 }

/-- An error with what is behind it. -/
def failed (message : String) (cause : Option String) : Outcome where
  error :=
    "Error: " ++ message ++ "\n"
      ++ match cause with
        | some c => "\nCaused by:\n    " ++ c ++ "\n"
        | none => ""
  code := 1

/-- The wording of what is behind an error of assembling. -/
def assemblyCause? : AssemblyError → Option String
  | .catalog _ cause => cause.message?
  | .stream _ cause => cause.message?

/-- What a run shows, given its words, its variables, its files and the address of its host. -/
def outcome (words : List String) (env : Environment) (files : Files) (hostAddress : String) :
    Outcome :=
  match CommandLine.parse words env with
  | .error e => ofUsageError e
  | .ok c =>
    match ControllerConfig.load c env files with
    | .error e => failed e.message (e.cause?.bind ConfigError.message?)
    | .ok config =>
      match config.assemble hostAddress files with
      | .error e => failed e.message (assemblyCause? e)
      | .ok a => { output := (Json.obj a.toFields).indented ++ "\n" }

/-- The paths of all files that a run may read. -/
def paths (words : List String) (env : Environment) : List String :=
  match CommandLine.parse words env with
  | .error _ => []
  | .ok c =>
    let config := c.configPath
    config :: SettingsFile.extensions.map (fun e => config ++ "." ++ e.1)
      ++ [c.registryConfig.getD ControllerConfig.defaultRegistryFile]

/-- The variables in a list of settings `name=value` that end with a null character. -/
def environmentOf (text : String) : Environment :=
  (Text.split '\x00' text).filterMap fun line =>
    (Text.cutFirst? '=' line.toList).map fun v => (String.ofList v.1, String.ofList v.2)

/-! ## The outside -/

/-- The content of a file, if it can be read as a text. -/
def contentOf (path : String) : IO (Option String) := do
  try return some (← IO.FS.readFile path) catch _ => return none

/-- The files under some paths. -/
def filesAt (paths : List String) : IO Files := do
  let found ← paths.filterMapM fun path => do
    return (← contentOf path).map fun content => (path, content)
  return .holding [""] found

end MeshRegistry.Program

open MeshRegistry in
/-- The program. -/
def main (words : List String) : IO UInt32 := do
  let env := Program.environmentOf ((← Program.contentOf "/proc/self/environ").getD "")
  let files ← Program.filesAt (Program.paths words env)
  let shown := Program.outcome words env files "127.0.0.1"
  IO.print shown.output
  IO.eprint shown.error
  return shown.code
