import AspectLoom.CommandLine.Arguments
import AspectLoom.Weave.Outcome
/-!
The command line: what it prints, its exit code, and the file tree that it leaves.
-/
namespace AspectLoom

/-! Chains of causes -/

def ConfigError.causes : ConfigError → List String
  | file _ cause => [cause.message]
  | _ => []

def AspectError.causes : AspectError → List String
  | file _ cause => [cause.message]
  | _ => []

def LoadError.causes : LoadError → List String
  | file _ cause => [cause.message]
  | _ => []

def OverlayError.causes : OverlayError → List String
  | file _ cause => [cause.message]
  | adviceUnit cause => cause.message :: cause.causes
  | outsideRoot .. => []

/-- What lies behind a failure, from the outside to the inside. -/
def WeaveError.causes : WeaveError → List String
  | configuration cause => cause.message :: cause.causes
  | aspect cause => cause.message :: cause.causes
  | load cause => cause.message :: cause.causes
  | unit cause => [cause.message]
  | overlay cause => cause.message :: cause.causes

/-! Outcomes as data -/

namespace JsonValue

def ofPath (path : Path) : JsonValue := .text path.text

def ofPaths (paths : List Path) : JsonValue := .list (paths.map ofPath)

end JsonValue

def SkipReason.text : SkipReason → String
  | aspectUnit => "aspect_unit"
  | written => "rewritten"
  | present => "exists"
  | overlayRoot => "overlay_root"

def ReconcileReport.toJson (report : ReconcileReport) : JsonValue :=
  .table [("linked", .ofPaths report.linked), ("recursed", .ofPaths report.recursed),
    ("skipped", .list (report.skipped.map fun (path, reason) =>
      .list [.ofPath path, .text reason.text]))]

def Location.toJson (location : Location) : JsonValue :=
  .table [("file", .ofPath location.file), ("line", .number location.line),
    ("column", .number location.column)]

def Diagnostic.toJson : Diagnostic → JsonValue
  | invalidPattern advice pattern =>
    .table [("kind", .text "invalid_pattern"), ("advice", .text advice),
      ("pattern", .text pattern)]
  | conflict location fullName overridden winner =>
    .table [("kind", .text "pointcut_conflict"), ("location", location.toJson),
      ("full_name", .text fullName), ("overridden", .text overridden), ("winner", .text winner)]
  | duplicatePattern pattern first second =>
    .table [("kind", .text "duplicate_pattern"), ("pattern", .text pattern),
      ("first", .text first), ("second", .text second)]

def WeaveOutcome.toJson (outcome : WeaveOutcome) : JsonValue :=
  .table [("written", .ofPaths outcome.written), ("report", outcome.report.toJson),
    ("diagnostics", .list (outcome.diagnostics.map Diagnostic.toJson)),
    ("join_points", .number outcome.joinPoints)]

def WeaveOutcome.summary (outcome : WeaveOutcome) : String :=
  if outcome.isNothingToDo then "nothing to do: no join points matched"
  else
    "woven " ++ toString outcome.joinPoints ++ " join points: " ++
      toString outcome.written.length ++ " files written, " ++
      toString outcome.report.linked.length ++ " links created"

/-! Replies -/

/-- What a run of the program prints, line by line, and how it ends. -/
structure Reply where
  exitCode : Nat
  output : List String := []
  errors : List String := []
deriving Repr, Inhabited

namespace Command

def versionText : String := "weave 0.1.0"

def helpText : List String :=
  ["Weave advice into Go sources through an overlay tree",
   "",
   "Usage: weave [OPTIONS] [ASPECT_FILE]...",
   "",
   "Arguments:",
   "  [ASPECT_FILE]...  Aspect specification (.yaml, .yml, .json or .toml)",
   "",
   "Options:",
   "      --target <PACKAGE>   Target package: import path or directory relative to the source " ++
     "root",
   "      --overlay <DIR>      Directory receiving the woven tree",
   "      --source-root <DIR>  Root of the original tree [env: WEAVE_SOURCE_ROOT, default: .]",
   "      --config <FILE>      TOML configuration file; flags override its values",
   "      --naming <naming>    Synthetic identifier scheme [possible values: sequential, content]",
   "      --json               Print the outcome as JSON",
   "      --debug              Verbose logging",
   "  -h, --help               Print help",
   "  -V, --version            Print version"]

/-- The settings that a file holds, or those where nothing is given. -/
def baseConfig (environmentRoot : Option String) (tree : FileTree) (file : Option Path) :
    Except (List String) WeaveConfig :=
  let base := WeaveConfig.default environmentRoot
  match file with
  | none => .ok base
  | some path =>
    match base.load tree path with
    | .ok config => .ok config
    | .error cause => .error (("loading " ++ path.text) :: cause.message :: cause.causes)

/-- Arguments win over other settings. -/
def override (arguments : Arguments) (config : WeaveConfig) : WeaveConfig :=
  { config with
    aspectFiles :=
      if arguments.aspectFiles.isEmpty then config.aspectFiles else arguments.aspectFiles
    target := arguments.target <|> config.target
    overlayRoot := arguments.overlay <|> config.overlayRoot
    sourceRoot := arguments.sourceRoot.getD config.sourceRoot
    naming := arguments.naming.getD config.naming }

/-- The paths that the arguments and settings name. -/
def paths (environmentRoot : Option String) (texts : List String) (tree : FileTree) : List Path :=
  match parse texts with
  | .ok (.weave arguments) =>
    arguments.configFile.toList ++
      match baseConfig environmentRoot tree arguments.configFile with
      | .ok config =>
        let config := override arguments config
        config.sourceRoot :: (config.overlayRoot.toList ++ config.aspectFiles)
      | .error _ => []
  | _ => []

def failed (chain : List String) : Reply where
  exitCode := 1
  errors := ["error: " ++ ": ".intercalate chain]

def succeeded (arguments : Arguments) (outcome : WeaveOutcome) : Reply where
  exitCode := 0
  output := [if arguments.json then outcome.toJson.pretty else outcome.summary]
  errors := outcome.diagnostics.map fun diagnostic => "warning: " ++ diagnostic.text

def runWeave (environmentRoot : Option String) (arguments : Arguments) (tree : FileTree) :
    Reply × FileTree :=
  match baseConfig environmentRoot tree arguments.configFile with
  | .error chain => (failed chain, tree)
  | .ok config =>
    match (Weave.run (override arguments config)).run.run tree with
    | (.ok outcome, tree) => (succeeded arguments outcome, tree)
    | (.error cause, tree) => (failed (cause.message :: cause.causes), tree)

/-- Runs the program with its arguments, where the environment can name the source root. -/
def run (environmentRoot : Option String) (texts : List String) (tree : FileTree) :
    Reply × FileTree :=
  match parse texts with
  | .error cause => (⟨2, [], ["error: " ++ cause.message]⟩, tree)
  | .ok .help => (⟨0, helpText, []⟩, tree)
  | .ok .version => (⟨0, [versionText], []⟩, tree)
  | .ok (.weave arguments) => runWeave environmentRoot arguments tree

end Command
end AspectLoom
