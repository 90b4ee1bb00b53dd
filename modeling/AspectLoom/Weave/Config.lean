import AspectLoom.Data.Record
import AspectLoom.Data.Toml
import AspectLoom.FileTree.Basic
import AspectLoom.Proxy.Imports
import AspectLoom.Proxy.Names
/-!
Settings of a weave, and what is checked about them before anything is read or written.
-/
namespace AspectLoom

structure WeaveConfig where
  sourceRoot : Path
  overlayRoot : Option Path := none
  target : Option String := none
  aspectFiles : List Path := []
  naming : NamingScheme := .sequential
  runtime : NamedImport := ({} : ProxyImports).runtime
  advicePackage : Option String := none
  adviceAlias : Option String := none
  aspectSuffix : String := "_aspect.go"
deriving Repr, Inhabited

inductive ConfigError where
  | missingTarget
  | missingAspectFile
  | multipleAspectFiles (count : Nat)
  | missingOverlay
  | overlayIsSource (path : Path)
  | invalidAspectSuffix (suffix : String)
  | unreadable (path : Path)
  | file (path : Path) (cause : FileError)
deriving Repr

namespace ConfigError

def message : ConfigError → String
  | missingTarget => "no target package given"
  | missingAspectFile => "no aspect specification file given"
  | multipleAspectFiles count =>
    "exactly one aspect specification file is supported, got " ++ toString count
  | missingOverlay => "no overlay directory given"
  | overlayIsSource path => "overlay directory " ++ path.text ++ " is the source root"
  | invalidAspectSuffix suffix =>
    "aspect unit suffix must end with .go, got " ++ Text.quoted suffix
  | unreadable path => "invalid configuration file " ++ path.text
  | file path cause => "io error reading " ++ path.text ++ ": " ++ cause.message

end ConfigError

namespace WeaveConfig

/-- The settings where nothing is given; the environment can name the source root. -/
def default (environmentRoot : Option String) : WeaveConfig :=
  match environmentRoot with
  | none | some "" => { sourceRoot := ⟨"."⟩ }
  | some root => { sourceRoot := ⟨root⟩ }

def rules : Data.Rules := ⟨true, true⟩

def settingNames : List String :=
  ["source_root", "overlay_root", "target", "aspect_files", "naming", "runtime_import",
   "runtime_alias", "advice_package", "advice_alias", "aspect_suffix"]

/-- A setting's value, or what it is by default. -/
def setting {α : Type} (read : Data → Option α) (default : α) (data : Option Data) : Option α :=
  match data with
  | some data => read data
  | none => some default

def isEmptyData : Data → Bool
  | .table entries => entries.isEmpty
  | .list items => items.isEmpty
  | _ => false

/-- A scheme by its name, which can also be the only key of a table without content. -/
def readNaming : Data → Option NamingScheme
  | .text name | .plain name => NamingScheme.ofText? name
  | .table [(name, content)] => if isEmptyData content then NamingScheme.ofText? name else none
  | _ => none

def readPath (data : Data) : Option Path := data.asText.map Path.mk

def readPaths (data : Data) : Option (List Path) := do (← data.asList).mapM readPath

def readOptional {α : Type} (wrap : String → α) (data : Data) : Option (Option α) :=
  data.asText.map fun text => some (wrap text)

/-- Settings over the given defaults. -/
def ofData (base : WeaveConfig) (data : Data) : Option WeaveConfig := do
  match ← data.asRecord rules settingNames with
  | [source, overlay, target, aspects, naming, runtime, runtimeAlias, package, adviceAlias, suffix] =>
    return {
      sourceRoot := ← setting readPath base.sourceRoot source
      overlayRoot := ← setting (readOptional Path.mk) base.overlayRoot overlay
      target := ← setting (readOptional id) base.target target
      aspectFiles := ← setting readPaths base.aspectFiles aspects
      naming := ← setting readNaming base.naming naming
      runtime :=
        { path := ← setting Data.asText base.runtime.path runtime
          «alias» := ← setting Data.asText base.runtime.alias runtimeAlias }
      advicePackage := ← setting (readOptional id) base.advicePackage package
      adviceAlias := ← setting (readOptional id) base.adviceAlias adviceAlias
      aspectSuffix := ← setting Data.asText base.aspectSuffix suffix }
  | _ => none

def load (base : WeaveConfig) (tree : FileTree) (path : Path) : Except ConfigError WeaveConfig :=
  match tree.readText path with
  | .error cause => .error (.file path cause)
  | .ok text =>
    match (Toml.parse text).bind (ofData base) with
    | some config => .ok config
    | none => .error (.unreadable path)

def isSuffix (text : String) : Bool := text.endsWith ".go" && text != ".go"

def validate (config : WeaveConfig) : Except ConfigError Unit := do
  if config.target.getD "" = "" then throw .missingTarget
  match config.aspectFiles with
  | [] => throw .missingAspectFile
  | [_] => pure ()
  | files => throw (.multipleAspectFiles files.length)
  match config.overlayRoot with
  | none => throw .missingOverlay
  | some root => if root == config.sourceRoot then throw (.overlayIsSource root)
  if !isSuffix config.aspectSuffix then throw (.invalidAspectSuffix config.aspectSuffix)

end WeaveConfig
end AspectLoom
