import AspectLoom.Data.Json
import AspectLoom.Data.Record
import AspectLoom.Data.Toml
import AspectLoom.Data.Yaml.Document
import AspectLoom.FileTree.Basic
import AspectLoom.Pointcut
/-!
Aspect specifications: advice types, each bound to one pointcut. The order of the bindings matters,
because the last pointcut that selects a reference governs it.
-/
namespace AspectLoom

structure AdviceBinding where
  advice : String
  pointcut : String
deriving DecidableEq, Repr, Inhabited

structure AspectSpec where
  /-- The file that declares the advice types. -/
  adviceSource : Option Path := none
  advicePackage : Option String := none
  aspects : List AdviceBinding := []
deriving Repr, Inhabited

inductive SpecFormat where
  | yaml
  | json
  | toml
deriving DecidableEq, Repr

inductive AspectError where
  | unknownFormat (path : Path)
  | undecodable (format : SpecFormat) (path : Option Path)
  | noAspects
  | invalidName (index : Nat) (name : String)
  | file (path : Path) (cause : FileError)
deriving Repr

namespace SpecFormat

def text : SpecFormat → String
  | yaml => "YAML"
  | json => "JSON"
  | toml => "TOML"

/-- The ending of a file name; a name that only starts with a dot has none. -/
def extension? (path : Path) : Option String := do
  let (stem, ending) ← Text.splitLast? '.' (← path.fileName?)
  if stem = "" then none else some ending

def ofPath? (path : Path) : Option SpecFormat :=
  match extension? path with
  | some "yaml" | some "yml" => some yaml
  | some "json" => some json
  | some "toml" => some toml
  | _ => none

def read (format : SpecFormat) (text : String) : Option Data :=
  match format with
  | yaml => Yaml.parse text
  | json => JsonText.parse text
  | toml => Toml.parse text

def rules : SpecFormat → Data.Rules
  | yaml => ⟨false, false⟩
  | json => ⟨true, false⟩
  | toml => ⟨true, true⟩

end SpecFormat

namespace AspectError

def message : AspectError → String
  | unknownFormat path =>
    "unsupported aspect specification format: " ++ path.text ++
      " (expected .yaml, .yml, .json or .toml)"
  | undecodable format path =>
    "invalid " ++ format.text ++ " aspect specification" ++
      match path with
      | some path => " in " ++ path.text
      | none => ""
  | noAspects => "aspect specification declares no aspects"
  | invalidName index name =>
    "aspect #" ++ toString index ++ ": '" ++ name ++ "' is not a valid Go identifier"
  | file path cause => "io error reading " ++ path.text ++ ": " ++ cause.message

/-- Names the file that a specification was read from. -/
def inFile (path : Path) : AspectError → AspectError
  | undecodable format _ => undecodable format (some path)
  | other => other

end AspectError

namespace AspectSpec

def defaultAdvicePackage : String := "agaspect"

def advicePackageName (spec : AspectSpec) : String :=
  spec.advicePackage.getD defaultAdvicePackage

/-- A letter or underscore, then letters, digits and underscores. -/
def isIdentifier (name : String) : Bool :=
  match name.toList with
  | [] => false
  | first :: rest =>
    (first == '_' || Unicode.isAlphabetic first) &&
      rest.all fun c => c == '_' || Unicode.isAlphanumeric c

def bindingOf (rules : Data.Rules) (data : Data) : Option AdviceBinding := do
  match ← data.asRecord rules ["advice", "pointcut"] with
  | [some advice, some pointcut] => return ⟨← advice.asText, ← pointcut.asText⟩
  | _ => none

def ofData (rules : Data.Rules) (data : Data) : Option AspectSpec := do
  match ← data.asRecord rules ["advice_source", "advice_package", "aspects"] with
  | [source, package, aspects] =>
    let source ← (source.getD .null).asOptionalText
    let package ← (package.getD .null).asOptionalText
    let aspects ← (aspects.getD (.list [])).asList
    return ⟨source.map Path.mk, package, ← aspects.mapM (bindingOf rules)⟩
  | _ => none

/-- The position and name of the first binding whose advice is no identifier. -/
def badName? (spec : AspectSpec) : Option (Nat × String) :=
  (spec.aspects.findIdx? fun binding => !isIdentifier binding.advice).bind fun index =>
    spec.aspects[index]?.map fun binding => (index, binding.advice)

def validate (spec : AspectSpec) : Except AspectError Unit := do
  if spec.aspects.isEmpty then throw .noAspects
  match spec.badName? with
  | some (index, name) => throw (.invalidName index name)
  | none => pure ()
  match spec.advicePackage with
  | some package => if isIdentifier package then pure () else throw (.invalidName 0 package)
  | none => pure ()

def parse (format : SpecFormat) (text : String) : Except AspectError AspectSpec := do
  match (format.read text).bind (ofData format.rules) with
  | none => throw (.undecodable format none)
  | some spec =>
    spec.validate
    return spec

/-- A relative advice source is relative to the directory of the specification. -/
def settle (path : Path) (spec : AspectSpec) : AspectSpec :=
  match spec.adviceSource, path.parent? with
  | some source, some dir => { spec with adviceSource := some (dir.join source) }
  | _, _ => spec

def load (tree : FileTree) (path : Path) : Except AspectError AspectSpec :=
  match SpecFormat.ofPath? path with
  | none => .error (.unknownFormat path)
  | some format =>
    match tree.readText path with
    | .error cause => .error (.file path cause)
    | .ok text =>
      match parse format text with
      | .ok spec => .ok (spec.settle path)
      | .error cause => .error (cause.inFile path)

/-- The finding for a binding whose pattern an earlier binding has, if one has it. -/
def duplicate? (earlier : List AdviceBinding) (binding : AdviceBinding) : Option Diagnostic :=
  (earlier.find? fun first => first.pointcut == binding.pointcut).map fun first =>
    .duplicatePattern binding.pointcut first.advice binding.advice

def compileFrom (earlier : List AdviceBinding) :
    List AdviceBinding → List Pointcut × List Diagnostic
  | [] => ([], [])
  | binding :: rest =>
    let (pointcut, finding) := Pointcut.compile earlier.length binding.advice binding.pointcut
    let (pointcuts, findings) := compileFrom (earlier ++ [binding]) rest
    (pointcut :: pointcuts,
      (duplicate? earlier binding).toList ++ finding.toList ++ findings)

/-- The pointcuts in order, with what is to be said about their patterns. -/
def pointcuts (spec : AspectSpec) : List Pointcut × List Diagnostic := compileFrom [] spec.aspects

end AspectSpec
end AspectLoom
