import AspectLoom.JoinPoint
import AspectLoom.Proxy.Pair
/-!
Woven units. In the text of a unit every join point is replaced by a call of its generator, the
innermost first, and the imports of the generated functions follow the package clause. All else
stays as it is.
-/
namespace AspectLoom

/-- Why a reference cannot be woven. -/
inductive WeaveFault where
  | unsupported (kind fullName : String)
  | functionBehindReceiver (fullName : String)
  | methodWithoutReceiver (fullName : String)
  | nameTaken (name : String)
  | unknownDeclaration (id : DeclId)
deriving DecidableEq, Repr

namespace WeaveFault

def unexpected (detail : String) : String := "unexpected reference shape: " ++ detail

def text : WeaveFault → String
  | unsupported kind fullName =>
    unexpected (kind ++ " referring to " ++ fullName ++ " cannot be woven")
  | functionBehindReceiver fullName =>
    unexpected ("function " ++ fullName ++ " referenced through a receiver expression")
  | methodWithoutReceiver fullName =>
    unexpected ("method " ++ fullName ++ " referenced without a receiver expression")
  | nameTaken name => "synthetic name " ++ name ++ " already issued in this weave"
  | unknownDeclaration id => "join point refers to unknown declaration #" ++ toString id

end WeaveFault

/-- A reference that cannot be woven. -/
structure UnitError where
  location : Location
  fault : WeaveFault
deriving Repr

def UnitError.message (error : UnitError) : String :=
  error.location.text ++ ": " ++ error.fault.text

/-- What goes from unit to unit in a weave. -/
structure WeaveSession where
  names : NameSession
  /-- The pairs that no woven unit has taken yet. -/
  pairs : List ProxyPair := []
deriving Inhabited

/-- What is known while a unit is woven. -/
structure UnitWeaver where
  package : TargetPackage
  unit : CompilationUnit
  imports : ProxyImports

structure UnitMemory where
  session : WeaveSession
  scope : ImportScope
deriving Inhabited

abbrev UnitM := ExceptT UnitError (StateM UnitMemory)

structure WovenUnit where
  unit : UnitId
  path : Path
  relativePath : Path
  body : String
  pairs : List ProxyPair
deriving Inhabited

namespace UnitWeaver

/-! Replacements -/

def isPlainChar (c : Char) : Bool := Unicode.isAlphanumeric c || c == '_' || c == '.'

/-- An operand that an operator can stand before. -/
def asOperand (text : String) : String :=
  if text.toList.all isPlainChar then text else "(" ++ text ++ ")"

/-- The receiver as the declaration has it: an address is taken or a pointer followed where the
operand's type asks for it. -/
def adaptReceiver (operand : String) (operandType receiver : GoType) : String :=
  if receiver.isPointer && !operandType.isPointer then "&" ++ asOperand operand
  else if !receiver.isPointer && operandType.isPointer then "*" ++ asOperand operand
  else operand

def errorAt (weaver : UnitWeaver) (point : JoinPoint) (fault : WeaveFault) : UnitError :=
  ⟨weaver.unit.location point.site.span.start, fault⟩

def nextNames (weaver : UnitWeaver) (point : JoinPoint) (fullName : String) :
    UnitM SyntheticNames := do
  let memory ← get
  let (outcome, names) :=
    memory.session.names.next weaver.unit.relativePath point.site.span fullName
  set { memory with session := { memory.session with names := names } }
  match outcome with
  | .ok names => return names
  | .error taken => throw (weaver.errorAt point (.nameTaken taken))

/-- Generates the pair of a join point. -/
def generate (weaver : UnitWeaver) (point : JoinPoint) (decl : Declaration) (callee : Callee)
    (names : SyntheticNames) : UnitM Unit :=
  modify fun memory =>
    let (signature, scope) := SpelledSignature.ofDeclaration memory.scope decl decl.receiver
    let pair := (Advised.mk signature point.advice callee names).pair weaver.imports
    ⟨{ memory.session with pairs := memory.session.pairs ++ [pair] }, scope⟩

/-- The call of a generator that replaces a join point. -/
def replacement (names : SyntheticNames) (receiver : String) : String :=
  "(" ++ names.generator ++ "(" ++ receiver ++ "))"

def call (weaver : UnitWeaver) (point : JoinPoint) (decl : Declaration) (callee : Callee)
    (receiver : String) : UnitM String := do
  let names ← weaver.nextNames point decl.fullName
  weaver.generate point decl callee names
  return replacement names receiver

/-- The join points that begin before a join point ends, when those that follow it are in order. -/
def nestedIn (point : JoinPoint) (rest : List JoinPoint) : List JoinPoint :=
  rest.takeWhile fun other => other.site.span.start < point.site.span.stop

/-- The join points that follow a join point and all that is nested in it. -/
def after (point : JoinPoint) (rest : List JoinPoint) : List JoinPoint :=
  rest.dropWhile fun other => other.site.span.start < point.site.span.stop

def within (operand : Span) (points : List JoinPoint) : List JoinPoint :=
  points.filter fun point => operand.contains point.site.span

theorem length_nestedIn_lt (point other : JoinPoint) (rest : List JoinPoint) :
    (nestedIn point rest).length < (other :: rest).length :=
  Nat.lt_succ_of_le (List.takeWhile_prefix _).length_le

theorem length_after_lt (point other : JoinPoint) (rest : List JoinPoint) :
    (after point rest).length < (other :: rest).length :=
  Nat.lt_succ_of_le (List.dropWhile_suffix _).length_le

theorem length_within_le (operand : Span) (points : List JoinPoint) :
    (within operand points).length ≤ points.length := List.length_filter_le _ _

mutual

/-- The text from one offset to another with the join points in it replaced. The join points are
in order, each before those that lie in it. -/
def weaveText (weaver : UnitWeaver) (start stop : Nat) (points : List JoinPoint) :
    UnitM String := do
  match points with
  | [] => return weaver.unit.text ⟨start, stop⟩
  | point :: rest =>
    let span := point.site.span
    let replaced ← weavePoint weaver point (nestedIn point rest)
    let following ← weaveText weaver span.stop stop (after point rest)
    return weaver.unit.text ⟨start, span.start⟩ ++ replaced ++ following
termination_by 2 * points.length
decreasing_by
  · have shorter := length_nestedIn_lt point point rest
    omega
  · have shorter := length_after_lt point point rest
    omega

/-- What replaces a join point. Of the join points in it only those in its operand count. -/
def weavePoint (weaver : UnitWeaver) (point : JoinPoint) (nested : List JoinPoint) :
    UnitM String := do
  match weaver.package.symbols.get? point.decl with
  | none => throw (weaver.errorAt point (.unknownDeclaration point.decl))
  | some decl =>
    match point.site.shape, decl.receiver with
    | .ident name, none => weaver.call point decl (.function none name) ""
    | .qualified qualifier name, none =>
      weaver.call point decl (.function (some qualifier) name) ""
    | .selector operand name operandType, some receiver =>
      let text ← weaveText weaver operand.start operand.stop (within operand nested)
      weaver.call point decl (.method name) (adaptReceiver text operandType receiver)
    | .unsupported kind, _ => throw (weaver.errorAt point (.unsupported kind decl.fullName))
    | .selector .., none =>
      throw (weaver.errorAt point (.functionBehindReceiver decl.fullName))
    | _, some _ => throw (weaver.errorAt point (.methodWithoutReceiver decl.fullName))
termination_by 2 * nested.length + 1
decreasing_by
  have kept := length_within_le operand nested
  omega

end

/-! Imports -/

/-- Whether the unit imports a package under an alias already. -/
def hasImport (unit : CompilationUnit) (spec : NamedImport) : Bool :=
  (unit.importOf? spec.path).any fun found => found.name == some spec.alias

/-- The imports that the generated functions need and the unit lacks. -/
def missingImports (weaver : UnitWeaver) (scope : ImportScope) : List NamedImport :=
  let extra := scope.extraImports.map fun (name, path) => (⟨name, path⟩ : NamedImport)
  (weaver.imports.runtime :: weaver.imports.advice :: extra).filter fun spec =>
    !hasImport weaver.unit spec

def importLine (spec : NamedImport) : String := "\t" ++ spec.alias ++ " \"" ++ spec.path ++ "\""

/-- An import declaration on lines of its own. -/
def importBlock (specs : List NamedImport) : String :=
  if specs.isEmpty then ""
  else "\n\nimport (\n" ++ "\n".intercalate (specs.map importLine) ++ "\n)"

/-- The text with a block behind the package clause. -/
def insertImports (weaver : UnitWeaver) (block text : String) : String :=
  let stop := weaver.unit.packageClause.stop
  Text.slice text ⟨0, stop⟩ ++ block ++ Text.slice text ⟨stop, text.utf8ByteSize⟩

/-- Takes the pairs that have been generated. -/
def takePairs : UnitM (List ProxyPair) := do
  let memory ← get
  set { memory with session := { memory.session with pairs := [] } }
  return memory.session.pairs

def run (weaver : UnitWeaver) (points : List JoinPoint) : UnitM WovenUnit := do
  let unit := weaver.unit
  let text ← weaver.weaveText 0 unit.source.utf8ByteSize (JoinPoints.inOrder points)
  let block := importBlock (weaver.missingImports (← get).scope)
  return ⟨unit.id, unit.path, unit.relativePath, weaver.insertImports block text, ← takePairs⟩

end UnitWeaver

namespace WovenUnit

/-- Weaves a unit for its join points, with what the session is afterwards. A unit without join
points is not woven. -/
def weave (package : TargetPackage) (imports : ProxyImports) (unit : CompilationUnit)
    (points : List JoinPoint) (session : WeaveSession) :
    Except UnitError (Option WovenUnit) × WeaveSession :=
  if points.isEmpty then (.ok none, session)
  else
    let scope : ImportScope := { unit := unit, packageNames := package.packageNames }
    let (outcome, memory) :=
      ((UnitWeaver.mk package unit imports).run points).run.run ⟨session, scope⟩
    (outcome.map some, memory.session)

def header : String := "// Code generated by aspectgo weave. DO NOT EDIT.\n\n"

def pairText (pair : ProxyPair) : String :=
  "\n" ++ pair.proxy ++ "\n\n" ++ pair.generator ++ "\n"

/-- The text of the file that takes the unit's place. -/
def fileText (woven : WovenUnit) : String :=
  let text := header ++ woven.body
  text ++ (if text.endsWith "\n" then "" else "\n") ++ "".intercalate (woven.pairs.map pairText)

end WovenUnit
end AspectLoom
