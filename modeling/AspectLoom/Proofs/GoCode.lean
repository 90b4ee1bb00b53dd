import AspectLoom.Proxy.Pair
/-!
The generated functions as code. A function is taken apart into what it defines, calls and gives,
and the text of its parts is the text that is generated.
-/
namespace AspectLoom

/-- What a call reaches. -/
inductive CallTarget where
  | callee (reached : Callee)
  /-- The advice of a new value of a type. -/
  | advice (package type : String)
deriving DecidableEq

def CallTarget.text : CallTarget → String
  | callee reached => reached.text
  | advice package type => "(&" ++ package ++ "." ++ type ++ "\x7b\x7d).Advice"

structure CodeCall where
  target : CallTarget
  arguments : List String
  isSpread : Bool := false
deriving DecidableEq

def CodeCall.call (call : CodeCall) : Call := ⟨call.target.text, call.arguments, call.isSpread⟩

/-- Where boxed values are kept. -/
inductive BoxedList where
  | named (name : String)
  | argumentsOf (context : String)
deriving DecidableEq

def BoxedList.text : BoxedList → String
  | named name => name
  | argumentsOf context => context ++ ".XArgs"

inductive Code where
  | unbox (name : String) (list : BoxedList) (position : Nat) (type : String)
  | define (names : List String) (call : CodeCall)
  | run (call : CodeCall)
  | give (names : List String)
  | giveBoxed (names : List String)
  | giveCall (call : CodeCall)
deriving DecidableEq

def Code.statement : Code → Statement
  | unbox name list position type => .unbox name list.text position type
  | define names call => .define names call.call
  | run call => .run call.call
  | give names => .give names
  | giveBoxed names => .giveBoxed names
  | giveCall call => .giveCall call.call

/-- Code in which other code stands. -/
inductive CodeLine where
  | makeContext (name runtime : String) (arguments : List String) (receiver : Option String)
  | setProceed (context : String) (body : List Code)
  | giveFunction (signature : SpelledSignature) (body : List Code)
deriving DecidableEq

def CodeLine.text : CodeLine → String
  | makeContext name runtime arguments receiver =>
    "\t" ++ name ++ " := &" ++ runtime ++ ".ContextImpl\x7b\n" ++
    "\t\tXArgs: " ++ Statement.boxed arguments ++ ",\n" ++
    "\t\tXReceiver: " ++ receiver.getD "nil" ++ ",\n" ++
    "\t\x7d\n"
  | setProceed context body =>
    "\t" ++ context ++ ".XProceed = func() []interface\x7b\x7d \x7b\n" ++
    Statement.block "\t\t" (body.map Code.statement) ++
    "\t\x7d\n"
  | giveFunction signature body =>
    "\treturn func(" ++ commaSeparated signature.paramTexts ++ ")" ++ signature.resultText ++
      " \x7b\n" ++
    Statement.block "\t\t" (body.map Code.statement) ++
    "\t\x7d\n"

structure GoFunction where
  name : String
  signature : SpelledSignature
  lines : List CodeLine
  code : List Code
deriving DecidableEq

def GoFunction.text (function : GoFunction) : String :=
  let signature := function.signature
  "func " ++ function.name ++
    "(" ++ commaSeparated (signature.receiverTexts ++ signature.paramTexts) ++ ")" ++
    signature.resultText ++ " \x7b\n" ++
  String.join (function.lines.map CodeLine.text) ++
  Statement.block "\t" (function.code.map Code.statement) ++
  "\x7d"

namespace SpelledSignature

/-- The signature of a method whose receiver is bound. -/
def bound (signature : SpelledSignature) : SpelledSignature := { signature with receiver := none }

/-- The names of the receiver and the parameters. -/
def headNames (signature : SpelledSignature) : List String :=
  (signature.receiver.toList.map fun _ => receiverName) ++ signature.paramNames

/-- The types that the receiver and the parameters have inside the function. -/
def inputs (signature : SpelledSignature) : List String :=
  signature.receiver.toList ++ signature.slotTypes

end SpelledSignature

namespace Advised

def unboxFrom (list : BoxedList) (names types : List String) (first : Nat) : List Code :=
  ((names.zip types).zipIdx first).map fun ((name, type), position) =>
    .unbox name list position type

def callCode (advised : Advised) : CodeCall :=
  ⟨.callee advised.callee, advised.signature.argumentNames, advised.signature.variadic⟩

/-- The call and the list of its results. -/
def answerCode (advised : Advised) : List Code :=
  let names := advised.signature.resultNames
  if advised.signature.results.isEmpty then [.run advised.callCode, .giveBoxed []]
  else [.define names advised.callCode, .giveBoxed names]

def proceedCode (advised : Advised) : List Code :=
  let signature := advised.signature
  unboxFrom (.argumentsOf "_ag_ctx") signature.argumentNames signature.slotTypes 0 ++
    advised.answerCode

def adviceCall (advised : Advised) (imports : ProxyImports) : CodeCall :=
  ⟨.advice imports.advice.alias advised.advice, ["_ag_ctx"], false⟩

def adviceCode (advised : Advised) (imports : ProxyImports) : List Code :=
  let signature := advised.signature
  if signature.results.isEmpty then [.run (advised.adviceCall imports)]
  else
    .define ["_ag_res"] (advised.adviceCall imports) ::
      (unboxFrom (.named "_ag_res") signature.resultNames signature.results 0 ++
        [.give signature.resultNames])

def proxyFunction (advised : Advised) (imports : ProxyImports) : GoFunction where
  name := advised.names.proxy
  signature := advised.signature
  lines :=
    [.makeContext "_ag_ctx" imports.runtime.alias advised.signature.paramNames
      (advised.signature.receiver.map fun _ => SpelledSignature.receiverName),
      .setProceed "_ag_ctx" advised.proceedCode]
  code := advised.adviceCode imports

def forwardCall (advised : Advised) : CodeCall :=
  ⟨.callee (.function none advised.names.proxy), advised.signature.headNames,
    advised.signature.variadic⟩

def forwardCode (advised : Advised) : List Code :=
  if advised.signature.results.isEmpty then [.run advised.forwardCall]
  else [.giveCall advised.forwardCall]

def generatorSignature (signature : SpelledSignature) : SpelledSignature :=
  ⟨signature.receiver, [], false, [functionType signature]⟩

def generatorFunction (advised : Advised) : GoFunction where
  name := advised.names.generator
  signature := generatorSignature advised.signature
  lines := [.giveFunction advised.signature.bound advised.forwardCode]
  code := []

variable {advised : Advised} {imports : ProxyImports}

theorem unboxFrom_statements (list : BoxedList) (names types : List String) :
    (unboxFrom list names types 0).map Code.statement = unboxAll list.text names types := by
  unfold unboxFrom unboxAll
  rw [List.map_map]
  rfl

theorem proceedCode_statements :
    advised.proceedCode.map Code.statement = advised.proceedBody := by
  unfold proceedCode answerCode proceedBody
  dsimp only
  rw [List.map_append, unboxFrom_statements, apply_ite (List.map Code.statement)]
  rfl

theorem adviceCode_statements :
    (advised.adviceCode imports).map Code.statement = advised.adviceBody imports := by
  unfold adviceCode adviceBody
  dsimp only
  rw [apply_ite (List.map Code.statement)]
  simp only [List.map_cons, List.map_append, unboxFrom_statements]
  rfl

theorem forwardCode_statements :
    advised.forwardCode.map Code.statement = advised.generatorBody := by
  unfold forwardCode generatorBody
  rw [apply_ite (List.map Code.statement)]
  rfl

theorem receiverValue_eq (signature : SpelledSignature) :
    receiverValue signature =
      (signature.receiver.map fun _ => SpelledSignature.receiverName).getD "nil" := by
  unfold receiverValue
  cases signature.receiver with
  | none => rfl
  | some receiver => rfl

theorem makeContext_text (name runtime : String) (arguments : List String)
    (receiver : Option String) :
    (CodeLine.makeContext name runtime arguments receiver).text =
      "\t" ++ name ++ " := &" ++ runtime ++ ".ContextImpl\x7b\n" ++
      "\t\tXArgs: " ++ Statement.boxed arguments ++ ",\n" ++
      "\t\tXReceiver: " ++ receiver.getD "nil" ++ ",\n" ++
      "\t\x7d\n" := rfl

theorem setProceed_text (context : String) (body : List Code) :
    (CodeLine.setProceed context body).text =
      "\t" ++ context ++ ".XProceed = func() []interface\x7b\x7d \x7b\n" ++
      Statement.block "\t\t" (body.map Code.statement) ++
      "\t\x7d\n" := rfl

theorem giveFunction_text (signature : SpelledSignature) (body : List Code) :
    (CodeLine.giveFunction signature body).text =
      "\treturn func(" ++ commaSeparated signature.paramTexts ++ ")" ++ signature.resultText ++
        " \x7b\n" ++
      Statement.block "\t\t" (body.map Code.statement) ++
      "\t\x7d\n" := rfl

theorem proxyFunction_text : (advised.proxyFunction imports).text = advised.proxyText imports := by
  unfold GoFunction.text proxyFunction proxyText
  dsimp only
  rw [adviceCode_statements, receiverValue_eq, List.map_cons, List.map_cons, List.map_nil,
    makeContext_text, setProceed_text, proceedCode_statements]
  simp only [String.join_cons, String.join_nil, String.append_empty, ← String.append_assoc,
    String.reduceAppend]

theorem generatorFunction_text : advised.generatorFunction.text = advised.generatorText := by
  have params : (generatorSignature advised.signature).paramTexts = [] := rfl
  have receiver : (generatorSignature advised.signature).receiverTexts =
      advised.signature.receiverTexts := rfl
  have result : (generatorSignature advised.signature).resultText =
      " " ++ functionType advised.signature := rfl
  have boundParams : advised.signature.bound.paramTexts = advised.signature.paramTexts := rfl
  have boundResult : advised.signature.bound.resultText = advised.signature.resultText := rfl
  have noCode : Statement.block "\t" (List.map Code.statement []) = "" := rfl
  have spaced (text : String) : text ++ ")" ++ " " = text ++ ") " := by
    simp only [String.append_assoc, String.reduceAppend]
  unfold GoFunction.text generatorFunction generatorText
  dsimp only
  rw [params, receiver, result, noCode, List.append_nil, List.map_cons, List.map_nil,
    giveFunction_text, forwardCode_statements, boundParams, boundResult]
  simp only [String.join_cons, String.join_nil, String.append_empty, ← String.append_assoc, spaced]

end Advised
end AspectLoom
