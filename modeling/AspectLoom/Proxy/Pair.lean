import AspectLoom.Proxy.Imports
import AspectLoom.Proxy.Names
import AspectLoom.Proxy.Signature
import AspectLoom.Proxy.Statement
/-!
What is generated for a reference. The proxy takes the place of the function or method: it boxes
its arguments, hands them to the advice together with a closure that makes the call it stands for,
and unboxes what the advice gives. The generator binds the receiver and gives a function that calls
the proxy.
-/
namespace AspectLoom

/-- How a proxy reaches what it stands for. -/
inductive Callee where
  | function (qualifier : Option String) (name : String)
  | method (name : String)
deriving DecidableEq, Repr, Inhabited

def Callee.text : Callee → String
  | function (some qualifier) name => qualifier ++ "." ++ name
  | function none name => name
  | method name => SpelledSignature.receiverName ++ "." ++ name

/-- What is generated for one reference. -/
structure Advised where
  signature : SpelledSignature
  advice : String
  callee : Callee
  names : SyntheticNames
deriving DecidableEq, Repr, Inhabited

namespace Advised

/-- The call that the proxy stands for, with the values that are in the context. -/
def call (advised : Advised) : Call :=
  ⟨advised.callee.text, advised.signature.argumentNames, advised.signature.variadic⟩

def unboxAll (list : String) (names types : List String) : List Statement :=
  ((names.zip types).zipIdx).map fun ((name, type), position) => .unbox name list position type

/-- The closure that makes the call. -/
def proceedBody (advised : Advised) : List Statement :=
  let signature := advised.signature
  unboxAll "_ag_ctx.XArgs" signature.argumentNames signature.slotTypes ++
    if signature.results.isEmpty then [.run advised.call, .giveBoxed []]
    else [.define signature.resultNames advised.call, .giveBoxed signature.resultNames]

def dispatch (advised : Advised) (imports : ProxyImports) : Call where
  function := "(&" ++ imports.advice.alias ++ "." ++ advised.advice ++ "\x7b\x7d).Advice"
  arguments := ["_ag_ctx"]

/-- What the proxy does once the context is complete. -/
def adviceBody (advised : Advised) (imports : ProxyImports) : List Statement :=
  let signature := advised.signature
  if signature.results.isEmpty then [.run (advised.dispatch imports)]
  else
    .define ["_ag_res"] (advised.dispatch imports) ::
      (unboxAll "_ag_res" signature.resultNames signature.results ++
        [.give signature.resultNames])

def receiverValue (signature : SpelledSignature) : String :=
  if signature.receiver.isSome then SpelledSignature.receiverName else "nil"

def proxyText (advised : Advised) (imports : ProxyImports) : String :=
  let signature := advised.signature
  "func " ++ advised.names.proxy ++
    "(" ++ commaSeparated (signature.receiverTexts ++ signature.paramTexts) ++ ")" ++
    signature.resultText ++ " \x7b\n" ++
  "\t_ag_ctx := &" ++ imports.runtime.alias ++ ".ContextImpl\x7b\n" ++
  "\t\tXArgs: " ++ Statement.boxed signature.paramNames ++ ",\n" ++
  "\t\tXReceiver: " ++ receiverValue signature ++ ",\n" ++
  "\t\x7d\n" ++
  "\t_ag_ctx.XProceed = func() []interface\x7b\x7d \x7b\n" ++
  Statement.block "\t\t" advised.proceedBody ++
  "\t\x7d\n" ++
  Statement.block "\t" (advised.adviceBody imports) ++
  "\x7d"

/-- The call of the proxy in the function that the generator gives. -/
def forward (advised : Advised) : Call :=
  let signature := advised.signature
  let receiver := signature.receiver.toList.map fun _ => SpelledSignature.receiverName
  ⟨advised.names.proxy, receiver ++ signature.paramNames, signature.variadic⟩

def generatorBody (advised : Advised) : List Statement :=
  if advised.signature.results.isEmpty then [.run advised.forward]
  else [.giveCall advised.forward]

/-- The type of the function that the generator gives. -/
def functionType (signature : SpelledSignature) : String :=
  "func(" ++ commaSeparated signature.paramTypes ++ ")" ++ signature.resultText

def generatorText (advised : Advised) : String :=
  let signature := advised.signature
  "func " ++ advised.names.generator ++
    "(" ++ commaSeparated signature.receiverTexts ++ ") " ++ functionType signature ++ " \x7b\n" ++
  "\treturn func(" ++ commaSeparated signature.paramTexts ++ ")" ++ signature.resultText ++
    " \x7b\n" ++
  Statement.block "\t\t" advised.generatorBody ++
  "\t\x7d\n" ++
  "\x7d"

end Advised

/-- The texts of the two functions generated for a reference. -/
structure ProxyPair where
  names : SyntheticNames
  proxy : String
  generator : String
deriving DecidableEq, Repr, Inhabited

def Advised.pair (advised : Advised) (imports : ProxyImports) : ProxyPair :=
  ⟨advised.names, advised.proxyText imports, advised.generatorText⟩

end AspectLoom
