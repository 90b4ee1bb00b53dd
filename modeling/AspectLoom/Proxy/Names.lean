import AspectLoom.Hash.Content
/-!
Names of generated functions. They are unique in a weave: sequential names by counting, content
names by refusing a name that was issued before.
-/
namespace AspectLoom

inductive NamingScheme where
  | sequential
  | content
deriving DecidableEq, Repr, Inhabited

namespace NamingScheme

def text : NamingScheme → String
  | sequential => "sequential"
  | content => "content"

def ofText? : String → Option NamingScheme
  | "sequential" => some sequential
  | "content" => some content
  | _ => none

def unknownMessage (text : String) : String :=
  "unknown naming scheme " ++ Text.quoted text ++ " (expected sequential or content)"

end NamingScheme

/-- The names of the two functions generated for one reference. -/
structure SyntheticNames where
  proxy : String
  generator : String
deriving DecidableEq, Repr, Inhabited

namespace SyntheticNames

def ofProxy (proxy : String) : SyntheticNames := ⟨proxy, "_ag_pgen" ++ proxy⟩

end SyntheticNames

/-- The names that a weave has issued. -/
structure NameSession where
  scheme : NamingScheme
  counter : Nat := 0
  issued : List String := []
deriving Repr, Inhabited

namespace NameSession

/-- The proxy name for a site in the present state of the session. -/
def proxyName (session : NameSession) (path : Path) (span : Span) (fullName : String) : String :=
  "_ag_proxy_" ++
    match session.scheme with
    | .sequential => toString session.counter
    | .content => (ContentHash.ofSite path span fullName).short

/-- Counts a name, issued or not. -/
def advance (session : NameSession) : NameSession :=
  match session.scheme with
  | .sequential => { session with counter := session.counter + 1 }
  | .content => session

/-- The names for a site, or the proxy name that is taken already. -/
def next (session : NameSession) (path : Path) (span : Span) (fullName : String) :
    Except String SyntheticNames × NameSession :=
  let proxy := session.proxyName path span fullName
  let session := session.advance
  if session.issued.contains proxy then (.error proxy, session)
  else (.ok (.ofProxy proxy), { session with issued := proxy :: session.issued })

def issuedCount (session : NameSession) : Nat := session.issued.length

end NameSession
end AspectLoom
