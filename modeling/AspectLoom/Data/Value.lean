/-!
Data as a document holds it: texts, lists and tables. Of other kinds of value only their presence
is kept, because no setting takes one.
-/
namespace AspectLoom

inductive Data where
  | null
  /-- Text that is marked as text. -/
  | text (value : String)
  /-- Unmarked text, which can also stand for nothing. -/
  | plain (value : String)
  | list (items : List Data)
  /-- Entries in the order they are written, repeated keys included. -/
  | table (entries : List (String × Data))
  /-- A number, truth value or date. -/
  | other
deriving Repr, Inhabited

end AspectLoom
