import AspectLoom.Data.Value
/-!
Records: settings of fixed names, read from data. A table gives each setting at most once and no
other; some formats also take a list of values in the order of the settings.
-/
namespace AspectLoom.Data

/-- What a format allows besides tables and marked text. -/
structure Rules where
  /-- Whether a list of values can stand for a record. -/
  listsAsRecords : Bool
  /-- Whether such a list can be longer than the record. -/
  allowsExtra : Bool
deriving Repr

/-- Unmarked spellings of an absent value. -/
def absentSpellings : List String := ["", "~", "null", "Null", "NULL"]

def asText : Data → Option String
  | text value | plain value => some value
  | _ => none

/-- A text that may be absent. The outer nothing is a failure. -/
def asOptionalText : Data → Option (Option String)
  | null => some none
  | plain value => some (if absentSpellings.contains value then none else some value)
  | text value => some (some value)
  | _ => none

def asList : Data → Option (List Data)
  | list items => some items
  | plain "" => some []
  | _ => none

def fromTable (names : List String) (entries : List (String × Data)) :
    Option (List (Option Data)) :=
  let keys := entries.map Prod.fst
  if keys.Nodup ∧ ∀ key ∈ keys, key ∈ names then
    some (names.map fun name => List.lookup name entries)
  else none

def fromList (rules : Rules) (names : List String) (items : List Data) :
    Option (List (Option Data)) :=
  if rules.listsAsRecords && (rules.allowsExtra || items.length ≤ names.length) then
    some ((List.range names.length).map fun index => items[index]?)
  else none

/-- The value of each setting, in the order of the names. -/
def asRecord (rules : Rules) (names : List String) : Data → Option (List (Option Data))
  | table entries => fromTable names entries
  | plain "" => fromTable names []
  | list items => fromList rules names items
  | _ => none

end AspectLoom.Data
