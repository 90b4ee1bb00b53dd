/-!
Sets of characters as runs of code points, in increasing order and never touching.
-/
namespace AspectLoom.Unicode

/-- The runs of a set, each by its first and last code point. -/
abbrev Runs := Array (Nat × Nat)

namespace Runs

def numbers (text : String) : List Nat :=
  (text.toList.splitOn ' ').filterMap fun digits => (String.ofList digits).toNat?

def fromGaps (next : Nat) : List Nat → List (Nat × Nat)
  | gap :: size :: rest =>
    (next + gap, next + gap + size - 1) :: fromGaps (next + gap + size) rest
  | _ => []

/-- Reads runs from alternating numbers: how many code points are left out, how many are in. -/
def ofGaps (lines : List String) : Runs := (fromGaps 0 (lines.flatMap numbers)).toArray

/-- Halves the part of the runs in which a code point can lie. -/
def search (runs : Runs) (code low high : Nat) : Bool :=
  if _ : low < high then
    let middle := (low + high) / 2
    match runs[middle]? with
    | none => false
    | some (first, last) =>
      if code < first then search runs code low middle
      else if last < code then search runs code (middle + 1) high
      else true
  else false
termination_by high - low

def contains (runs : Runs) (code : Nat) : Bool := search runs code 0 runs.size

/-- The union of sets, its runs sorted and merged. -/
def merge : List (Nat × Nat) → List (Nat × Nat)
  | [] => []
  | [run] => [run]
  | (first, last) :: (first', last') :: rest =>
    if first' ≤ last + 1 then merge ((first, max last last') :: rest)
    else (first, last) :: merge ((first', last') :: rest)
termination_by runs => runs.length

def ofRanges (ranges : List (Nat × Nat)) : Runs :=
  (merge (ranges.mergeSort fun left right => left.1 ≤ right.1)).toArray

def single (c : Char) : Runs := #[(c.toNat, c.toNat)]

def union (left right : Runs) : Runs := ofRanges (left.toList ++ right.toList)

def gaps (next last : Nat) : List (Nat × Nat) → List (Nat × Nat)
  | [] => if next ≤ last then [(next, last)] else []
  | (first, stop) :: rest =>
    (if next < first then [(next, first - 1)] else []) ++ gaps (stop + 1) last rest

/-- What a set leaves out of the code points up to a last one. -/
def complement (last : Nat) (runs : Runs) : Runs := (gaps 0 last runs.toList).toArray

def overlap (left right : Nat × Nat) : Option (Nat × Nat) :=
  let first := max left.1 right.1
  let last := min left.2 right.2
  if first ≤ last then some (first, last) else none

def intersect (left right : Runs) : Runs :=
  ofRanges (left.toList.flatMap fun run => right.toList.filterMap (overlap run))

end Runs
end AspectLoom.Unicode
