import AspectLoom.Proofs.RecordedFunctions
import AspectLoom.Proofs.TypeParts
/-!
Layouts of types. Two trees of one type can differ in what stands between the tokens: blanks, line
breaks and comments. The canonical text has one blank for any of it and none where there is nothing,
so it tells two layouts apart just when one has a gap where the other has none.
-/
namespace AspectLoom

open Actions Resolver
open Syntax (Node Kind Label)

/-- A mark in the outline of a tree, which opens and closes its inner nodes. -/
inductive OutlineMark where
  | token (kind : Kind) (label : Option Label) (text : String)
  | named (kind : Kind) (label : Option Label) (name : TypeName)
  | opens (kind : Kind) (label : Option Label)
  | closes
deriving DecidableEq

/-- The part of a type that a mark stands for. -/
def OutlineMark.part? : OutlineMark → Option TypePart
  | token _ _ text => some (.token text)
  | named _ _ name => some (.named name "")
  | opens _ _ => none
  | closes => none

namespace TypePart

/-- A part without the text that a name has in the file. -/
def erased : TypePart → TypePart
  | named name _ => named name ""
  | part => part

/-- The parts between the gaps. -/
def solid (parts : List TypePart) : List TypePart := parts.filter fun part => !part.isGap

end TypePart

namespace TypeContext

open TypePart (solid)

mutual

/-- All of a tree but its layout: neither comments nor places. -/
def outline (source : String) (node : Node) : List OutlineMark :=
  match node with
  | ⟨.comment, label, _, _⟩ => [.opens .comment label, .closes]
  | ⟨.qualifiedType, label, span, children⟩ =>
    let node : Node := ⟨.qualifiedType, label, span, children⟩
    [.named .qualifiedType label ⟨some (partText source .package node), partText source .name node⟩]
  | ⟨.typeIdentifier, label, span, _⟩ =>
    [.named .typeIdentifier label ⟨none, Text.slice source span⟩]
  | ⟨kind, label, span, []⟩ => [.token kind label (Text.slice source span)]
  | ⟨kind, label, _, first :: rest⟩ =>
    .opens kind label :: (outlines source (first :: rest) ++ [.closes])

def outlines (source : String) (nodes : List Node) : List OutlineMark :=
  match nodes with
  | [] => []
  | node :: rest =>
    if node.kind == .comment then outlines source rest
    else outline source node ++ outlines source rest

end

/-- Where a type has gaps between its tokens and names. -/
def gaps (source : String) (node : Node) : List Bool :=
  (typeParts source node).map TypePart.isGap

/-- The text of a name whose qualifier is not known. -/
def keptText? (context : TypeContext) : TypePart → Option String
  | .named ⟨some qualifier, _⟩ written =>
    if (context.importPath? qualifier).isNone then some written else none
  | _ => none

/-- The texts that a type keeps, which are those of names with qualifiers that are not known. -/
def keptTexts (context : TypeContext) (source : String) (node : Node) : List String :=
  (typeParts source node).filterMap context.keptText?

/-- A text that cannot be taken for a gap. -/
def IsSolid (text : String) : Prop := ∃ c rest, text.toList = c :: rest ∧ c ≠ ' '

section
variable {context : TypeContext} {source other : String} {node twin : Node} {part : TypePart}
  {parts others : List TypePart}

/-! Tokens and names -/

theorem solid_gapParts (previous : Option Nat) (node : Node) : solid (gapParts previous node) = [] := by
  unfold gapParts
  split <;> rfl

theorem solid_append : solid (parts ++ others) = solid parts ++ solid others := List.filter_append ..

/-- The outline tells all parts of a type but its gaps. -/
theorem outline_parts (source : String) (node : Node) :
    (solid (typeParts source node)).map TypePart.erased =
      (outline source node).filterMap OutlineMark.part? := by
  refine typeText.induct
    (fun node => (solid (typeParts source node)).map TypePart.erased =
      (outline source node).filterMap OutlineMark.part?)
    (fun previous nodes => (solid (typePartsOf source previous nodes)).map TypePart.erased =
      (outlines source nodes).filterMap OutlineMark.part?)
    ?comment ?qualified ?name ?leaf ?branch ?none ?skipped ?next node
  case comment => exact fun _ _ _ => rfl
  case qualified => exact fun _ _ _ => rfl
  case name => exact fun _ _ _ => rfl
  case leaf =>
    intro kind label span noComment noQualified noName
    rw [typeParts, outline]
    · rfl
    all_goals assumption
  case branch =>
    intro kind label span first rest noComment noQualified noName ih
    rw [typeParts, outline]
    · rw [List.filterMap_cons_none rfl, List.filterMap_append, ← ih]
      exact (List.append_nil _).symm
    all_goals assumption
  case none => exact fun _ => rfl
  case skipped =>
    intro previous node rest isComment ih
    rw [typePartsOf, outlines, if_pos isComment, if_pos isComment]
    exact ih
  case next =>
    intro previous node rest noComment ihNode ihRest
    rw [typePartsOf, outlines, if_neg noComment, if_neg noComment, solid_append, solid_append,
      solid_gapParts, List.nil_append, List.map_append, List.filterMap_append, ihNode, ihRest]

theorem erased_cases {twin : TypePart} (same : part.erased = twin.erased) :
    part = twin ∨ ∃ name written text, part = .named name written ∧ twin = .named name text := by
  cases part with
  | gap =>
      cases twin <;> cases same
      exact .inl rfl
  | token text =>
      cases twin <;> cases same
      exact .inl rfl
  | named name written =>
      cases twin <;> cases same
      exact .inr ⟨name, written, _, rfl, rfl⟩

/-- A part is spelled by what it is and by its text where that is kept. -/
theorem partSpelled_congr {twin : TypePart} (same : part.erased = twin.erased)
    (kept : context.keptText? part = context.keptText? twin) :
    context.partSpelled part = context.partSpelled twin := by
  obtain rfl | ⟨⟨qualifier, name⟩, written, text, rfl, rfl⟩ := erased_cases same
  · rfl
  · cases qualifier with
    | none => rfl
    | some qualifier =>
        simp only [partSpelled, nameText]
        cases known : context.importPath? qualifier with
        | some path => rfl
        | none =>
            simp only [keptText?, known] at kept
            exact Option.some.inj kept

theorem keptText?_isSome_congr (context : TypeContext) {twin : TypePart}
    (same : part.erased = twin.erased) :
    (context.keptText? part).isSome = (context.keptText? twin).isSome := by
  obtain rfl | ⟨⟨qualifier, name⟩, written, text, rfl, rfl⟩ := erased_cases same
  · rfl
  · cases qualifier with
    | none => rfl
    | some qualifier =>
        simp only [keptText?]
        split <;> rfl

theorem partsSpelled_congr (same : parts.map TypePart.erased = others.map TypePart.erased)
    (kept : parts.filterMap context.keptText? = others.filterMap context.keptText?) :
    parts.map context.partSpelled = others.map context.partSpelled := by
  induction parts generalizing others with
  | nil =>
      cases List.map_eq_nil_iff.mp same.symm
      rfl
  | cons part rest ih =>
      obtain ⟨twin, behind, rfl, first, later⟩ := List.map_eq_cons_iff.mp same.symm
      have places := keptText?_isSome_congr context first
      cases own : context.keptText? part with
      | none =>
          have none : context.keptText? twin = none := by
            rw [own] at places
            simpa using places
          rw [List.filterMap_cons_none own, List.filterMap_cons_none none] at kept
          rw [List.map_cons, List.map_cons, ih later.symm kept,
            partSpelled_congr first.symm (own.trans none.symm)]
      | some text =>
          obtain ⟨others, some⟩ : ∃ others, context.keptText? twin = some others := by
            rw [own] at places
            exact Option.isSome_iff_exists.mp places
          rw [List.filterMap_cons_some own, List.filterMap_cons_some some] at kept
          obtain ⟨sameText, restKept⟩ := List.cons.inj kept
          rw [← sameText] at some
          rw [List.map_cons, List.map_cons, ih later.symm restKept,
            partSpelled_congr first.symm (own.trans some.symm)]

/-! Gaps -/

theorem partSpelled_gap (isGap : part.isGap = true) : context.partSpelled part = " " := by
  cases part <;> cases isGap
  rfl

theorem solid_cons_gap (isGap : part.isGap = true) : solid (part :: parts) = solid parts :=
  List.filter_cons_of_neg (by simp [isGap])

theorem solid_cons (noGap : part.isGap = false) : solid (part :: parts) = part :: solid parts :=
  List.filter_cons_of_pos (by simp [noGap])

theorem blank_ne_nil (rest : String) : " " ++ rest ≠ "" := by
  intro same
  have chars := congrArg String.toList same
  rw [String.toList_append] at chars
  cases chars

theorem blank_ne_solid {text : String} (isSolid : IsSolid text) (rest behind : String) :
    " " ++ rest ≠ text ++ behind := by
  obtain ⟨c, tail, chars, notBlank⟩ := isSolid
  intro same
  have heads := congrArg String.toList same
  rw [String.toList_append, String.toList_append, chars] at heads
  exact notBlank (List.cons.inj heads).1.symm

/-- Two ways to put gaps between the same texts read the same just when they are the same. -/
theorem spell_eq_iff (same : (solid parts).map context.partSpelled =
      (solid others).map context.partSpelled)
    (areSolid : ∀ text ∈ (solid parts).map context.partSpelled, IsSolid text) :
    context.spell parts = context.spell others ↔
      parts.map TypePart.isGap = others.map TypePart.isGap := by
  induction parts generalizing others with
  | nil =>
      cases others with
      | nil => exact iff_of_true rfl rfl
      | cons other rest =>
          cases gap : other.isGap with
          | true =>
              rw [spell_cons, partSpelled_gap gap]
              exact iff_of_false (blank_ne_nil _).symm (by simp)
          | false =>
              rw [solid_cons gap] at same
              cases same
  | cons part behind ih =>
      cases others with
      | nil =>
          cases gap : part.isGap with
          | true =>
              rw [spell_cons, partSpelled_gap gap]
              exact iff_of_false (blank_ne_nil _) (by simp)
          | false =>
              rw [solid_cons gap] at same
              cases same
      | cons other rest =>
          rw [spell_cons, spell_cons, List.map_cons, List.map_cons, List.cons_eq_cons]
          cases gap : part.isGap with
          | true =>
              rw [solid_cons_gap gap] at same areSolid
              rw [partSpelled_gap gap]
              cases otherGap : other.isGap with
              | true =>
                  rw [solid_cons_gap otherGap] at same
                  rw [partSpelled_gap otherGap, String.append_right_inj, ih same areSolid]
                  simp
              | false =>
                  rw [solid_cons otherGap] at same
                  rw [same] at areSolid
                  have isSolid := areSolid _ List.mem_cons_self
                  exact iff_of_false (blank_ne_solid isSolid _ _) (by simp)
          | false =>
              rw [solid_cons gap] at same areSolid
              obtain ⟨isSolid, behindSolid⟩ := List.forall_mem_cons.mp areSolid
              cases otherGap : other.isGap with
              | true =>
                  rw [partSpelled_gap otherGap]
                  exact iff_of_false (blank_ne_solid isSolid _ _).symm (by simp)
              | false =>
                  rw [solid_cons otherGap] at same
                  obtain ⟨first, later⟩ := List.cons.inj same
                  rw [first, String.append_right_inj, ih later behindSolid]
                  simp

theorem solid_keptTexts (parts : List TypePart) :
    (solid parts).filterMap context.keptText? = parts.filterMap context.keptText? := by
  induction parts with
  | nil => rfl
  | cons part rest ih =>
      cases gap : part.isGap with
      | true =>
          have nothing : context.keptText? part = none := by
            cases part <;> cases gap
            rfl
          rw [solid_cons_gap gap, List.filterMap_cons_none nothing, ih]
      | false => rw [solid_cons gap, List.filterMap_cons, List.filterMap_cons, ih]

/-- Two layouts of a type have the same canonical text just when they have gaps at the same places,
given that no token and no name begins with a blank and that names with qualifiers that are not known
are written the same way. -/
theorem canonical_eq_iff_gaps (same : outline source node = outline other twin)
    (kept : context.keptTexts source node = context.keptTexts other twin)
    (areSolid : ∀ part ∈ typeParts source node, part.isGap = false →
      IsSolid (context.partSpelled part)) :
    context.canonical source node = context.canonical other twin ↔
      gaps source node = gaps other twin := by
  have erased : (solid (typeParts source node)).map TypePart.erased =
      (solid (typeParts other twin)).map TypePart.erased := by
    rw [outline_parts, outline_parts, same]
  have texts : (solid (typeParts source node)).map context.partSpelled =
      (solid (typeParts other twin)).map context.partSpelled := by
    refine partsSpelled_congr erased ?_
    rw [solid_keptTexts, solid_keptTexts]
    exact kept
  rw [canonical, canonical, GoType.mk.injEq, typeText_spells, typeText_spells]
  refine spell_eq_iff texts (List.forall_mem_map.mpr fun part member => ?_)
  obtain ⟨among, noGap⟩ := List.mem_filter.mp member
  exact areSolid part among (by simpa using noGap)

end

/-- The type of the first parameter of the last function of a file. -/
def paramType (file : CompilationUnit × Node) : Node :=
  ((((lastNode file).child? .parameters).bind Node.firstNamed?).bind fun param =>
    param.child? .type).getD default

def typeFile (type : String) : CompilationUnit × Node :=
  parsedFile ("package p\nfunc f(a " ++ type ++ ") {}\n")

def shortLayout : CompilationUnit × Node := typeFile "map[q.T]func( n int ) *T"

def longLayout : CompilationUnit × Node := typeFile "map[q.T]func(\n\t\tn int /* number */)\t*T"

instance (text : String) : Decidable (IsSolid text) :=
  decidable_of_iff (text.toList.head?.any (· != ' ') = true) <| by
    rw [IsSolid]
    cases text.toList with
    | nil => simp
    | cons c rest => simp

/-- A comment, a line break and a tab count as much as a blank. -/
theorem canonical_eq_of_comment :
    let context : TypeContext := ⟨"p", [("q", "m/q")]⟩
    outline shortLayout.1.source (paramType shortLayout) =
        outline longLayout.1.source (paramType longLayout) ∧
      (context.canonical shortLayout.1.source (paramType shortLayout)).text =
        "map[m/q.T]func( n int ) *p.T" ∧
      context.canonical shortLayout.1.source (paramType shortLayout) =
        context.canonical longLayout.1.source (paramType longLayout) := by
  intro context
  obtain ⟨same, kept, areSolid, text, gaps⟩ :
      outline shortLayout.1.source (paramType shortLayout) =
        outline longLayout.1.source (paramType longLayout) ∧
      context.keptTexts shortLayout.1.source (paramType shortLayout) =
        context.keptTexts longLayout.1.source (paramType longLayout) ∧
      (∀ part ∈ typeParts shortLayout.1.source (paramType shortLayout), part.isGap = false →
        IsSolid (context.partSpelled part)) ∧
      (context.canonical shortLayout.1.source (paramType shortLayout)).text =
        "map[m/q.T]func( n int ) *p.T" ∧
      gaps shortLayout.1.source (paramType shortLayout) =
        gaps longLayout.1.source (paramType longLayout) := by
    decide +kernel
  exact ⟨same, text, (canonical_eq_iff_gaps same kept areSolid).mpr gaps⟩

def tightSlice : CompilationUnit × Node := typeFile "[]int"

def looseSlice : CompilationUnit × Node := typeFile "[] int"

/-- A blank between two tokens of one layout tells it apart from another without it, and so are the
types of the elements. -/
theorem canonical_ne_of_blank :
    let context : TypeContext := ⟨"p", []⟩
    let tight := context.canonical tightSlice.1.source (paramType tightSlice)
    let loose := context.canonical looseSlice.1.source (paramType looseSlice)
    outline tightSlice.1.source (paramType tightSlice) =
        outline looseSlice.1.source (paramType looseSlice) ∧
      tight.text = "[]int" ∧ loose.text = "[] int" ∧
      tight.sliceElem? = some ⟨"int"⟩ ∧ loose.sliceElem? = some ⟨" int"⟩ := by
  decide +kernel

end TypeContext
end AspectLoom
