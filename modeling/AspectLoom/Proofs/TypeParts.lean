import AspectLoom.Program.PackageIndex
/-!
Canonical types by their parts. A type is written with tokens, with names of types and with gaps
between them, and none of that depends on what the names stand for. The canonical text spells the
parts one after the other: tokens as they are written, one blank for any gap, and names by what the
file makes of them.
-/
namespace AspectLoom

open Syntax (Node)

/-- A name of a type in a file. -/
structure TypeName where
  qualifier : Option String
  name : String
deriving DecidableEq, Repr, Inhabited

/-- A part of a written type. A name comes with the text that it has in the file. -/
inductive TypePart where
  | gap
  | token (text : String)
  | named (name : TypeName) (written : String)
deriving DecidableEq, Repr, Inhabited

namespace TypePart

def isGap : TypePart → Bool
  | gap => true
  | _ => false

end TypePart

namespace TypeContext

/-- A name as it stands in a canonical type. A qualifier that is not known is kept. -/
def nameText (context : TypeContext) (name : TypeName) (written : String) : String :=
  match name with
  | ⟨some qualifier, name⟩ =>
    match context.importPath? qualifier with
    | some path => path ++ "." ++ name
    | none => written
  | ⟨none, name⟩ => (context.localType name).text

def partSpelled (context : TypeContext) : TypePart → String
  | .gap => " "
  | .token text => text
  | .named name written => context.nameText name written

def spell (context : TypeContext) (parts : List TypePart) : String :=
  String.join (parts.map context.partSpelled)

def gapParts (previous : Option Nat) (node : Node) : List TypePart :=
  if previous.any fun stop => stop < node.start then [.gap] else []

mutual

/-- The parts of a type. -/
def typeParts (source : String) (node : Node) : List TypePart :=
  match node with
  | ⟨.comment, _, _, _⟩ => []
  | ⟨.qualifiedType, label, span, children⟩ =>
    let node : Node := ⟨.qualifiedType, label, span, children⟩
    [.named ⟨some (partText source .package node), partText source .name node⟩ (node.text source)]
  | ⟨.typeIdentifier, _, span, _⟩ =>
    [.named ⟨none, Text.slice source span⟩ (Text.slice source span)]
  | ⟨_, _, span, []⟩ => [.token (Text.slice source span)]
  | ⟨_, _, _, first :: rest⟩ => typePartsOf source none (first :: rest)

/-- The parts of the nodes of a type that come after a place. -/
def typePartsOf (source : String) (previous : Option Nat) (nodes : List Node) : List TypePart :=
  match nodes with
  | [] => []
  | node :: rest =>
    if node.kind == .comment then typePartsOf source previous rest
    else
      gapParts previous node ++ typeParts source node ++ typePartsOf source (some node.stop) rest

end

section
variable {context : TypeContext} {source : String} {parts others : List TypePart}

@[simp] theorem spell_nil : context.spell [] = "" := rfl

@[simp] theorem spell_cons (part : TypePart) :
    context.spell (part :: parts) = context.partSpelled part ++ context.spell parts :=
  String.join_cons

@[simp] theorem spell_append :
    context.spell (parts ++ others) = context.spell parts ++ context.spell others := by
  rw [spell, List.map_append, String.join_append]
  rfl

theorem spell_gapParts (previous : Option Nat) (node : Node) :
    context.spell (gapParts previous node) = gap previous node := by
  unfold gapParts gap
  split
  · simp [partSpelled]
  · rfl

theorem qualifiedText_spells (label : Option Syntax.Label) (span : Span) (children : List Node) :
    context.qualifiedText source ⟨.qualifiedType, label, span, children⟩ =
      context.spell (typeParts source ⟨.qualifiedType, label, span, children⟩) := by
  rw [typeParts, spell_cons, spell_nil, String.append_empty, partSpelled, qualifiedText]
  cases known : context.importPath? _ <;> simp only [nameText, known]

/-- The canonical text spells the parts. -/
theorem typeText_spells (context : TypeContext) (source : String) (node : Node) :
    context.typeText source node = context.spell (typeParts source node) := by
  refine typeText.induct
    (fun node => context.typeText source node = context.spell (typeParts source node))
    (fun previous nodes => context.typeTexts source previous nodes =
      context.spell (typePartsOf source previous nodes))
    ?comment ?qualified ?name ?leaf ?branch ?none ?skipped ?next node
  case comment => exact fun _ _ _ => rfl
  case qualified =>
    intro label span children
    rw [typeText]
    exact qualifiedText_spells label span children
  case name =>
    intro label span children
    simp [typeText, typeParts, partSpelled, nameText]
  case leaf =>
    intro kind label span noComment noQualified noName
    rw [typeText, typeParts]
    · simp [partSpelled]
    all_goals assumption
  case branch =>
    intro kind label span first rest noComment noQualified noName ih
    rw [typeText, typeParts]
    · exact ih
    all_goals assumption
  case none => exact fun _ => rfl
  case skipped =>
    intro previous node rest isComment ih
    rw [typeTexts, typePartsOf, if_pos isComment, if_pos isComment]
    exact ih
  case next =>
    intro previous node rest noComment ihNode ihRest
    rw [typeTexts, typePartsOf, if_neg noComment, if_neg noComment, spell_append, spell_append,
      spell_gapParts, ihNode, ihRest]

end
end TypeContext
end AspectLoom
