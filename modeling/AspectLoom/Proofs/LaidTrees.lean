import AspectLoom.Program.References
import AspectLoom.Proofs.NestedSites
import Mathlib.Data.List.Pairwise
/-!
Syntax trees that lie on a source as a parser lays them. The children of a node are apart, in
order and inside the node.
-/
namespace AspectLoom.Syntax.Node

/-- How a node and its children lie. A name has at least one character, and a case is none of the
labelled parts of its switch. -/
structure Arranged (node : Node) : Prop where
  ordered : node.start ≤ node.stop
  inside : ∀ child ∈ node.children, node.span.contains child.span = true
  apart : node.children.Pairwise fun left right => left.stop ≤ right.start
  filled : node.kind = .identifier ∨ node.label = some .field → node.start < node.stop
  cases : ∀ child ∈ node.children, Resolver.isCase child = true → child.label = none

instance (node : Node) : Decidable node.Arranged :=
  decidable_of_iff
    (node.start ≤ node.stop ∧
      (∀ child ∈ node.children, node.span.contains child.span = true) ∧
      node.children.Pairwise (fun left right => left.stop ≤ right.start) ∧
      (node.kind = .identifier ∨ node.label = some .field → node.start < node.stop) ∧
      ∀ child ∈ node.children, Resolver.isCase child = true → child.label = none)
    ⟨fun ⟨ordered, inside, apart, filled, cases⟩ => ⟨ordered, inside, apart, filled, cases⟩,
      fun ⟨ordered, inside, apart, filled, cases⟩ => ⟨ordered, inside, apart, filled, cases⟩⟩

mutual

def isLaid (node : Node) : Bool :=
  match node with
  | ⟨kind, label, span, children⟩ =>
    decide (Arranged ⟨kind, label, span, children⟩) && areLaid children

def areLaid (nodes : List Node) : Bool :=
  match nodes with
  | [] => true
  | node :: rest => isLaid node && areLaid rest

end

/-- All nodes of a tree are arranged. -/
def Laid (node : Node) : Prop := node.isLaid = true

instance (node : Node) : Decidable node.Laid := inferInstanceAs (Decidable (node.isLaid = true))

theorem areLaid_mem {nodes : List Node} {child : Node} (laid : areLaid nodes = true)
    (member : child ∈ nodes) : child.Laid := by
  induction nodes with
  | nil => cases member
  | cons first rest ih =>
      rw [areLaid, Bool.and_eq_true] at laid
      rcases List.mem_cons.mp member with rfl | later
      · exact laid.1
      · exact ih laid.2 later

section
variable {node child other : Node}

theorem laid_arranged (laid : node.Laid) : node.Arranged := by
  obtain ⟨kind, label, span, children⟩ := node
  rw [Laid, isLaid, Bool.and_eq_true] at laid
  exact of_decide_eq_true laid.1

theorem laid_children (laid : node.Laid) (member : child ∈ node.children) : child.Laid := by
  obtain ⟨kind, label, span, children⟩ := node
  rw [Laid, isLaid, Bool.and_eq_true] at laid
  exact areLaid_mem laid.2 member

theorem laid_inside (laid : node.Laid) (member : child ∈ node.children) :
    node.start ≤ child.start ∧ child.stop ≤ node.stop :=
  (Span.contains_iff ..).mp ((laid_arranged laid).inside child member)

/-- Two children are apart. -/
theorem laid_apart (laid : node.Laid) (member : child ∈ node.children)
    (otherMember : other ∈ node.children) (different : child ≠ other) :
    child.span.Apart other.span := by
  have : Std.Symm fun left right : Node => left.span.Apart right.span :=
    ⟨fun _ _ => Span.Apart.symm⟩
  have apart : node.children.Pairwise fun left right => left.span.Apart right.span :=
    (laid_arranged laid).apart.imp Or.inl
  exact apart.forall member otherMember different

theorem child?_label {label : Label} (found : node.child? label = some child) :
    child.label = some label := by
  simpa using List.find?_some found

/-- Two parts of a node are apart. -/
theorem laid_parts {part otherPart : Label} (laid : node.Laid)
    (found : node.child? part = some child) (otherFound : node.child? otherPart = some other)
    (different : part ≠ otherPart) :
    child.span.Apart other.span := by
  apply laid_apart laid (mem_of_child? found) (mem_of_child? otherFound)
  rintro rfl
  have same := (child?_label found).symm.trans (child?_label otherFound)
  exact different (Option.some.inj same)

end

end AspectLoom.Syntax.Node
