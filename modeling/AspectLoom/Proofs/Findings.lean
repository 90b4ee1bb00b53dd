import AspectLoom.Proofs.LaidTrees
import AspectLoom.Proofs.NumberedDeclarations
/-!
What a walk finds, before it is entered in a symbol table: sites with the functions or methods that
they refer to. The sites in a tree are gathered so that what lies in an operand comes first.
-/
namespace AspectLoom

open Syntax (Node)

/-- A site and the function or method that it refers to, if it refers to one. -/
structure Finding where
  site : Site
  decl : Option Declaration

namespace SymbolTable

/-- Enters a finding. -/
def note (table : SymbolTable) (finding : Finding) : SymbolTable :=
  match finding.decl with
  | some decl => (table.add decl).2.record ⟨finding.site, .function (table.add decl).1⟩
  | none => table.record ⟨finding.site, .other⟩

def sites (table : SymbolTable) : List Site := table.uses.toList.map Use.site

theorem note_sites (table : SymbolTable) (finding : Finding) :
    (table.note finding).sites = table.sites ++ [finding.site] := by
  unfold note sites
  split <;> simp [record, add_uses]

theorem notes_sites (table : SymbolTable) (found : List Finding) :
    (found.foldl note table).sites = table.sites ++ found.map Finding.site := by
  induction found generalizing table with
  | nil => simp
  | cons finding rest ih =>
      rw [List.foldl_cons, ih, note_sites, List.append_assoc, List.map_cons, List.singleton_append]

end SymbolTable

namespace Site

/-- A site that is recorded before another one does not hold it. -/
def Leads (earlier later : Site) : Prop :=
  earlier.span.Apart later.span ∨ earlier.InOperand later

/-- A site that holds some text and, behind its operand, some more. -/
structure Sized (site : Site) : Prop where
  filled : site.span.start < site.span.stop
  operand : ∀ operand name type, site.shape = .selector operand name type →
    operand.start ≤ operand.stop ∧ site.span.contains operand = true ∧ operand ≠ site.span

theorem separable_of_leads {earlier later : Site} (leads : earlier.Leads later)
    (earlierSized : earlier.Sized) (sized : later.Sized) : earlier.Separable later := by
  refine ⟨?_, leads.imp_right Or.inl⟩
  intro same
  have filled := earlierSized.filled
  rcases leads with (before | behind) | ⟨operand, name, type, shape, inside⟩
  · rw [← same] at before
    omega
  · rw [← same] at behind
    omega
  · obtain ⟨_, within, smaller⟩ := sized.operand operand name type shape
    rw [same] at inside
    rw [Span.contains_iff] at inside within
    exact smaller (Span.eq_of_ends (by omega) (by omega))

end Site

/-- Sites of a unit that were recorded in some nodes. -/
structure Gathered (unit : UnitId) (nodes : List Node) (sites : List Site) : Prop where
  ordered : sites.Pairwise Site.Leads
  sized : ∀ site ∈ sites, site.unit = unit ∧ site.Sized
  inside : ∀ site ∈ sites, ∃ node ∈ nodes, node.span.contains site.span = true

namespace Gathered

variable {unit : UnitId} {nodes more : List Node} {sites later : List Site}

theorem nil : Gathered unit nodes [] := ⟨.nil, List.forall_mem_nil _, List.forall_mem_nil _⟩

/-- What is gathered in some nodes is gathered in those that hold them. -/
theorem mono (gathered : Gathered unit nodes sites)
    (covered : ∀ node ∈ nodes, ∃ outer ∈ more, outer.span.contains node.span = true) :
    Gathered unit more sites where
  ordered := gathered.ordered
  sized := gathered.sized
  inside := by
    intro site member
    obtain ⟨node, among, inner⟩ := gathered.inside site member
    obtain ⟨outer, held, wide⟩ := covered node among
    refine ⟨outer, held, ?_⟩
    rw [Span.contains_iff] at *
    omega

theorem subset (gathered : Gathered unit nodes sites) (kept : nodes ⊆ more) :
    Gathered unit more sites where
  ordered := gathered.ordered
  sized := gathered.sized
  inside := by
    intro site member
    obtain ⟨node, among, inner⟩ := gathered.inside site member
    exact ⟨node, kept among, inner⟩

theorem append (first : Gathered unit nodes sites) (second : Gathered unit more later)
    (apart : ∀ node ∈ nodes, ∀ other ∈ more, node.span.Apart other.span) :
    Gathered unit (nodes ++ more) (sites ++ later) where
  ordered := by
    refine List.pairwise_append.mpr ⟨first.ordered, second.ordered, ?_⟩
    intro site member other otherMember
    obtain ⟨node, among, inner⟩ := first.inside site member
    obtain ⟨otherNode, otherAmong, otherInner⟩ := second.inside other otherMember
    left
    rw [Span.contains_iff] at inner otherInner
    rcases apart node among otherNode otherAmong with before | behind
    · left
      omega
    · right
      omega
  sized := by
    intro site member
    rcases List.mem_append.mp member with here | there
    · exact first.sized site here
    · exact second.sized site there
  inside := by
    intro site member
    rcases List.mem_append.mp member with here | there
    · obtain ⟨node, among, inner⟩ := first.inside site here
      exact ⟨node, List.mem_append_left _ among, inner⟩
    · obtain ⟨node, among, inner⟩ := second.inside site there
      exact ⟨node, List.mem_append_right _ among, inner⟩

/-- The site of a node by itself. -/
theorem single {node : Node} {site : Site} (own : site.unit = unit) (sized : site.Sized)
    (same : site.span = node.span) : Gathered unit [node] [site] where
  ordered := List.pairwise_singleton _ _
  sized := by
    intro other member
    cases List.mem_singleton.mp member
    exact ⟨own, sized⟩
  inside := by
    intro other member
    cases List.mem_singleton.mp member
    exact ⟨node, List.mem_singleton_self _, (Span.contains_iff ..).mpr (by simp [same])⟩

/-- The site of a node behind those in its operand. -/
theorem behind {node operand : Node} {site : Site} {name : String} {type : GoType}
    (gathered : Gathered unit [operand] sites) (own : site.unit = unit) (sized : site.Sized)
    (same : site.span = node.span) (shape : site.shape = .selector operand.span name type) :
    Gathered unit [node] (sites ++ [site]) := by
  have held : node.span.contains operand.span = true := by
    rw [← same]
    exact (sized.operand _ _ _ shape).2.1
  have inner : Gathered unit [node] sites := by
    apply gathered.mono
    intro other member
    cases List.mem_singleton.mp member
    exact ⟨node, List.mem_singleton_self _, held⟩
  have alone := Gathered.single own sized same
  refine ⟨List.pairwise_append.mpr ⟨inner.ordered, alone.ordered, ?_⟩, ?_, ?_⟩
  · intro earlier member last lastMember
    cases List.mem_singleton.mp lastMember
    obtain ⟨other, among, within⟩ := gathered.inside earlier member
    cases List.mem_singleton.mp among
    exact .inr ⟨_, _, _, shape, within⟩
  · exact List.forall_mem_append.mpr ⟨inner.sized, alone.sized⟩
  · exact List.forall_mem_append.mpr ⟨inner.inside, alone.inside⟩

end Gathered
end AspectLoom
