import AspectLoom.Proofs.ScopedUses
import AspectLoom.Proofs.SuitedUses
/-!
Which names are recorded as uses of functions: those that stand for one and that no declaration
in scope hides.
-/
namespace AspectLoom

open Actions Scoping
open Syntax (Node Kind)

namespace SymbolTable

/-- Whether a use stands for a finding in a table. -/
def Enters (table : SymbolTable) (finding : Finding) (use : Use) : Prop :=
  use.site = finding.site ∧
    match finding.decl with
    | some decl => ∃ id stored, use.binding = .function id ∧ table.get? id = some stored ∧
        stored.fullName = decl.fullName
    | none => use.binding = .other

/-- Of two tables the second one has a use more at a site, of the function of a full name. -/
def Gains (before after : SymbolTable) (site : Site) (fullName : String) : Prop :=
  ∃ id decl, ⟨site, .function id⟩ ∈ after.uses.toList.drop before.uses.size ∧
    after.get? id = some decl ∧ decl.fullName = fullName

variable {table : SymbolTable}

theorem note_kept (finding : Finding) {id : DeclId} {known : Declaration}
    (held : table.get? id = some known) : (table.note finding).get? id = some known := by
  unfold note
  split
  · exact add_kept _ held
  · exact held

theorem notes_kept (found : List Finding) {id : DeclId} {known : Declaration}
    (held : table.get? id = some known) : (found.foldl note table).get? id = some known := by
  induction found generalizing table with
  | nil => exact held
  | cons finding rest ih => exact ih (note_kept finding held)

theorem note_entered (table : SymbolTable) (finding : Finding) : ∃ use,
    (table.note finding).uses.toList = table.uses.toList ++ [use] ∧
      (table.note finding).Enters finding use := by
  unfold note Enters
  cases finding.decl with
  | none => exact ⟨⟨finding.site, .other⟩, by simp [record], rfl, rfl⟩
  | some decl =>
      obtain ⟨stored, held, same⟩ := table.add_names decl
      refine ⟨⟨finding.site, .function (table.add decl).1⟩, by simp [record, add_uses], rfl, ?_⟩
      exact ⟨_, stored, rfl, held, same⟩

theorem Enters.later {after : SymbolTable} {finding : Finding} {use : Use}
    (enters : table.Enters finding use)
    (kept : ∀ id known, table.get? id = some known → after.get? id = some known) :
    after.Enters finding use := by
  obtain ⟨site, binding⟩ := enters
  refine ⟨site, ?_⟩
  split at binding
  · obtain ⟨id, stored, bound, held, same⟩ := binding
    exact ⟨id, stored, bound, kept id stored held, same⟩
  · exact binding

/-- Every finding has a use that stands for it, and no others are added. -/
theorem notes_entered (table : SymbolTable) (found : List Finding) : ∃ uses,
    (found.foldl note table).uses.toList = table.uses.toList ++ uses ∧
      (∀ finding ∈ found, ∃ use ∈ uses, (found.foldl note table).Enters finding use) ∧
      ∀ use ∈ uses, ∃ finding ∈ found, (found.foldl note table).Enters finding use := by
  induction found generalizing table with
  | nil => exact ⟨[], by simp, List.forall_mem_nil _, List.forall_mem_nil _⟩
  | cons finding rest ih =>
      obtain ⟨first, begins, entered⟩ := table.note_entered finding
      obtain ⟨uses, goesOn, each, back⟩ := ih (table.note finding)
      have enters := entered.later fun _ _ => notes_kept rest
      refine ⟨first :: uses, ?_, ?_, ?_⟩
      · rw [List.foldl_cons, goesOn, begins, List.append_assoc]
        rfl
      · refine List.forall_mem_cons.mpr ⟨⟨first, List.mem_cons_self, enters⟩, ?_⟩
        intro other member
        obtain ⟨use, among, otherEnters⟩ := each other member
        exact ⟨use, List.mem_cons_of_mem _ among, otherEnters⟩
      · refine List.forall_mem_cons.mpr ⟨⟨finding, List.mem_cons_self, enters⟩, ?_⟩
        intro use member
        obtain ⟨other, among, otherEnters⟩ := back use member
        exact ⟨other, List.mem_cons_of_mem _ among, otherEnters⟩

theorem notes_gains_iff (table : SymbolTable) (found : List Finding) (site : Site)
    (fullName : String) : table.Gains (found.foldl note table) site fullName ↔
      ∃ decl, ⟨site, some decl⟩ ∈ found ∧ decl.fullName = fullName := by
  obtain ⟨uses, added, each, back⟩ := table.notes_entered found
  have fresh : (found.foldl note table).uses.toList.drop table.uses.size = uses := by
    rw [added, ← Array.length_toList, List.drop_left]
  unfold Gains
  rw [fresh]
  constructor
  · rintro ⟨id, stored, member, held, rfl⟩
    obtain ⟨⟨found, decl⟩, among, rfl, bound⟩ := back _ member
    cases decl with
    | none => cases bound
    | some decl =>
        obtain ⟨_, other, same, otherHeld, names⟩ := bound
        cases same
        cases otherHeld.symm.trans held
        exact ⟨decl, among, names.symm⟩
  · rintro ⟨decl, member, rfl⟩
    obtain ⟨⟨_, _⟩, among, rfl, id, stored, rfl, held, same⟩ := each _ member
    exact ⟨id, stored, among, held, same⟩

end SymbolTable

namespace Resolver

/-- No declaration of a name counts where it is used, neither in the block nor in the scopes
around it. An operand is the name of neither a type nor an import. -/
structure Unhidden (resolver : Resolver) (scopes : List Scope) (block use : Node)
    (isOperand : Bool) : Prop where
  outside : ¬Bound scopes (resolver.text use)
  inside : ¬InScope resolver.source block (resolver.text use) use.start
  operand : isOperand = true → resolver.context.importPath? (resolver.text use) = none ∧
    resolver.index.hasType (resolver.text use) = false

/-- For the names that were declared before a use, these are the rules of scopes. -/
theorem unhidden_iff {resolver : Resolver} {scopes : List Scope} {block use : Node}
    {isOperand : Bool} {hidden : List String} (formed : Formed block)
    (used : UsedAfter resolver.source (pieces resolver.source block) use isOperand hidden) :
    resolver.Unhidden scopes block use isOperand ↔ resolver.Free scopes hidden use isOperand := by
  have covered := hidden_iff block formed used (resolver.text use)
  constructor
  · rintro ⟨outside, inside, operand⟩
    exact ⟨outside, fun among => inside (covered.mp among), operand⟩
  · rintro ⟨unbound, unhidden, operand⟩
    exact ⟨unbound, fun inScope => unhidden (covered.mpr inScope), operand⟩

/-- A walk of a block that succeeds has recorded a name as a use of a function just when the name
stands for that function and nothing hides it. -/
theorem recorded_iff {resolver : Resolver} {block use : Node} {memory after : WalkMemory}
    {isOperand : Bool} (isOne : isBlock block = true) (formed : Formed block)
    (ran : runFrom (resolver.walk block) memory = (.ok ⟨⟩, after))
    (uses : Uses resolver.source block use isOperand) :
    (resolver.Unhidden memory.scopes block use isOperand →
      (resolver.answer? after.cache (resolver.text use)).isSome) ∧
    ∀ fullName,
      memory.symbols.Gains after.symbols
          (resolver.siteOf use (.ident (resolver.text use))) fullName ↔
        resolver.Unhidden memory.scopes block use isOperand ∧
          ∃ decl, resolver.answer? after.cache (resolver.text use) = some (some decl) ∧
            decl.fullName = fullName := by
  have performed := (walk_performs resolver block memory).of_ok ran
  have hosted : declaredNames resolver.source [.part block] = [] := by
    rw [declaredNames_part, isOne]
    rfl
  obtain ⟨found, entered, names⟩ := performed.entered fun _ => hosted
  obtain ⟨hidden, used⟩ := uses_iff.mp uses
  have complete := names.complete use isOperand hidden (usedAfter_part_iff.mpr used)
  rw [← unhidden_iff formed used] at complete
  refine ⟨fun unhidden => ?_, fun fullName => ?_⟩
  · obtain ⟨answer, settled, _⟩ := complete unhidden
    rw [settled]
    rfl
  rw [entered, SymbolTable.notes_gains_iff]
  constructor
  · rintro ⟨decl, member, rfl⟩
    obtain ⟨other, isOther, otherHidden, otherUsed, free, answered, same⟩ :=
      names.sound _ member _ _ rfl rfl
    rw [usedAfter_part_iff] at otherUsed
    -- The finding tells the place of the use, and at a place there is one use only.
    have starts : other.start = use.start :=
      congrArg (fun finding : Finding => finding.site.span.start) same.symm
    obtain ⟨rfl, rfl⟩ :=
      uses_unique block formed.laid uses (uses_iff.mpr ⟨_, otherUsed⟩) starts
    exact ⟨(unhidden_iff formed otherUsed).mpr free, decl, answered, rfl⟩
  · rintro ⟨unhidden, decl, answered, rfl⟩
    obtain ⟨answer, settled, entered⟩ := complete unhidden
    rw [answered] at settled
    cases settled
    exact ⟨decl, entered decl rfl, rfl⟩

/-- A walk of a block records a name as a use of a function just when the name stands for that
function and nothing hides it; what it stands for is known by then. Whether or not it succeeds, a
walk changes no scope but the innermost one, in which it only binds names. -/
theorem walk_records_unhidden (resolver : Resolver) :
    (∀ node memory, Widened memory.scopes (leaves (resolver.walk node) memory).scopes) ∧
    ∀ block memory after, isBlock block = true → Formed block →
      runFrom (resolver.walk block) memory = (.ok ⟨⟩, after) →
      ∀ use isOperand, Uses resolver.source block use isOperand →
        (resolver.Unhidden memory.scopes block use isOperand →
          (resolver.answer? after.cache (resolver.text use)).isSome) ∧
        ∀ fullName,
          memory.symbols.Gains after.symbols
              (resolver.siteOf use (.ident (resolver.text use))) fullName ↔
            resolver.Unhidden memory.scopes block use isOperand ∧
              ∃ decl, resolver.answer? after.cache (resolver.text use) = some (some decl) ∧
                decl.fullName = fullName := by
  refine ⟨fun node memory => ?_, ?_⟩
  · exact (walk_performs resolver node memory).leaves (fun _ _ performed => performed.widened)
      fun _ => id
  · intro block memory after isOne formed ran use isOperand uses
    exact recorded_iff isOne formed ran uses

/-! Files -/

def parsedFile (source : String) : CompilationUnit × Node :=
  (CompilationUnit.parse 0 ⟨"/s/m.go"⟩ ⟨"m.go"⟩ "p" source false).toOption.getD default

/-- A file that is all of its package and imports nothing. -/
def ofFile (file : CompilationUnit × Node) : Resolver where
  packages := ⟨{}, ⟨⟨"/s"⟩, "p"⟩⟩
  index := .ofFiles "p" "p" [(⟨file.1.source, ⟨"p", []⟩⟩, file.2)]
  unit := file.1
  context := ⟨"p", []⟩
  dotImports := []

def lastNode (file : CompilationUnit × Node) : Node := file.2.namedChildren.getLast?.getD default

section
variable {name : String} {span : Span}

/-- A use at a place among those of a node. -/
theorem exists_use {source : String} {block : Node} {isOperand : Bool}
    (among : (span, isOperand) ∈ (usesIn source block).map fun use => (use.1.span, use.2)) :
    ∃ use, Uses source block use isOperand ∧ use.span = span := by
  obtain ⟨⟨use, _⟩, member, same⟩ := List.mem_map.mp among
  cases same
  exact ⟨use, uses_of_mem member, rfl⟩

/-- All that a site tells of a name is where it stands. -/
theorem text_of_span {resolver : Resolver} {use : Node} (same : use.span = span) :
    resolver.text use = resolver.text (Node.leaf .identifier span) := by
  subst same
  rfl

theorem siteOf_of_span (resolver : Resolver) {use : Node} {shape : Shape}
    (same : use.span = span) :
    resolver.siteOf use shape = resolver.siteOf (Node.leaf .identifier span) shape := by
  subst same
  rfl

theorem exists_answer {resolver : Resolver} {fullName : String} (notBlank : name ≠ "_")
    (declares : (resolver.index.function? name).map Declaration.fullName = some fullName) :
    ∃ decl, decl.fullName = fullName ∧ ∀ cache, resolver.answer? cache name = some (some decl) := by
  obtain ⟨decl, found, same⟩ := Option.map_eq_some_iff.mp declares
  exact ⟨decl, same, answer?_function notBlank found⟩

end

/-- The name of a function is declared anew after a call. -/
def renewedFile : CompilationUnit × Node :=
  parsedFile "package p\nfunc f() int { return 0 }\nfunc g() int { f := f(); return f }\n"

/-- The call is recorded, and what is returned is the new name. -/
theorem walk_records_unhidden_renewed :
    let resolver := ofFile renewedFile
    let block := lastNode renewedFile
    isBlock block = true ∧ Formed block ∧
      ∃ after, runFrom (resolver.walk block) ⟨{}, {}, []⟩ = (.ok ⟨⟩, after) ∧
      ∃ call result, (call.span = ⟨56, 57⟩ ∧ Uses resolver.source block call false) ∧
        (result.span = ⟨68, 69⟩ ∧ Uses resolver.source block result false) ∧
        resolver.Unhidden [] block call false ∧ ¬resolver.Unhidden [] block result false := by
  intro resolver block
  obtain ⟨isOne, formed, succeeds, isCall, isResult, recorded, declares, names, callName,
      resultName, callSite⟩ :
      isBlock block = true ∧ Formed block ∧
      (runFrom (resolver.walk block) ⟨{}, {}, []⟩).1.toOption = some ⟨⟩ ∧
      (⟨56, 57⟩, false) ∈ (usesIn resolver.source block).map (fun use => (use.1.span, use.2)) ∧
      (⟨68, 69⟩, false) ∈ (usesIn resolver.source block).map (fun use => (use.1.span, use.2)) ∧
      (leaves (resolver.walk block) ⟨{}, {}, []⟩).symbols.uses.toList =
        [⟨⟨⟨0, ⟨56, 57⟩⟩, 3, 21, .ident "f"⟩, .function 0⟩] ∧
      ((leaves (resolver.walk block) ⟨{}, {}, []⟩).symbols.get? 0).map Declaration.fullName =
        some "p.f" ∧
      (resolver.index.function? "f").map Declaration.fullName = some "p.f" ∧
      resolver.text (Node.leaf .identifier ⟨56, 57⟩) = "f" ∧
      resolver.text (Node.leaf .identifier ⟨68, 69⟩) = "f" ∧
      resolver.siteOf (Node.leaf .identifier ⟨56, 57⟩) (.ident "f") =
        ⟨⟨0, ⟨56, 57⟩⟩, 3, 21, .ident "f"⟩ := by decide +kernel
  have ran := runFrom_of_toOption succeeds rfl
  obtain ⟨call, calls, callSpan⟩ := exists_use isCall
  obtain ⟨result, gives, resultSpan⟩ := exists_use isResult
  obtain ⟨stored, held, named⟩ := Option.map_eq_some_iff.mp declares
  obtain ⟨decl, fullName, answered⟩ := exists_answer (by decide) names
  have records := (walk_records_unhidden resolver).2 block _ _ isOne formed ran
  refine ⟨isOne, formed, _, ran, call, result, ⟨callSpan, calls⟩, ⟨resultSpan, gives⟩, ?_, ?_⟩
  · have text : resolver.text call = "f" := (text_of_span callSpan).trans callName
    have site := (siteOf_of_span resolver callSpan).trans callSite
    refine (((records call false calls).2 "p.f").mp ⟨0, stored, ?_, held, named⟩).1
    rw [recorded, text, site]
    exact List.mem_singleton_self _
  · intro unhidden
    have text : resolver.text result = "f" := (text_of_span resultSpan).trans resultName
    obtain ⟨id, stored, member, _⟩ := ((records result false gives).2 "p.f").mpr
      ⟨unhidden, decl, by rw [text]; exact answered _, fullName⟩
    have among := List.mem_of_mem_drop member
    rw [recorded] at among
    have here := congrArg (fun use : Use => use.site.span.start) (List.mem_singleton.mp among)
    change result.span.start = 56 at here
    rw [resultSpan] at here
    cases here

mutual

/-- All nodes of a tree, also those that are no code. -/
def nodesIn (node : Node) : List Node :=
  match node with
  | ⟨kind, label, span, children⟩ => ⟨kind, label, span, children⟩ :: nodesAmong children

def nodesAmong (nodes : List Node) : List Node :=
  match nodes with
  | [] => []
  | node :: rest => nodesIn node ++ nodesAmong rest

end

theorem not_inScope_of_declared {source : String} {block : Node} {place : Nat} {name : String}
    (undeclared : ∀ inner ∈ heldIn source block, name ∉ (declared source inner).map Prod.fst) :
    ¬InScope source block name place := by
  rintro ⟨inner, holds, _, _, begins, declares, _⟩
  exact undeclared inner (mem_of_holds holds) (List.mem_map_of_mem declares)

/-- A length of an array type in which a function is named. -/
def measuredFile : CompilationUnit × Node :=
  parsedFile "package p\nfunc f() {}\nfunc g() { var a [len([1]func(){f})]int; _ = a }\n"

/-- Types are no code. A name in one is not recorded, although it stands for a function and no
declaration is in scope. -/
theorem walk_skips_types :
    let resolver := ofFile measuredFile
    let block := lastNode measuredFile
    isBlock block = true ∧ Formed block ∧
      (∀ node ∈ nodesIn block, node.kind ≠ .typeDeclaration ∧ node.kind ≠ .keyedElement ∧
        node.kind ≠ .selectorExpression) ∧
      ∃ after, runFrom (resolver.walk block) ⟨{}, {}, []⟩ = (.ok ⟨⟩, after) ∧
      ∃ name ∈ nodesIn block, name.kind = .identifier ∧ resolver.text name = "f" ∧
        (∃ decl, decl.fullName = "p.f" ∧ resolver.answer? after.cache "f" = some (some decl)) ∧
        ¬Bound [] "f" ∧ ¬InScope resolver.source block "f" name.start ∧
        ∀ fullName, ¬SymbolTable.Gains {} after.symbols
          (resolver.siteOf name (.ident "f")) fullName := by
  intro resolver block
  obtain ⟨isOne, formed, plain, succeeds, unrecorded, names, undeclared, name, among, kind, text⟩ :
      isBlock block = true ∧ Formed block ∧
      (∀ node ∈ nodesIn block, node.kind ≠ .typeDeclaration ∧ node.kind ≠ .keyedElement ∧
        node.kind ≠ .selectorExpression) ∧
      (runFrom (resolver.walk block) ⟨{}, {}, []⟩).1.toOption = some ⟨⟩ ∧
      (leaves (resolver.walk block) ⟨{}, {}, []⟩).symbols.uses.toList = [] ∧
      (resolver.index.function? "f").map Declaration.fullName = some "p.f" ∧
      (∀ inner ∈ heldIn resolver.source block,
        "f" ∉ (declared resolver.source inner).map Prod.fst) ∧
      ∃ name ∈ nodesIn block, name.kind = .identifier ∧ resolver.text name = "f" := by
    decide +kernel
  obtain ⟨decl, fullName, answered⟩ := exists_answer (by decide) names
  refine ⟨isOne, formed, plain, _, runFrom_of_toOption succeeds rfl, name, among, kind, text,
    ⟨decl, fullName, answered _⟩, by simp [Bound], not_inScope_of_declared undeclared, ?_⟩
  rintro fullName ⟨id, stored, member, _⟩
  have among := List.mem_of_mem_drop member
  rw [unrecorded] at among
  cases among

end Resolver
end AspectLoom
