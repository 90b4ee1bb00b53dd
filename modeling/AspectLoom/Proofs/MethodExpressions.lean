import AspectLoom.Proofs.LocalTypes
import AspectLoom.Proofs.PackageOrigins
import AspectLoom.Proofs.UnwovenForms
/-!
Method expressions, in which a method is named behind a type. The one behind the bare name of a type
of the package is recorded in a form that cannot be woven, and a weave that selects it fails. Where
the type is in parentheses, behind a star or behind an import, its operand has no static type and
nothing is recorded.
-/
namespace AspectLoom

open Actions PackageCache Scoping
open Syntax (Node Kind)

namespace Resolver

/-- All that a node holds besides comments is one part. -/
structure Wraps (node inner : Node) : Prop where
  member : inner ∈ node.namedChildren
  others : ∀ child ∈ node.namedChildren, child = inner ∨ child.kind = .comment

/-- An operand that spells a type: a name that stands for no import and for no value, or one behind
an import where it stands for no value, also in parentheses and behind stars. It comes with the name
that a local declaration could hide. -/
inductive TypeOperand (resolver : Resolver) (cache : PackageCache) : Node → Node → Prop where
  | name {node : Node} (kind : node.kind = .identifier)
      (noImport : resolver.context.importPath? (resolver.text node) = none)
      (noValue : resolver.index.value? (resolver.text node) = none) :
      TypeOperand resolver cache node node
  | qualified {node operand field : Node} {path : String}
      (reference : IsReference node operand field)
      (imported : resolver.context.importPath? (resolver.text operand) = some path)
      (noValue : ∀ index, cache.known? path = some (some index) →
        index.value? (resolver.text field) = none) :
      TypeOperand resolver cache node operand
  | parenthesized {node inner name : Node} (kind : node.kind = .parenthesizedExpression)
      (wraps : Wraps node inner) (spelled : TypeOperand resolver cache inner name) :
      TypeOperand resolver cache node name
  | pointed {node operator inner name : Node} (kind : node.kind = .unaryExpression)
      (isOperator : node.child? .operator = some operator) (text : resolver.text operator = "*")
      (isOperand : node.child? .operand = some inner) (wraps : Wraps node inner)
      (spelled : TypeOperand resolver cache inner name) : TypeOperand resolver cache node name

/-- A method expression at which the package declares the method: a method of the package behind the
bare name of its type. -/
def IsDirect (resolver : Resolver) (operand field : Node) : Prop :=
  operand.kind = .identifier ∧ resolver.index.hasType (resolver.text operand) = true ∧
    (resolver.index.method? (resolver.text operand) (resolver.text field)).isSome = true

instance (resolver : Resolver) (operand field : Node) :
    Decidable (resolver.IsDirect operand field) := by
  unfold IsDirect
  infer_instance

section
variable {resolver : Resolver} {cache last : PackageCache} {node inner operand field name : Node}
  {memory there next after : WalkMemory}

/-! What an operand declares and uses -/

theorem comment_declares {source : String} (isComment : node.kind = .comment) :
    (Piece.part node).declared source = [] := by
  have nothing : pieces source node = [] := by simp [pieces, isComment, isSkipped]
  rw [Piece.declared]
  split
  · rfl
  · rw [declared_eq, nothing]
    rfl

/-- The parts of parentheses and of an operator's expression are its named children. -/
theorem wrapping_pieces {source : String}
    (kinds : node.kind = .parenthesizedExpression ∨ node.kind = .unaryExpression) :
    pieces source node = node.namedChildren.map Piece.part := by
  rcases kinds with kind | kind <;> simp [pieces, kind, isSkipped, Kind.isType, partsOf] <;> rfl

theorem wraps_declares {source : String} (wraps : Wraps node inner)
    (nothing : (Piece.part inner).declared source = []) :
    ∀ child ∈ node.namedChildren, (Piece.part child).declared source = [] := by
  intro child member
  rcases wraps.others child member with rfl | isComment
  · exact nothing
  · exact comment_declares isComment

theorem part_declares {source : String} (nothing : ∀ piece ∈ pieces source node,
    piece.declared source = []) : (Piece.part node).declared source = [] := by
  rw [Piece.declared]
  split
  · rfl
  · rw [declared_eq]
    exact List.flatMap_eq_nil_iff.mpr nothing

/-- An operand that spells a type declares no names. -/
theorem typeOperand_declares (spelled : resolver.TypeOperand cache operand name) :
    (Piece.part operand).declared resolver.source = [] := by
  have wrapping : ∀ {node inner : Node},
      node.kind = .parenthesizedExpression ∨ node.kind = .unaryExpression → Wraps node inner →
      (Piece.part inner).declared resolver.source = [] →
      (Piece.part node).declared resolver.source = [] := by
    intro node inner kinds wraps nothing
    apply part_declares
    rw [wrapping_pieces kinds]
    exact List.forall_mem_map.mpr (wraps_declares wraps nothing)
  induction spelled with
  | name kind _ _ =>
      apply part_declares
      rw [pieces_identifier resolver.source kind]
      exact List.forall_mem_singleton.mpr rfl
  | qualified reference _ _ =>
      apply part_declares
      rw [pieces_selector resolver.source reference.kind reference.isOperand reference.isField,
        if_pos reference.isName]
      exact List.forall_mem_singleton.mpr rfl
  | parenthesized kind wraps _ ih => exact wrapping (.inl kind) wraps ih
  | pointed kind _ _ _ wraps _ ih => exact wrapping (.inr kind) wraps ih

/-- In an operand that spells a type nothing is declared before its name. -/
theorem typeOperand_uses (spelled : resolver.TypeOperand cache operand name) :
    ∃ isOperand, UsedAfter resolver.source (pieces resolver.source operand) name isOperand [] := by
  have wrapping : ∀ {node inner name : Node},
      node.kind = .parenthesizedExpression ∨ node.kind = .unaryExpression → Wraps node inner →
      resolver.TypeOperand cache inner name →
      (∃ isOperand,
        UsedAfter resolver.source (pieces resolver.source inner) name isOperand []) →
      ∃ isOperand, UsedAfter resolver.source (pieces resolver.source node) name isOperand [] := by
    rintro node inner name kinds wraps spelled ⟨isOperand, used⟩
    have nothing := wraps_declares wraps (typeOperand_declares spelled)
    rw [wrapping_pieces kinds]
    obtain ⟨front, back, splits⟩ := List.append_of_mem wraps.member
    rw [splits] at nothing ⊢
    have before : (front.map Piece.part).flatMap (Piece.declared resolver.source) = [] := by
      refine List.flatMap_eq_nil_iff.mpr (List.forall_mem_map.mpr fun child member => ?_)
      exact nothing child (List.mem_append_left _ member)
    have behind := usedAfter_behind (front.map Piece.part)
      (UsedAfter.inside (back.map Piece.part) used)
    rw [before] at behind
    exact ⟨isOperand, by simpa using behind⟩
  induction spelled with
  | @name node kind _ _ =>
      rw [pieces_identifier resolver.source kind]
      exact ⟨false, .use node false []⟩
  | @qualified node operand field path reference _ _ =>
      rw [pieces_selector resolver.source reference.kind reference.isOperand reference.isField,
        if_pos reference.isName]
      exact ⟨true, .use operand true []⟩
  | parenthesized kind wraps spelled ih => exact wrapping (.inl kind) wraps spelled ih
  | pointed kind _ _ _ wraps spelled ih => exact wrapping (.inr kind) wraps spelled ih

/-- An operand that is a bare name is the name by itself. -/
theorem typeOperand_bare (spelled : resolver.TypeOperand cache operand name)
    (kind : operand.kind = .identifier) :
    name = operand ∧ resolver.context.importPath? (resolver.text operand) = none ∧
      resolver.index.value? (resolver.text operand) = none := by
  cases spelled with
  | name _ noImport noValue => exact ⟨rfl, noImport, noValue⟩
  | qualified reference _ _ =>
      rw [reference.kind] at kind
      cases kind
  | parenthesized isOne _ _ =>
      rw [isOne] at kind
      cases kind
  | pointed isOne _ _ _ _ _ =>
      rw [isOne] at kind
      cases kind

/-- A method expression declares nothing, and nothing is declared in it before its name. -/
theorem selector_uses {selector : Node} (isSelector : IsSelector selector operand field)
    (spelled : resolver.TypeOperand cache operand name) :
    (∃ isOperand,
        UsedAfter resolver.source (pieces resolver.source selector) name isOperand []) ∧
      declaredNames resolver.source (pieces resolver.source selector) = [] := by
  rw [pieces_selector resolver.source isSelector.kind isSelector.isOperand isSelector.isField]
  by_cases isName : operand.kind = .identifier
  · rw [if_pos isName, (typeOperand_bare spelled isName).1]
    exact ⟨⟨true, .use operand true []⟩, rfl⟩
  · rw [if_neg isName]
    obtain ⟨isOperand, used⟩ := typeOperand_uses spelled
    refine ⟨⟨isOperand, .inside [] used⟩, ?_⟩
    simp [declaredNames, typeOperand_declares spelled]

/-- Where a walk without scopes around it arrives at a method expression, its name is not bound
unless a declaration of the name is in scope there. -/
theorem arrives_unbound {code selector : Node} (formed : Formed code)
    (isSelector : IsSelector selector operand field)
    (spelled : resolver.TypeOperand cache operand name)
    (unshadowed : ¬InScope resolver.source code (resolver.text name) name.start)
    (unscoped : memory.scopes = [])
    (arrives : resolver.Arrives code memory (.refer selector) there) :
    ¬Bound there.scopes (resolver.text name) := by
  intro bound
  obtain ⟨hidden, used, bounds⟩ := arrives.bound rfl
  obtain ⟨⟨isOperand, uses⟩, nothing⟩ := selector_uses isSelector spelled
  have covered := hidden_iff code formed (used _ _ _ uses) (resolver.text name)
  rw [List.append_nil] at covered
  rcases bounds _ bound with outside | here | own
  · rw [unscoped] at outside
    obtain ⟨_, member, _⟩ := outside
    cases member
  · exact unshadowed (covered.mp here)
  · rw [nothing] at own
    cases own

/-! What is inferred and recorded -/

theorem infer_comment (isComment : node.kind = .comment) :
    runFrom (resolver.infer node) memory = (.ok none, memory) := by
  have unspelled : resolver.context.literalType? resolver.source node = none := by
    rw [literalType?_of_kind _ _ (by simp [isComment]), isComment]
  rw [infer, unspelled, isComment]
  rfl

theorem runFrom_unbound {name : String} (unbound : ¬Bound memory.scopes name) :
    runFrom (local? name) memory = (.ok none, memory) := by
  rw [runFrom_local?]
  cases found : memory.scopes.findSome? fun scope => Assoc.find? name scope with
  | none => rfl
  | some type => exact absurd (found_iff.mp (by rw [found]; rfl)) unbound

theorem importBehind?_of_unbound {path : String} (kind : operand.kind = .identifier)
    (unbound : ¬Bound memory.scopes (resolver.text operand))
    (imported : resolver.context.importPath? (resolver.text operand) = some path) :
    runFrom (resolver.importBehind? operand) memory = (.ok (some path), memory) := by
  have unhidden : runFrom (isLocal (resolver.text operand)) memory = (.ok false, memory) :=
    runFrom_bind_of_ok (runFrom_unbound unbound) _
  rw [importBehind?, if_pos kind]
  dsimp only
  rw [runFrom_bind_of_ok unhidden, imported]
  rfl

/-- An operand that spells a type has no static type. The induction is over the way it is spelled. -/
theorem infer_typeOperand (spelled : resolver.TypeOperand last operand name)
    (unbound : ¬Bound memory.scopes (resolver.text name)) {type : Option GoType}
    (ran : runFrom (resolver.infer operand) memory = (.ok type, after))
    (loaded : Loaded after.cache last) : type = none := by
  induction spelled generalizing type after with
  | name kind _ noValue =>
      rw [infer_identifier kind, nameType?, runFrom_bind_of_ok (runFrom_unbound unbound)] at ran
      cases ran
      exact noValue
  | qualified reference imported noValue =>
      rw [infer_selector reference.kind reference.isOperand reference.isField,
        runFrom_bind_of_ok (importBehind?_of_unbound reference.isName unbound imported)] at ran
      obtain ⟨found, middle, asked, ran⟩ := runFrom_bind_ok ran
      cases ran
      cases found with
      | none => rfl
      | some index =>
          have given := PackageSource.package_given (loading_ok asked).1 index rfl
          exact noValue index (loaded.kept _ _ given)
  | parenthesized kind wraps spelled ih =>
      obtain ⟨first, isFirst⟩ : ∃ first, Node.firstNamed? _ = some first :=
        Option.isSome_iff_exists.mp (by
          rw [Node.firstNamed?, List.isSome_head?]
          simpa using List.ne_nil_of_mem wraps.member)
      rw [infer_parenthesized kind isFirst] at ran
      rcases wraps.others first (List.mem_of_head? isFirst) with rfl | isComment
      · exact ih unbound ran loaded
      · rw [infer_comment isComment] at ran
        cases ran
        rfl
  | @pointed node operator inner name kind isOperator text isOperand wraps spelled ih =>
      have unspelled : resolver.context.literalType? resolver.source node = none := by
        rw [literalType?_of_kind _ _ (by simp [kind]), kind]
        change Node.text resolver.source operator = "*" at text
        simp [TypeContext.addressType?, isOperator, isOperand, text]
      rw [infer_unary kind isOperator isOperand unspelled] at ran
      obtain ⟨pointer, middle, inferred, ran⟩ := runFrom_bind_ok ran
      cases ran
      rw [ih unbound inferred loaded, text]
      rfl

theorem resolveMethod_none {selector : Node} {method : String} :
    resolver.resolveMethod selector operand method none = pure () := rfl

/-- Behind the bare name of a type of the package a method of the package is recorded, in a form that
cannot be woven. -/
theorem refer_typeName {selector : Node} (isSelector : IsSelector selector operand field)
    (spelled : resolver.TypeOperand last operand name) (isName : operand.kind = .identifier)
    (isType : resolver.index.hasType (resolver.text operand) = true)
    (unbound : ¬Bound there.scopes (resolver.text name)) :
    runFrom (resolver.refer selector) there =
      runFrom (match resolver.index.method? (resolver.text operand) (resolver.text field) with
        | some decl => resolver.recordFunction selector methodExpression decl
        | none => pure ()) there := by
  obtain ⟨rfl, noImport, _⟩ := typeOperand_bare spelled isName
  rw [resolver.refer_name isSelector isName, resolveNameSelector,
    runFrom_bind_of_ok (runFrom_unbound unbound), noImport]
  dsimp only
  refine (congrArg (runFrom · there) (if_pos isType)).trans ?_
  cases resolver.index.method? (resolver.text name) (resolver.text field) <;> rfl

/-- At any other method expression nothing is recorded unless it is for the name by itself. -/
theorem refer_typeOperand {selector : Node} (isSelector : IsSelector selector operand field)
    (spelled : resolver.TypeOperand last operand name)
    (unbound : ¬Bound there.scopes (resolver.text name)) (ready : resolver.Ready there.cache)
    (indirect : ¬resolver.IsDirect operand field)
    (ran : runFrom (resolver.refer selector) there = (.ok ⟨⟩, next))
    (loaded : Loaded next.cache last) :
    ∃ sites, next.symbols.sites = there.symbols.sites ++ sites ∧
      ∀ site ∈ sites, site.span = operand.span := by
  have nothing : ∀ {after : WalkMemory}, after.symbols = there.symbols →
      ∃ sites, after.symbols.sites = there.symbols.sites ++ sites ∧
        ∀ site ∈ sites, site.span = operand.span :=
    fun same => ⟨[], by rw [same, List.append_nil], List.forall_mem_nil _⟩
  by_cases isName : operand.kind = .identifier
  · by_cases isType : resolver.index.hasType (resolver.text operand) = true
    · rw [refer_typeName isSelector spelled isName isType unbound] at ran
      cases found : resolver.index.method? (resolver.text operand) (resolver.text field) with
      | none =>
          rw [found] at ran
          cases ran
          exact nothing rfl
      | some decl => exact absurd ⟨isName, isType, by rw [found]; rfl⟩ indirect
    · -- The name can stand for a function, which is recorded at its own place.
      obtain ⟨rfl, noImport, noValue⟩ := typeOperand_bare spelled isName
      rw [resolver.refer_name isSelector isName, resolveNameSelector,
        runFrom_bind_of_ok (runFrom_unbound unbound), noImport] at ran
      dsimp only at ran
      rw [if_neg isType, noValue, resolveMethod_none] at ran
      obtain ⟨_, middle, named, ran⟩ := runFrom_bind_ok ran
      cases ran
      obtain ⟨found, entered, _, _, most⟩ := resolveName_finds name _ _ _ ready named
      refine ⟨found.map Finding.site, by rw [entered, SymbolTable.notes_sites], ?_⟩
      refine List.forall_mem_map.mpr fun finding member => ?_
      obtain ⟨_, _, _, rfl⟩ := most.resolve_left (List.ne_nil_of_mem member)
      cases List.mem_singleton.mp member
      rfl
  · rw [resolver.refer_expression isSelector isName] at ran
    obtain ⟨type, middle, inferred, ran⟩ := runFrom_bind_ok ran
    have kept := (resolver.infer_looks operand).quiet _ _ _ inferred
    have further : Loaded middle.cache next.cache :=
      ((resolver.resolveMethod_finds selector operand _ type) _ _ _
        (ready_loaded ready kept.loaded) ran).loaded
    rw [infer_typeOperand spelled unbound inferred (further.trans loaded),
      resolveMethod_none] at ran
    cases ran
    exact nothing kept.symbols_eq

theorem refer_mem_steps {selector : Node} {source : String}
    (isSelector : IsSelector selector operand field) :
    .refer selector ∈ steps source selector := by
  rw [steps, pieces_selector source isSelector.kind isSelector.isOperand isSelector.isField]
  by_cases isName : operand.kind = .identifier
  · simp [isName, stepAt]
  · simp [isBehindExpression, isSelector.kind, isSelector.isOperand, isSelector.isField, isName]

end
end Resolver

namespace TargetPackage

open Resolver

/-- A method expression in the code of a file: a selector behind an operand that spells a type, the
name of which no declaration in scope hides. -/
structure IsMethodExpression (resolver : Resolver) (cache : PackageCache)
    (root selector operand field : Node) : Prop where
  isSelector : IsSelector selector operand field
  spelled : ∃ code ∈ codesOf root, Formed code ∧ Holds resolver.source code selector ∧
    ∃ name, resolver.TypeOperand cache operand name ∧
      ¬InScope resolver.source code (resolver.text name) name.start

section
variable {packages : PackageSource} {path : String} {units : List (CompilationUnit × Node)}
  {package : TargetPackage} {entries : List (Resolver × Node)} {start last : WalkMemory}
  {resolver : Resolver} {root selector operand field : Node} {decl : Declaration}

/-- A method behind the bare name of its type is recorded. -/
theorem direct_recorded
    (prepared : runFrom (resolvers packages path units) ⟨{}, {}, []⟩ = (.ok entries, start))
    (ran : runFrom (resolveAll packages path units) ⟨{}, {}, []⟩ = (.ok ⟨⟩, last))
    (member : (resolver, root) ∈ entries)
    (expression : IsMethodExpression resolver last.cache root selector operand field)
    (direct : resolver.IsDirect operand field)
    (declared : resolver.index.method? (resolver.text operand) (resolver.text field) = some decl) :
    SymbolTable.Gains {} last.symbols (resolver.siteOf selector methodExpression) decl.fullName := by
  obtain ⟨isSelector, code, isCode, formed, holds, name, spelled, unshadowed⟩ := expression
  obtain ⟨nothing, _, _⟩ := resolvers_ready prepared
  obtain ⟨walked, _⟩ := resolveAll_walked prepared ran
  obtain ⟨before, beyond, walk⟩ := walked _ (mem_codes.mpr ⟨root, member, isCode⟩)
  obtain ⟨there, next, arrives, onward, referred, goesOn⟩ :=
    holds_arrives holds (refer_mem_steps isSelector) walk.ready walk.ran
  have unbound := arrives_unbound formed isSelector spelled unshadowed walk.unscoped arrives
  change runFrom (resolver.refer selector) there = (.ok ⟨⟩, next) at referred
  rw [refer_typeName isSelector spelled direct.1 direct.2.1 unbound, declared,
    runFrom_recordFunction] at referred
  cases referred
  obtain ⟨earlier, begins⟩ := (walk.begins.trans onward).grows
  obtain ⟨later, ends⟩ := (goesOn.trans walk.goesOn).grows
  rw [nothing] at begins
  have table : last.symbols =
      (earlier ++ ⟨resolver.siteOf selector methodExpression, some decl⟩ :: later).foldl
        SymbolTable.note {} := by
    rw [ends, List.foldl_append, ← begins]
    rfl
  rw [table, SymbolTable.notes_gains_iff]
  exact ⟨decl, List.mem_append_right _ List.mem_cons_self, rfl⟩

/-- At the place of any other method expression nothing is recorded. -/
theorem indirect_unrecorded (laid : ∀ file ∈ units, file.2.Laid)
    (numbered : Numbered (units.map Prod.fst))
    (prepared : runFrom (resolvers packages path units) ⟨{}, {}, []⟩ = (.ok entries, start))
    (ran : runFrom (resolveAll packages path units) ⟨{}, {}, []⟩ = (.ok ⟨⟩, last))
    (member : (resolver, root) ∈ entries)
    (expression : IsMethodExpression resolver last.cache root selector operand field)
    (indirect : ¬resolver.IsDirect operand field) :
    ∀ site ∈ last.symbols.sites, site.toSiteKey ≠ ⟨resolver.unit.id, selector.span⟩ := by
  intro site recorded key
  have placed : site.span = selector.span := congrArg SiteKey.span key
  obtain ⟨isSelector, code, isCode, formed, holds, name, spelled, unshadowed⟩ := expression
  obtain ⟨before, there, next, sites, unscoped, arrives, ready, referred, added, among, loaded⟩ :=
    origin_of_selector laid numbered prepared ran member isCode formed holds isSelector recorded key
  have unbound := arrives_unbound formed isSelector spelled unshadowed unscoped arrives
  obtain ⟨named, alone, spans⟩ :=
    refer_typeOperand isSelector spelled unbound ready indirect referred loaded
  have same : sites = named := List.append_cancel_left (added.symm.trans alone)
  -- Only a site at the name itself was recorded, and the selector is longer.
  have short := (spans site (same ▸ among)).symm.trans placed
  have starts : operand.start = selector.start := congrArg Span.start short
  have stops : operand.stop = selector.stop := congrArg Span.stop short
  have longer := isSelector.longer (holds_between formed.laid holds).1
  omega

/-- A use of a method is recorded at a selector, in a form that cannot be woven. -/
def RecordsUnwoven (package : TargetPackage) (resolver : Resolver) (selector : Node)
    (fullName : String) : Prop :=
  ∃ id decl, ⟨resolver.siteOf selector methodExpression, .function id⟩ ∈
      package.symbols.uses.toList ∧
    package.symbols.get? id = some decl ∧ decl.fullName = fullName

/-- Every weave in which a pointcut selects a full name fails, at a join point whose form cannot be
woven or whose content has a name that is taken. -/
def WeavesFail (package : TargetPackage) (fullName : String) : Prop :=
  ∀ pointcuts imports scheme, (∃ pointcut ∈ pointcuts, Pointcut.selects pointcut fullName = true) →
    let points := JoinPoints.ofPointcuts pointcuts package
    ∃ error, WovenUnit.weaveEach package imports points ⟨{ scheme := scheme }, []⟩
        package.wovenUnits = .error error ∧
      ∃ unit ∈ package.wovenUnits, error.Expected package scheme unit (points.ofUnit unit.id)

theorem weavesFail_of_recorded (laid : ∀ file ∈ units, FileLaid file.1 file.2)
    (numbered : Numbered (units.map Prod.fst))
    (resolves : resolved packages path units = .ok package)
    (plain : ∀ entry ∈ package.packageNames, '(' ∉ entry.1.toList)
    (isUnit : resolver.unit ∈ package.units) (woven : resolver.unit.isAspect = false)
    {fullName : String} (recorded : package.RecordsUnwoven resolver selector fullName) :
    package.WeavesFail fullName := by
  intro pointcuts imports scheme selected
  obtain ⟨pointcut, isPointcut, selects⟩ := selected
  obtain ⟨id, decl, used, held, rfl⟩ := recorded
  have found : package.unit? resolver.unit.id = some resolver.unit := by
    obtain ⟨index, inside, same⟩ := List.mem_iff_getElem.mp isUnit
    have here : package.units[index]? = some resolver.unit := by
      rw [List.getElem?_eq_getElem inside, same]
    rw [(resolved_units resolves).2] at here
    have isIndex : resolver.unit.id = index := numbered index _ here
    rw [unit?, isIndex, (resolved_units resolves).2]
    exact here
  have matched : package.IsMatched pointcuts
      ⟨resolver.siteOf selector methodExpression, .function id⟩ :=
    ⟨pointcut, isPointcut, resolver.unit, id, decl, found, woven, rfl, held, selects⟩
  obtain ⟨error, failed⟩ := WovenUnit.weaveEach_fails laid numbered resolves used rfl matched
    (⟨{ scheme := scheme }, []⟩ : WeaveSession)
  exact ⟨error, failed, WovenUnit.weaveEach_expected (resolved_fits resolves plain pointcuts)
    package.wovenUnits ⟨{ scheme := scheme }, []⟩ ⟨rfl, NameSession.counted_start scheme⟩ failed⟩

/-- A method expression behind the bare name of a type of the package is recorded with its method, in
a form that cannot be woven, and every weave fails in which a pointcut selects the method. At any
other method expression nothing is recorded: not behind a type in parentheses, behind a star or
behind an import, and not behind the name of a dot-imported type. -/
theorem resolved_records_method_expressions (laid : ∀ file ∈ units, FileLaid file.1 file.2)
    (numbered : Numbered (units.map Prod.fst))
    (prepared : runFrom (resolvers packages path units) ⟨{}, {}, []⟩ = (.ok entries, start))
    (ran : runFrom (resolveAll packages path units) ⟨{}, {}, []⟩ = (.ok ⟨⟩, last))
    (resolves : resolved packages path units = .ok package)
    (plain : ∀ entry ∈ package.packageNames, '(' ∉ entry.1.toList)
    (member : (resolver, root) ∈ entries)
    (expression : IsMethodExpression resolver last.cache root selector operand field) :
    (∀ decl, operand.kind = .identifier →
      resolver.index.hasType (resolver.text operand) = true →
      resolver.index.method? (resolver.text operand) (resolver.text field) = some decl →
      package.RecordsUnwoven resolver selector decl.fullName ∧
        (resolver.unit.isAspect = false → package.WeavesFail decl.fullName)) ∧
    (¬resolver.IsDirect operand field → ∀ use ∈ package.symbols.uses.toList,
      use.site.toSiteKey ≠ ⟨resolver.unit.id, selector.span⟩) := by
  obtain ⟨_, again, rfl⟩ := resolved_ok_iff.mp resolves
  cases ran.symm.trans again
  constructor
  · intro decl isName isType declared
    have direct : resolver.IsDirect operand field := ⟨isName, isType, by rw [declared]; rfl⟩
    obtain ⟨id, stored, among, held, names⟩ :=
      direct_recorded prepared ran member expression direct declared
    have recorded : RecordsUnwoven ⟨packages.layout, path, units.map Prod.fst, last.symbols,
        last.cache.packageNames⟩ resolver selector decl.fullName :=
      ⟨id, stored, List.mem_of_mem_drop among, held, names⟩
    refine ⟨recorded, fun woven => ?_⟩
    refine weavesFail_of_recorded laid numbered resolves plain ?_ woven recorded
    obtain ⟨_, _, files⟩ := resolvers_ready prepared
    rw [← files]
    exact List.mem_map_of_mem (List.mem_map_of_mem member)
  · intro indirect use used
    exact indirect_unrecorded (fun file among => (laid file among).laid) numbered prepared ran
      member expression indirect use.site (List.mem_map_of_mem used)

theorem numbered_single {file : CompilationUnit × Node} (first : file.1.id = 0) :
    Numbered ([file].map Prod.fst) := by
  intro index unit here
  cases index with
  | zero =>
      cases here
      exact first
  | succ index => cases here

/-- A package of one file that imports nothing has one resolver. -/
theorem resolvers_ofFile {file : CompilationUnit × Node} (alone : file.1.imports = [])
    (named : file.1.packageName = "p") :
    runFrom (resolvers nestedSource "p" [file]) ⟨{}, {}, []⟩ =
      (.ok [(ofFile file, file.2)],
        ⟨({} : PackageCache).set "p" (some (ofFile file).index), {}, []⟩) := by
  have bound : runFrom (loading (nestedSource.bindings file.1.imports)) ⟨{}, {}, []⟩ =
      (.ok {}, ⟨{}, {}, []⟩) := by
    rw [alone]
    rfl
  unfold resolvers
  have mapped : ∀ action : CompilationUnit × Node → ResolveM PackageSource.Bindings,
      action file = loading (nestedSource.bindings file.1.imports) →
        runFrom ([file].mapM action) ⟨{}, {}, []⟩ = (.ok [{}], ⟨{}, {}, []⟩) := by
    intro action same
    rw [List.mapM_cons, same, runFrom_bind_of_ok bound]
    rfl
  rw [runFrom_bind_of_ok (mapped _ rfl)]
  simp only [List.head?_cons, Option.map_some, Option.getD_some, named]
  rfl

end

/-- A method is named behind the bare name of its type. -/
def bareFile : CompilationUnit × Node :=
  parsedFile "package p\ntype T int\nfunc (t T) M() {}\nvar f = T.M\n"

/-- The method is recorded, and it cannot be woven. -/
theorem resolved_records_method_expressions_bare :
    let resolver := ofFile bareFile
    ∃ package cache selector operand field,
      resolved nestedSource "p" [bareFile] = .ok package ∧
      IsMethodExpression resolver cache bareFile.2 selector operand field ∧
      resolver.text selector = "T.M" ∧ package.RecordsUnwoven resolver selector "(p.T).M" ∧
      package.WeavesFail "(p.T).M" := by
  intro resolver
  obtain ⟨laid, alone, named, woven, first, view, found, noValue, isType, declared⟩ :
      (∀ file ∈ [bareFile], FileLaid file.1 file.2) ∧ bareFile.1.imports = [] ∧
      bareFile.1.packageName = "p" ∧ resolver.unit.isAspect = false ∧ bareFile.1.id = 0 ∧
      (resolved nestedSource "p" [bareFile]).toOption.map packageNames = some [("p", "p")] ∧
      (∃ code ∈ codesOf bareFile.2, Formed code ∧
        (∀ inner ∈ heldIn resolver.source code,
          "T" ∉ (declared resolver.source inner).map Prod.fst) ∧
        ∃ selector ∈ heldIn resolver.source code, selector.kind = .selectorExpression ∧
          resolver.text selector = "T.M" ∧
          (selector.child? .operand).map (fun node => (node.kind, resolver.text node)) =
            some (.identifier, "T") ∧
          (selector.child? .field).map resolver.text = some "M") ∧
      resolver.index.value? "T" = none ∧ resolver.index.hasType "T" = true ∧
      (resolver.index.method? "T" "M").map Declaration.fullName = some "(p.T).M" := by
    decide +kernel
  obtain ⟨code, isCode, formed, undeclared, selector, held, kind, text, seen, method⟩ := found
  obtain ⟨operand, isOperand, same⟩ := Option.map_eq_some_iff.mp seen
  obtain ⟨isName, type⟩ := Prod.mk.inj same
  obtain ⟨field, isField, method⟩ := Option.map_eq_some_iff.mp method
  obtain ⟨decl, declared, fullName⟩ := Option.map_eq_some_iff.mp declared
  obtain ⟨package, succeeds, names⟩ := Option.map_eq_some_iff.mp view
  have resolves := ok_of_toOption succeeds
  obtain ⟨last, ran, _⟩ := resolved_ok_iff.mp resolves
  have spelled : resolver.TypeOperand last.cache operand operand :=
    .name isName (by rw [type]; rfl) (by rw [type]; exact noValue)
  have unshadowed : ¬InScope resolver.source code (resolver.text operand) operand.start := by
    rw [type]
    exact not_inScope_of_declared undeclared
  have expression : IsMethodExpression resolver last.cache bareFile.2 selector operand field :=
    ⟨⟨kind, isOperand, isField⟩, code, isCode, formed, holds_of_mem _ _ held, operand, spelled,
      unshadowed⟩
  have plain : ∀ entry ∈ package.packageNames, '(' ∉ entry.1.toList := by
    rw [names]
    decide
  rw [← type] at isType
  rw [← type, ← method] at declared
  obtain ⟨recorded, fails⟩ := (resolved_records_method_expressions laid (numbered_single first)
    (resolvers_ofFile alone named) ran resolves plain List.mem_cons_self expression).1 decl isName
    isType declared
  rw [fullName] at recorded fails
  exact ⟨package, last.cache, selector, operand, field, resolves, expression, text, recorded,
    fails woven⟩

theorem wraps_of_length {node inner : Node} (member : inner ∈ node.namedChildren)
    (single : node.namedChildren.length = 1) : Wraps node inner := by
  obtain ⟨only, same⟩ := List.length_eq_one_iff.mp single
  rw [same] at member
  obtain rfl := List.mem_singleton.mp member
  refine ⟨by rw [same]; exact List.mem_singleton_self _, fun child among => .inl ?_⟩
  rw [same] at among
  exact List.mem_singleton.mp among

/-- A method is named behind a pointer type. -/
def pointedFile : CompilationUnit × Node :=
  parsedFile "package p\ntype T int\nfunc (t T) M() {}\nfunc g() { f := (*T).M; _ = f }\n"

/-- Nothing is recorded for the method, and a weave that selects all methods goes through. -/
theorem resolved_overlooks_pointed :
    let resolver := ofFile pointedFile
    ∃ package cache selector operand field,
      resolved nestedSource "p" [pointedFile] = .ok package ∧
      IsMethodExpression resolver cache pointedFile.2 selector operand field ∧
      resolver.text selector = "(*T).M" ∧
      (resolver.index.method? "T" "M").map Declaration.fullName = some "(p.T).M" ∧
      package.symbols.uses.toList = [] ∧
      (∃ pointcut ∈ WovenUnit.everyPointcut, pointcut.selects "(p.T).M" = true) ∧
      ∃ woven, WovenUnit.weaveExpression package = .ok woven := by
  intro resolver
  have view : (resolved nestedSource "p" [pointedFile]).toOption.map (fun package =>
      (package.symbols.uses.toList, (WovenUnit.weaveExpression package).isOk)) =
        some ([], true) := by
    decide +kernel
  obtain ⟨noValue, declared, selects⟩ : resolver.index.value? "T" = none ∧
      (resolver.index.method? "T" "M").map Declaration.fullName = some "(p.T).M" ∧
      ∃ pointcut ∈ WovenUnit.everyPointcut, pointcut.selects "(p.T).M" = true := by
    decide +kernel
  have sound : ∀ code ∈ codesOf pointedFile.2, Formed code ∧
      ∀ inner ∈ heldIn resolver.source code,
        "T" ∉ (Scoping.declared resolver.source inner).map Prod.fst := by
    decide +kernel
  obtain ⟨selector, among, pointed, operand, isOperand, brackets, inner, isInner, star, name,
    isPart, isName⟩ :
      ∃ selector ∈ (codesOf pointedFile.2).flatMap (heldIn resolver.source),
          (selector.kind, resolver.text selector, (selector.child? .field).isSome) =
            (.selectorExpression, "(*T).M", true) ∧
          ∃ operand ∈ (selector.child? .operand).toList,
            (operand.kind, operand.namedChildren.length) = (.parenthesizedExpression, 1) ∧
            ∃ inner ∈ operand.namedChildren,
              (inner.kind, inner.namedChildren.length, (inner.child? .operator).map resolver.text) =
                (.unaryExpression, 1, some "*") ∧
              ∃ name ∈ (inner.child? .operand).toList,
                (name.kind, resolver.text name) = (.identifier, "T") := by
    decide +kernel
  simp only [Prod.mk.injEq] at pointed brackets star isName
  obtain ⟨code, isCode, held⟩ := List.mem_flatMap.mp among
  obtain ⟨formed, undeclared⟩ := sound code isCode
  obtain ⟨kind, text, fields⟩ := pointed
  obtain ⟨brackets, single⟩ := brackets
  obtain ⟨star, alone, operator⟩ := star
  obtain ⟨isName, type⟩ := isName
  rw [Option.mem_toList] at isOperand isPart
  obtain ⟨field, isField⟩ := Option.isSome_iff_exists.mp fields
  obtain ⟨operator, isOperator, operatorText⟩ := Option.map_eq_some_iff.mp operator
  have isNamed : name ∈ inner.namedChildren :=
    List.mem_filter.mpr ⟨Node.mem_of_child? isPart, by rw [Node.isNamed, isName]; rfl⟩
  have spelled : ∀ cache, resolver.TypeOperand cache operand name := fun cache =>
    .parenthesized brackets (wraps_of_length isInner single)
      (.pointed star isOperator operatorText isPart (wraps_of_length isNamed alone)
        (.name isName (by rw [type]; rfl) (by rw [type]; exact noValue)))
  cases resolves : resolved nestedSource "p" [pointedFile] with
  | error cause =>
      rw [resolves] at view
      cases view
  | ok package =>
      rw [resolves] at view
      obtain ⟨nothing, goesThrough⟩ := Prod.mk.inj (Option.some.inj view)
      refine ⟨package, {}, selector, operand, field, rfl, ⟨⟨kind, isOperand, isField⟩, code, isCode,
        formed, holds_of_mem _ _ held, name, spelled _, ?_⟩, text, declared, nothing, selects, ?_⟩
      · rw [type]
        exact not_inScope_of_declared undeclared
      · cases woven : WovenUnit.weaveExpression package with
        | error cause =>
            rw [woven] at goesThrough
            cases goesThrough
        | ok units => exact ⟨units, rfl⟩

end TargetPackage
end AspectLoom
