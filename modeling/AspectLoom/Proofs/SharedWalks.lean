import AspectLoom.Proofs.WalkFindings
import AspectLoom.Proofs.SharedPackages
/-!
Walks over packages that two sources share. A walk records the same with either source, as all that it asks
a source for are packages.
-/
namespace AspectLoom

open Actions PackageCache
open Syntax (Node)

namespace Resolver

/-- Whether a walk does what another one does when the packages that it asks for are clear. -/
abbrev Mirrors {α : Type} (clear : String → Prop) (first second : ResolveM α) : Prop :=
  Follows (fun _ => True) (fun memory => memory.cache.AllAsked clear) first second

/-- The same file with packages from another source. -/
def within (resolver : Resolver) (packages : PackageSource) : Resolver := { resolver with packages }

@[simp] theorem within_index (resolver : Resolver) (packages : PackageSource) :
    (resolver.within packages).index = resolver.index := rfl

@[simp] theorem within_context (resolver : Resolver) (packages : PackageSource) :
    (resolver.within packages).context = resolver.context := rfl

@[simp] theorem within_dotImports (resolver : Resolver) (packages : PackageSource) :
    (resolver.within packages).dotImports = resolver.dotImports := rfl

@[simp] theorem within_source (resolver : Resolver) (packages : PackageSource) :
    (resolver.within packages).source = resolver.source := rfl

@[simp] theorem within_text (resolver : Resolver) (packages : PackageSource) (node : Node) :
    (resolver.within packages).text node = resolver.text node := rfl

variable {clear : String → Prop} {α : Type}

theorem mirrors_modify {change : WalkMemory → WalkMemory}
    (still : ∀ memory, (change memory).cache = memory.cache) :
    Mirrors clear (modify change) (modify change) :=
  follows_modify (fun _ => id) fun memory isClear => still memory ▸ isClear

theorem bind_mirrors (name : String) (type : Option GoType) :
    Mirrors clear (bind name type) (bind name type) := by
  unfold bind
  split
  · exact follows_pure _
  · exact mirrors_modify fun _ => rfl

theorem bindAll_mirrors (names : List (String × Option GoType)) :
    Mirrors clear (bindAll names) (bindAll names) :=
  follows_forM fun _ _ => bind_mirrors _ _

theorem local?_mirrors (name : String) : Mirrors clear (local? name) (local? name) :=
  follows_bind follows_get fun _ => follows_pure _

theorem isLocal_mirrors (name : String) : Mirrors clear (isLocal name) (isLocal name) :=
  follows_bind (local?_mirrors name) fun _ => follows_pure _

theorem loading_mirrors {first second : LoadM α}
    (follows : Follows (fun _ => True) (AllAsked clear) first second) :
    Mirrors clear (loading first) (loading second) := by
  intro memory value after _ ran
  rw [runFrom_loading] at ran ⊢
  obtain ⟨outcome, rfl⟩ := Prod.mk.inj ran
  refine ⟨trivial, fun isClear => ?_⟩
  obtain ⟨clearCache, second⟩ := (follows _ _ _ trivial (Prod.ext outcome rfl)).2 isClear
  rw [second]
  exact ⟨clearCache, rfl⟩

section
variable (resolver : Resolver) {right : PackageSource}
  (shares : ∀ path, clear path → resolver.packages.Shares right path)
include shares

theorem package_mirrors (path : String) :
    Mirrors clear (resolver.package path) ((resolver.within right).package path) :=
  loading_mirrors (PackageSource.package_follows shares path)

theorem indexOf_mirrors (path : String) :
    Mirrors clear (resolver.indexOf path) ((resolver.within right).indexOf path) := by
  unfold indexOf
  change Mirrors clear _ (if path = resolver.index.path then _ else _)
  split
  · exact follows_pure _
  · exact resolver.package_mirrors shares path

theorem dotFunctionIn_mirrors (name : String) (paths : List String) :
    Mirrors clear (resolver.dotFunctionIn name paths)
      ((resolver.within right).dotFunctionIn name paths) := by
  induction paths with
  | nil => exact follows_pure _
  | cons path rest ih =>
      rw [dotFunctionIn, dotFunctionIn]
      refine follows_bind (resolver.package_mirrors shares path) fun index => ?_
      split
      · exact follows_pure _
      · exact ih

theorem dotFunction_mirrors (name : String) :
    Mirrors clear (resolver.dotFunction name) ((resolver.within right).dotFunction name) :=
  resolver.dotFunctionIn_mirrors shares name resolver.dotImports

theorem methodOf_mirrors (type : GoType) (name : String) :
    Mirrors clear (resolver.methodOf type name) ((resolver.within right).methodOf type name) := by
  unfold methodOf
  split
  · exact follows_pure _
  · exact follows_bind (resolver.indexOf_mirrors shares _) fun _ => follows_pure _

omit shares in
theorem importBehind?_mirrors (operand : Node) :
    Mirrors clear (resolver.importBehind? operand) ((resolver.within right).importBehind? operand) := by
  unfold importBehind?
  split
  · refine follows_bind (isLocal_mirrors _) fun hidden => ?_
    split <;> exact follows_pure _
  · exact follows_pure _

theorem fieldOf_mirrors (type : Option GoType) (name : String) :
    Mirrors clear (resolver.fieldOf type name) ((resolver.within right).fieldOf type name) := by
  unfold fieldOf
  split
  · exact follows_pure _
  · exact follows_bind (resolver.indexOf_mirrors shares _) fun _ => follows_pure _

theorem namedResults_mirrors (name : String) :
    Mirrors clear (resolver.namedResults name) ((resolver.within right).namedResults name) := by
  unfold namedResults
  dsimp +instances only [within_index, within_context]
  refine follows_bind (isLocal_mirrors name) fun hidden => ?_
  split
  · exact follows_pure _
  · split
    · exact follows_pure _
    · split
      · exact follows_pure _
      · exact follows_bind (resolver.dotFunction_mirrors shares name) fun _ => follows_pure _

omit shares in
theorem nameType?_mirrors (name : String) :
    Mirrors clear (resolver.nameType? name) ((resolver.within right).nameType? name) := by
  unfold nameType?
  refine follows_bind (local?_mirrors name) fun found => ?_
  split <;> exact follows_pure _

mutual

theorem infer_mirrors (node : Node) :
    Mirrors clear (resolver.infer node) ((resolver.within right).infer node) := by
  rw [infer, infer]
  dsimp +instances only [within_context, within_source, within_text]
  split
  · exact follows_pure _
  · split
    · exact resolver.nameType?_mirrors _
    · split
      · exact infer_mirrors _
      · exact follows_pure _
    · split
      · exact follows_bind (infer_mirrors _) fun _ => follows_pure _
      · exact follows_pure _
    · refine follows_bind (callResults_mirrors node) fun types => ?_
      split <;> exact follows_pure _
    · split
      · refine follows_bind (resolver.importBehind?_mirrors _) fun path => ?_
        split
        · exact follows_bind (resolver.package_mirrors shares _) fun _ => follows_pure _
        · exact follows_bind (infer_mirrors _) fun _ => resolver.fieldOf_mirrors shares _ _
      · exact follows_pure _
    · split
      · exact follows_bind (infer_mirrors _) fun _ => follows_pure _
      · exact follows_pure _
    · exact follows_pure _
    · exact follows_pure _
termination_by 3 * sizeOf node + 2
decreasing_by all_goals (first
  | have shorter := Node.sizeOf_firstNamed?_lt ‹_›; omega
  | have shorter := Node.sizeOf_child?_lt ‹Node.child? _ .operand = some _›; omega
  | omega)

theorem callResults_mirrors (call : Node) :
    Mirrors clear (resolver.callResults call) ((resolver.within right).callResults call) := by
  rw [callResults, callResults]
  dsimp +instances only [within_context, within_source, within_text]
  split
  · exact follows_pure _
  · split
    · exact follows_pure _
    · split
      · exact resolver.namedResults_mirrors shares _
      · exact follows_bind (selectorCallee_mirrors _) fun _ => follows_pure _
      · exact follows_pure _
      · exact follows_pure _
termination_by 3 * sizeOf call + 1
decreasing_by
  have shorter := Node.sizeOf_child?_lt ‹_›
  omega

theorem selectorCallee_mirrors (function : Node) :
    Mirrors clear (resolver.selectorCallee function)
      ((resolver.within right).selectorCallee function) := by
  rw [selectorCallee, selectorCallee]
  dsimp +instances only [within_text]
  split
  · refine follows_bind (resolver.importBehind?_mirrors _) fun path => ?_
    split
    · exact follows_bind (resolver.package_mirrors shares _) fun _ => follows_pure _
    · refine follows_bind (infer_mirrors _) fun type => ?_
      split
      · exact resolver.methodOf_mirrors shares _ _
      · exact follows_pure _
  · exact follows_pure _
termination_by 3 * sizeOf function
decreasing_by
  have shorter := Node.sizeOf_child?_lt ‹Node.child? _ .operand = some _›
  omega

end

theorem inferEach_mirrors (nodes : List (Option Node)) :
    Mirrors clear (resolver.inferEach nodes) ((resolver.within right).inferEach nodes) := by
  refine follows_mapM fun node _ => ?_
  split
  · exact resolver.infer_mirrors shares _
  · exact follows_pure _

theorem assignedTypes_mirrors (count : Nat) (values : List Node) :
    Mirrors clear (resolver.assignedTypes count values)
      ((resolver.within right).assignedTypes count values) := by
  unfold assignedTypes
  split
  · split
    · exact follows_bind (resolver.callResults_mirrors shares _) fun _ => follows_pure _
    · exact resolver.inferEach_mirrors shares _
  · exact resolver.inferEach_mirrors shares _

/-! Uses -/

omit shares in
theorem recordFunction_mirrors (node : Node) (shape : Shape) (decl : Declaration) :
    Mirrors clear (resolver.recordFunction node shape decl)
      ((resolver.within right).recordFunction node shape decl) :=
  mirrors_modify fun _ => rfl

omit shares in
theorem recordValue_mirrors (node : Node) (shape : Shape) :
    Mirrors clear (resolver.recordValue node shape) ((resolver.within right).recordValue node shape) :=
  mirrors_modify fun _ => rfl

theorem resolveName_mirrors (node : Node) :
    Mirrors clear (resolver.resolveName node) ((resolver.within right).resolveName node) := by
  unfold resolveName
  dsimp +instances only [within_text, within_index]
  refine follows_bind (isLocal_mirrors _) fun hidden => ?_
  split
  · exact follows_pure _
  · split
    · exact resolver.recordFunction_mirrors _ _ _
    · split
      · exact resolver.recordValue_mirrors _ _
      · refine follows_bind (resolver.dotFunction_mirrors shares _) fun decl => ?_
        split
        · exact resolver.recordFunction_mirrors _ _ _
        · exact follows_pure _

theorem resolveQualified_mirrors (node : Node) (qualifier path name : String) :
    Mirrors clear (resolver.resolveQualified node qualifier path name)
      ((resolver.within right).resolveQualified node qualifier path name) := by
  unfold resolveQualified
  refine follows_bind (resolver.package_mirrors shares path) fun index => ?_
  split
  · exact follows_pure _
  · split
    · exact resolver.recordFunction_mirrors _ _ _
    · split
      · exact resolver.recordValue_mirrors _ _
      · exact follows_pure _

theorem resolveMethod_mirrors (node operand : Node) (name : String) (type : Option GoType) :
    Mirrors clear (resolver.resolveMethod node operand name type)
      ((resolver.within right).resolveMethod node operand name type) := by
  unfold resolveMethod
  split
  · exact follows_pure _
  · refine follows_bind (resolver.methodOf_mirrors shares _ _) fun decl => ?_
    split
    · exact resolver.recordFunction_mirrors _ _ _
    · exact follows_pure _

theorem resolveNameSelector_mirrors (node operand : Node) (name : String) :
    Mirrors clear (resolver.resolveNameSelector node operand name)
      ((resolver.within right).resolveNameSelector node operand name) := by
  unfold resolveNameSelector
  dsimp +instances only [within_text, within_context, within_index]
  refine follows_bind (local?_mirrors _) fun type => ?_
  split
  · exact resolver.resolveMethod_mirrors shares _ _ _ _
  · split
    · exact resolver.resolveQualified_mirrors shares _ _ _ _
    · split
      · split
        · exact resolver.recordFunction_mirrors _ _ _
        · exact follows_pure _
      · exact follows_bind (resolver.resolveName_mirrors shares _) fun _ =>
          resolver.resolveMethod_mirrors shares _ _ _ _

/-! Steps -/

theorem declares_mirrors (node : Node) :
    Mirrors clear (resolver.declares node) ((resolver.within right).declares node) := by
  unfold declares
  dsimp +instances only [within_text, within_source, within_context]
  split
  -- parameters
  iterate 3 exact follows_pure _
  · exact follows_bind (resolver.assignedTypes_mirrors shares _ _) fun _ => follows_pure _
  -- variables and constants
  iterate 2
    split
    · exact follows_bind (follows_pure _) fun _ => follows_pure _
    · exact follows_bind (resolver.assignedTypes_mirrors shares _ _) fun _ => follows_pure _
  · split
    · exact follows_bind (resolver.infer_mirrors shares _) fun _ =>
        follows_bind (follows_pure _) fun _ => follows_pure _
    · exact follows_bind (follows_pure _) fun _ => follows_pure _
  iterate 3 exact follows_pure _

theorem refer_mirrors (node : Node) :
    Mirrors clear (resolver.refer node) ((resolver.within right).refer node) := by
  unfold refer
  dsimp +instances only [within_text]
  split
  · exact resolver.resolveName_mirrors shares node
  · split
    · split
      · exact resolver.resolveNameSelector_mirrors shares _ _ _
      · exact follows_bind (resolver.infer_mirrors shares _) fun _ =>
          resolver.resolveMethod_mirrors shares _ _ _ _
    · exact follows_pure _
  · exact follows_pure _

end

/-! Walks -/

theorem inScope_mirrors {first second : ResolveM Unit} (mirrors : Mirrors clear first second) :
    Mirrors clear (inScope first) (inScope second) := by
  intro memory value after _ ran
  rw [runFrom_inScope] at ran ⊢
  obtain ⟨outcome, rfl⟩ := Prod.mk.inj ran
  refine ⟨trivial, fun isClear => ?_⟩
  obtain ⟨clearStart, again⟩ := (mirrors _ _ _ trivial (Prod.ext outcome rfl)).2 isClear
  rw [again]
  exact ⟨clearStart, rfl⟩

/-- The steps of a node do not depend on the source of packages, and each of them mirrors itself. -/
theorem walk_mirrors (resolver : Resolver) {right : PackageSource}
    (shares : ∀ path, clear path → resolver.packages.Shares right path) (node : Node) :
    Mirrors clear (resolver.walk node) ((resolver.within right).walk node) := by
  have carried : Mirrors clear (resolver.carry (steps resolver.source node))
      ((resolver.within right).carry (steps resolver.source node)) := by
    refine follows_forM fun step member => ?_
    cases step with
    | visit child => exact walk_mirrors resolver shares child
    | declare other =>
        exact follows_bind (resolver.declares_mirrors shares other) fun _ => bindAll_mirrors _
    | refer other => exact resolver.refer_mirrors shares other
  rw [walk_eq_steps, walk_eq_steps, within_source, aroundBlock, aroundBlock]
  split
  · exact inScope_mirrors carried
  · exact carried
termination_by sizeOf node
decreasing_by exact Scoping.sizeOf_part_lt (mem_steps_visit member)

variable (resolver : Resolver) {right : PackageSource}
  (shares : ∀ path, clear path → resolver.packages.Shares right path)
include shares

theorem walkChild_mirrors (node : Node) (label : Syntax.Label) :
    Mirrors clear (resolver.walkChild node label) ((resolver.within right).walkChild node label) := by
  rw [walkChild, walkChild]
  split
  · exact resolver.walk_mirrors shares _
  · exact follows_pure _

theorem walkTopLevel_mirrors (node : Node) :
    Mirrors clear (resolver.walkTopLevel node) ((resolver.within right).walkTopLevel node) := by
  unfold walkTopLevel
  split
  · exact follows_pure _
  · exact follows_pure _
  · exact follows_pure _
  · exact follows_pure _
  · exact follows_forM fun _ _ => resolver.walkChild_mirrors shares _ _
  · exact follows_forM fun _ _ => resolver.walkChild_mirrors shares _ _
  · exact resolver.walk_mirrors shares node

/-- A file is resolved alike over sources that share all packages which are asked for. -/
theorem resolve_mirrors (root : Node) :
    Mirrors clear (resolver.resolve root) ((resolver.within right).resolve root) :=
  follows_forM fun _ _ => resolver.walkTopLevel_mirrors shares _

end Resolver

/-- All references of a package are resolved alike. -/
theorem TargetPackage.resolveAll_mirrors {left right : PackageSource} {clear : String → Prop}
    (shares : ∀ path, clear path → left.Shares right path) (path : String)
    (units : List (CompilationUnit × Node)) :
    Resolver.Mirrors clear (resolveAll left path units) (resolveAll right path units) := by
  unfold resolveAll resolvers
  simp only [bind_assoc, pure_bind]
  refine follows_bind (follows_mapM fun file _ =>
    Resolver.loading_mirrors (PackageSource.bindings_follows shares _)) fun bindings => ?_
  refine follows_bind (follows_modify (fun _ => id) fun memory isClear => isClear.of_set) fun _ => ?_
  rw [List.forM_eq_forM, List.forM_map, List.forM_map]
  exact follows_forM fun file _ => Resolver.resolve_mirrors _ shares file.1.2
end AspectLoom
