import AspectLoom.Program.TargetPackage
import AspectLoom.Proofs.WalkFindings
/-!
What the resolution of a package finds, file by file. The sites of a unit are those that the walk
over its own file recorded, and all of them lie behind the package clause.
-/
namespace AspectLoom

open Actions PackageCache
open Syntax (Node)

/-- A file whose tree is laid and in which all declarations follow the package clause. -/
structure FileLaid (unit : CompilationUnit) (root : Node) : Prop where
  laid : root.Laid
  clauseFirst : ∀ node ∈ root.namedChildren, node.kind ≠ .comment → node.kind ≠ .packageClause →
    unit.packageClause.stop ≤ node.start

instance (unit : CompilationUnit) (root : Node) : Decidable (FileLaid unit root) :=
  decidable_of_iff
    (root.Laid ∧ ∀ node ∈ root.namedChildren, node.kind ≠ .comment → node.kind ≠ .packageClause →
      unit.packageClause.stop ≤ node.start)
    ⟨fun ⟨laid, clauseFirst⟩ => ⟨laid, clauseFirst⟩,
      fun ⟨laid, clauseFirst⟩ => ⟨laid, clauseFirst⟩⟩

namespace Resolver

variable {resolver : Resolver}

/-! Declarations -/

/-- A walk over a list of nodes in which some add nothing. -/
theorem finds_forM {action : Node → ResolveM Unit} (isKept : Node → Bool)
    (kept : ∀ node, isKept node = true →
      resolver.Finds (resolver.Under node.Laid [node]) (action node))
    (others : ∀ node, isKept node = false → Quiet (action node)) (nodes : List Node) :
    resolver.Finds (resolver.Under (InLine nodes) (nodes.filter isKept)) (nodes.forM action) := by
  induction nodes with
  | nil => exact finds_quiet (steps_pure _) under_nothing
  | cons node rest ih =>
      cases keeps : isKept node with
      | true =>
          rw [List.filter_cons_of_pos keeps]
          exact finds_head List.filter_sublist.subset (kept node keeps) ih
      | false =>
          rw [List.filter_cons_of_neg (by simp [keeps])]
          exact finds_after (others node keeps) fun _ => finds_rest (List.Subset.refl _) ih

theorem inLine_sublist {nodes kept : List Node} (line : InLine nodes) (sublist : kept.Sublist nodes) :
    InLine kept :=
  ⟨fun node member => line.laid node (sublist.subset member), line.apart.sublist sublist⟩

/-- Nodes in place of a node: they lie in it one after the other. -/
def Replaces (nodes : List Node) (node : Node) : Prop :=
  InLine nodes ∧ ∀ part ∈ nodes, node.start ≤ part.start ∧ part.stop ≤ node.stop

theorem replaces_self {node : Node} (laid : node.Laid) : Replaces [node] node := by
  refine ⟨⟨?_, List.pairwise_singleton _ _⟩, ?_⟩
  · intro other member
    cases List.mem_singleton.mp member
    exact laid
  · intro other member
    cases List.mem_singleton.mp member
    exact ⟨Nat.le_refl _, Nat.le_refl _⟩

theorem replaces_children {node : Node} {nodes : List Node} (laid : node.Laid)
    (sublist : nodes.Sublist node.children) : Replaces nodes node :=
  ⟨inLine_sublist (inLine_children laid) sublist,
    fun _ member => Node.laid_inside laid (sublist.subset member)⟩

theorem replaces_nothing {node : Node} : Replaces [] node :=
  ⟨⟨List.forall_mem_nil _, .nil⟩, List.forall_mem_nil _⟩

theorem replaces_flatMap {node : Node} {nodes : List Node} {parts : Node → List Node}
    (replaces : Replaces nodes node) (each : ∀ child, child.Laid → Replaces (parts child) child) :
    Replaces (nodes.flatMap parts) node := by
  obtain ⟨line, inside⟩ := replaces
  refine ⟨⟨?_, List.pairwise_flatMap.mpr ⟨?_, ?_⟩⟩, ?_⟩
  · intro part member
    obtain ⟨child, childMember, here⟩ := List.mem_flatMap.mp member
    exact (each child (line.laid child childMember)).1.laid part here
  · exact fun child member => (each child (line.laid child member)).1.apart
  · apply line.apart.imp_of_mem
    intro left right leftMember rightMember before part member other otherMember
    have ends := (each left (line.laid left leftMember)).2 part member
    have begins := (each right (line.laid right rightMember)).2 other otherMember
    omega
  · intro part member
    obtain ⟨child, childMember, here⟩ := List.mem_flatMap.mp member
    have within := (each child (line.laid child childMember)).2 part here
    have whole := inside child childMember
    omega

theorem valueSpecs_replace {node : Node} (laid : node.Laid) :
    Replaces (PackageIndex.valueSpecs node) node := by
  apply replaces_flatMap (replaces_children laid List.filter_sublist)
  intro child childLaid
  split
  · exact replaces_self childLaid
  · exact replaces_self childLaid
  · exact replaces_children childLaid (List.filter_sublist.trans List.filter_sublist)
  · exact replaces_nothing

/-- Nodes at the top of a file that can hold a reference. -/
def isDeclared (node : Node) : Bool := node.kind != .packageClause && node.kind != .comment

theorem walkTopLevel_quiet (node : Node) (other : isDeclared node = false) :
    Quiet (resolver.walkTopLevel node) := by
  have kind : node.kind = .packageClause ∨ node.kind = .comment := by
    unfold isDeclared at other
    grind
  unfold walkTopLevel
  rcases kind with clause | comment
  · rw [clause]
    exact steps_pure _
  · rw [comment]
    exact steps_pure _

theorem walkTopLevel_finds (node : Node) :
    resolver.Finds (resolver.Under node.Laid [node]) (resolver.walkTopLevel node) := by
  have values : resolver.Finds (resolver.Under node.Laid [node])
      ((PackageIndex.valueSpecs node).forM fun spec => resolver.walkChild spec .value) := by
    have each : resolver.Finds _
        ((PackageIndex.valueSpecs node).forM fun spec => resolver.walkChild spec .value) :=
      finds_forM (fun _ => true)
        (fun spec _ => finds_parts part_children (walkChild_finds resolver spec .value))
        (fun _ impossible => by cases impossible) _
    refine finds_inside each (fun laid => (valueSpecs_replace laid).1) ?_
    intro laid spec member
    exact ⟨node, List.mem_singleton_self _, (Span.contains_iff ..).mpr
      ((valueSpecs_replace laid).2 spec (List.mem_filter.mp member).1)⟩
  unfold walkTopLevel
  split
  · exact finds_quiet (steps_pure _) under_nothing
  · exact finds_quiet (steps_pure _) under_nothing
  · exact finds_quiet (steps_pure _) under_nothing
  · exact finds_quiet (steps_pure _) under_nothing
  · exact values
  · exact values
  · exact walk_finds resolver node

theorem resolve_finds (root : Node) :
    resolver.Finds (resolver.Under root.Laid (root.namedChildren.filter isDeclared))
      (resolver.resolve root) := by
  refine finds_mono (finds_forM isDeclared (fun node _ => walkTopLevel_finds node)
    walkTopLevel_quiet root.namedChildren) ?_
  exact fun _ under laid => under (inLine_sublist (inLine_children laid) List.filter_sublist)

end Resolver

/-! Packages -/

/-- The sites of a unit, which are in the declarations of its file. -/
def UnitGathered (file : CompilationUnit × Node) (sites : List Site) : Prop :=
  Gathered file.1.id (file.2.namedChildren.filter Resolver.isDeclared)
    (sites.filter fun site => site.unit == file.1.id)

/-- Of files that are laid, with units of different numbers, the sites are gathered file by file. -/
def FilesGathered (files : List (CompilationUnit × Node)) (found : List Finding) : Prop :=
  (∀ file ∈ files, file.2.Laid) → (files.map fun file => file.1.id).Nodup →
    (∀ file ∈ files, UnitGathered file (found.map Finding.site)) ∧
      ∀ site ∈ found.map Finding.site, ∃ file ∈ files, site.unit = file.1.id

theorem filesGathered_cons {file : CompilationUnit × Node} {files : List (CompilationUnit × Node)}
    {found later : List Finding}
    (first : file.2.Laid → Gathered file.1.id (file.2.namedChildren.filter Resolver.isDeclared)
      (found.map Finding.site))
    (others : FilesGathered files later) : FilesGathered (file :: files) (found ++ later) := by
  intro laid distinct
  obtain ⟨absent, restDistinct⟩ := List.nodup_cons.mp distinct
  have own := first (laid file List.mem_cons_self)
  obtain ⟨gathered, known⟩ :=
    others (fun other member => laid other (List.mem_cons_of_mem _ member)) restDistinct
  have different : ∀ other ∈ files, other.1.id ≠ file.1.id := by
    intro other member same
    exact absent (List.mem_map.mpr ⟨other, member, same⟩)
  refine ⟨?_, ?_⟩
  · intro other member
    unfold UnitGathered
    rw [List.map_append, List.filter_append]
    rcases List.mem_cons.mp member with rfl | among
    · have mine : (found.map Finding.site).filter (fun site => site.unit == other.1.id) =
          found.map Finding.site := by
        apply List.filter_eq_self.mpr
        intro site here
        exact beq_iff_eq.mpr (own.sized site here).1
      have none : (later.map Finding.site).filter (fun site => site.unit == other.1.id) = [] := by
        apply List.filter_eq_nil_iff.mpr
        intro site here same
        obtain ⟨elsewhere, among, unit⟩ := known site here
        exact different elsewhere among (unit.symm.trans (beq_iff_eq.mp same))
      rw [mine, none, List.append_nil]
      exact own
    · have none : (found.map Finding.site).filter (fun site => site.unit == other.1.id) = [] := by
        apply List.filter_eq_nil_iff.mpr
        intro site here same
        exact different other among ((beq_iff_eq.mp same).symm.trans (own.sized site here).1)
      rw [none, List.nil_append]
      exact gathered other among
  · rw [List.map_append]
    refine List.forall_mem_append.mpr ⟨?_, ?_⟩
    · intro site here
      exact ⟨file, List.mem_cons_self, (own.sized site here).1⟩
    · intro site here
      obtain ⟨other, member, unit⟩ := known site here
      exact ⟨other, List.mem_cons_of_mem _ member, unit⟩

namespace TargetPackage

open Resolver

theorem resolveEach_entered (entries : List (Resolver × Node)) :
    ∀ memory value after, (∀ entry ∈ entries, entry.1.Ready memory.cache) →
      runFrom (entries.forM fun (resolver, root) => resolver.resolve root) memory =
        (.ok value, after) →
      Entered (FilesGathered (entries.map fun entry => (entry.1.unit, entry.2))) memory after := by
  induction entries with
  | nil =>
      intro memory value after _ ran
      cases ran
      exact entered_nothing fun _ _ => ⟨List.forall_mem_nil _, List.forall_mem_nil _⟩
  | cons entry rest ih =>
      intro memory value after ready ran
      obtain ⟨_, middle, firstRan, restRan⟩ := runFrom_bind_ok ran
      have first := resolve_finds entry.2 _ _ _ (ready entry List.mem_cons_self) firstRan
      have stillReady : ∀ other ∈ rest, other.1.Ready middle.cache := fun other member =>
        ready_loaded (ready other (List.mem_cons_of_mem _ member)) first.loaded
      refine entered_append first (ih _ _ _ stillReady restRan) ?_
      intro found later under others
      rw [List.map_cons]
      exact filesGathered_cons under others

/-- The resolvers of a package are ready, one for each file, and nothing is entered yet. -/
theorem resolvers_ready {packages : PackageSource} {path : String}
    {units : List (CompilationUnit × Node)} {entries : List (Resolver × Node)} {memory : WalkMemory}
    (ran : runFrom (resolvers packages path units) ⟨{}, {}, []⟩ = (.ok entries, memory)) :
    memory.symbols = {} ∧ (∀ entry ∈ entries, entry.1.Ready memory.cache) ∧
      entries.map (fun entry => (entry.1.unit, entry.2)) = units := by
  unfold resolvers at ran
  obtain ⟨bindings, first, bound, ran⟩ := runFrom_bind_ok ran
  obtain ⟨_, second, changed, ran⟩ := runFrom_bind_ok ran
  cases changed
  cases ran
  have kept := steps_mapM (fun _ => (loading_looks (PackageSource.bindings_loaded _ _)).quiet) units
    _ _ _ bound
  have empty : PackageCache.Sound {} := fun _ _ none => by cases none
  refine ⟨kept.symbols_eq, ?_, ?_⟩
  · intro entry member
    obtain ⟨⟨⟨unit, root⟩, context, own⟩, _, rfl⟩ := List.mem_map.mp member
    refine ⟨?_, ?_⟩
    · apply sound_set (kept.loaded.sound empty)
      rintro _ ⟨⟩
      exact PackageIndex.ofFiles_declares _ _ _
    · rw [(PackageIndex.ofFiles_declares path _ _).path_eq, known?_set, if_pos rfl]
  · have length := mapM_length bound
    rw [List.map_map]
    refine Eq.trans (List.map_congr_left ?_) (List.map_fst_zip ?_)
    · rintro ⟨⟨unit, root⟩, context, own⟩ _
      rfl
    · simp only [List.length_zip, List.length_map]
      omega

/-- What a resolved package holds are findings, entered in a table that was empty. -/
theorem resolved_findings {packages : PackageSource} {path : String}
    {units : List (CompilationUnit × Node)} {package : TargetPackage}
    (resolves : resolved packages path units = .ok package) :
    ∃ found cache, package.symbols = found.foldl SymbolTable.note {} ∧
      package.units = units.map Prod.fst ∧ package.packageNames = cache.packageNames ∧
      (∀ finding ∈ found, finding.Holds cache) ∧ FilesGathered units found := by
  unfold resolved at resolves
  split at resolves
  · cases resolves
  · rename_i memory ran
    cases resolves
    obtain ⟨entries, middle, prepared, ran⟩ := runFrom_bind_ok ran
    obtain ⟨nothing, ready, files⟩ := resolvers_ready prepared
    obtain ⟨found, entered, _, holds, gathered⟩ := resolveEach_entered entries _ _ _ ready ran
    rw [nothing] at entered
    rw [files] at gathered
    exact ⟨found, memory.cache, entered, rfl, rfl, holds, gathered⟩

end TargetPackage
end AspectLoom
