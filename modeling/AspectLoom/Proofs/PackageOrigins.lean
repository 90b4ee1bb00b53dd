import AspectLoom.Proofs.LoadedUnits
import AspectLoom.Proofs.WalkOrigins
import Mathlib.Data.List.Nodup
/-!
Where the recorded sites of a package come from. The files of a package are walked one piece of code
after the other, with no scope around it: the values of its variables and constants and its other
declarations.
-/
namespace AspectLoom

open Actions PackageCache Resolver Scoping
open Syntax (Node)

namespace Resolver

/-- The nodes of a declaration of a package that hold code. -/
def codeOf (node : Node) : List Node :=
  match node.kind with
  | .packageClause | .importDeclaration | .typeDeclaration | .comment => []
  | .varDeclaration | .constDeclaration =>
    (PackageIndex.valueSpecs node).flatMap fun spec => (spec.child? .value).toList
  | _ => [node]

/-- The nodes of a file that hold code. -/
def codesOf (root : Node) : List Node := root.namedChildren.flatMap codeOf

section
variable {resolver : Resolver} {root code other : Node}

theorem walkTopLevel_codes (resolver : Resolver) (node : Node) :
    resolver.walkTopLevel node = (codeOf node).forM resolver.walk := by
  have values : ((PackageIndex.valueSpecs node).forM fun spec => resolver.walkChild spec .value) =
      ((PackageIndex.valueSpecs node).flatMap fun spec => (spec.child? .value).toList).forM
        resolver.walk := by
    rw [forM_flatMap]
    congr 1
    funext spec
    rw [walkChild]
    split <;> rename_i found <;> rw [found]
    · simp
    · rfl
  unfold walkTopLevel
  split
  all_goals rename_i kind
  · rw [codeOf, kind]
    rfl
  · rw [codeOf, kind]
    rfl
  · rw [codeOf, kind]
    rfl
  · rw [codeOf, kind]
    rfl
  · rw [codeOf, kind]
    exact values
  · rw [codeOf, kind]
    exact values
  · have whole : codeOf node = [node] := by
      unfold codeOf
      split <;> first | rfl | contradiction
    rw [whole]
    simp

theorem resolve_codes (resolver : Resolver) (root : Node) :
    resolver.resolve root = (codesOf root).forM resolver.walk := by
  rw [codesOf, forM_flatMap, resolve]
  congr 1
  funext node
  exact walkTopLevel_codes resolver node

theorem codeOf_replaces {node : Node} (laid : node.Laid) : Replaces (codeOf node) node := by
  have values : Replaces
      ((PackageIndex.valueSpecs node).flatMap fun spec => (spec.child? .value).toList) node := by
    apply replaces_flatMap (valueSpecs_replace laid)
    intro spec specLaid
    cases found : spec.child? .value with
    | none => exact replaces_nothing
    | some value =>
        have member := Node.mem_of_child? found
        obtain ⟨line, inside⟩ := replaces_self (Node.laid_children specLaid member)
        refine ⟨line, fun part among => ?_⟩
        cases List.mem_singleton.mp among
        exact Node.laid_inside specLaid member
  unfold codeOf
  split
  · exact replaces_nothing
  · exact replaces_nothing
  · exact replaces_nothing
  · exact replaces_nothing
  · exact values
  · exact values
  · exact replaces_self laid

theorem codesOf_inLine (laid : root.Laid) : InLine (codesOf root) :=
  (replaces_flatMap (replaces_children laid List.filter_sublist) fun _ => codeOf_replaces).1

/-- There is one piece of code at most at a place. -/
theorem code_unique {place : Nat} (laid : root.Laid) (member : code ∈ codesOf root)
    (otherMember : other ∈ codesOf root) (inside : code.start ≤ place ∧ place < code.stop)
    (otherInside : other.start ≤ place ∧ place < other.stop) : other = code := by
  by_contra different
  have : Std.Symm fun left right : Node => left.span.Apart right.span :=
    ⟨fun _ _ => Span.Apart.symm⟩
  have apart : (codesOf root).Pairwise fun left right => left.span.Apart right.span :=
    (codesOf_inLine laid).apart.imp Or.inl
  rcases apart.forall otherMember member different with before | behind
  · change other.stop ≤ code.start at before
    omega
  · change code.stop ≤ other.start at behind
    omega

end
end Resolver

namespace TargetPackage

/-- The code of the files of a package, each piece with the resolver of its file. -/
def codes (entries : List (Resolver × Node)) : List (Resolver × Node) :=
  entries.flatMap fun (resolver, root) => (codesOf root).map fun code => (resolver, code)

theorem mem_codes {entries : List (Resolver × Node)} {resolver : Resolver} {code : Node} :
    (resolver, code) ∈ codes entries ↔
      ∃ root, (resolver, root) ∈ entries ∧ code ∈ codesOf root := by
  simp [codes]

/-- Walks a piece of code. -/
def walkCode (piece : Resolver × Node) : ResolveM Unit := piece.1.walk piece.2

theorem resolveEach_codes (entries : List (Resolver × Node)) :
    (entries.forM fun (resolver, root) => resolver.resolve root) =
      (codes entries).forM walkCode := by
  rw [codes, forM_flatMap]
  congr 1
  funext entry
  obtain ⟨resolver, root⟩ := entry
  change resolver.resolve root = _
  rw [resolve_codes]
  dsimp only
  induction codesOf root with
  | nil => rfl
  | cons code rest ih =>
      change (resolver.walk code >>= fun _ => rest.forM resolver.walk) = _
      rw [ih]
      rfl

/-- A piece of code is walked with no scope around it, between the beginning and the end. -/
structure Walked (resolver : Resolver) (code : Node) (start before next last : WalkMemory) :
    Prop where
  ready : resolver.Ready before.cache
  unscoped : before.scopes = []
  begins : Onward start before
  ran : runFrom (resolver.walk code) before = (.ok ⟨⟩, next)
  goesOn : Onward next last

section
variable {pieces : List (Resolver × Node)} {start memory last : WalkMemory}

theorem walk_onward {resolver : Resolver} {code : Node} {before next : WalkMemory}
    (ready : resolver.Ready before.cache)
    (ran : runFrom (resolver.walk code) before = (.ok ⟨⟩, next)) : Onward before next :=
  resolver.carryOut_finds (.visit code) _ _ _ ready ran

theorem walk_unscoped {resolver : Resolver} {code : Node} {before next : WalkMemory}
    (unscoped : before.scopes = [])
    (ran : runFrom (resolver.walk code) before = (.ok ⟨⟩, next)) : next.scopes = [] := by
  obtain ⟨names, _, same⟩ := ((walk_performs resolver code before).of_ok ran).bound
  rw [same, unscoped, bindEach_nil]

/-- Pieces of code that are walked one after the other, up to the end. -/
theorem walkEach_walked (ready : ∀ piece ∈ pieces, piece.1.Ready memory.cache)
    (unscoped : memory.scopes = [])
    (ran : runFrom (pieces.forM walkCode) memory = (.ok ⟨⟩, last)) :
    Onward memory last ∧
      (∀ piece ∈ pieces, ∃ before next, Walked piece.1 piece.2 memory before next last) ∧
      ∃ sites, last.symbols.sites = memory.symbols.sites ++ sites ∧
        ∀ site ∈ sites, ∃ piece ∈ pieces, ∃ before next,
          Walked piece.1 piece.2 memory before next last ∧
            piece.1.Origin piece.2 before last site := by
  induction pieces generalizing memory with
  | nil =>
      cases ran
      exact ⟨Onward.refl _, List.forall_mem_nil _, [], (List.append_nil _).symm,
        List.forall_mem_nil _⟩
  | cons piece rest ih =>
      obtain ⟨_, middle, first, behind⟩ := runFrom_bind_ok ran
      have readyFirst := ready piece List.mem_cons_self
      have here := walk_onward readyFirst first
      have readyRest : ∀ other ∈ rest, other.1.Ready middle.cache := fun other member =>
        ready_loaded (ready other (List.mem_cons_of_mem _ member)) here.loaded
      obtain ⟨goesOn, each, more, added, origins⟩ :=
        ih readyRest (walk_unscoped unscoped first) behind
      obtain ⟨sites, recorded, own⟩ := walk_origins piece.1 piece.2 readyFirst first
      have walked : Walked piece.1 piece.2 memory memory middle last :=
        ⟨readyFirst, unscoped, Onward.refl _, first, goesOn⟩
      have later : ∀ {other : Resolver × Node} {before next : WalkMemory},
          Walked other.1 other.2 middle before next last →
          Walked other.1 other.2 memory before next last := fun walked =>
        ⟨walked.ready, walked.unscoped, here.trans walked.begins, walked.ran, walked.goesOn⟩
      refine ⟨here.trans goesOn, ?_, sites ++ more, ?_, ?_⟩
      · intro other member
        rcases List.mem_cons.mp member with rfl | among
        · exact ⟨memory, middle, walked⟩
        · obtain ⟨before, next, walked⟩ := each other among
          exact ⟨before, next, later walked⟩
      · rw [added, recorded, List.append_assoc]
      · intro site member
        rcases List.mem_append.mp member with mine | others
        · exact ⟨piece, List.mem_cons_self, memory, middle, walked,
            (own site mine).later goesOn.loaded⟩
        · obtain ⟨other, among, before, next, walked, origin⟩ := origins site others
          exact ⟨other, List.mem_cons_of_mem _ among, before, next, later walked, origin⟩

end

section
variable {packages : PackageSource} {path : String} {units : List (CompilationUnit × Node)}
  {entries : List (Resolver × Node)} {start last : WalkMemory}

/-- Preparing the resolvers of a package makes no scope. -/
theorem resolvers_unscoped
    (prepared : runFrom (resolvers packages path units) ⟨{}, {}, []⟩ = (.ok entries, start)) :
    start.scopes = [] := by
  unfold resolvers at prepared
  obtain ⟨bindings, first, bound, ran⟩ := runFrom_bind_ok prepared
  obtain ⟨_, second, changed, ran⟩ := runFrom_bind_ok ran
  cases changed
  cases ran
  have stays := (looks_mapM
    (fun file : CompilationUnit × Node =>
      loading_looks (PackageSource.bindings_loaded packages file.1.imports)) units).stays
        ⟨{}, {}, []⟩
  rw [leaves, bound] at stays
  exact stays

/-- Every piece of code of a package is walked, and all that is recorded comes from the walks. -/
theorem resolveAll_walked
    (prepared : runFrom (resolvers packages path units) ⟨{}, {}, []⟩ = (.ok entries, start))
    (ran : runFrom (resolveAll packages path units) ⟨{}, {}, []⟩ = (.ok ⟨⟩, last)) :
    (∀ piece ∈ codes entries, ∃ before next, Walked piece.1 piece.2 start before next last) ∧
      ∀ site ∈ last.symbols.sites, ∃ piece ∈ codes entries, ∃ before next,
        Walked piece.1 piece.2 start before next last ∧ piece.1.Origin piece.2 before last site := by
  obtain ⟨others, middle, again, ran⟩ := runFrom_bind_ok ran
  cases prepared.symm.trans again
  obtain ⟨nothing, ready, _⟩ := resolvers_ready prepared
  rw [resolveEach_codes] at ran
  have readyPieces : ∀ piece ∈ codes entries, piece.1.Ready start.cache := by
    rintro ⟨resolver, code⟩ member
    obtain ⟨root, among, _⟩ := mem_codes.mp member
    exact ready (resolver, root) among
  obtain ⟨_, each, sites, recorded, origins⟩ :=
    walkEach_walked readyPieces (resolvers_unscoped prepared) ran
  refine ⟨each, fun site member => origins site ?_⟩
  rw [recorded, nothing] at member
  exact member

/-- What is recorded at the place of a selector in the code of a file is recorded when the walk of
that code arrives at the selector. -/
theorem origin_of_selector {resolver : Resolver} {root code selector operand field : Node}
    {site : Site} (laid : ∀ file ∈ units, file.2.Laid)
    (numbered : Numbered (units.map Prod.fst))
    (prepared : runFrom (resolvers packages path units) ⟨{}, {}, []⟩ = (.ok entries, start))
    (ran : runFrom (resolveAll packages path units) ⟨{}, {}, []⟩ = (.ok ⟨⟩, last))
    (member : (resolver, root) ∈ entries) (isCode : code ∈ codesOf root) (formed : Formed code)
    (holds : Holds resolver.source code selector) (isSelector : IsSelector selector operand field)
    (recorded : site ∈ last.symbols.sites)
    (key : site.toSiteKey = ⟨resolver.unit.id, selector.span⟩) :
    ∃ before there next sites, before.scopes = [] ∧
      resolver.Arrives code before (.refer selector) there ∧ resolver.Ready there.cache ∧
      runFrom (resolver.refer selector) there = (.ok ⟨⟩, next) ∧
      next.symbols.sites = there.symbols.sites ++ sites ∧ site ∈ sites ∧
      Loaded next.cache last.cache := by
  have own : site.unit = resolver.unit.id := congrArg SiteKey.unit key
  have placed : site.span = selector.span := congrArg SiteKey.span key
  obtain ⟨_, _, files⟩ := resolvers_ready prepared
  obtain ⟨_, origins⟩ := resolveAll_walked prepared ran
  obtain ⟨⟨other, otherCode⟩, isPiece, before, beyond, walk, inner, there, next, sites, arrives,
    ready, referred, added, among, ⟨unit, place⟩, loaded⟩ := origins site recorded
  obtain ⟨otherRoot, otherMember, isOtherCode⟩ := mem_codes.mp isPiece
  -- The site is of the same file, since files are told apart by their numbers.
  have distinct : (entries.map fun entry => entry.1.unit.id).Nodup := by
    have counted := numbered.nodup
    rw [← files, List.map_map, List.map_map] at counted
    exact counted
  obtain ⟨rfl, rfl⟩ := Prod.mk.inj (List.inj_on_of_nodup_map distinct otherMember member
    (unit.symm.trans own))
  have rootLaid : otherRoot.Laid := by
    apply laid (other.unit, otherRoot)
    rw [← files]
    exact List.mem_map_of_mem member
  -- It is of the same piece of code and of the same reference, by its place.
  obtain ⟨innerHolds, refers⟩ := arrives.refers
  have codeLaid := (codesOf_inLine rootLaid).laid
  have innerInside := holds_between (codeLaid otherCode isOtherCode) innerHolds
  have inside := holds_between (codeLaid code isCode) holds
  have longer := isSelector.longer inside.1
  have within := place.inside innerInside.1
  rw [placed] at within place
  change inner.start ≤ selector.start ∧ selector.stop ≤ inner.stop at within
  have shared : otherCode = code :=
    code_unique rootLaid isCode isOtherCode
      (show code.start ≤ selector.start ∧ selector.start < code.stop by omega) (by omega)
  subst shared
  obtain rfl := place_unique otherCode formed.laid innerHolds refers holds isSelector place
  exact ⟨before, there, next, sites, walk.unscoped, arrives, ready, referred, added, among,
    loaded⟩

end
end TargetPackage
end AspectLoom
