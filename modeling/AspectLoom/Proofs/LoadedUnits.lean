import AspectLoom.Proofs.ReconcileSteps
import AspectLoom.Proofs.SuitedUses
/-!
The units of a loaded package. They are numbered in the order of the files that they are read from, all of
which stand in the directory that the target names.
-/
namespace AspectLoom

open Actions
open FileTree (isEntryName)
open Syntax (Node)

theorem PackageSource.mem_goFiles {tree : FileTree} (sound : tree.Sound) {dir path : Path}
    {paths : List Path} (listed : goFiles tree dir = .ok paths) (member : path ∈ paths) :
    ∃ name, isEntryName name = true ∧ isGoFileName name = true ∧ path = dir.join ⟨name⟩ := by
  rw [goFiles] at listed
  split at listed
  · cases listed
  · rename_i names found
    cases listed
    obtain ⟨name, kept, joined⟩ := List.mem_map.mp (List.mem_filter.mp member).1
    obtain ⟨among, isGo⟩ := List.mem_filter.mp kept
    exact ⟨name, FileTree.isEntryName_of_list sound found name among, isGo, joined.symm⟩

namespace TargetPackage

/-- Whether units have their own positions for numbers. -/
def Numbered (units : List CompilationUnit) : Prop :=
  ∀ (index : Nat) unit, units[index]? = some unit → unit.id = index

theorem Numbered.concat {units : List CompilationUnit} {unit : CompilationUnit}
    (numbered : Numbered units) (last : unit.id = units.length) : Numbered (units ++ [unit]) := by
  intro index other found
  rw [List.getElem?_append] at found
  split at found
  · exact numbered index other found
  · rename_i behind
    obtain ⟨inside, rfl⟩ := List.getElem?_eq_some_iff.mp found
    have only : index - units.length = 0 := Nat.lt_one_iff.mp inside
    have here : units.length = index := by omega
    rw [List.getElem_singleton, last, here]

/-- Units that are numbered are told apart by their numbers. -/
theorem Numbered.nodup {units : List CompilationUnit} (numbered : Numbered units) :
    (units.map CompilationUnit.id).Nodup := by
  have counted : units.map CompilationUnit.id = List.range units.length := by
    apply List.ext_getElem
    · simp
    · intro index inside _
      rw [List.length_map] at inside
      simp [numbered index units[index] (List.getElem?_eq_getElem inside)]
  rw [counted]
  exact List.nodup_range

theorem Numbered.getElem?_id {units : List CompilationUnit} {unit : CompilationUnit}
    (numbered : Numbered units) (member : unit ∈ units) : units[unit.id]? = some unit := by
  obtain ⟨index, found⟩ := List.getElem?_of_mem member
  rw [numbered index unit found, found]

namespace UnitReader

variable {reader : UnitReader} {dir path : Path} {units after : List (CompilationUnit × Node)}

theorem read_ok {id : UnitId} {file : CompilationUnit × Node} (ran : reader.read id path = .ok file) :
    file.1.id = id ∧ file.1.path = path := by
  obtain ⟨source, _, ran⟩ := bind_ok ran
  dsimp only at ran
  rw [CompilationUnit.parse] at ran
  split at ran
  · cases ran
  · split at ran <;> cases ran
    exact ⟨rfl, rfl⟩

theorem readNext_ok (ran : reader.readNext dir units path = .ok after) :
    ∃ file, after = units ++ [file] ∧ file.1.id = units.length ∧ file.1.path = path := by
  obtain ⟨⟨unit, root⟩, read, ran⟩ := bind_ok ran
  obtain ⟨id, file⟩ := read_ok read
  refine ⟨(unit, root), ?_, id, file⟩
  dsimp only at ran
  split at ran
  · split at ran <;> cases ran
    rfl
  · rename_i none
    rw [List.head?_eq_none_iff.mp none]
    exact (Except.ok.inj ran).symm

theorem readEach_ok {paths : List Path} (numbered : Numbered (units.map Prod.fst))
    (ran : paths.foldlM (reader.readNext dir) units = .ok after) :
    Numbered (after.map Prod.fst) ∧
      after.map (fun file => file.1.path) = units.map (fun file => file.1.path) ++ paths := by
  induction paths generalizing units with
  | nil =>
      cases ran
      exact ⟨numbered, (List.append_nil _).symm⟩
  | cons path paths ih =>
      rw [List.foldlM_cons] at ran
      obtain ⟨longer, next, onward⟩ := bind_ok ran
      obtain ⟨file, rfl, id, rfl⟩ := readNext_ok next
      have first : Numbered ((units ++ [file]).map Prod.fst) := by
        rw [List.map_append]
        exact numbered.concat (by rw [id, List.length_map])
      obtain ⟨all, same⟩ := ih first onward
      exact ⟨all, by rw [same, List.map_append, List.append_assoc]; rfl⟩

/-- The units are read from the files of the directory in order and numbered so. -/
theorem readAll_paths (ran : reader.readAll dir = .ok units) :
    ∃ paths, PackageSource.goFiles reader.packages.tree dir = .ok paths ∧
      Numbered (units.map Prod.fst) ∧ units.map (fun file => file.1.path) = paths := by
  obtain ⟨paths, listed, ran⟩ := bind_ok ran
  split at ran
  · cases ran
  · obtain ⟨numbered, same⟩ := readEach_ok (fun _ _ found => by cases found) ran
    exact ⟨paths, listed, numbered, by rw [same, List.map_nil, List.nil_append]⟩

/-- Every unit is read from a file of the directory. -/
theorem readAll_ok (sound : reader.packages.tree.Sound) (ran : reader.readAll dir = .ok units) :
    Numbered (units.map Prod.fst) ∧ ∀ unit ∈ units.map Prod.fst,
      ∃ name, isEntryName name = true ∧ unit.path = dir.join ⟨name⟩ := by
  obtain ⟨_, listed, numbered, rfl⟩ := readAll_paths ran
  refine ⟨numbered, fun unit member => ?_⟩
  obtain ⟨file, among, rfl⟩ := List.mem_map.mp member
  obtain ⟨name, isName, _, same⟩ :=
    PackageSource.mem_goFiles sound listed (List.mem_map_of_mem among)
  exact ⟨name, isName, same⟩

end UnitReader

/-- Resolving the references in some files is one run with an empty memory. -/
theorem resolved_ok_iff {packages : PackageSource} {path : String}
    {units : List (CompilationUnit × Node)} {package : TargetPackage} :
    resolved packages path units = .ok package ↔
      ∃ memory, runFrom (resolveAll packages path units) ⟨{}, {}, []⟩ = (.ok (), memory) ∧
        package = ⟨packages.layout, path, units.map Prod.fst, memory.symbols,
          memory.cache.packageNames⟩ := by
  rw [resolved]
  constructor
  · intro resolves
    split at resolves
    · cases resolves
    · rename_i memory ran
      cases resolves
      exact ⟨memory, ran, rfl⟩
  · rintro ⟨memory, ran, rfl⟩
    rw [runFrom] at ran
    rw [ran]

theorem resolved_units {packages : PackageSource} {path : String}
    {units : List (CompilationUnit × Node)} {package : TargetPackage}
    (resolves : resolved packages path units = .ok package) :
    package.layout = packages.layout ∧ package.units = units.map Prod.fst := by
  obtain ⟨_, _, rfl⟩ := resolved_ok_iff.mp resolves
  exact ⟨rfl, rfl⟩

/-- The steps of loading a package. -/
theorem load_ok_iff {tree : FileTree} {sourceRoot : Path} {target suffix : String}
    {package : TargetPackage} :
    load tree sourceRoot target suffix = .ok package ↔
      ∃ root modulePath dir path units, tree.canonical sourceRoot = .ok root ∧
        ModuleFile.read tree sourceRoot = .ok modulePath ∧
        locate ⟨tree, ⟨root, modulePath⟩⟩ target = .ok (dir, path) ∧
        UnitReader.readAll ⟨⟨tree, ⟨root, modulePath⟩⟩, path, suffix⟩ dir = .ok units ∧
        resolved ⟨tree, ⟨root, modulePath⟩⟩ path units = .ok package := by
  rw [load]
  constructor
  · intro loads
    split at loads
    · rename_i root canonical
      obtain ⟨_, same, loads⟩ := bind_ok loads
      cases same
      obtain ⟨modulePath, module, loads⟩ := bind_ok loads
      obtain ⟨⟨dir, path⟩, located, loads⟩ := bind_ok loads
      obtain ⟨units, read, resolves⟩ := bind_ok loads
      exact ⟨root, modulePath, dir, path, units, canonical, module, located, read, resolves⟩
    · cases loads
  · rintro ⟨root, modulePath, dir, path, units, canonical, module, located, read, resolves⟩
    rw [canonical]
    exact (bind_of_ok rfl _).trans <| (bind_of_ok module _).trans <|
      (bind_of_ok located _).trans <| (bind_of_ok read _).trans resolves

/-- A package is loaded from the directory that its target names in the canonical source root. -/
theorem load_units {tree : FileTree} {sourceRoot : Path} {target suffix : String}
    {package : TargetPackage} (sound : tree.Sound)
    (loads : load tree sourceRoot target suffix = .ok package) :
    tree.canonical sourceRoot = .ok package.layout.root ∧
      ∃ dir path, locate ⟨tree, package.layout⟩ target = .ok (dir, path) ∧
        Numbered package.units ∧ ∀ unit ∈ package.units,
          ∃ name, isEntryName name = true ∧ unit.path = dir.join ⟨name⟩ := by
  obtain ⟨root, modulePath, dir, path, units, canonical, _, located, read, resolves⟩ :=
    load_ok_iff.mp loads
  obtain ⟨layout, same⟩ := resolved_units resolves
  rw [layout, same]
  exact ⟨canonical, dir, path, located, UnitReader.readAll_ok sound read⟩

end TargetPackage
end AspectLoom
