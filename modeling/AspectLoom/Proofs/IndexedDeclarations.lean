import AspectLoom.Proofs.IndexEntries
/-!
What an index holds. Its functions have no receiver and are of the package that is indexed; its
methods, those of interfaces too, have one.
-/
namespace AspectLoom.PackageIndex

open Syntax (Node)

/-- An index of the package of a path, each declaration being where its receiver puts it. -/
structure Declares (path : String) (index : PackageIndex) : Prop where
  path_eq : index.path = path
  functions : ∀ entry ∈ index.functions, entry.2.receiver = none ∧ entry.2.packagePath = path
  methods : ∀ entry ∈ index.methods, entry.2.receiver ≠ none

variable {path : String} {index : PackageIndex}

theorem declares_function {name : String} {decl : Declaration} (declares : index.Declares path)
    (found : index.function? name = some decl) :
    decl.receiver = none ∧ decl.packagePath = path :=
  declares.functions _ (Assoc.mem_of_find? found)

theorem declares_method {type name : String} {decl : Declaration} (declares : index.Declares path)
    (found : index.method? type name = some decl) : decl.receiver ≠ none :=
  declares.methods _ (Assoc.mem_of_find? found)

theorem setFunction_declares {name : String} {decl : Declaration} (declares : index.Declares path)
    (isFunction : decl.receiver = none) (own : decl.packagePath = path) :
    (index.setFunction name decl).Declares path where
  path_eq := declares.path_eq
  functions := by
    intro entry member
    rcases Assoc.mem_insert member with rfl | old
    · exact ⟨isFunction, own⟩
    · exact declares.functions entry old
  methods := declares.methods

theorem setMethod_declares {type name : String} {decl : Declaration}
    (declares : index.Declares path) (isMethod : decl.receiver ≠ none) :
    (index.setMethod type name decl).Declares path where
  path_eq := declares.path_eq
  functions := declares.functions
  methods := by
    intro entry member
    rcases Assoc.mem_insert member with rfl | old
    · exact isMethod
    · exact declares.methods entry old

theorem Enters.declares {file : File} {root : Node} {before : PackageIndex}
    (enters : Enters file root before index) (declares : before.Declares path) :
    index.Declares path := by
  induction enters with
  | nothing => exact declares
  | function _ name isFunction own _ ih =>
      exact setFunction_declares ih isFunction (own.trans ih.path_eq)
  | method _ type name isMethod _ ih => exact setMethod_declares ih isMethod
  | type _ name ih => exact ⟨ih.path_eq, ih.functions, ih.methods⟩
  | field _ type _ ih => exact ⟨ih.path_eq, ih.functions, ih.methods⟩
  | value _ _ ih => exact ⟨ih.path_eq, ih.functions, ih.methods⟩

/-- The index of the files of a package declares what they declare. -/
theorem ofFiles_declares (path name : String) (files : List (File × Node)) :
    (ofFiles path name files).Declares path :=
  ofFiles_preserves path name ⟨rfl, List.forall_mem_nil _, List.forall_mem_nil _⟩
    fun _ _ _ _ enters => enters.declares

end AspectLoom.PackageIndex
