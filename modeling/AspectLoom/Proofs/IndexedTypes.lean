import AspectLoom.Proofs.IndexEntries
/-!
The types in an index. All are written in the files of the package: the types of receivers,
parameters, results, fields, variables and constants alike.
-/
namespace AspectLoom.PackageIndex

open Syntax (Node)

/-- All types in an index are of some sort. -/
structure OfTypes (types : GoType → Prop) (index : PackageIndex) : Prop where
  functions : ∀ entry ∈ index.functions, ∀ type ∈ entry.2.types, types type
  methods : ∀ entry ∈ index.methods, ∀ type ∈ entry.2.types, types type
  fields : ∀ entry ∈ index.fields, types entry.2
  values : ∀ entry ∈ index.values, ∀ type ∈ entry.2, types type

variable {types : GoType → Prop} {index : PackageIndex}

theorem OfTypes.imp {others : GoType → Prop} (all : index.OfTypes types)
    (each : ∀ type, types type → others type) : index.OfTypes others where
  functions entry member type among := each type (all.functions entry member type among)
  methods entry member type among := each type (all.methods entry member type among)
  fields entry member := each _ (all.fields entry member)
  values entry member type given := each type (all.values entry member type given)

theorem setFunction_ofTypes {name : String} {decl : Declaration} (all : index.OfTypes types)
    (own : ∀ type ∈ decl.types, types type) : (index.setFunction name decl).OfTypes types where
  functions := by
    intro entry member
    rcases Assoc.mem_insert member with rfl | old
    · exact own
    · exact all.functions entry old
  methods := all.methods
  fields := all.fields
  values := all.values

theorem setMethod_ofTypes {type name : String} {decl : Declaration} (all : index.OfTypes types)
    (own : ∀ type ∈ decl.types, types type) : (index.setMethod type name decl).OfTypes types where
  functions := all.functions
  methods := by
    intro entry member
    rcases Assoc.mem_insert member with rfl | old
    · exact own
    · exact all.methods entry old
  fields := all.fields
  values := all.values

theorem setField_ofTypes {type : String} {field : String × GoType} (all : index.OfTypes types)
    (own : types field.2) : (setField type index field).OfTypes types where
  functions := all.functions
  methods := all.methods
  fields := by
    intro entry member
    rcases Assoc.mem_insert member with rfl | old
    · exact own
    · exact all.fields entry old
  values := all.values

theorem setValue_ofTypes {value : String × Option GoType} (all : index.OfTypes types)
    (own : ∀ type ∈ value.2, types type) : (index.setValue value).OfTypes types where
  functions := all.functions
  methods := all.methods
  fields := all.fields
  values := by
    intro entry member
    rcases Assoc.mem_insert member with rfl | old
    · exact own
    · exact all.values entry old

theorem Enters.ofTypes {file : File} {root : Node} {before : PackageIndex}
    (enters : Enters file root before index) (all : before.OfTypes types)
    (covers : ∀ type, IsWritten file root type → types type) : index.OfTypes types := by
  induction enters with
  | nothing => exact all
  | function _ name _ _ written ih =>
      exact setFunction_ofTypes ih fun type member => covers type (written type member)
  | method _ type name _ written ih =>
      exact setMethod_ofTypes ih fun type member => covers type (written type member)
  | type _ name ih => exact ⟨ih.functions, ih.methods, ih.fields, ih.values⟩
  | field _ type written ih => exact setField_ofTypes ih (covers _ written)
  | value _ known ih =>
      refine setValue_ofTypes ih fun type given => ?_
      rcases known type given with written | ⟨entry, member, among⟩
      · exact covers type written
      · exact ih.functions entry member type among

/-- All types in the index of a package are written in its files. -/
theorem ofFiles_ofTypes (path name : String) (files : List (File × Node)) :
    (ofFiles path name files).OfTypes fun type =>
      ∃ entry ∈ files, IsWritten entry.1 entry.2 type :=
  ofFiles_preserves path name ⟨List.forall_mem_nil _, List.forall_mem_nil _,
      List.forall_mem_nil _, List.forall_mem_nil _⟩
    fun entry member _ _ enters all =>
      enters.ofTypes all fun _ written => ⟨entry, member, written⟩

end AspectLoom.PackageIndex
