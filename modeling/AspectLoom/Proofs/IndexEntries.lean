import AspectLoom.Proofs.Entries
import AspectLoom.Proofs.TypeParts
/-!
What files enter into an index. An index changes by one entry after the other, and every type in an
entry is written in the file and spelled by what the file makes of the names in it.
-/
namespace AspectLoom

open Syntax (Node)

/-- A node is another one or lies below it. -/
inductive Syntax.Node.Reaches : Node → Node → Prop where
  | self (node : Node) : Reaches node node
  | child {node child inner : Node} (member : child ∈ node.children)
      (reaches : Reaches child inner) : Reaches node inner

/-- The parts of a type that stands in a file. Where the grammar expects an expression, a name or a
selector can stand for a type too, and `&` and `new` give a pointer to one. -/
inductive WrittenType (source : String) (root : Node) : List TypePart → Prop where
  | type {node : Node} (inside : root.Reaches node) :
      WrittenType source root (TypeContext.typeParts source node)
  | name {node : Node} (inside : root.Reaches node) :
      WrittenType source root [.named ⟨none, node.text source⟩ (node.text source)]
  | selected {node operand field : Node} (inside : root.Reaches node)
      (isOperand : node.child? .operand = some operand) (isField : node.child? .field = some field) :
      WrittenType source root
        [.named ⟨some (operand.text source), field.text source⟩ (node.text source)]
  | pointer {parts : List TypePart} (written : WrittenType source root parts) :
      WrittenType source root (.token "*" :: parts)

/-- A type that a file writes, spelled by what the file makes of its names. -/
def IsWritten (file : PackageIndex.File) (root : Node) (type : GoType) : Prop :=
  ∃ parts, WrittenType file.source root parts ∧ type = ⟨file.context.spell parts⟩

/-- The types of the receiver, the parameters and the results. -/
def Declaration.types (decl : Declaration) : List GoType :=
  decl.receiver.toList ++ (decl.params ++ decl.results).map Param.type

namespace Syntax.Node.Reaches

variable {root node child : Node} {label : Syntax.Label}

theorem trans {inner : Node} (outer : root.Reaches node) (inside : node.Reaches inner) :
    root.Reaches inner := by
  induction outer with
  | self => exact inside
  | child member _ ih => exact .child member (ih inside)

theorem step (reaches : root.Reaches node) (member : child ∈ node.children) :
    root.Reaches child :=
  reaches.trans (.child member (.self child))

theorem part (reaches : root.Reaches node) (found : node.child? label = some child) :
    root.Reaches child :=
  reaches.step (mem_of_child? found)

theorem named (reaches : root.Reaches node) (member : child ∈ node.namedChildren) :
    root.Reaches child :=
  reaches.step (List.mem_filter.mp member).1

theorem first (reaches : root.Reaches node) (found : node.firstNamed? = some child) :
    root.Reaches child :=
  reaches.step (mem_of_firstNamed? found)

end Syntax.Node.Reaches

section
variable {file : PackageIndex.File} {root node : Node} {type : GoType}

/-! Types of nodes -/

theorem IsWritten.pointerTo (written : IsWritten file root type) :
    IsWritten file root type.pointerTo := by
  obtain ⟨parts, isWritten, rfl⟩ := written
  exact ⟨_, .pointer isWritten, by rw [TypeContext.spell_cons]; rfl⟩

theorem isWritten_canonical (inside : root.Reaches node) :
    IsWritten file root (file.context.canonical file.source node) :=
  ⟨_, .type inside, by rw [← TypeContext.typeText_spells]; rfl⟩

theorem isWritten_localType (inside : root.Reaches node) :
    IsWritten file root (file.context.localType (node.text file.source)) :=
  ⟨_, .name inside, by simp [TypeContext.partSpelled, TypeContext.nameText]⟩

theorem compositeType?_written (inside : root.Reaches node)
    (found : file.context.compositeType? file.source node = some type) :
    IsWritten file root type := by
  obtain ⟨child, isType, rfl⟩ := Option.map_eq_some_iff.mp found
  exact isWritten_canonical (inside.part isType)

theorem typeOfExpression?_written (inside : root.Reaches node)
    (found : file.context.typeOfExpression? file.source node = some type) :
    IsWritten file root type := by
  unfold TypeContext.typeOfExpression? at found
  split at found
  · cases found
    exact isWritten_localType inside
  · obtain ⟨operand, isOperand, found⟩ := Option.bind_eq_some_iff.mp found
    obtain ⟨field, isField, found⟩ := Option.bind_eq_some_iff.mp found
    obtain ⟨path, isPath, found⟩ := Option.bind_eq_some_iff.mp found
    cases found
    refine ⟨_, .selected inside isOperand isField, ?_⟩
    simp [TypeContext.partSpelled, TypeContext.nameText, isPath, GoType.named]
  · split at found
    · cases found
      exact isWritten_canonical inside
    · cases found

theorem addressType?_written (inside : root.Reaches node)
    (found : file.context.addressType? file.source node = some type) :
    IsWritten file root type := by
  obtain ⟨operator, _, found⟩ := Option.bind_eq_some_iff.mp found
  obtain ⟨operand, isOperand, found⟩ := Option.bind_eq_some_iff.mp found
  split at found
  · obtain ⟨pointee, composite, rfl⟩ := Option.map_eq_some_iff.mp found
    exact (compositeType?_written (inside.part isOperand) composite).pointerTo
  · cases found

theorem allocationType?_written (inside : root.Reaches node)
    (found : file.context.allocationType? file.source node = some type) :
    IsWritten file root type := by
  obtain ⟨function, _, found⟩ := Option.bind_eq_some_iff.mp found
  split at found
  · obtain ⟨list, isList, found⟩ := Option.bind_eq_some_iff.mp found
    obtain ⟨argument, isFirst, found⟩ := Option.bind_eq_some_iff.mp found
    obtain ⟨pointee, spelled, rfl⟩ := Option.map_eq_some_iff.mp found
    exact (typeOfExpression?_written ((inside.part isList).first isFirst) spelled).pointerTo
  · cases found

theorem bareExpression?_reaches {bare : Node} (node : Node) (inside : root.Reaches node)
    (found : TypeContext.bareExpression? node = some bare) : root.Reaches bare := by
  fun_induction TypeContext.bareExpression? node with
  | case1 node isParenthesized inner isFirst ih => exact ih (inside.first isFirst) found
  | case2 => cases found
  | case3 =>
      cases found
      exact inside

theorem literalType?_written (inside : root.Reaches node)
    (found : file.context.literalType? file.source node = some type) :
    IsWritten file root type := by
  obtain ⟨bare, isBare, found⟩ := Option.bind_eq_some_iff.mp found
  have insideBare := bareExpression?_reaches node inside isBare
  split at found
  · exact compositeType?_written insideBare found
  · exact addressType?_written insideBare found
  · exact allocationType?_written insideBare found
  · cases found

end

namespace PackageIndex

section
variable {file : File} {root node : Node} {before index : PackageIndex}

/-! Signatures -/

theorem declaredParams_written (inside : root.Reaches node) :
    ∀ param ∈ file.context.declaredParams file.source node, IsWritten file root param.type := by
  unfold TypeContext.declaredParams
  split
  · exact List.forall_mem_nil _
  · rename_i type isType
    have written : IsWritten file root (file.context.canonical file.source type) :=
      isWritten_canonical (inside.part isType)
    dsimp only
    split
    · exact List.forall_mem_singleton.mpr written
    · exact List.forall_mem_map.mpr fun _ _ => written

theorem parameterList_written (inside : root.Reaches node) :
    ∀ param ∈ (file.context.parameterList file.source node).1, IsWritten file root param.type := by
  intro param member
  obtain ⟨declaration, among, member⟩ := List.mem_flatMap.mp member
  exact declaredParams_written (inside.named (List.mem_filter.mp among).1) param member

theorem resultList_written (inside : root.Reaches node) {label : Syntax.Label} :
    ∀ param ∈ file.context.resultList file.source (node.child? label),
      IsWritten file root param.type := by
  unfold TypeContext.resultList
  split
  · exact List.forall_mem_nil _
  · rename_i result isResult
    split
    · exact parameterList_written (inside.part isResult)
    · exact List.forall_mem_singleton.mpr (isWritten_canonical (inside.part isResult))

theorem signature_written (inside : root.Reaches node) {receiver : Option GoType}
    (own : ∀ type ∈ receiver, IsWritten file root type) (path name : String) :
    ∀ type ∈ Declaration.types ⟨path, name, receiver, file.context.signature file.source node⟩,
      IsWritten file root type := by
  intro type member
  rcases List.mem_append.mp member with isReceiver | member
  · exact own type (Option.mem_toList.mp isReceiver)
  · obtain ⟨param, among, rfl⟩ := List.mem_map.mp member
    rcases List.mem_append.mp among with isParam | isResult
    · unfold Declaration.params TypeContext.signature at isParam
      dsimp only at isParam
      split at isParam
      · rename_i list isList
        exact parameterList_written (inside.part isList) param isParam
      · cases isParam
    · exact resultList_written inside param isResult

/-! Entries -/

/-- What an index is once a file entered some of its declarations and values. A value without a type
of its own has that of a function's result. -/
inductive Enters (file : File) (root : Node) (before : PackageIndex) : PackageIndex → Prop where
  | nothing : Enters file root before before
  | function {index : PackageIndex} (entered : Enters file root before index) (name : String)
      {decl : Declaration} (isFunction : decl.receiver = none) (own : decl.packagePath = index.path)
      (written : ∀ type ∈ decl.types, IsWritten file root type) :
      Enters file root before (index.setFunction name decl)
  | method {index : PackageIndex} (entered : Enters file root before index) (type name : String)
      {decl : Declaration} (isMethod : decl.receiver ≠ none)
      (written : ∀ type ∈ decl.types, IsWritten file root type) :
      Enters file root before (index.setMethod type name decl)
  | type {index : PackageIndex} (entered : Enters file root before index) (name : String) :
      Enters file root before { index with types := index.types ++ [name] }
  | field {index : PackageIndex} (entered : Enters file root before index) (type : String)
      {field : String × GoType} (written : IsWritten file root field.2) :
      Enters file root before (setField type index field)
  | value {index : PackageIndex} (entered : Enters file root before index)
      {value : String × Option GoType}
      (known : ∀ type ∈ value.2, IsWritten file root type ∨
        ∃ entry ∈ index.functions, type ∈ entry.2.types) :
      Enters file root before (index.setValue value)

theorem foldl_enters {α : Type} (change : PackageIndex → α → PackageIndex) {items : List α}
    (changes : ∀ item ∈ items, ∀ index, Enters file root before index →
      Enters file root before (change index item))
    (entered : Enters file root before index) :
    Enters file root before (items.foldl change index) := by
  induction items generalizing index with
  | nil => exact entered
  | cons item rest ih =>
      exact ih (fun other member => changes other (List.mem_cons_of_mem _ member))
        (changes item List.mem_cons_self index entered)

theorem addFunction_enters (inside : root.Reaches node) (entered : Enters file root before index) :
    Enters file root before (index.addFunction file node) := by
  unfold addFunction
  split
  · exact entered
  · split
    · exact entered
    · dsimp only
      split
      · exact entered
      · exact entered.function _ rfl rfl (signature_written inside (fun _ none => by cases none) _ _)

theorem addMethod_enters (inside : root.Reaches node) (entered : Enters file root before index) :
    Enters file root before (index.addMethod file node) := by
  unfold addMethod
  cases receiver : receiverType? node with
  | none => exact entered
  | some type =>
      cases base : receiverBase? file.source type with
      | none => simpa [base] using entered
      | some name =>
          cases named : node.child? .name with
          | none => simpa [base] using entered
          | some own =>
              simp only [base, Option.bind_eq_bind, Option.bind_some]
              obtain ⟨list, isList, receiver⟩ := Option.bind_eq_some_iff.mp receiver
              obtain ⟨declaration, isFirst, isType⟩ := Option.bind_eq_some_iff.mp receiver
              have insideType := ((inside.part isList).first isFirst).part isType
              refine entered.method _ _ (Option.some_ne_none _) (signature_written inside ?_ _ _)
              rintro _ ⟨⟩
              exact isWritten_canonical insideType

theorem addFields_enters (inside : root.Reaches node) (name : String)
    (entered : Enters file root before index) :
    Enters file root before (index.addFields file name node) := by
  refine foldl_enters _ (fun field member index entered => entered.field name ?_) entered
  obtain ⟨declaration, among, member⟩ := List.mem_flatMap.mp member
  have insideField : root.Reaches declaration := by
    unfold fieldList at among
    split at among
    · rename_i list isList
      have insideList := inside.named (List.mem_of_find?_eq_some isList)
      exact insideList.named (List.mem_filter.mp among).1
    · cases among
  unfold fieldsOf at member
  split at member
  · cases member
  · rename_i type isType
    have written : IsWritten file root (file.context.canonical file.source type) :=
      isWritten_canonical (insideField.part isType)
    dsimp only at member
    split at member
    · obtain ⟨parts, _, rfl⟩ := Option.map_eq_some_iff.mp (Option.mem_toList.mp member)
      exact written
    · obtain ⟨_, _, rfl⟩ := List.mem_map.mp member
      exact written

theorem addInterfaceMethods_enters (inside : root.Reaches node) {name : Node}
    (insideName : root.Reaches name) (entered : Enters file root before index) :
    Enters file root before (index.addInterfaceMethods file (name.text file.source) node) := by
  refine foldl_enters _ (fun element member index entered => ?_) entered
  have insideElement := inside.named (List.mem_filter.mp member).1
  unfold addInterfaceMethod
  split
  · exact entered
  · refine entered.method _ _ (Option.some_ne_none _) (signature_written insideElement ?_ _ _)
    rintro _ ⟨⟩
    exact isWritten_localType insideName

theorem addType_enters (inside : root.Reaches node) (entered : Enters file root before index) :
    Enters file root before (index.addType file node) := by
  unfold addType
  split
  · exact entered
  · rename_i name isName
    have named := entered.type (name.text file.source)
    dsimp only
    split
    · exact named
    · split
      · exact named
      · rename_i underlying isType
        split
        · exact addFields_enters (inside.part isType) _ named
        · exact addInterfaceMethods_enters (inside.part isType) (inside.part isName) named
        · exact named

theorem addDeclarations_enters (file : File) (root : Node) (index : PackageIndex) :
    Enters file root index (index.addDeclarations file root) := by
  refine foldl_enters _ (fun node member index entered => ?_) .nothing
  have inside := (Node.Reaches.self root).named member
  unfold addDeclaration
  split
  · exact addFunction_enters inside entered
  · exact addMethod_enters inside entered
  · exact foldl_enters _ (fun spec among index entered =>
      addType_enters (inside.named (List.mem_filter.mp among).1) entered) entered
  · exact entered

theorem valueSpecs_reaches (inside : root.Reaches node) {spec : Node}
    (member : spec ∈ valueSpecs node) : root.Reaches spec := by
  obtain ⟨child, among, member⟩ := List.mem_flatMap.mp member
  have insideChild := inside.named among
  split at member
  · cases List.mem_singleton.mp member
    exact insideChild
  · cases List.mem_singleton.mp member
    exact insideChild
  · exact insideChild.named (List.mem_filter.mp member).1
  · cases member

theorem valueType?_known (inside : root.Reaches node) :
    ∀ type ∈ index.valueType? file node, IsWritten file root type ∨
      ∃ entry ∈ index.functions, type ∈ entry.2.types := by
  intro type found
  unfold valueType? at found
  split at found
  · rename_i spelled literal
    cases found
    exact .inl (literalType?_written inside literal)
  · split at found
    · obtain ⟨function, _, found⟩ := Option.bind_eq_some_iff.mp found
      split at found
      · obtain ⟨decl, declares, found⟩ := Option.bind_eq_some_iff.mp found
        split at found
        · rename_i result single
          cases found
          refine .inr ⟨_, Assoc.mem_of_find? declares, ?_⟩
          refine List.mem_append_right _ (List.mem_map_of_mem (List.mem_append_right _ ?_))
          rw [single]
          exact List.mem_singleton_self _
        · cases found
      · cases found
    · cases found

/-- Setting values leaves the functions as they are, from which the other values have their types. -/
theorem setValues_enters {values : List (String × Option GoType)}
    (known : ∀ value ∈ values, ∀ type ∈ value.2, IsWritten file root type ∨
      ∃ entry ∈ index.functions, type ∈ entry.2.types)
    (entered : Enters file root before index) :
    Enters file root before (values.foldl setValue index) := by
  induction values generalizing index with
  | nil => exact entered
  | cons value rest ih =>
      obtain ⟨first, others⟩ := List.forall_mem_cons.mp known
      exact ih others (entered.value first)

theorem addSpec_enters (inside : root.Reaches node) (entered : Enters file root before index) :
    Enters file root before (addSpec file index node) := by
  refine setValues_enters (fun value member => ?_) entered
  obtain ⟨⟨name, position⟩, _, rfl⟩ := List.mem_map.mp member
  intro type given
  dsimp only at given
  cases declared : node.child? .type with
  | some written =>
      rw [declared] at given
      cases given
      exact .inl (isWritten_canonical (inside.part declared))
  | none =>
      rw [declared] at given
      obtain ⟨value, isValue, found⟩ := Option.bind_eq_some_iff.mp given
      refine valueType?_known ?_ type found
      have among := List.mem_of_getElem? isValue
      unfold valueNodes at among
      split at among
      · rename_i list isList
        exact (inside.part isList).named among
      · cases among

theorem addValues_enters (file : File) (root : Node) (index : PackageIndex) :
    Enters file root index (index.addValues file root) := by
  refine foldl_enters _ (fun spec member index entered => addSpec_enters ?_ entered) .nothing
  obtain ⟨declaration, among, member⟩ := List.mem_flatMap.mp member
  exact valueSpecs_reaches ((Node.Reaches.self root).named (List.mem_filter.mp among).1) member

end

/-- What holds of an index without entries, and whatever its files enter, holds of the index. -/
theorem ofFiles_preserves {Holds : PackageIndex → Prop} (path name : String)
    {files : List (File × Node)} (empty : Holds { path := path, name := name })
    (kept : ∀ entry ∈ files, ∀ {before after}, Enters entry.1 entry.2 before after →
      Holds before → Holds after) : Holds (ofFiles path name files) := by
  have folded : ∀ (change : PackageIndex → File × Node → PackageIndex),
      (∀ index entry, Enters entry.1 entry.2 index (change index entry)) →
        ∀ index, Holds index → Holds (files.foldl change index) := by
    intro change enters
    induction files with
    | nil => exact fun _ holds => holds
    | cons entry rest ih =>
        obtain ⟨first, others⟩ := List.forall_mem_cons.mp kept
        exact fun index holds => ih others _ (first (enters index entry) holds)
  exact folded _ (fun index entry => addValues_enters entry.1 entry.2 index) _
    (folded _ (fun index entry => addDeclarations_enters entry.1 entry.2 index) _ empty)

end PackageIndex
end AspectLoom
