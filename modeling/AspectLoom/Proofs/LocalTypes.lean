import AspectLoom.Proofs.HeldTypes
/-!
Types that a block declares. A walk takes no account of them: their names hide no functions, and
what is spelled with such a name has the type of that name of the package.
-/
namespace AspectLoom

open Actions Scoping
open Syntax (Node Kind)

namespace GoType

/-- A package path and a name that can be read off the text of the type. -/
structure Plain (path name : String) : Prop where
  pathFilled : path ≠ ""
  pathUnmarked : path.toList.any compositeMarks.contains = false
  nameFilled : name ≠ ""
  nameUnmarked : name.toList.any compositeMarks.contains = false
  nameUndotted : '.' ∉ name.toList

instance (path name : String) : Decidable (Plain path name) :=
  decidable_of_iff
    ((path ≠ "" ∧ path.toList.any compositeMarks.contains = false) ∧
      name ≠ "" ∧ name.toList.any compositeMarks.contains = false ∧ '.' ∉ name.toList)
    ⟨fun ⟨⟨filled, unmarked⟩, named, clear, undotted⟩ =>
        ⟨filled, unmarked, named, clear, undotted⟩,
      fun ⟨filled, unmarked, named, clear, undotted⟩ =>
        ⟨⟨filled, unmarked⟩, named, clear, undotted⟩⟩

theorem splitLast?_named {path name : String} (undotted : '.' ∉ name.toList) :
    Text.splitLast? '.' (path ++ "." ++ name) = some (path, name) := by
  have all : ∀ c ∈ name.toList.reverse, decide (c ≠ '.') = true := by
    intro c member
    rw [decide_eq_true_eq]
    rintro rfl
    exact undotted (List.mem_reverse.mp member)
  have reversed : (path ++ "." ++ name).toList.reverse =
      name.toList.reverse ++ '.' :: path.toList.reverse := by
    simp [String.toList_append]
  rw [Text.splitLast?, reversed, List.takeWhile_append_of_pos all, List.dropWhile_append_of_pos all]
  simp

theorem pointee?_pointerTo (type : GoType) : type.pointerTo.pointee? = some type := by
  obtain ⟨text⟩ := type
  simp [pointerTo, pointee?, Text.stripStart?, String.toList_append]

/-- A text that begins with no star is of no pointer. -/
theorem pointee?_named {path name : String} (plain : Plain path name) :
    (named path name).pointee? = none := by
  obtain ⟨first, rest, same⟩ := List.exists_cons_of_ne_nil
    (show path.toList ≠ [] from fun empty => plain.pathFilled (by simpa using empty))
  have noStar : first ≠ '*' := by
    rintro rfl
    have unmarked := plain.pathUnmarked
    rw [same] at unmarked
    cases unmarked
  simp [named, pointee?, Text.stripStart?, String.toList_append, same, List.isPrefixOf?,
    Ne.symm noStar]

theorem namedParts?_of_base {type : GoType} {path name : String} (plain : Plain path name)
    (base : type.pointee?.getD type = named path name) :
    type.namedParts? = some (path, name) := by
  have unmarked : ((named path name).text.toList.any compositeMarks.contains) = false := by
    have dot : ".".toList.any compositeMarks.contains = false := by decide
    rw [named, String.toList_append, String.toList_append, List.any_append, List.any_append,
      plain.pathUnmarked, dot, plain.nameUnmarked]
    rfl
  rw [namedParts?, base, unmarked, named, splitLast?_named plain.nameUndotted]
  simp [plain.pathFilled, plain.nameFilled]

theorem namedParts?_named {path name : String} (plain : Plain path name) :
    (named path name).namedParts? = some (path, name) :=
  namedParts?_of_base plain (by rw [pointee?_named plain]; rfl)

theorem namedParts?_pointerTo {path name : String} (plain : Plain path name) :
    (named path name).pointerTo.namedParts? = some (path, name) :=
  namedParts?_of_base plain (by rw [pointee?_pointerTo]; rfl)

end GoType

namespace Resolver

/-- A name that is written as a type. -/
structure IsTypeName (resolver : Resolver) (name : String) (type : Node) : Prop where
  kind : type.kind = .typeIdentifier
  text : resolver.text type = name

/-- An expression whose type is spelled with a name: a literal, a conversion, a call of `new`, a
type assertion, or a variable that is held with the type or with a pointer to it. -/
inductive Spelled (resolver : Resolver) (scopes : List Scope) (name : String) :
    Node → GoType → Prop where
  | literal {node type : Node} (kind : node.kind = .compositeLiteral)
      (typed : node.child? .type = some type) (named : resolver.IsTypeName name type) :
      Spelled resolver scopes name node (resolver.context.localType name)
  | address {node operator operand : Node} (kind : node.kind = .unaryExpression)
      (isOperator : node.child? .operator = some operator) (text : resolver.text operator = "&")
      (isOperand : node.child? .operand = some operand)
      (spelled : Spelled resolver scopes name operand (resolver.context.localType name)) :
      Spelled resolver scopes name node (resolver.context.localType name).pointerTo
  | allocation {node function arguments argument : Node} (kind : node.kind = .callExpression)
      (isFunction : node.child? .function = some function) (bare : function.kind = .identifier)
      (text : resolver.text function = "new") (isList : node.child? .arguments = some arguments)
      (isFirst : arguments.firstNamed? = some argument)
      (named : argument.kind = .identifier ∧ resolver.text argument = name) :
      Spelled resolver scopes name node (resolver.context.localType name).pointerTo
  | conversion {node function : Node} (kind : node.kind = .callExpression)
      (isFunction : node.child? .function = some function) (bare : function.kind = .identifier)
      (text : resolver.text function = name) (other : name ≠ "new") (unbound : ¬Bound scopes name)
      (declared : resolver.index.hasType name = true) :
      Spelled resolver scopes name node (resolver.context.localType name)
  | bracketed {node function inner : Node} (kind : node.kind = .callExpression)
      (isFunction : node.child? .function = some function)
      (brackets : function.kind = .parenthesizedExpression)
      (isInner : function.firstNamed? = some inner)
      (named : inner.kind = .identifier ∧ resolver.text inner = name) :
      Spelled resolver scopes name node (resolver.context.localType name)
  | assertion {node type : Node} (kind : node.kind = .typeAssertionExpression)
      (typed : node.child? .type = some type) (named : resolver.IsTypeName name type) :
      Spelled resolver scopes name node (resolver.context.localType name)
  | parenthesized {node inner : Node} {type : GoType}
      (kind : node.kind = .parenthesizedExpression) (isInner : node.firstNamed? = some inner)
      (spelled : Spelled resolver scopes name inner type) : Spelled resolver scopes name node type
  | holding {node : Node} {type : GoType} (kind : node.kind = .identifier)
      (held : heldType? scopes (resolver.text node) = some (some type))
      (spelled : type = resolver.context.localType name ∨
        type = (resolver.context.localType name).pointerTo) :
      Spelled resolver scopes name node type

section
variable {resolver : Resolver} {scopes : List Scope} {name : String} {node type : Node}
  {memory after : WalkMemory}

theorem canonical_typeName (named : resolver.IsTypeName name type) :
    resolver.context.canonical resolver.source type = resolver.context.localType name := by
  obtain ⟨kind, label, span, children⟩ := type
  obtain ⟨rfl, rfl⟩ := named
  rw [TypeContext.canonical, TypeContext.typeText]
  rfl

theorem literalType?_of_kind (context : TypeContext) (source : String)
    (other : node.kind ≠ .parenthesizedExpression) :
    context.literalType? source node =
      match node.kind with
      | .compositeLiteral => context.compositeType? source node
      | .unaryExpression => context.addressType? source node
      | .callExpression => context.allocationType? source node
      | _ => none := by
  rw [TypeContext.literalType?, TypeContext.bareExpression?, if_neg (by simpa using other)]
  rfl

/-! Equations by the kind of the expression -/

theorem infer_identifier (kind : node.kind = .identifier) :
    resolver.infer node = resolver.nameType? (resolver.text node) := by
  have unspelled : resolver.context.literalType? resolver.source node = none := by
    rw [literalType?_of_kind _ _ (by simp [kind]), kind]
  rw [infer, unspelled, kind]

theorem infer_unary {operator operand : Node} (kind : node.kind = .unaryExpression)
    (isOperator : node.child? .operator = some operator)
    (isOperand : node.child? .operand = some operand)
    (unspelled : resolver.context.literalType? resolver.source node = none) :
    resolver.infer node = (do
      return Resolver.throughOperator (resolver.text operator) (← resolver.infer operand)) := by
  rw [infer, unspelled, kind]
  dsimp only
  split
  · rename_i foundOperator foundOperand
    cases isOperator.symm.trans foundOperator
    cases isOperand.symm.trans foundOperand
    rfl
  · rename_i absent
    exact absurd isOperand (absent _ _ isOperator)

theorem infer_selector {operand field : Node} (kind : node.kind = .selectorExpression)
    (isOperand : node.child? .operand = some operand) (isField : node.child? .field = some field) :
    resolver.infer node = (do
      match ← resolver.importBehind? operand with
      | some path =>
        return (← resolver.package path).bind fun index => index.value? (resolver.text field)
      | none => resolver.fieldOf (← resolver.infer operand) (resolver.text field)) := by
  have unspelled : resolver.context.literalType? resolver.source node = none := by
    rw [literalType?_of_kind _ _ (by simp [kind]), kind]
  rw [infer, unspelled, kind]
  dsimp only
  split
  · rename_i foundOperand foundField
    cases isOperand.symm.trans foundOperand
    cases isField.symm.trans foundField
    rfl
  · rename_i absent
    exact absurd isField (absent _ _ isOperand)

/-! One form after the other -/

theorem infer_of_literalType {static : GoType}
    (spelled : resolver.context.literalType? resolver.source node = some static) :
    runFrom (resolver.infer node) memory = (.ok (some static), memory) := by
  rw [infer, spelled]
  rfl

theorem infer_typeName (kind : node.kind = .compositeLiteral)
    (typed : node.child? .type = some type) (named : resolver.IsTypeName name type) :
    runFrom (resolver.infer node) memory =
      (.ok (some (resolver.context.localType name)), memory) := by
  apply infer_of_literalType
  rw [literalType?_of_kind _ _ (by simp [kind]), kind]
  simp [TypeContext.compositeType?, typed, canonical_typeName named]

theorem infer_address {operator operand : Node} {static : GoType}
    (kind : node.kind = .unaryExpression) (isOperator : node.child? .operator = some operator)
    (text : resolver.text operator = "&") (isOperand : node.child? .operand = some operand)
    (inferred : runFrom (resolver.infer operand) memory = (.ok (some static), memory)) :
    runFrom (resolver.infer node) memory = (.ok (some static.pointerTo), memory) := by
  have literal : resolver.context.literalType? resolver.source node =
      if operand.kind = .compositeLiteral then
        (resolver.context.compositeType? resolver.source operand).map GoType.pointerTo
      else none := by
    rw [literalType?_of_kind _ _ (by simp [kind]), kind]
    change Node.text resolver.source operator = "&" at text
    simp [TypeContext.addressType?, isOperator, isOperand, text]
  by_cases isLiteral : operand.kind = .compositeLiteral
  · -- The address of a literal is spelled as a whole.
    apply infer_of_literalType
    rw [literal, if_pos isLiteral]
    rw [infer, literalType?_of_kind _ _ (by simp [isLiteral]), isLiteral] at inferred
    cases found : resolver.context.compositeType? resolver.source operand with
    | none =>
        rw [found] at inferred
        cases inferred
    | some type =>
        rw [found] at inferred
        cases inferred
        rfl
  · rw [infer_unary kind isOperator isOperand (literal.trans (if_neg isLiteral)),
      runFrom_bind_of_ok inferred, text]
    rfl

theorem infer_allocation {function arguments argument : Node} (kind : node.kind = .callExpression)
    (isFunction : node.child? .function = some function) (bare : function.kind = .identifier)
    (text : resolver.text function = "new") (isList : node.child? .arguments = some arguments)
    (isFirst : arguments.firstNamed? = some argument)
    (named : argument.kind = .identifier ∧ resolver.text argument = name) :
    runFrom (resolver.infer node) memory =
      (.ok (some (resolver.context.localType name).pointerTo), memory) := by
  apply infer_of_literalType
  rw [literalType?_of_kind _ _ (by simp [kind]), kind]
  change Node.text resolver.source function = "new" at text
  obtain ⟨isName, rfl⟩ := named
  simp [TypeContext.allocationType?, isFunction, bare, text, isList, isFirst,
    TypeContext.typeOfExpression?, isName, Resolver.text]

/-- A call that spells no type has the only type among its results. -/
theorem infer_call {static : GoType} (kind : node.kind = .callExpression)
    (unspelled : resolver.context.literalType? resolver.source node = none)
    (results : runFrom (resolver.callResults node) memory = (.ok [static], memory)) :
    runFrom (resolver.infer node) memory = (.ok (some static), memory) := by
  rw [infer, unspelled, kind]
  dsimp only
  rw [runFrom_bind_of_ok results]
  rfl

theorem infer_conversion {function : Node} (kind : node.kind = .callExpression)
    (isFunction : node.child? .function = some function) (bare : function.kind = .identifier)
    (text : resolver.text function = name) (other : name ≠ "new")
    (unbound : ¬Bound memory.scopes name) (declared : resolver.index.hasType name = true) :
    runFrom (resolver.infer node) memory =
      (.ok (some (resolver.context.localType name)), memory) := by
  have unspelled : resolver.context.literalType? resolver.source node = none := by
    rw [literalType?_of_kind _ _ (by simp [kind]), kind]
    have different : Node.text resolver.source function ≠ "new" := fun same =>
      other (text.symm.trans same)
    simp [TypeContext.allocationType?, isFunction, different]
  have isFree : runFrom (isLocal name) memory = (.ok false, memory) := by
    rw [runFrom_isLocal, (Bool.eq_false_iff ..).mpr (fun found => unbound (found_iff.mp found))]
  apply infer_call kind unspelled
  rw [callResults, unspelled]
  dsimp only
  split
  · rename_i absent
    cases absent.symm.trans isFunction
  · rename_i found
    cases isFunction.symm.trans found
    rw [bare, text]
    dsimp only
    rw [namedResults, runFrom_bind_of_ok isFree, declared]
    rfl

theorem infer_bracketed {function inner : Node} (kind : node.kind = .callExpression)
    (isFunction : node.child? .function = some function)
    (brackets : function.kind = .parenthesizedExpression)
    (isInner : function.firstNamed? = some inner)
    (named : inner.kind = .identifier ∧ resolver.text inner = name) :
    runFrom (resolver.infer node) memory =
      (.ok (some (resolver.context.localType name)), memory) := by
  have unspelled : resolver.context.literalType? resolver.source node = none := by
    rw [literalType?_of_kind _ _ (by simp [kind]), kind]
    simp [TypeContext.allocationType?, isFunction, brackets]
  apply infer_call kind unspelled
  rw [callResults, unspelled]
  dsimp only
  split
  · rename_i absent
    cases absent.symm.trans isFunction
  · rename_i found
    cases isFunction.symm.trans found
    obtain ⟨isName, rfl⟩ := named
    rw [brackets]
    simp [conversionTypes, isInner, TypeContext.typeOfExpression?, isName, Resolver.text,
      runFrom_pure]

theorem infer_assertion (kind : node.kind = .typeAssertionExpression)
    (typed : node.child? .type = some type) (named : resolver.IsTypeName name type) :
    runFrom (resolver.infer node) memory =
      (.ok (some (resolver.context.localType name)), memory) := by
  have unspelled : resolver.context.literalType? resolver.source node = none := by
    rw [literalType?_of_kind _ _ (by simp [kind]), kind]
  rw [infer, unspelled, kind]
  simp [typed, canonical_typeName named, runFrom_pure]

theorem infer_parenthesized {inner : Node} (kind : node.kind = .parenthesizedExpression)
    (isInner : node.firstNamed? = some inner) :
    resolver.infer node = resolver.infer inner := by
  have bare : TypeContext.bareExpression? node = TypeContext.bareExpression? inner := by
    rw [TypeContext.bareExpression?, kind]
    simp only [beq_self_eq_true, if_true]
    split
    · rename_i found
      cases isInner.symm.trans found
      rfl
    · rename_i absent
      cases absent.symm.trans isInner
  have same : resolver.context.literalType? resolver.source node =
      resolver.context.literalType? resolver.source inner := by
    rw [TypeContext.literalType?, bare]
    rfl
  rw [infer, same]
  split
  · rename_i spelled
    rw [infer, spelled]
  · rw [kind]
    dsimp only
    split
    · rename_i found
      cases isInner.symm.trans found
      rfl
    · rename_i absent
      cases absent.symm.trans isInner

theorem infer_held {held : Option GoType} (kind : node.kind = .identifier)
    (isHeld : heldType? memory.scopes (resolver.text node) = some held) :
    runFrom (resolver.infer node) memory = (.ok held, memory) := by
  have isLocal : runFrom (local? (resolver.text node)) memory = (.ok (some held), memory) := by
    rw [runFrom_local?, ← isHeld]
    rfl
  rw [infer_identifier kind, nameType?, runFrom_bind_of_ok isLocal]
  rfl

/-- The type that is spelled is the one that is inferred. -/
theorem infer_spelled {static : GoType}
    (spelled : resolver.Spelled memory.scopes name node static) :
    runFrom (resolver.infer node) memory = (.ok (some static), memory) := by
  induction spelled with
  | literal kind typed named => exact infer_typeName kind typed named
  | address kind isOperator text isOperand _ ih =>
      exact infer_address kind isOperator text isOperand ih
  | allocation kind isFunction bare text isList isFirst named =>
      exact infer_allocation kind isFunction bare text isList isFirst named
  | conversion kind isFunction bare text other unbound declared =>
      exact infer_conversion kind isFunction bare text other unbound declared
  | bracketed kind isFunction brackets isInner named =>
      exact infer_bracketed kind isFunction brackets isInner named
  | assertion kind typed named => exact infer_assertion kind typed named
  | parenthesized kind isInner _ ih =>
      rw [infer_parenthesized kind isInner]
      exact ih
  | holding kind held spelled => exact infer_held kind held

/-! References and declarations -/

theorem refer_spelled {selector operand field : Node} {static : GoType}
    (selects : IsSelector selector operand field)
    (spelled : resolver.Spelled memory.scopes name operand static) :
    runFrom (resolver.refer selector) memory =
      runFrom (resolver.resolveMethod selector operand (resolver.text field) (some static))
        memory := by
  by_cases isName : operand.kind = .identifier
  · have held : heldType? memory.scopes (resolver.text operand) = some (some static) := by
      cases spelled with
      | holding kind held spelled => exact held
      | _ => simp_all
    exact refer_variable ⟨selects, isName⟩ held
  · rw [resolver.refer_expression selects isName, runFrom_bind_of_ok (infer_spelled spelled)]

theorem runFrom_methodOf_own {static : GoType} {base : String}
    (parts : static.namedParts? = some (resolver.index.path, base)) (method : String) :
    runFrom (resolver.methodOf static method) memory =
      (.ok (resolver.index.method? base method), memory) := by
  have own : runFrom (resolver.indexOf resolver.index.path) memory =
      (.ok (some resolver.index), memory) := by
    rw [indexOf, if_pos rfl]
    rfl
  rw [methodOf, parts]
  exact runFrom_bind_of_ok own _

/-- Predeclared types have no methods, also where a block declares their names anew. -/
theorem namedParts?_predeclared : ∀ name ∈ GoType.predeclared,
    GoType.namedParts? ⟨name⟩ = none ∧ (GoType.pointerTo ⟨name⟩).namedParts? = none := by
  decide

/-- The method that a type of the package has by a name. -/
def packageMethod? (resolver : Resolver) (name method : String) : Option Declaration :=
  if GoType.predeclared.contains name then none else resolver.index.method? name method

theorem Spelled.type_cases {static : GoType}
    (spelled : resolver.Spelled scopes name node static) :
    static = resolver.context.localType name ∨
      static = (resolver.context.localType name).pointerTo := by
  induction spelled with
  | literal => exact .inl rfl
  | address => exact .inr rfl
  | allocation => exact .inr rfl
  | conversion => exact .inl rfl
  | bracketed => exact .inl rfl
  | assertion => exact .inl rfl
  | parenthesized _ _ _ ih => exact ih
  | holding _ _ spelled => exact spelled

theorem methodOf_spelled {static : GoType}
    (own : resolver.context.packagePath = resolver.index.path) (plain : GoType.Plain resolver.index.path name)
    (spelled : resolver.Spelled scopes name node static) (method : String) :
    runFrom (resolver.methodOf static method) memory =
      (.ok (resolver.packageMethod? name method), memory) := by
  have type := spelled.type_cases
  rw [TypeContext.localType, own] at type
  rw [packageMethod?]
  by_cases predeclared : GoType.predeclared.contains name = true
  · have noParts := namedParts?_predeclared name (List.contains_iff_mem.mp predeclared)
    rw [if_pos predeclared] at type ⊢
    rcases type with rfl | rfl
    · rw [methodOf, noParts.1]
      rfl
    · rw [methodOf, noParts.2]
      rfl
  · rw [if_neg predeclared] at type ⊢
    rcases type with rfl | rfl
    · exact runFrom_methodOf_own (GoType.namedParts?_named plain) method
    · exact runFrom_methodOf_own (GoType.namedParts?_pointerTo plain) method

/-- Names that are declared with a type are given it. -/
theorem declares_typeName {spec : Node} (kinds : spec.kind = .varSpec ∨ spec.kind = .constSpec)
    (typed : spec.child? .type = some type) (named : resolver.IsTypeName name type) :
    runFrom (resolver.declares spec) memory =
      (.ok ((TypeContext.namesOf resolver.source spec).map fun declared =>
        (declared, some (resolver.context.localType name))), memory) := by
  have pairs : ∀ names : List String,
      names.zip (names.map fun _ => some (resolver.context.localType name)) =
        names.map fun declared => (declared, some (resolver.context.localType name)) := by
    intro names
    induction names with
    | nil => rfl
    | cons first rest ih => rw [List.map_cons, List.zip_cons_cons, ih, List.map_cons]
  have given : resolver.declares spec =
      pure ((TypeContext.namesOf resolver.source spec).map fun declared =>
        (declared, some (resolver.context.localType name))) := by
    rw [← pairs, ← canonical_typeName named, declares]
    rcases kinds with kind | kind
    · rw [kind, typed]
      rfl
    · rw [kind, typed]
      rfl
  rw [given, runFrom_pure]

theorem parameterBindings_typeName {list parameter : Node} (among : parameter ∈ list.namedChildren)
    (single : parameter.kind ≠ .variadicParameterDeclaration)
    (typed : parameter.child? .type = some type) (named : resolver.IsTypeName name type)
    {declared : String} (declares : declared ∈ TypeContext.namesOf resolver.source parameter) :
    (declared, some (resolver.context.localType name)) ∈ resolver.parameterBindings list := by
  rw [parameterBindings, List.mem_flatMap]
  refine ⟨parameter, among, ?_⟩
  rw [typed, Option.map_some, canonical_typeName named]
  simp [single, declares]

/-- The types that a block declares by itself, with the places from which on their names count. -/
def localTypes (source : String) (block : Node) : List (String × Nat) :=
  (((block.namedChildren.flatMap Node.namedChildren).filter fun node =>
      node.kind == .typeDeclaration).flatMap PackageIndex.typeSpecs).filterMap fun spec =>
    (spec.child? .name).map fun name => (name.text source, name.stop)

/-- A walk takes no account of the types that a block declares, nor of type parameters. Whatever
they are, a name is recorded as a use of a function just when it stands for one and no variable
hides it, and what is spelled with a name or declared with it as the type has the type of that name
of the package, of which the methods are recorded. -/
theorem walk_overlooks_local_types (resolver : Resolver)
    (own : resolver.context.packagePath = resolver.index.path) {block : Node}
    {memory after : WalkMemory} (isOne : isBlock block = true) (formed : Formed block)
    (ran : runFrom (resolver.walk block) memory = (.ok ⟨⟩, after)) {name : String}
    (plain : GoType.Plain resolver.index.path name) :
    (∀ use isOperand, Uses resolver.source block use isOperand → resolver.text use = name →
      ((∃ fullName, memory.symbols.Gains after.symbols
          (resolver.siteOf use (.ident name)) fullName) ↔
        resolver.Unhidden memory.scopes block use isOperand ∧
          ∃ decl, resolver.answer? after.cache name = some (some decl))) ∧
    (∀ givens selector operand field there static,
      Comes resolver block memory givens (.refer selector) there →
      IsSelector selector operand field →
      resolver.Spelled there.scopes name operand static →
      ∃ next, runFrom (resolver.refer selector) there = (.ok ⟨⟩, next) ∧
        next.symbols = (resolver.methodFindings selector operand (resolver.text field) (some static)
          (resolver.packageMethod? name (resolver.text field))).foldl SymbolTable.note
            there.symbols ∧
        next.symbols.Grows after.symbols) ∧
    ∀ type, resolver.IsTypeName name type →
      (∀ spec there, spec.kind = .varSpec ∨ spec.kind = .constSpec → spec.child? .type = some type →
        runFrom (resolver.declares spec) there =
          (.ok ((TypeContext.namesOf resolver.source spec).map fun declared =>
            (declared, some (resolver.context.localType name))), there)) ∧
      ∀ list, ∀ parameter ∈ list.namedChildren, parameter.kind ≠ .variadicParameterDeclaration →
        parameter.child? .type = some type →
        ∀ declared ∈ TypeContext.namesOf resolver.source parameter,
          (declared, some (resolver.context.localType name)) ∈ resolver.parameterBindings list := by
  refine ⟨?_, ?_, ?_⟩
  · rintro use isOperand uses rfl
    have recorded := (recorded_iff isOne formed ran uses).2
    constructor
    · rintro ⟨fullName, gains⟩
      obtain ⟨unhidden, decl, answered, _⟩ := (recorded fullName).mp gains
      exact ⟨unhidden, decl, answered⟩
    · rintro ⟨unhidden, decl, answered⟩
      exact ⟨_, (recorded _).mpr ⟨unhidden, decl, answered, rfl⟩⟩
  · intro givens selector operand field there static comes selects spelled
    obtain ⟨next, carried, grows⟩ := comes.carried isOne ran
    obtain ⟨method, found, entered⟩ :=
      resolveMethod_records ((refer_spelled selects spelled).symm.trans carried)
    have known : method = resolver.packageMethod? name (resolver.text field) := by
      rw [methodBehind, methodOf_spelled own plain spelled] at found
      cases found
      rfl
    exact ⟨next, carried, known ▸ entered, grows⟩
  · intro type named
    constructor
    · exact fun spec there kinds typed => declares_typeName kinds typed named
    · exact fun list parameter among single typed declared declares =>
        parameterBindings_typeName among single typed named declares

/-- The package has nothing of the name of the local type. -/
def newTypeFile : CompilationUnit × Node :=
  parsedFile "package p\nfunc g() { type n struct{ M func() }; var x n; _ = n(x); x.M() }\n"

/-- Neither the conversion nor the field is recorded. -/
theorem walk_overlooks_local_types_new :
    let resolver := ofFile newTypeFile
    let block := lastBody newTypeFile
    localTypes resolver.source block = [("n", 27)] ∧ isBlock block = true ∧ Formed block ∧
      GoType.Plain resolver.index.path "n" ∧
      ∃ after, runFrom (resolver.walk block) ⟨{}, {}, []⟩ = (.ok ⟨⟩, after) ∧
        (∃ use, use.span = ⟨61, 62⟩ ∧ Uses resolver.source block use false ∧
          ∀ fullName, ¬SymbolTable.Gains {} after.symbols
            (resolver.siteOf use (.ident "n")) fullName) ∧
        ∃ selector operand field given there next,
          Comes resolver block ⟨{}, {}, []⟩ [given] (.refer selector) there ∧
          IsSelector selector operand field ∧ resolver.Spelled there.scopes "n" operand ⟨"p.n"⟩ ∧
          runFrom (resolver.refer selector) there = (.ok ⟨⟩, next) ∧
          next.symbols = there.symbols := by
  intro resolver block
  obtain ⟨own, declares, isOne, formed, plain, succeeds, isUse, useName, unknown, refers, gives,
      held, typeName, methodless⟩ :
      resolver.context.packagePath = resolver.index.path ∧
      localTypes resolver.source block = [("n", 27)] ∧ isBlock block = true ∧ Formed block ∧
      GoType.Plain resolver.index.path "n" ∧
      (runFrom (resolver.walk block) ⟨{}, {}, []⟩).1.toOption = some ⟨⟩ ∧
      (⟨61, 62⟩, false) ∈ (usesIn resolver.source block).map (fun use => (use.1.span, use.2)) ∧
      resolver.text (Node.leaf .identifier ⟨61, 62⟩) = "n" ∧
      (resolver.answer? (leaves (resolver.walk block) ⟨{}, {}, []⟩).cache "n").map Option.isSome =
        some false ∧
      ((blockSteps resolver.source block)[4]?.bind Step.refers?).bind resolver.seenReference =
        some (⟨67, 68⟩, "x", "M") ∧
      (runFrom (resolver.collect ((blockSteps resolver.source block).take 4))
        (entering ⟨{}, {}, []⟩)).1.toOption.map seenGiven =
        some [(.varSpec, [("x", some ⟨"p.n"⟩)])] ∧
      heldType? (leaves (resolver.collect ((blockSteps resolver.source block).take 4))
        (entering ⟨{}, {}, []⟩)).scopes "x" = some (some ⟨"p.n"⟩) ∧
      resolver.context.localType "n" = ⟨"p.n"⟩ ∧
      (resolver.packageMethod? "n" "M").isSome = false := by
    decide +kernel
  have ran := runFrom_of_toOption succeeds rfl
  obtain ⟨use, uses, span⟩ := exists_use isUse
  obtain ⟨selector, operand, field, given, reference, ⟨_, text, method⟩, _, comes⟩ :=
    comes_at refers gives
  have overlooks := walk_overlooks_local_types resolver own isOne formed ran plain
  have spelled : resolver.Spelled (leaves (resolver.collect
      ((blockSteps resolver.source block).take 4)) (entering ⟨{}, {}, []⟩)).scopes "n" operand
      ⟨"p.n"⟩ := by
    apply Spelled.holding reference.isName
    · rw [text]
      exact held
    · exact .inl typeName.symm
  have useText : resolver.text use = "n" := (text_of_span span).trans useName
  refine ⟨declares, isOne, formed, plain, _, ran, ⟨use, span, uses, ?_⟩, ?_⟩
  · intro fullName gains
    obtain ⟨_, decl, answered⟩ := (overlooks.1 use false uses useText).mp ⟨fullName, gains⟩
    rw [answered] at unknown
    cases unknown
  · obtain ⟨next, referred, recorded, _⟩ :=
      overlooks.2.1 _ _ _ _ _ _ comes reference.toIsSelector spelled
    refine ⟨selector, operand, field, given, _, next, comes, reference.toIsSelector, spelled,
      referred, ?_⟩
    have noMethod : resolver.packageMethod? "n" "M" = none := by simpa using methodless
    rw [method, noMethod] at recorded
    exact recorded

/-- Local types have the names of a function and of a type of the package. -/
def hidingTypesFile : CompilationUnit × Node :=
  parsedFile ("package p\ntype T struct{}\nfunc (t T) M() {}\nfunc f(n int) int { return n }\n" ++
    "func g() { type f int; type T struct{ M func() }; _ = f(3); var x T; x.M() }\n")

/-- A conversion to the one is recorded as a use of the function, and a variable of the other one
has the type of the package, of which the method is recorded. -/
theorem walk_confuses_local_types :
    let resolver := ofFile hidingTypesFile
    let block := lastBody hidingTypesFile
    isBlock block = true ∧ localTypes resolver.source block = [("f", 92), ("T", 104)] ∧
      ∃ after, runFrom (resolver.walk block) ⟨{}, {}, []⟩ = (.ok ⟨⟩, after) ∧
        after.symbols.uses.toList.map (fun use => (use.site.span, use.site.shape)) =
          [(⟨129, 130⟩, .ident "f"), (⟨144, 147⟩, .selector ⟨144, 145⟩ "M" ⟨"p.T"⟩)] ∧
        after.symbols.uses.toList.map (fun use => use.binding) = [.function 0, .function 1] ∧
        (after.symbols.get? 0).map Declaration.fullName = some "p.f" ∧
        (after.symbols.get? 1).map Declaration.fullName = some "(p.T).M" := by
  intro resolver block
  obtain ⟨isOne, declares, succeeds, recorded⟩ : isBlock block = true ∧
      localTypes resolver.source block = [("f", 92), ("T", 104)] ∧
      (runFrom (resolver.walk block) ⟨{}, {}, []⟩).1.toOption = some ⟨⟩ ∧
      (leaves (resolver.walk block) ⟨{}, {}, []⟩).symbols.uses.toList.map
          (fun use => (use.site.span, use.site.shape)) =
        [(⟨129, 130⟩, .ident "f"), (⟨144, 147⟩, .selector ⟨144, 145⟩ "M" ⟨"p.T"⟩)] ∧
      (leaves (resolver.walk block) ⟨{}, {}, []⟩).symbols.uses.toList.map
          (fun use => use.binding) = [.function 0, .function 1] ∧
      ((leaves (resolver.walk block) ⟨{}, {}, []⟩).symbols.get? 0).map Declaration.fullName =
        some "p.f" ∧
      ((leaves (resolver.walk block) ⟨{}, {}, []⟩).symbols.get? 1).map Declaration.fullName =
        some "(p.T).M" := by
    decide +kernel
  exact ⟨isOne, declares, _, runFrom_of_toOption succeeds rfl, recorded⟩

end
end Resolver
end AspectLoom
