import AspectLoom.Program.TypeContext
/-!
What a package declares: functions, methods by the name of their type, types, fields of structures
and the types of variables and constants. A later declaration of a name replaces an earlier one.
-/
namespace AspectLoom

open Syntax (Node)

structure PackageIndex where
  path : String
  /-- The name in the package clause. -/
  name : String
  functions : List (String × Declaration) := []
  methods : List ((String × String) × Declaration) := []
  types : List String := []
  fields : List ((String × String) × GoType) := []
  values : List (String × Option GoType) := []
deriving Repr, Inhabited

namespace PackageIndex

def function? (index : PackageIndex) (name : String) : Option Declaration :=
  Assoc.find? name index.functions

def method? (index : PackageIndex) (type name : String) : Option Declaration :=
  Assoc.find? (type, name) index.methods

def field? (index : PackageIndex) (type name : String) : Option GoType :=
  Assoc.find? (type, name) index.fields

def hasType (index : PackageIndex) (name : String) : Bool := index.types.contains name

def hasValue (index : PackageIndex) (name : String) : Bool :=
  (Assoc.find? name index.values).isSome

/-- The type of a variable or constant, where it is known. -/
def value? (index : PackageIndex) (name : String) : Option GoType :=
  (Assoc.find? name index.values).join

def setFunction (index : PackageIndex) (name : String) (decl : Declaration) : PackageIndex :=
  { index with functions := Assoc.insert name decl index.functions }

def setMethod (index : PackageIndex) (type name : String) (decl : Declaration) : PackageIndex :=
  { index with methods := Assoc.insert (type, name) decl index.methods }

def setField (type : String) (index : PackageIndex) (field : String × GoType) : PackageIndex :=
  { index with fields := Assoc.insert (type, field.1) field.2 index.fields }

def setValue (index : PackageIndex) (value : String × Option GoType) : PackageIndex :=
  { index with values := Assoc.insert value.1 value.2 index.values }

/-- A file in its package: its text and what its names stand for. -/
structure File where
  source : String
  context : TypeContext
deriving Inhabited

/-! Functions and methods -/

/-- Generic functions are left out, and functions that cannot be referred to. -/
def addFunction (file : File) (index : PackageIndex) (node : Node) : PackageIndex :=
  if (node.child? .typeParameters).isSome then index
  else
    match node.child? .name with
    | none => index
    | some name =>
      let name := name.text file.source
      if name = "init" ∨ name = "_" then index
      else
        index.setFunction name
          ⟨index.path, name, none, file.context.signature file.source node⟩

/-- The name of the type that a receiver type is built on. -/
def receiverBase? (source : String) (node : Node) : Option String :=
  match node.kind with
  | .typeIdentifier => some (node.text source)
  | .pointerType | .parenthesizedType =>
    match _ : node.firstNamed? with
    | some inner => receiverBase? source inner
    | none => none
  | _ => none
termination_by sizeOf node
decreasing_by exact Node.sizeOf_firstNamed?_lt ‹_›

def receiverType? (node : Node) : Option Node := do
  let declaration ← (← node.child? .receiver).firstNamed?
  declaration.child? .type

def addMethod (file : File) (index : PackageIndex) (node : Node) : PackageIndex :=
  let added := do
    let receiver ← receiverType? node
    let type ← receiverBase? file.source receiver
    let name := (← node.child? .name).text file.source
    return index.setMethod type name
      ⟨index.path, name, some (file.context.canonical file.source receiver),
        file.context.signature file.source node⟩
  added.getD index

/-! Types -/

def fieldList (struct : Node) : List Node :=
  match struct.firstOfKind? .fieldDeclarationList with
  | some list => list.namedChildren.filter fun node => node.kind == .fieldDeclaration
  | none => []

/-- The names and types that a field declaration gives; an embedded type is named after itself. -/
def fieldsOf (file : File) (node : Node) : List (String × GoType) :=
  match node.child? .type with
  | none => []
  | some type =>
    let type := file.context.canonical file.source type
    match TypeContext.namesOf file.source node with
    | [] => (type.namedParts?.map fun parts => (parts.2, type)).toList
    | names => names.map fun name => (name, type)

def addFields (file : File) (type : String) (index : PackageIndex) (struct : Node) :
    PackageIndex :=
  ((fieldList struct).flatMap (fieldsOf file)).foldl (setField type) index

def addInterfaceMethod (file : File) (type : String) (index : PackageIndex) (node : Node) :
    PackageIndex :=
  match node.child? .name with
  | none => index
  | some name =>
    let name := name.text file.source
    index.setMethod type name
      ⟨index.path, name, some (file.context.localType type),
        file.context.signature file.source node⟩

def addInterfaceMethods (file : File) (type : String) (index : PackageIndex) (interface : Node) :
    PackageIndex :=
  (interface.namedChildren.filter fun node => node.kind == .methodElem).foldl
    (addInterfaceMethod file type) index

/-- A generic type is known by name only. -/
def addType (file : File) (index : PackageIndex) (spec : Node) : PackageIndex :=
  match spec.child? .name with
  | none => index
  | some name =>
    let name := name.text file.source
    let index := { index with types := index.types ++ [name] }
    if (spec.child? .typeParameters).isSome then index
    else
      match spec.child? .type with
      | none => index
      | some underlying =>
        match underlying.kind with
        | .structType => index.addFields file name underlying
        | .interfaceType => index.addInterfaceMethods file name underlying
        | _ => index

def typeSpecs (node : Node) : List Node :=
  node.namedChildren.filter fun spec => spec.kind == .typeSpec || spec.kind == .typeAlias

def addDeclaration (file : File) (index : PackageIndex) (node : Node) : PackageIndex :=
  match node.kind with
  | .functionDeclaration => index.addFunction file node
  | .methodDeclaration => index.addMethod file node
  | .typeDeclaration => (typeSpecs node).foldl (addType file) index
  | _ => index

/-- Enters the functions, methods and types of a file. -/
def addDeclarations (index : PackageIndex) (file : File) (root : Node) : PackageIndex :=
  root.namedChildren.foldl (addDeclaration file) index

/-! Variables and constants -/

/-- The type of a value: one that it spells, or the only result of a function of the package. -/
def valueType? (index : PackageIndex) (file : File) (value : Node) : Option GoType :=
  match file.context.literalType? file.source value with
  | some type => some type
  | none =>
    if value.kind = .callExpression then do
      let function ← value.child? .function
      if function.kind = .identifier then
        match (← index.function? (function.text file.source)).results with
        | [result] => some result.type
        | _ => none
      else none
    else none

def valueNodes (spec : Node) : List Node :=
  match spec.child? .value with
  | some list => list.namedChildren
  | none => []

/-- The names of a specification with their types; a value belongs to the name in its place. -/
def specValues (index : PackageIndex) (file : File) (spec : Node) :
    List (String × Option GoType) :=
  let declared := (spec.child? .type).map (file.context.canonical file.source)
  let values := valueNodes spec
  ((TypeContext.namesOf file.source spec).zipIdx.filter fun (name, _) => name ≠ "_").map
    fun (name, position) =>
      (name, declared <|> (values[position]?).bind (index.valueType? file))

def addSpec (file : File) (index : PackageIndex) (spec : Node) : PackageIndex :=
  (index.specValues file spec).foldl setValue index

/-- The specifications of a declaration of variables or constants. -/
def valueSpecs (declaration : Node) : List Node :=
  declaration.namedChildren.flatMap fun node =>
    match node.kind with
    | .varSpec | .constSpec => [node]
    | .varSpecList =>
      node.namedChildren.filter fun spec => spec.kind == .varSpec || spec.kind == .constSpec
    | _ => []

/-- Enters the variables and constants of a file. The functions have to be known already. -/
def addValues (index : PackageIndex) (file : File) (root : Node) : PackageIndex :=
  ((root.namedChildren.filter fun node =>
      node.kind == .varDeclaration || node.kind == .constDeclaration).flatMap valueSpecs).foldl
    (addSpec file) index

/-- The index of a package from its files: all declarations first, then all values. -/
def ofFiles (path name : String) (files : List (File × Node)) : PackageIndex :=
  let empty : PackageIndex := { path := path, name := name }
  let declared := files.foldl (fun index (file, root) => index.addDeclarations file root) empty
  files.foldl (fun index (file, root) => index.addValues file root) declared

end PackageIndex
end AspectLoom
