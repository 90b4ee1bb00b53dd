import AspectLoom.Program.PackageCache
import AspectLoom.Proofs.Entries
import Mathlib.Data.List.Pairwise
/-!
The order of the files of a package. A file makes the same entries wherever it stands, its values
are typed once all functions are known, and an entry replaces none of another file; so an index
holds the same in whatever order the files come.
-/
namespace AspectLoom.PackageIndex

open Syntax (Node)

/-- What a declaration brings into an index. -/
inductive Entry where
  | function (name : String) (decl : Declaration)
  | method (type name : String) (decl : Declaration)
  | type (name : String)
  | field (type : String) (field : String × GoType)
  | value (value : String × Option GoType)

/-- What is declared. A concrete type and an interface share the keys of their methods. -/
inductive Key where
  | function (name : String)
  | method (type name : String)
  | type (name : String)
  | field (type name : String)
  | value (name : String)
deriving DecidableEq

def Entry.key : Entry → Key
  | .function name _ => .function name
  | .method owner name _ => .method owner name
  | .type name => .type name
  | .field owner declared => .field owner declared.1
  | .value declared => .value declared.1

def enter (index : PackageIndex) : Entry → PackageIndex
  | .function name decl => index.setFunction name decl
  | .method type name decl => index.setMethod type name decl
  | .type name => { index with types := index.types ++ [name] }
  | .field type field => setField type index field
  | .value value => index.setValue value

/-- What an index holds for a key. -/
def held? (index : PackageIndex) : Key → Option Entry
  | .function name => (index.function? name).map (.function name)
  | .method type name => (index.method? type name).map (.method type name)
  | .type name => if index.hasType name then some (.type name) else none
  | .field type name => (index.field? type name).map fun held => .field type (name, held)
  | .value name => (Assoc.find? name index.values).map fun held => .value (name, held)

/-- All that an index holds something for. -/
def keys (index : PackageIndex) : List Key :=
  index.functions.map (fun entry => .function entry.1) ++
    index.methods.map (fun entry => .method entry.1.1 entry.1.2) ++
    index.types.map .type ++
    index.fields.map (fun entry => .field entry.1.1 entry.1.2) ++
    index.values.map fun entry => .value entry.1

/-- Each function, type, method of a type, field of a type, variable and constant is declared in one
file only: no two of the files, each indexed alone, share a key. The commas between the names of a
constant specification are labelled as names too, so several files may enter a comma. -/
def DeclaredOnce (path name : String) (files : List (File × Node)) : Prop :=
  files.Pairwise fun one other => ∀ key ∈ (ofFiles path name [one]).keys, key ≠ .value "," →
    key ∉ (ofFiles path name [other]).keys

instance (path name : String) (files : List (File × Node)) :
    Decidable (DeclaredOnce path name files) :=
  inferInstanceAs (Decidable (files.Pairwise _))

/-- Two indexes hold the same for all names; a comma is not one. -/
structure SameEntries (index other : PackageIndex) : Prop where
  functions : ∀ name, index.function? name = other.function? name
  methods : ∀ type name, index.method? type name = other.method? type name
  types : ∀ name, index.hasType name = other.hasType name
  fields : ∀ type name, index.field? type name = other.field? type name
  values : ∀ name, name ≠ "," → Assoc.find? name index.values = Assoc.find? name other.values

section
variable {index other : PackageIndex} {entries : List Entry} {key : Key}

/-! Entries -/

@[simp] theorem enter_path (index : PackageIndex) (entry : Entry) :
    (index.enter entry).path = index.path := by
  cases entry <;> rfl

theorem held?_enter (index : PackageIndex) (entry : Entry) (key : Key) :
    (index.enter entry).held? key =
      if entry.key = key then some entry else index.held? key := by
  cases entry <;> cases key <;>
    simp [enter, held?, Entry.key, setFunction, setMethod, setField, setValue, function?, method?,
      field?, hasType, Assoc.find?_insert]
  all_goals grind

theorem held?_eq_none (absent : key ∉ index.keys) : index.held? key = none := by
  cases key <;>
    simp_all [keys, held?, function?, method?, field?, hasType, Assoc.find?_eq_none]

/-- What is held for a key behind an entry. -/
def heldBehind (key : Key) (held : Option Entry) (entry : Entry) : Option Entry :=
  if entry.key = key then some entry else held

theorem held?_foldl_enter (index : PackageIndex) (entries : List Entry) (key : Key) :
    (entries.foldl enter index).held? key = entries.foldl (heldBehind key) (index.held? key) :=
  (List.foldl_hom (fun index : PackageIndex => index.held? key)
    fun index entry => (held?_enter index entry key).symm).symm

theorem foldl_heldBehind_absent (absent : ∀ entry ∈ entries, entry.key ≠ key)
    (held : Option Entry) : entries.foldl (heldBehind key) held = held := by
  induction entries with
  | nil => rfl
  | cons entry rest ih =>
      obtain ⟨differs, absent⟩ := List.forall_mem_cons.mp absent
      rw [List.foldl_cons, heldBehind, if_neg differs, ih absent]

theorem foldl_heldBehind_eq_none {held : Option Entry}
    (nothing : entries.foldl (heldBehind key) held = none) :
    held = none ∧ ∀ entry ∈ entries, entry.key ≠ key := by
  induction entries generalizing held with
  | nil => exact ⟨nothing, List.forall_mem_nil _⟩
  | cons entry rest ih =>
      obtain ⟨behind, absent⟩ := ih nothing
      by_cases same : entry.key = key
      · simp [heldBehind, same] at behind
      · simp [heldBehind, same] at behind
        exact ⟨behind, List.forall_mem_cons.mpr ⟨same, absent⟩⟩

/-- Entries of several items hold the same for a key in whatever order the items come, unless two
of them enter it. -/
theorem held?_perm {α : Type} {items others : List α} {entries : α → List Entry}
    (perm : items.Perm others) (before : index.held? key = other.held? key)
    (apart : items.Pairwise fun one other =>
      (∀ entry ∈ entries one, entry.key ≠ key) ∨ ∀ entry ∈ entries other, entry.key ≠ key) :
    ((items.flatMap entries).foldl enter index).held? key =
      ((others.flatMap entries).foldl enter other).held? key := by
  rw [held?_foldl_enter, held?_foldl_enter, before, List.foldl_flatMap, List.foldl_flatMap]
  apply perm.foldl_eq'
  intro one isOne another isOther held
  by_cases same : one = another
  · rw [same]
  · have symmetric : Std.Symm fun one other : α =>
        (∀ entry ∈ entries one, entry.key ≠ key) ∨ ∀ entry ∈ entries other, entry.key ≠ key :=
      ⟨fun _ _ either => either.symm⟩
    -- One of the two enters nothing for the key and can be left out on both sides.
    rcases apart.forall isOne isOther same with absent | absent
    · simp only [foldl_heldBehind_absent absent]
    · simp only [foldl_heldBehind_absent absent]

/-- Changes an index by entries, the same ones for all indexes of a sort, and keeps it of the
sort. -/
def Makes (sort : PackageIndex → Prop) (change : PackageIndex → PackageIndex)
    (entries : List Entry) : Prop :=
  ∀ index, sort index → change index = entries.foldl enter index ∧ sort (change index)

theorem Makes.foldl {α : Type} {sort : PackageIndex → Prop}
    {change : PackageIndex → α → PackageIndex} {entries : α → List Entry}
    (each : ∀ item, Makes sort (fun index => change index item) (entries item)) (items : List α) :
    Makes sort (fun index => items.foldl change index) (items.flatMap entries) := by
  induction items with
  | nil => exact fun index isOf => ⟨rfl, isOf⟩
  | cons item rest ih =>
      intro index isOf
      obtain ⟨first, isOf⟩ := each item index isOf
      obtain ⟨later, isOf⟩ := ih _ isOf
      constructor
      · rw [List.flatMap_cons, List.foldl_append, ← first]
        exact later
      · exact isOf

end

/-! Declarations -/

/-- A change that enters the same into every index of a package. -/
def Entering (path : String) (change : PackageIndex → PackageIndex) : Prop :=
  ∃ entries, Makes (fun index => index.path = path) change entries

section
variable {path : String} {change : PackageIndex → PackageIndex} {file : File}

theorem Entering.nothing : Entering path fun index => index :=
  ⟨[], fun _ isOf => ⟨rfl, isOf⟩⟩

theorem Entering.one (entry : Entry) (enters : ∀ index, index.path = path →
    change index = index.enter entry) : Entering path change := by
  refine ⟨[entry], fun index isOf => ⟨enters index isOf, ?_⟩⟩
  rw [enters index isOf]
  exact (enter_path index entry).trans isOf

theorem Entering.foldl {α : Type} {change : PackageIndex → α → PackageIndex}
    (each : ∀ item, Entering path fun index => change index item) (items : List α) :
    Entering path fun index => items.foldl change index := by
  choose entries makes using each
  exact ⟨_, Makes.foldl makes items⟩

theorem Entering.trans {next : PackageIndex → PackageIndex} (first : Entering path change)
    (second : Entering path next) : Entering path fun index => next (change index) := by
  obtain ⟨entries, makes⟩ := first
  obtain ⟨later, follows⟩ := second
  refine ⟨entries ++ later, fun index isOf => ?_⟩
  obtain ⟨enters, isOf⟩ := makes index isOf
  rw [List.foldl_append, ← enters]
  exact follows _ isOf

theorem addFunction_entering (node : Node) :
    Entering path fun index => index.addFunction file node := by
  unfold addFunction
  split
  · exact .nothing
  · split
    · exact .nothing
    · dsimp only
      split
      · exact .nothing
      · exact .one (.function _ _) fun index isOf => by rw [isOf]; rfl

theorem addMethod_entering (node : Node) :
    Entering path fun index => index.addMethod file node := by
  unfold addMethod
  cases receiverType? node with
  | none => exact .nothing
  | some receiver =>
      cases base : receiverBase? file.source receiver with
      | none => simpa [base] using .nothing
      | some type =>
          cases named : node.child? .name with
          | none => simpa [base] using .nothing
          | some name =>
              simp only [base, Option.bind_eq_bind, Option.bind_some]
              exact .one (.method _ _ _) fun index isOf => by rw [isOf]; rfl

theorem addFields_entering (type : String) (struct : Node) :
    Entering path fun index => index.addFields file type struct :=
  .foldl (fun field => .one (.field type field) fun _ _ => rfl) _

theorem addInterfaceMethods_entering (type : String) (interface : Node) :
    Entering path fun index => index.addInterfaceMethods file type interface := by
  refine .foldl (fun node => ?_) _
  unfold addInterfaceMethod
  split
  · exact .nothing
  · exact .one (.method _ _ _) fun index isOf => by rw [isOf]; rfl

theorem addType_entering (spec : Node) : Entering path fun index => index.addType file spec := by
  unfold addType
  split
  · exact .nothing
  · rename_i name isName
    have named : Entering path fun index =>
        { index with types := index.types ++ [name.text file.source] } :=
      .one (.type _) fun _ _ => rfl
    dsimp only
    split
    · exact named
    · split
      · exact named
      · split
        · exact named.trans (addFields_entering _ _)
        · exact named.trans (addInterfaceMethods_entering _ _)
        · exact named

theorem addDeclarations_entering (path : String) (file : File) (root : Node) :
    Entering path fun index => index.addDeclarations file root := by
  refine .foldl (fun node => ?_) _
  unfold addDeclaration
  split
  · exact addFunction_entering node
  · exact addMethod_entering node
  · exact .foldl addType_entering _
  · exact .nothing

end

/-! Values -/

section
variable {index other : PackageIndex}

theorem valueType?_congr (same : index.function? = other.function?) (file : File) :
    index.valueType? file = other.valueType? file := by
  funext value
  unfold valueType?
  rw [same]

/-- What a file enters as values, once the functions of an index are known. -/
def specEntries (index : PackageIndex) (file : File) (spec : Node) : List Entry :=
  (index.specValues file spec).map .value

def valueEntries (index : PackageIndex) (file : File) (root : Node) : List Entry :=
  ((root.namedChildren.filter fun node =>
      node.kind == .varDeclaration || node.kind == .constDeclaration).flatMap valueSpecs).flatMap
    (index.specEntries file)

theorem specEntries_congr (same : index.function? = other.function?) (file : File) :
    index.specEntries file = other.specEntries file := by
  funext spec
  unfold specEntries specValues
  rw [valueType?_congr same]

theorem valueEntries_congr (same : index.function? = other.function?) (file : File) (root : Node) :
    index.valueEntries file root = other.valueEntries file root := by
  rw [valueEntries, valueEntries, specEntries_congr same]

/-- The names that a file gives values are the same whatever the functions are. -/
theorem valueEntries_keys (index other : PackageIndex) (file : File) (root : Node) :
    (index.valueEntries file root).map Entry.key = (other.valueEntries file root).map Entry.key := by
  simp only [valueEntries, List.map_flatMap, specEntries, specValues, List.map_map]
  rfl

theorem foldl_setValue_function? (values : List (String × Option GoType)) (index : PackageIndex) :
    (values.foldl setValue index).function? = index.function? := by
  induction values generalizing index with
  | nil => rfl
  | cons value rest ih => exact ih _

theorem addSpec_makes (functions : PackageIndex) (file : File) (spec : Node) :
    Makes (fun index => index.function? = functions.function?)
      (fun index => index.addSpec file spec) (functions.specEntries file spec) := by
  intro index same
  constructor
  · rw [← specEntries_congr same, specEntries, List.foldl_map]
    rfl
  · rw [← same]
    exact foldl_setValue_function? _ _

theorem addValues_makes (functions : PackageIndex) (file : File) (root : Node) :
    Makes (fun index => index.function? = functions.function?)
      (fun index => index.addValues file root) (functions.valueEntries file root) :=
  .foldl (addSpec_makes functions file) _

end

/-! Files -/

section
variable {path name : String} {files others : List (File × Node)}

/-- The index of a package once the declarations of its files are entered. -/
def declaredIn (path name : String) (files : List (File × Node)) : PackageIndex :=
  files.foldl (fun index file => index.addDeclarations file.1 file.2) { path := path, name := name }

/-- The entries of a package: those of all declarations before those of all values. -/
theorem ofFiles_enters (name : String) {declared : File × Node → List Entry}
    (makes : ∀ file, Makes (fun index => index.path = path)
      (fun index => index.addDeclarations file.1 file.2) (declared file))
    (files : List (File × Node)) :
    declaredIn path name files =
        (files.flatMap declared).foldl enter { path := path, name := name } ∧
      ofFiles path name files = (files.flatMap fun file =>
        (declaredIn path name files).valueEntries file.1 file.2).foldl enter
          (declaredIn path name files) := by
  let declares := declaredIn path name files
  have values : Makes (fun index => index.function? = declares.function?)
      (fun index => files.foldl (fun index file => index.addValues file.1 file.2) index)
      (files.flatMap fun file => declares.valueEntries file.1 file.2) :=
    .foldl (fun file => addValues_makes declares file.1 file.2) files
  exact ⟨(Makes.foldl makes files _ rfl).1, (values declares rfl).1⟩

theorem absent_of_alone {declared : File × Node → List Entry}
    (makes : ∀ file, Makes (fun index => index.path = path)
      (fun index => index.addDeclarations file.1 file.2) (declared file))
    {file : File × Node} {key : Key} (alone : (ofFiles path name [file]).held? key = none)
    (index : PackageIndex) :
    (∀ entry ∈ declared file, entry.key ≠ key) ∧
      ∀ entry ∈ index.valueEntries file.1 file.2, entry.key ≠ key := by
  obtain ⟨declares, enters⟩ := ofFiles_enters name makes [file]
  rw [enters, held?_foldl_enter, List.flatMap_singleton] at alone
  obtain ⟨before, noValue⟩ := foldl_heldBehind_eq_none alone
  rw [declares, held?_foldl_enter, List.flatMap_singleton] at before
  constructor
  · exact (foldl_heldBehind_eq_none before).2
  · intro entry member same
    have among := List.mem_map_of_mem (f := Entry.key) member
    rw [valueEntries_keys index (declaredIn path name [file])] at among
    obtain ⟨other, isOther, alike⟩ := List.mem_map.mp among
    exact noValue other isOther (alike.trans same)

theorem function?_eq {index other : PackageIndex}
    (same : ∀ name, index.held? (.function name) = other.held? (.function name)) :
    index.function? = other.function? := by
  funext name
  exact Option.map_injective (fun _ _ alike => (Entry.function.inj alike).2) (same name)

end

/-! A variable with the type of a function in another file -/

def fileOf (source : String) : File × Node :=
  (⟨source, ⟨"m/p", []⟩⟩, (Node.ofSource? source).getD default)

def calledFirst : List (File × Node) :=
  [fileOf "package p\nvar x = f()\nconst a, b int = 1, 2\n",
    fileOf "package p\nfunc f() *T { return nil }\nconst c, d string = s, s\n",
    fileOf "package p\ntype T struct { _, n int; _ bool }\nfunc (t *T) m() {}\n"]

end AspectLoom.PackageIndex
