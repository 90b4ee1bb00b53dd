import AspectLoom.Proofs.SpelledTypes
import AspectLoom.Proxy.Signature
/-!
Qualifiers in spelled types. Once a scope has spelled some types, it names every package that they
mention without a new alias, and their texts are written with the names that it has.
-/
namespace AspectLoom

namespace TypePiece

def path? : TypePiece → Option String
  | plain _ => none
  | mention path _ => some path

/-- The text of a piece behind a qualifier, which only a mention can have. -/
def textBehind (qualifier : Option String) : TypePiece → String
  | plain c => c.toString
  | mention _ name =>
    match qualifier with
    | some qualifier => qualifier ++ "." ++ name
    | none => name

end TypePiece

/-- The paths that a type mentions. -/
def GoType.paths (type : GoType) : List String := type.pieces.filterMap TypePiece.path?

namespace ImportScope

/-! Names that a unit has of its own, and names that are invented -/

/-- The name under which a unit writes the types of a package without any alias. -/
def ownQualifier? (scope : ImportScope) (path : String) : Option String :=
  if path = scope.unit.packagePath then none
  else
    match scope.unit.importOf? path with
    | some spec => if spec.isDot then none else some (scope.localName spec)
    | none => if scope.isLocalName path then some path else none

/-- Whether a unit has no way to write the types of a package unless it gets an alias. -/
structure Lacks (scope : ImportScope) (path : String) : Prop where
  foreign : path ≠ scope.unit.packagePath
  missing : scope.unit.importOf? path = none
  unbound : scope.isLocalName path = false

variable {scope after : ImportScope} {path : String}

theorem qualifier_of_lacks (lacks : scope.Lacks path) :
    scope.qualifier path =
      match Assoc.find? path scope.added with
      | some name => (some name, scope)
      | none =>
        (some (scope.freshAlias path),
          { scope with added := Assoc.insert path (scope.freshAlias path) scope.added }) := by
  obtain ⟨foreign, missing, unbound⟩ := lacks
  cases known : Assoc.find? path scope.added <;>
    simp only [qualifier, if_neg foreign, missing, unbound, known, Bool.false_eq_true, if_false]

theorem qualifier_of_not_lacks (lacks : ¬ scope.Lacks path) :
    scope.qualifier path = (scope.ownQualifier? path, scope) := by
  by_cases own : path = scope.unit.packagePath
  · rw [qualifier, ownQualifier?, if_pos own, if_pos own]
  rw [qualifier, ownQualifier?, if_neg own, if_neg own]
  cases missing : scope.unit.importOf? path with
  | some spec => simp only [apply_ite (fun name : Option String => (name, scope))]
  | none =>
      have bound : scope.isLocalName path = true := by
        rw [← Bool.not_eq_false]
        exact fun unbound => lacks ⟨own, missing, unbound⟩
      simp only [if_pos bound]

theorem ownQualifier?_of_lacks (lacks : scope.Lacks path) : scope.ownQualifier? path = none := by
  obtain ⟨foreign, missing, unbound⟩ := lacks
  simp [ownQualifier?, foreign, missing, unbound]

/-! Later states of a scope -/

/-- A later state of a scope: every package keeps the alias that it has. -/
structure Keeps (before after : ImportScope) : Prop where
  unit : after.unit = before.unit
  packageNames : after.packageNames = before.packageNames
  found : ∀ path name, Assoc.find? path before.added = some name →
    Assoc.find? path after.added = some name

theorem Keeps.refl (scope : ImportScope) : scope.Keeps scope := ⟨rfl, rfl, fun _ _ => id⟩

theorem Keeps.trans {before middle after : ImportScope} (first : before.Keeps middle)
    (second : middle.Keeps after) : before.Keeps after :=
  ⟨second.unit.trans first.unit, second.packageNames.trans first.packageNames,
    fun path name known => second.found path name (first.found path name known)⟩

theorem Keeps.localName (keeps : scope.Keeps after) : after.localName = scope.localName := by
  funext spec
  rw [ImportScope.localName, ImportScope.localName, keeps.packageNames]

theorem Keeps.isLocalName (keeps : scope.Keeps after) : after.isLocalName = scope.isLocalName := by
  funext name
  rw [ImportScope.isLocalName, ImportScope.isLocalName, keeps.localName, keeps.unit]

theorem Keeps.lacks (keeps : scope.Keeps after) : after.Lacks path ↔ scope.Lacks path := by
  constructor
  · rintro ⟨foreign, missing, unbound⟩
    exact ⟨keeps.unit ▸ foreign, keeps.unit ▸ missing, keeps.isLocalName ▸ unbound⟩
  · rintro ⟨foreign, missing, unbound⟩
    exact ⟨keeps.unit ▸ foreign, keeps.unit ▸ missing, keeps.isLocalName ▸ unbound⟩

theorem Keeps.ownQualifier? (keeps : scope.Keeps after) :
    after.ownQualifier? path = scope.ownQualifier? path := by
  rw [ImportScope.ownQualifier?, ImportScope.ownQualifier?, keeps.unit, keeps.localName,
    keeps.isLocalName]

theorem qualifier_keeps (scope : ImportScope) (path : String) :
    scope.Keeps (scope.qualifier path).2 := by
  by_cases lacks : scope.Lacks path
  · rw [qualifier_of_lacks lacks]
    cases known : Assoc.find? path scope.added with
    | some name => exact .refl scope
    | none =>
        refine ⟨rfl, rfl, fun other name held => ?_⟩
        have different : path ≠ other := by
          rintro rfl
          rw [known] at held
          cases held
        rw [Assoc.find?_insert, if_neg different, held]
  · rw [qualifier_of_not_lacks lacks]
    exact .refl scope

/-- A package that has been named is named so ever after. -/
theorem qualifier_kept (keeps : (scope.qualifier path).2.Keeps after) :
    after.qualifier path = ((scope.qualifier path).1, after) := by
  have whole := (scope.qualifier_keeps path).trans keeps
  by_cases lacks : scope.Lacks path
  · rw [qualifier_of_lacks (whole.lacks.mpr lacks)]
    rw [qualifier_of_lacks lacks] at keeps ⊢
    cases known : Assoc.find? path scope.added with
    | some name =>
        rw [known] at keeps
        rw [keeps.found path name known]
    | none =>
        rw [known] at keeps
        rw [keeps.found path (scope.freshAlias path) (by rw [Assoc.find?_insert, if_pos rfl])]
  · rw [qualifier_of_not_lacks (mt whole.lacks.mp lacks), qualifier_of_not_lacks lacks,
      whole.ownQualifier?]

theorem spellPieces_keeps (scope : ImportScope) (pieces : List TypePiece) :
    scope.Keeps (scope.spellPieces pieces).2 :=
  spellPieces_preserves (fun middle path keeps => keeps.trans (middle.qualifier_keeps path))
    (.refl scope) pieces

theorem spellAll_keeps (scope : ImportScope) (types : List GoType) :
    scope.Keeps (scope.spellAll types).2 :=
  spellAll_preserves (fun middle path keeps => keeps.trans (middle.qualifier_keeps path))
    (.refl scope) types

/-! Invented names -/

theorem numberedAlias_eq (scope : ImportScope) (base : String) (tries number : Nat) :
    ∃ digits, scope.numberedAlias base tries number = base ++ digits := by
  induction tries generalizing number with
  | zero => exact ⟨"", String.append_empty.symm⟩
  | succ tries ih =>
      rw [numberedAlias]
      split
      · exact ih (number + 1)
      · exact ⟨toString number, rfl⟩

theorem freshAlias_eq (scope : ImportScope) (path : String) :
    ∃ digits, scope.freshAlias path = "_ag_" ++ (Import.guessName path ++ digits) := by
  simp only [← String.append_assoc]
  rw [freshAlias]
  split
  · exact scope.numberedAlias_eq _ _ _
  · exact ⟨"", String.append_empty.symm⟩

/-- Whether all aliases are made from the paths of their packages. -/
def Invented (scope : ImportScope) : Prop :=
  ∀ entry ∈ scope.added, ∃ digits, entry.2 = "_ag_" ++ (Import.guessName entry.1 ++ digits)

theorem qualifier_invented (scope : ImportScope) (path : String) (invented : scope.Invented) :
    (scope.qualifier path).2.Invented := by
  by_cases lacks : scope.Lacks path
  · rw [qualifier_of_lacks lacks]
    split
    · exact invented
    · intro entry member
      rcases Assoc.mem_insert member with rfl | old
      · exact scope.freshAlias_eq path
      · exact invented entry old
  · rw [qualifier_of_not_lacks lacks]
    exact invented

/-! Texts in later states -/

/-- Whether a scope can name a package without a new alias. -/
def Settled (scope : ImportScope) (path : String) : Prop := (scope.qualifier path).2 = scope

/-- What a package without a name in the unit is called, once it is called at all. -/
theorem find?_of_settled (lacks : scope.Lacks path) (settled : scope.Settled path) :
    Assoc.find? path scope.added = (scope.qualifier path).1 := by
  rw [Settled, qualifier_of_lacks lacks] at settled
  rw [qualifier_of_lacks lacks]
  cases known : Assoc.find? path scope.added with
  | some name => rfl
  | none =>
      rw [known] at settled
      have added := congrArg (fun held : ImportScope => Assoc.find? path held.added) settled
      dsimp only at added
      rw [Assoc.find?_insert, if_pos rfl, known] at added
      cases added

/-- All names of a package: a unit's own name for it, else an alias that is made of its path. -/
theorem forall_qualifier_iff {Good : String → Prop} (keeps : scope.Keeps after)
    (invented : after.Invented) (settled : after.Settled path) :
    (∀ qualifier, (after.qualifier path).1 = some qualifier → Good qualifier) ↔
      (∀ qualifier, scope.ownQualifier? path = some qualifier → Good qualifier) ∧
      (scope.Lacks path → ∀ digits,
        Assoc.find? path after.added = some ("_ag_" ++ (Import.guessName path ++ digits)) →
          Good ("_ag_" ++ (Import.guessName path ++ digits))) := by
  by_cases lacks : scope.Lacks path
  · rw [← find?_of_settled (keeps.lacks.mpr lacks) settled, ownQualifier?_of_lacks lacks]
    constructor
    · intro good
      exact ⟨nofun, fun _ digits => good _⟩
    · rintro ⟨_, good⟩ qualifier known
      obtain ⟨digits, same⟩ := invented _ (Assoc.mem_of_find? known)
      dsimp only at same
      subst same
      exact good lacks digits known
  · rw [qualifier_of_not_lacks (mt keeps.lacks.mp lacks), keeps.ownQualifier?]
    exact (and_iff_left fun lacked => absurd lacked lacks).symm

def pieceQualifier (scope : ImportScope) (piece : TypePiece) : Option String :=
  piece.path?.bind fun path => (scope.qualifier path).1

/-- The qualifiers in the text of a type. -/
def qualifiersIn (scope : ImportScope) (type : GoType) : List String :=
  type.pieces.filterMap scope.pieceQualifier

/-- The text of a type with the names that a scope has for packages. -/
def textIn (scope : ImportScope) (type : GoType) : String :=
  String.join (type.pieces.map fun piece => piece.textBehind (scope.pieceQualifier piece))

theorem spellPiece_kept {piece : TypePiece} (keeps : (scope.spellPiece piece).2.Keeps after) :
    (scope.spellPiece piece).1 = piece.textBehind (after.pieceQualifier piece) ∧
      ∀ path ∈ piece.path?, after.Settled path := by
  cases piece with
  | plain c => exact ⟨rfl, nofun⟩
  | mention path name =>
      have whole : (scope.qualifier path).2.Keeps after := by
        rw [spellPiece] at keeps
        split at keeps
        all_goals
          rename_i same
          rwa [same]
      have kept := qualifier_kept whole
      refine ⟨?_, ?_⟩
      · rw [pieceQualifier, TypePiece.path?, Option.bind_some, kept, spellPiece]
        rcases scope.qualifier path with ⟨_ | qualifier, _⟩ <;> rfl
      · rintro _ ⟨⟩
        exact congrArg Prod.snd kept

theorem spell_kept {type : GoType} (keeps : (scope.spell type).2.Keeps after) :
    (scope.spell type).1 = after.textIn type ∧ ∀ path ∈ type.paths, after.Settled path := by
  rw [spell] at keeps ⊢
  rw [textIn, GoType.paths]
  generalize type.pieces = pieces at keeps
  induction pieces generalizing scope with
  | nil => exact ⟨rfl, List.forall_mem_nil _⟩
  | cons piece rest ih =>
      obtain ⟨later, others⟩ := ih keeps
      obtain ⟨first, here⟩ := spellPiece_kept ((spellPieces_keeps _ rest).trans keeps)
      refine ⟨?_, fun path member => ?_⟩
      · rw [List.map_cons, String.join_cons, ← first, ← later]
        rfl
      · obtain ⟨mentioned, among, mentions⟩ := List.mem_filterMap.mp member
        rcases List.mem_cons.mp among with rfl | among
        · exact here path mentions
        · exact others path (List.mem_filterMap.mpr ⟨mentioned, among, mentions⟩)

theorem spellAll_kept {types : List GoType} (keeps : (scope.spellAll types).2.Keeps after) :
    (scope.spellAll types).1 = types.map after.textIn ∧
      ∀ path ∈ types.flatMap GoType.paths, after.Settled path := by
  induction types generalizing scope with
  | nil => exact ⟨rfl, List.forall_mem_nil _⟩
  | cons type rest ih =>
      obtain ⟨later, others⟩ := ih keeps
      obtain ⟨first, here⟩ := spell_kept ((spellAll_keeps _ rest).trans keeps)
      refine ⟨?_, fun path member => ?_⟩
      · rw [List.map_cons, ← first, ← later]
        rfl
      · rw [List.flatMap_cons, List.mem_append] at member
        exact member.elim (here path) (others path)

theorem mem_qualifiersIn {type : GoType} {name : String} :
    name ∈ scope.qualifiersIn type ↔ ∃ path ∈ type.paths, (scope.qualifier path).1 = some name := by
  constructor
  · intro member
    obtain ⟨piece, among, qualified⟩ := List.mem_filterMap.mp member
    obtain ⟨path, mentions, qualified⟩ := Option.bind_eq_some_iff.mp qualified
    exact ⟨path, List.mem_filterMap.mpr ⟨piece, among, mentions⟩, qualified⟩
  · rintro ⟨path, member, qualified⟩
    obtain ⟨piece, among, mentions⟩ := List.mem_filterMap.mp member
    refine List.mem_filterMap.mpr ⟨piece, among, ?_⟩
    exact Option.bind_eq_some_iff.mpr ⟨path, mentions, qualified⟩

theorem forall_mem_qualifiersIn {types : List GoType} {Good : String → Prop} :
    (∀ name ∈ types.flatMap scope.qualifiersIn, Good name) ↔
      ∀ path ∈ types.flatMap GoType.paths, ∀ name,
        (scope.qualifier path).1 = some name → Good name := by
  simp only [List.mem_flatMap, mem_qualifiersIn]
  constructor
  · rintro good path ⟨type, member, mentions⟩ name qualified
    exact good name ⟨type, member, path, mentions, qualified⟩
  · rintro good name ⟨type, member, path, mentions, qualified⟩
    exact good path ⟨type, member, mentions⟩ name qualified

end ImportScope

/-- The types that the functions generated for a declaration are written with. -/
def Declaration.signatureTypes (decl : Declaration) (receiver : Option GoType) : List GoType :=
  receiver.toList ++ (decl.params.map Param.type ++ decl.results.map Param.type)

/-- The signature of a declaration, written with the names that a scope has for packages. -/
def Declaration.writtenIn (decl : Declaration) (receiver : Option GoType) (scope : ImportScope) :
    SpelledSignature :=
  ⟨receiver.map scope.textIn, decl.params.map fun param => scope.textIn param.type,
    decl.variadic && !decl.params.isEmpty, decl.results.map fun result => scope.textIn result.type⟩

/-- What naming a package preserves, spelling a signature preserves. -/
theorem SpelledSignature.ofDeclaration_preserves {Holds : ImportScope → Prop}
    (named : ∀ scope path, Holds scope → Holds (scope.qualifier path).2) {scope : ImportScope}
    (holds : Holds scope) (decl : Declaration) (receiver : Option GoType) :
    Holds (ofDeclaration scope decl receiver).2 := by
  have first := ImportScope.spellAll_preserves named holds receiver.toList
  have second := ImportScope.spellAll_preserves named first (decl.params.map Param.type)
  exact ImportScope.spellAll_preserves named second (decl.results.map Param.type)

/-- A signature is written with the names that packages have once it is spelled. -/
theorem SpelledSignature.ofDeclaration_kept (scope : ImportScope) (decl : Declaration)
    (receiver : Option GoType) :
    let after := (ofDeclaration scope decl receiver).2
    (ofDeclaration scope decl receiver).1 = decl.writtenIn receiver after ∧
      ∀ path ∈ (decl.signatureTypes receiver).flatMap GoType.paths, after.Settled path := by
  intro after
  let first := (scope.spellAll receiver.toList).2
  let second := (first.spellAll (decl.params.map Param.type)).2
  have last : after = (second.spellAll (decl.results.map Param.type)).2 := rfl
  obtain ⟨results, resultPaths⟩ := ImportScope.spellAll_kept (last ▸ ImportScope.Keeps.refl after)
  have fromSecond : second.Keeps after := ImportScope.spellAll_keeps second _
  obtain ⟨params, paramPaths⟩ := ImportScope.spellAll_kept fromSecond
  obtain ⟨head, headPaths⟩ :=
    ImportScope.spellAll_kept ((ImportScope.spellAll_keeps first _).trans fromSecond)
  refine ⟨?_, fun path member => ?_⟩
  · have receivers : (scope.spellAll receiver.toList).1.head? = receiver.map after.textIn := by
      rw [head]
      cases receiver <;> rfl
    rw [List.map_map] at params results
    exact congr (congr (congrArg (SpelledSignature.mk · · _ ·) receivers) params) results
  · rw [Declaration.signatureTypes, List.flatMap_append, List.flatMap_append, List.mem_append,
      List.mem_append] at member
    exact member.elim (headPaths path) fun later =>
      later.elim (paramPaths path) (resultPaths path)

end AspectLoom
