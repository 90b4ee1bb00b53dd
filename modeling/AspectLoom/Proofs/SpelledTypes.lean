import AspectLoom.Proofs.Entries
import AspectLoom.Proxy.ImportScope
import Mathlib.Data.List.Nodup
import Mathlib.Data.List.TakeWhile
import Std.Data.String.ToNat
/-!
Types as a unit spells them. A named type is spelled with a name under which the unit reaches its
package, unless the path of the package is itself the name of an import of another package.
-/
namespace AspectLoom

namespace TypePiece

/-- Whether a text is read as one package path in front of a name. -/
def isPath (text : String) : Bool :=
  match text.toList with
  | [] => false
  | first :: rest => canStartPath first && rest.all isPathChar

def isNameChar (c : Char) : Bool :=
  Unicode.isAsciiLetter c || Unicode.isAsciiDigit c || c == '_'

/-- Whether a text is an identifier of ASCII characters. -/
def isName (text : String) : Bool :=
  match text.toList with
  | [] => false
  | first :: rest => canStartName first && rest.all isNameChar

theorem isNameChar_of_canStartName {c : Char} (starts : canStartName c = true) :
    isNameChar c = true := by
  rw [canStartName, Bool.or_eq_true] at starts
  rw [isNameChar, Bool.or_eq_true, Bool.or_eq_true]
  exact starts.imp Or.inl id

theorem isWord_of_isNameChar {c : Char} (inName : isNameChar c = true) :
    Unicode.isWord c = true := by
  have ascii : Unicode.isAscii c = true := by
    have cases : c.toNat < 128 := by
      simp only [isNameChar, Unicode.isAsciiLetter, Unicode.isAsciiDigit, Bool.or_eq_true,
        Bool.and_eq_true, decide_eq_true_eq, beq_iff_eq, Char.le_def, UInt32.le_iff_toNat_le,
        Char.ext_iff, ← UInt32.toNat_inj] at inName
      simp at inName
      omega
    exact decide_eq_true cases
  rw [Unicode.isWord, if_pos ascii]
  exact inName

theorem ne_dot_of_isNameChar {c : Char} (inName : isNameChar c = true) : c ≠ '.' := by
  rintro rfl
  cases inName

/-- A text without a dot is not cut. -/
theorem cutAtLastName_eq_none {chars : List Char} (noDot : ∀ c ∈ chars, c ≠ '.') :
    cutAtLastName chars = none := by
  induction chars with
  | nil => rfl
  | cons c rest ih =>
      obtain ⟨here, later⟩ := List.forall_mem_cons.mp noDot
      simp [cutAtLastName, ih later, here]

/-- A path in front of a name is cut where the name begins. -/
theorem cutAtLastName_append {path name : List Char} (inPath : path.all isPathChar = true)
    (starts : name.head?.any canStartName = true) (noDot : ∀ c ∈ name, c ≠ '.') :
    cutAtLastName (path ++ '.' :: name) = some (path, name) := by
  induction path with
  | nil =>
      have dot : isPathChar '.' = true := by decide
      rw [List.nil_append, cutAtLastName, if_pos dot, cutAtLastName_eq_none noDot]
      simp [starts]
  | cons c path ih =>
      obtain ⟨here, later⟩ := Bool.and_eq_true_iff.mp (List.all_cons ▸ inPath)
      rw [List.cons_append, cutAtLastName, if_pos here, ih later]

/-- Whether no path goes on into a text. -/
def Ended (text : List Char) : Prop := ∀ c ∈ text.head?, isPathChar c = false

theorem isPathChar_of_canStartName {c : Char} (starts : canStartName c = true) :
    isPathChar c = true := by
  simp [isPathChar, isWord_of_isNameChar (isNameChar_of_canStartName starts)]

theorem cutAtLastName_of_ended {text : List Char} (ended : Ended text) :
    cutAtLastName text = none := by
  cases text with
  | nil => rfl
  | cons c rest => simp [cutAtLastName, ended c rfl]

/-- What follows the first mark of a text does not change where the text is cut. -/
theorem cutAtLastName_followed {text rest : List Char}
    (apart : (∃ mark ∈ text, isPathChar mark = false) ∨ Ended rest) :
    cutAtLastName (text ++ rest) =
      (cutAtLastName text).map fun cut => (cut.1, cut.2 ++ rest) := by
  induction text with
  | nil =>
      have ended : Ended rest := apart.resolve_left (by simp)
      exact cutAtLastName_of_ended ended
  | cons c text ih =>
      cases inPath : isPathChar c with
      | false => simp [cutAtLastName, inPath]
      | true =>
          have later : (∃ mark ∈ text, isPathChar mark = false) ∨ Ended rest := by
            refine apart.imp_left ?_
            rintro ⟨mark, member, isMark⟩
            rcases List.mem_cons.mp member with rfl | member
            · simp [inPath] at isMark
            · exact ⟨mark, member, isMark⟩
          have sameHead : (text ++ rest).head?.any canStartName = text.head?.any canStartName := by
            cases text with
            | cons _ _ => rfl
            | nil =>
                have ended : Ended rest := later.resolve_left (by simp)
                cases rest with
                | nil => rfl
                | cons d rest =>
                    have noPath := ended d rfl
                    cases starts : canStartName d with
                    | false => simp [starts]
                    | true => simp [isPathChar_of_canStartName starts] at noPath
          rw [List.cons_append, cutAtLastName, cutAtLastName, if_pos inPath, if_pos inPath,
            ih later, sameHead]
          cases cutAtLastName text with
          | some cut => rfl
          | none =>
              dsimp only [Option.map_none]
              split <;> rfl

/-- A named type is read as one mention where no path goes on behind it. -/
theorem ofChars_mention {path name : String} {rest : List Char} (inPath : isPath path = true)
    (named : isName name = true) (ended : Ended rest) :
    ofChars (path.toList ++ '.' :: name.toList ++ rest) = mention path name :: ofChars rest := by
  rw [isPath] at inPath
  rw [isName] at named
  split at inPath
  · cases inPath
  · rename_i c letters spelledPath
    split at named
    · cases named
    · rename_i first others spelledName
      obtain ⟨startsPath, inPath⟩ := Bool.and_eq_true_iff.mp inPath
      obtain ⟨startsName, inName⟩ := Bool.and_eq_true_iff.mp named
      have nameChars : ∀ c ∈ first :: others, isNameChar c = true :=
        List.forall_mem_cons.mpr
          ⟨isNameChar_of_canStartName startsName, List.all_eq_true.mp inName⟩
      have words : ∀ c ∈ first :: others, Unicode.isWord c = true :=
        fun c member => isWord_of_isNameChar (nameChars c member)
      have noDot : ∀ c ∈ first :: others, c ≠ '.' :=
        fun c member => ne_dot_of_isNameChar (nameChars c member)
      have starts : (first :: others).head?.any canStartName = true := startsName
      have stops : rest.takeWhile Unicode.isWord = [] ∧ rest.dropWhile Unicode.isWord = rest := by
        cases rest with
        | nil => exact ⟨rfl, rfl⟩
        | cons d rest =>
            have noPath := ended d rfl
            simp only [isPathChar, Bool.or_eq_false_iff] at noPath
            simp [noPath]
      have cut : cutAtLastName (letters ++ '.' :: first :: others ++ rest) =
          some (letters, first :: others ++ rest) := by
        rw [cutAtLastName_followed (.inr ended), cutAtLastName_append inPath starts noDot,
          Option.map_some]
      rw [spelledPath, spelledName, List.cons_append, List.cons_append, ofChars,
        if_pos startsPath]
      split
      · rename_i same
        rw [cut] at same
        obtain ⟨rfl, rfl⟩ := Prod.mk.inj (Option.some.inj same)
        rw [List.takeWhile_append_of_pos words, List.dropWhile_append_of_pos words, stops.1,
          stops.2, List.append_nil, ← spelledPath, ← spelledName, String.ofList_toList,
          String.ofList_toList]
      · rename_i same
        rw [cut] at same
        cases same

end TypePiece

/-- A named type is one mention of its package's path. -/
theorem GoType.pieces_named {path name : String} (inPath : TypePiece.isPath path = true)
    (named : TypePiece.isName name = true) :
    (GoType.named path name).pieces = [.mention path name] := by
  have spelled : (GoType.named path name).text.toList = path.toList ++ '.' :: name.toList ++ [] := by
    simp [GoType.named]
  have ended : TypePiece.Ended [] := nofun
  rw [GoType.pieces, spelled, TypePiece.ofChars_mention inPath named ended, TypePiece.ofChars]

namespace ImportScope

/-! Free aliases -/

/-- All names that are taken, in no particular order. -/
def takenNames (scope : ImportScope) : List String :=
  scope.unit.imports.map scope.localName ++ scope.added.map Prod.snd

theorem mem_takenNames {scope : ImportScope} {name : String} (taken : scope.isTaken name = true) :
    name ∈ scope.takenNames := by
  rw [isTaken, isLocalName, Bool.or_eq_true, List.any_eq_true, List.any_eq_true] at taken
  rcases taken with ⟨spec, member, binds⟩ | ⟨entry, member, same⟩
  · rw [Bool.and_eq_true, beq_iff_eq] at binds
    exact List.mem_append_left _ (List.mem_map.mpr ⟨spec, member, binds.2⟩)
  · exact List.mem_append_right _ (List.mem_map.mpr ⟨entry, member, beq_iff_eq.mp same⟩)

/-- The alias is free unless every number that was tried gives a taken name. -/
theorem numberedAlias_free (scope : ImportScope) (base : String) (tries number : Nat)
    (taken : scope.isTaken (scope.numberedAlias base tries number) = true) :
    ∀ step < tries, scope.isTaken (base ++ toString (number + step)) = true := by
  induction tries generalizing number with
  | zero =>
      intro step below
      omega
  | succ tries ih =>
      rw [numberedAlias] at taken
      split at taken
      · rename_i first
        intro step below
        cases step with
        | zero => exact first
        | succ step =>
            have later := ih (number + 1) taken step (by omega)
            rwa [show number + (step + 1) = number + 1 + step by omega]
      · rename_i first
        exact absurd taken first

theorem freshAlias_free (scope : ImportScope) (path : String) :
    scope.isTaken (scope.freshAlias path) = false := by
  rw [freshAlias]
  split
  · -- One more number is tried than there are names that can be taken.
    rw [← Bool.not_eq_true]
    intro taken
    generalize "_ag_" ++ Import.guessName path = base at taken
    have all := numberedAlias_free scope base _ _ taken
    have injective : Function.Injective fun step : Nat => base ++ toString (1 + step) := by
      intro left right same
      have equal := Nat.repr_injective ((String.append_right_inj _).mp same)
      omega
    have subset : ((List.range (scope.unit.imports.length + scope.added.length + 1)).map
        fun step => base ++ toString (1 + step)) ⊆ scope.takenNames := by
      intro name member
      obtain ⟨step, below, rfl⟩ := List.mem_map.mp member
      exact mem_takenNames (all step (List.mem_range.mp below))
    have few := (List.nodup_range.map injective).length_le_of_subset subset
    simp only [takenNames, List.length_map, List.length_range, List.length_append] at few
    omega
  · rename_i free
    exact Bool.not_eq_true _ ▸ free

/-! Scopes in the course of spelling -/

/-- The names under which a unit reaches packages: those of its imports, then the added ones. -/
def bindings (scope : ImportScope) : List (String × String) :=
  (scope.unit.imports.filter fun spec => !spec.isBlank && !spec.isDot).map
    (fun spec => (scope.localName spec, spec.path)) ++ scope.extraImports

/-- The local names that the imports of a unit bind. -/
def ownNames (scope : ImportScope) : List String :=
  (scope.unit.imports.filter fun spec => !spec.isBlank && !spec.isDot).map scope.localName

/-- The added aliases are new and differ. -/
structure Sound (scope : ImportScope) : Prop where
  fresh : ∀ entry ∈ scope.added, scope.isLocalName entry.2 = false
  apart : (scope.added.map Prod.snd).Nodup

/-- A later state of a scope: what was added stays. -/
structure Grows (before after : ImportScope) : Prop where
  unit : after.unit = before.unit
  packageNames : after.packageNames = before.packageNames
  kept : before.added ⊆ after.added

instance : Std.Refl Grows := ⟨fun _ => ⟨rfl, rfl, List.Subset.refl _⟩⟩

theorem Grows.trans {before middle after : ImportScope} (first : before.Grows middle)
    (second : middle.Grows after) : before.Grows after :=
  ⟨second.unit.trans first.unit, second.packageNames.trans first.packageNames,
    List.Subset.trans first.kept second.kept⟩

theorem Grows.localName {before after : ImportScope} (grows : before.Grows after) :
    after.localName = before.localName := by
  funext spec
  rw [ImportScope.localName, ImportScope.localName, grows.packageNames]

/-- What a part of spelling does to the scope. -/
def Advances (before after : ImportScope) : Prop :=
  before.Sound → after.Sound ∧ before.Grows after

theorem Advances.refl (scope : ImportScope) : scope.Advances scope :=
  fun sound => ⟨sound, Std.Refl.refl _⟩

theorem Advances.trans {before middle after : ImportScope} (first : before.Advances middle)
    (second : middle.Advances after) : before.Advances after := by
  intro sound
  obtain ⟨soundMiddle, grows⟩ := first sound
  obtain ⟨soundAfter, growsOn⟩ := second soundMiddle
  exact ⟨soundAfter, grows.trans growsOn⟩

/-- A path without an alias comes in at the end. -/
theorem insert_of_find?_eq_none {entries : List (String × String)} {path name : String}
    (absent : Assoc.find? path entries = none) :
    Assoc.insert path name entries = entries ++ [(path, name)] := by
  induction entries with
  | nil => rfl
  | cons entry rest ih =>
      obtain ⟨other, old⟩ := entry
      rw [Assoc.find?] at absent
      split at absent
      · cases absent
      · rename_i different
        rw [Assoc.insert, if_neg different, ih absent, List.cons_append]

theorem importOf?_eq_some {unit : CompilationUnit} {path : String} {spec : Import}
    (found : unit.importOf? path = some spec) :
    spec ∈ unit.imports ∧ spec.path = path ∧ spec.isBlank = false := by
  have holds := List.find?_some found
  rw [Bool.and_eq_true, beq_iff_eq, Bool.not_eq_true'] at holds
  exact ⟨List.mem_of_find?_eq_some found, holds⟩

/-- What a scope is once a package has an alias. -/
def adding (scope : ImportScope) (path : String) : ImportScope :=
  { scope with added := scope.added ++ [(path, scope.freshAlias path)] }

/-- The ways to qualify the types of a package, in the order in which they are tried. -/
theorem qualifier_cases (scope : ImportScope) (path : String) :
    (path = scope.unit.packagePath ∧ scope.qualifier path = (none, scope)) ∨
    (∃ spec ∈ scope.unit.imports, spec.path = path ∧ spec.isDot = true ∧
      scope.qualifier path = (none, scope)) ∨
    (∃ spec ∈ scope.unit.imports, spec.path = path ∧ spec.isBlank = false ∧ spec.isDot = false ∧
      scope.qualifier path = (some (scope.localName spec), scope)) ∨
    (path ≠ scope.unit.packagePath ∧ scope.unit.importOf? path = none ∧
      scope.isLocalName path = true ∧ scope.qualifier path = (some path, scope)) ∨
    (∃ name, (path, name) ∈ scope.added ∧ scope.qualifier path = (some name, scope)) ∨
    (scope.qualifier path = (some (scope.freshAlias path), scope.adding path)) := by
  by_cases own : path = scope.unit.packagePath
  · exact .inl ⟨own, by simp [qualifier, own]⟩
  refine .inr ?_
  cases found : scope.unit.importOf? path with
  | some spec =>
      obtain ⟨member, same, usable⟩ := importOf?_eq_some found
      cases dot : spec.isDot with
      | true => exact .inl ⟨spec, member, same, dot, by simp [qualifier, own, found, dot]⟩
      | false =>
          exact .inr (.inl ⟨spec, member, same, usable, dot, by simp [qualifier, own, found, dot]⟩)
  | none =>
      refine .inr (.inr ?_)
      by_cases binds : scope.isLocalName path = true
      · exact .inl ⟨own, rfl, binds, by simp [qualifier, own, found, binds]⟩
      refine .inr ?_
      cases known : Assoc.find? path scope.added with
      | some name =>
          exact .inl ⟨name, Assoc.mem_of_find? known, by simp [qualifier, own, found, binds, known]⟩
      | none =>
          refine .inr ?_
          simp [qualifier, own, found, binds, known, adding, insert_of_find?_eq_none known]

theorem adding_advances (scope : ImportScope) (path : String) :
    scope.Advances (scope.adding path) := by
  intro sound
  have free := scope.freshAlias_free path
  rw [isTaken, Bool.or_eq_false_iff] at free
  refine ⟨⟨?_, ?_⟩, rfl, rfl, List.subset_append_left _ _⟩
  · intro entry member
    rcases List.mem_append.mp member with old | new
    · exact sound.fresh entry old
    · rw [List.mem_singleton.mp new]
      exact free.1
  · rw [adding, List.map_append, List.nodup_append]
    refine ⟨sound.apart, List.nodup_singleton _, ?_⟩
    intro name old other new same
    obtain ⟨entry, member, rfl⟩ := List.mem_map.mp old
    obtain rfl := List.mem_singleton.mp new
    have apart := List.any_eq_false.mp free.2 entry member
    exact apart (beq_iff_eq.mpr same)

theorem qualifier_advances (scope : ImportScope) (path : String) :
    scope.Advances (scope.qualifier path).2 := by
  rcases scope.qualifier_cases path with ⟨_, same⟩ | ⟨_, _, _, _, same⟩ | ⟨_, _, _, _, _, same⟩ |
    ⟨_, _, _, same⟩ | ⟨_, _, same⟩ | same
  all_goals rw [same]
  case inr.inr.inr.inr.inr => exact scope.adding_advances path
  all_goals exact .refl scope

/-! What spelling does to a scope it does package by package. -/

section

variable {Holds : ImportScope → Prop}
  (named : ∀ scope path, Holds scope → Holds (scope.qualifier path).2)
include named

theorem spellPiece_preserves {scope : ImportScope} (holds : Holds scope) (piece : TypePiece) :
    Holds (scope.spellPiece piece).2 := by
  cases piece with
  | plain c => exact holds
  | mention path name =>
      have held := named scope path holds
      rw [spellPiece]
      split
      · rename_i same
        rwa [same] at held
      · rename_i same
        rwa [same] at held

theorem spellPieces_preserves {scope : ImportScope} (holds : Holds scope)
    (pieces : List TypePiece) : Holds (scope.spellPieces pieces).2 := by
  induction pieces generalizing scope with
  | nil => exact holds
  | cons piece rest ih => exact ih (spellPiece_preserves named holds piece)

theorem spell_preserves {scope : ImportScope} (holds : Holds scope) (type : GoType) :
    Holds (scope.spell type).2 := spellPieces_preserves named holds type.pieces

theorem spellAll_preserves {scope : ImportScope} (holds : Holds scope) (types : List GoType) :
    Holds (scope.spellAll types).2 := by
  induction types generalizing scope with
  | nil => exact holds
  | cons type rest ih => exact ih (spell_preserves named holds type)

end

theorem spell_advances (scope : ImportScope) (type : GoType) :
    scope.Advances (scope.spell type).2 :=
  spell_preserves (fun middle path known => known.trans (middle.qualifier_advances path))
    (.refl scope) type

theorem spellAll_advances (scope : ImportScope) (types : List GoType) :
    scope.Advances (scope.spellAll types).2 :=
  spellAll_preserves (fun middle path known => known.trans (middle.qualifier_advances path))
    (.refl scope) types

/-! What a spelling denotes -/

/-- A qualifier is a name of a package and of no other. -/
def Denotes (scope : ImportScope) (qualifier path : String) : Prop :=
  (qualifier, path) ∈ scope.bindings ∧ ∀ other, (qualifier, other) ∈ scope.bindings → other = path

/-- A text spells a named type of a package: as a bare name in the package itself and where the
package is imported with a dot, else behind a qualifier that denotes the package. -/
def Spells (scope : ImportScope) (text path name : String) : Prop :=
  (text = name ∧
    (path = scope.unit.packagePath ∨
      ∃ spec ∈ scope.unit.imports, spec.path = path ∧ spec.isDot = true)) ∨
  ∃ qualifier, text = qualifier ++ "." ++ name ∧ scope.Denotes qualifier path

/-- The path of a package without a usable import is the local name of another import. -/
def Hides (scope : ImportScope) (path : String) : Prop :=
  path ≠ scope.unit.packagePath ∧ scope.unit.importOf? path = none ∧ path ∈ scope.ownNames

instance (scope : ImportScope) (path : String) : Decidable (scope.Hides path) :=
  inferInstanceAs (Decidable (_ ∧ _ ∧ _))

theorem mem_bindings {scope : ImportScope} {binding : String × String} :
    binding ∈ scope.bindings ↔
      (∃ spec ∈ scope.unit.imports, spec.isBlank = false ∧ spec.isDot = false ∧
        binding = (scope.localName spec, spec.path)) ∨
      (binding.2, binding.1) ∈ scope.added := by
  rw [bindings, List.mem_append, List.mem_map]
  refine or_congr ?_ ?_
  · constructor
    · rintro ⟨spec, member, rfl⟩
      rw [List.mem_filter, Bool.and_eq_true, Bool.not_eq_true', Bool.not_eq_true'] at member
      exact ⟨spec, member.1, member.2.1, member.2.2, rfl⟩
    · rintro ⟨spec, member, usable, plain, rfl⟩
      exact ⟨spec, List.mem_filter.mpr ⟨member, by simp [usable, plain]⟩, rfl⟩
  · rw [extraImports, List.mem_map]
    constructor
    · rintro ⟨entry, member, rfl⟩
      exact member
    · intro member
      exact ⟨_, member, rfl⟩

theorem isLocalName_of_usable {scope : ImportScope} {spec : Import}
    (member : spec ∈ scope.unit.imports) (usable : spec.isBlank = false) :
    scope.isLocalName (scope.localName spec) = true :=
  List.any_eq_true.mpr ⟨spec, member, by simp [usable]⟩

theorem localName_dot {scope : ImportScope} {spec : Import} (dot : spec.isDot = true) :
    scope.localName spec = "." := by
  have named : spec.name = some "." := by simpa [Import.isDot] using dot
  simp [localName, Import.localName, named]

/-- A path that is a local name is that of a named import: a dot is no path. -/
theorem mem_ownNames {scope : ImportScope} {path : String} (inPath : TypePiece.isPath path = true)
    (binds : scope.isLocalName path = true) : path ∈ scope.ownNames := by
  obtain ⟨spec, member, binds⟩ := List.any_eq_true.mp binds
  rw [Bool.and_eq_true, Bool.not_eq_true', beq_iff_eq] at binds
  obtain ⟨usable, rfl⟩ := binds
  refine List.mem_map.mpr ⟨spec, List.mem_filter.mpr ⟨member, ?_⟩, rfl⟩
  cases plain : spec.isDot with
  | false => simp [usable]
  | true =>
      rw [localName_dot plain] at inPath
      exact absurd inPath (by decide)

/-- Where the local names differ, an import's name denotes the package that it imports. -/
theorem denotes_import {scope : ImportScope} {spec : Import} (sound : scope.Sound)
    (distinct : scope.ownNames.Nodup) (member : spec ∈ scope.unit.imports)
    (usable : spec.isBlank = false) (plain : spec.isDot = false) :
    scope.Denotes (scope.localName spec) spec.path := by
  refine ⟨mem_bindings.mpr (.inl ⟨spec, member, usable, plain, rfl⟩), fun path bound => ?_⟩
  rcases mem_bindings.mp bound with ⟨other, among, otherUsable, otherPlain, same⟩ | added
  · obtain ⟨sameName, rfl⟩ := Prod.mk.inj same
    have inOwn : ∀ {spec : Import}, spec ∈ scope.unit.imports → spec.isBlank = false →
        spec.isDot = false →
          spec ∈ scope.unit.imports.filter fun spec => !spec.isBlank && !spec.isDot := by
      intro spec member usable plain
      exact List.mem_filter.mpr ⟨member, by simp [usable, plain]⟩
    exact congrArg Import.path (List.inj_on_of_nodup_map distinct (inOwn among otherUsable otherPlain)
      (inOwn member usable plain) sameName.symm)
  · have taken := isLocalName_of_usable member usable
    rw [sound.fresh _ added] at taken
    cases taken

/-- An added alias denotes its package. -/
theorem denotes_added {scope : ImportScope} {path name : String} (sound : scope.Sound)
    (added : (path, name) ∈ scope.added) : scope.Denotes name path := by
  refine ⟨mem_bindings.mpr (.inr added), fun other bound => ?_⟩
  rcases mem_bindings.mp bound with ⟨spec, member, usable, _, same⟩ | also
  · obtain ⟨rfl, rfl⟩ := Prod.mk.inj same
    have taken := isLocalName_of_usable member usable
    rw [sound.fresh _ added] at taken
    cases taken
  · exact congrArg Prod.fst (List.inj_on_of_nodup_map sound.apart also added rfl)

/-- What a qualifier means in every later state of the scope. -/
theorem qualifier_denotes {scope after : ImportScope} {path : String} (sound : scope.Sound)
    (distinct : scope.ownNames.Nodup) (inPath : TypePiece.isPath path = true)
    (shown : ¬ scope.Hides path) (grows : (scope.qualifier path).2.Grows after)
    (soundAfter : after.Sound) :
    ((scope.qualifier path).1 = none ∧ (path = after.unit.packagePath ∨
      ∃ spec ∈ after.unit.imports, spec.path = path ∧ spec.isDot = true)) ∨
    ∃ qualifier, (scope.qualifier path).1 = some qualifier ∧ after.Denotes qualifier path := by
  have whole := ((scope.qualifier_advances path sound).2).trans grows
  have distinctAfter : after.ownNames.Nodup := by
    rw [ownNames, whole.unit, whole.localName]
    exact distinct
  rcases scope.qualifier_cases path with ⟨own, same⟩ | ⟨spec, member, rfl, dot, same⟩ |
    ⟨spec, member, rfl, usable, plain, same⟩ | ⟨foreign, missing, binds, same⟩ |
    ⟨name, known, same⟩ | same
  · exact .inl ⟨by rw [same], .inl (whole.unit ▸ own)⟩
  · exact .inl ⟨by rw [same], .inr ⟨spec, whole.unit ▸ member, rfl, dot⟩⟩
  · refine .inr ⟨_, by rw [same], ?_⟩
    rw [← whole.localName]
    exact denotes_import soundAfter distinctAfter (whole.unit ▸ member) usable plain
  · exact absurd ⟨foreign, missing, mem_ownNames inPath binds⟩ shown
  · exact .inr ⟨name, by rw [same], denotes_added soundAfter (whole.kept known)⟩
  · refine .inr ⟨_, by rw [same], denotes_added soundAfter (grows.kept ?_)⟩
    rw [same]
    exact List.mem_append_right _ (List.mem_singleton_self _)

theorem spell_named (scope : ImportScope) {path name : String}
    (inPath : TypePiece.isPath path = true) (named : TypePiece.isName name = true) :
    scope.spell (.named path name) =
      (match (scope.qualifier path).1 with
        | none => name
        | some qualifier => qualifier ++ "." ++ name, (scope.qualifier path).2) := by
  rw [spell, GoType.pieces_named inPath named, spellPieces, spellPiece]
  rcases scope.qualifier path with ⟨_ | text, after⟩
  · simp [spellPieces]
  · simp [spellPieces]

/-- A hidden path is spelled as it is, and names the package of another import. -/
theorem not_spells_of_hides {scope after : ImportScope} {path name : String}
    (hidden : scope.Hides path) (whole : scope.Grows after) (soundAfter : after.Sound) :
    ¬ after.Spells (path ++ "." ++ name) path name := by
  obtain ⟨foreign, missing, taken⟩ := hidden
  rw [ownNames, ← whole.localName, ← whole.unit] at taken
  obtain ⟨spec, among, binds⟩ := List.mem_map.mp taken
  rw [List.mem_filter, Bool.and_eq_true, Bool.not_eq_true'] at among
  have isLocal := isLocalName_of_usable among.1 among.2.1
  rw [binds] at isLocal
  rintro (⟨bare, _⟩ | ⟨qualifier, same, denoted, _⟩)
  · have long := congrArg String.length bare
    simp at long
  · obtain rfl : path = qualifier := by
      have same : path ++ ("." ++ name) = qualifier ++ ("." ++ name) := by
        simpa [String.append_assoc] using same
      exact (String.append_left_inj _).mp same
    rcases mem_bindings.mp denoted with ⟨other, member, usable, _, same⟩ | added
    · obtain ⟨_, samePath⟩ := Prod.mk.inj same
      rw [whole.unit] at member
      have absent := List.find?_eq_none.mp missing other member
      exact absent (by simp [← samePath, usable])
    · rw [soundAfter.fresh _ added] at isLocal
      cases isLocal

/-- Whatever a unit spells before and afterwards, it spells a named type by a name that denotes
its package exactly if the package's path is not hidden. -/
theorem named_spells_iff_not_hides (unit : CompilationUnit) (packageNames : List (String × String))
    (earlier later : List GoType) (path name : String)
    (distinct : (ImportScope.mk unit packageNames []).ownNames.Nodup)
    (inPath : TypePiece.isPath path = true) (named : TypePiece.isName name = true) :
    let before := (spellAll ⟨unit, packageNames, []⟩ earlier).2
    let spelled := before.spell (.named path name)
    (spelled.2.spellAll later).2.Spells spelled.1 path name ↔
      ¬ (ImportScope.mk unit packageNames []).Hides path := by
  intro before spelled
  have start : (ImportScope.mk unit packageNames []).Sound :=
    ⟨List.forall_mem_nil _, List.nodup_nil⟩
  obtain ⟨sound, grown⟩ := spellAll_advances _ earlier start
  obtain ⟨soundAfter, whole⟩ :=
    ((spell_advances before (.named path name)).trans (spellAll_advances _ later)) sound
  have ownNames : before.ownNames = (ImportScope.mk unit packageNames []).ownNames := by
    rw [ImportScope.ownNames, ImportScope.ownNames, grown.unit, grown.localName]
  have hides : before.Hides path ↔ (ImportScope.mk unit packageNames []).Hides path := by
    rw [Hides, Hides, ownNames, grown.unit]
  rw [← hides]
  have text := spell_named before inPath named
  constructor
  · intro spells hidden
    refine not_spells_of_hides hidden whole soundAfter (?_ : ImportScope.Spells _ _ path name)
    have kept : (before.qualifier path).1 = some path := by
      have binds : before.isLocalName path = true := by
        obtain ⟨spec, among, binds⟩ := List.mem_map.mp hidden.2.2
        rw [List.mem_filter, Bool.and_eq_true, Bool.not_eq_true'] at among
        exact binds ▸ isLocalName_of_usable among.1 among.2.1
      simp [qualifier, hidden.1, hidden.2.1, binds]
    have plain : spelled.1 = path ++ "." ++ name := by
      rw [show spelled = _ from text, kept]
    rwa [plain] at spells
  · intro shown
    have later : (before.qualifier path).2.Grows (spelled.2.spellAll later).2 := by
      rw [show spelled.2 = (before.qualifier path).2 from congrArg Prod.snd text]
      exact (spellAll_advances _ later (qualifier_advances before path sound).1).2
    have written : spelled.1 = _ := congrArg Prod.fst text
    rcases qualifier_denotes sound (ownNames ▸ distinct) inPath shown later soundAfter with
      ⟨bare, reached⟩ | ⟨qualifier, found, denotes⟩
    · rw [bare] at written
      exact .inl ⟨written, reached⟩
    · rw [found] at written
      exact .inr ⟨qualifier, written, denotes⟩

/-! Units that import few packages -/

/-- Imports with and without names, one with a dot and one that is blank. -/
def mixedUnit : CompilationUnit :=
  { (default : CompilationUnit) with
    packagePath := "example.com/app"
    imports := [⟨none, "fmt"⟩, ⟨some "w", "example.com/app/worker"⟩,
      ⟨some ".", "example.com/app/dot"⟩, ⟨some "_", "example.com/app/io"⟩] }

/-- The alias of a second package of one name has a number. -/
theorem named_spells_iff_not_hides_reader :
    let before := (spellAll ⟨mixedUnit, [("fmt", "format")], []⟩ [⟨"[]example.com/app/io.R"⟩]).2
    let spelled := before.spell (.named "io" "Reader")
    spelled.1 = "_ag_io1.Reader" ∧
      (spelled.2.spellAll [⟨"*example.com/app.T"⟩]).2.Spells spelled.1 "io" "Reader" := by
  refine ⟨by decide +kernel, ?_⟩
  exact (named_spells_iff_not_hides mixedUnit [("fmt", "format")] [⟨"[]example.com/app/io.R"⟩]
    [⟨"*example.com/app.T"⟩] "io" "Reader" (by decide +kernel) (by decide) (by decide)).mpr
    (by decide +kernel)

/-- A unit that imports a package of its own under the name of another one. -/
def shadowingUnit : CompilationUnit :=
  { (default : CompilationUnit) with
    packagePath := "example.com/app", imports := [⟨some "log", "example.com/app/mylog"⟩] }

/-- A type of the package `log` is spelled as a type of the package that the unit calls so. -/
theorem named_hidden_log :
    let scope : ImportScope := ⟨shadowingUnit, [], []⟩
    let spelled := scope.spell (.named "log" "Logger")
    scope.ownNames.Nodup ∧ spelled.1 = "log.Logger" ∧ spelled.2.extraImports = [] ∧
      spelled.2.Denotes "log" "example.com/app/mylog" ∧ ¬ spelled.2.Spells spelled.1 "log" "Logger" := by
  intro scope spelled
  have start : scope.Sound := ⟨List.forall_mem_nil _, List.nodup_nil⟩
  have hidden : scope.Hides "log" := by decide +kernel
  have text : spelled.1 = "log.Logger" := by decide +kernel
  have none : spelled.2.extraImports = [] := by decide +kernel
  have grown := scope.spell_advances (.named "log" "Logger") start
  refine ⟨by decide +kernel, text, none, ?_, ?_⟩
  · have own : spelled.2.ownNames.Nodup := by decide +kernel
    have member : ⟨some "log", "example.com/app/mylog"⟩ ∈ spelled.2.unit.imports :=
      grown.2.unit ▸ List.mem_singleton_self _
    exact denotes_import grown.1 own member rfl rfl
  · rw [text]
    exact fun spells : spelled.2.Spells ("log" ++ "." ++ "Logger") "log" "Logger" =>
      not_spells_of_hides hidden grown.2 grown.1 spells

end ImportScope
end AspectLoom
