import AspectLoom.Proofs.TypeForms
import AspectLoom.Proofs.LocalTypes
import Mathlib.Data.List.Induction
/-!
Two ways to part a named type in path and name: at the last dot, and by reading mentions from left
to right. They agree on the types whose paths and names a mention can be read from.
-/
namespace AspectLoom

/-! Parts at the last dot -/

theorem Text.splitLast?_eq_some {separator : Char} {text before after : String}
    (split : splitLast? separator text = some (before, after)) :
    text.toList = before.toList ++ separator :: after.toList ∧ separator ∉ after.toList := by
  have parted := List.takeWhile_append_dropWhile (p := (· ≠ separator)) (l := text.toList.reverse)
  have stopped := List.head?_dropWhile_not (fun c => decide (c ≠ separator)) text.toList.reverse
  have passed := List.all_takeWhile (p := fun c => decide (c ≠ separator)) (l := text.toList.reverse)
  rw [splitLast?] at split
  split at split
  · cases split
  · rename_i mark head dropped
    obtain ⟨rfl, rfl⟩ := Prod.mk.inj (Option.some.inj split)
    rw [dropped] at stopped parted
    obtain rfl : mark = separator := by simpa using stopped
    constructor
    · rw [String.toList_ofList, String.toList_ofList, ← List.reverse_inj, List.reverse_append, List.reverse_cons,
        List.reverse_reverse, List.reverse_reverse, List.append_assoc, List.singleton_append]
      exact parted.symm
    · intro member
      rw [String.toList_ofList, List.mem_reverse] at member
      simpa using List.all_eq_true.mp passed _ member

namespace GoType

variable {type : GoType} {path name : String}

/-- The beginning of a pointer's text. -/
def star (type : GoType) : String := if type.isPointer then "*" else ""

theorem text_eq_star (type : GoType) : type.text = type.star ++ (type.pointee?.getD type).text := by
  rw [star, isPointer]
  cases pointee : type.pointee? with
  | none => simp
  | some base =>
      rw [pointee?, Text.stripStart?, Option.map_map, Option.map_eq_some_iff] at pointee
      obtain ⟨rest, stripped, rfl⟩ := pointee
      rw [← String.toList_inj, ← List.isPrefixOf?_eq_some_iff_append_eq.mp stripped]
      simp

/-- What a type is parted in it is put together from. -/
theorem text_of_namedParts? (parts : type.namedParts? = some (path, name)) :
    type.text = type.star ++ (path ++ "." ++ name) ∧ '.' ∉ name.toList := by
  have whole := type.text_eq_star
  rw [namedParts?] at parts
  split at parts
  · cases parts
  · split at parts
    · rename_i split
      split at parts
      · cases parts
      · obtain ⟨rfl, rfl⟩ := Prod.mk.inj (Option.some.inj parts)
        obtain ⟨spelled, undotted⟩ := Text.splitLast?_eq_some split
        refine ⟨?_, undotted⟩
        rw [whole, ← String.toList_inj, String.toList_append, spelled]
        simp
    · cases parts

end GoType

/-! Mentions from left to right -/

namespace TypePiece

/-- Whether a name can be mentioned: its first character is an ASCII letter or an underscore. -/
def opensName (name : String) : Bool := name.toList.head?.any canStartName

theorem ofChars_undotted {text : List Char} (noDot : ∀ c ∈ text, c ≠ '.') :
    ofChars text = text.map plain := by
  induction text with
  | nil => rw [ofChars, List.map_nil]
  | cons c text ih =>
      have later : ∀ c ∈ text, c ≠ '.' := (List.forall_mem_cons.mp noDot).2
      rw [ofChars_cons_plain fun _ => cutAtLastName_eq_none later, ih later]
      rfl

/-- A path with a name behind it is read as a mention, which ends with the word characters. -/
theorem ofChars_named {path name : String} (inPath : isPath path = true)
    (opens : opensName name = true) (undotted : '.' ∉ name.toList) :
    ofChars (path.toList ++ '.' :: name.toList) =
      mention path (String.ofList (name.toList.takeWhile Unicode.isWord)) ::
        (name.toList.dropWhile Unicode.isWord).map plain := by
  have noDot : ∀ c ∈ name.toList, c ≠ '.' := by
    rintro c member rfl
    exact undotted member
  rw [isPath] at inPath
  split at inPath
  · cases inPath
  · rename_i first letters spelled
    obtain ⟨starts, inPath⟩ := Bool.and_eq_true_iff.mp inPath
    have cut := cutAtLastName_append inPath opens noDot
    rw [spelled, List.cons_append, ofChars, if_pos starts]
    split
    · rename_i same
      rw [cut] at same
      obtain ⟨rfl, rfl⟩ := Prod.mk.inj (Option.some.inj same)
      have behind : ∀ c ∈ name.toList.dropWhile Unicode.isWord, c ≠ '.' :=
        fun c member => noDot c ((List.dropWhile_suffix _).subset member)
      rw [ofChars_undotted behind, ← spelled, String.ofList_toList]
    · rename_i same
      rw [cut] at same
      cases same

theorem cutAtLastName_eq_some {text path name : List Char}
    (cut : cutAtLastName text = some (path, name)) :
    text = path ++ '.' :: name ∧ path.all isPathChar = true ∧
      name.head?.any canStartName = true := by
  induction text generalizing path with
  | nil => cases cut
  | cons c text ih =>
      rw [cutAtLastName] at cut
      split at cut
      · rename_i inPath
        split at cut
        · rename_i later
          obtain ⟨rfl, rfl⟩ := Prod.mk.inj (Option.some.inj cut)
          obtain ⟨rfl, others, opens⟩ := ih later
          exact ⟨rfl, by rw [List.all_cons, inPath, others]; rfl, opens⟩
        · split at cut
          · rename_i ends
            obtain ⟨dot, opens⟩ := Bool.and_eq_true_iff.mp ends
            obtain ⟨rfl, rfl⟩ := Prod.mk.inj (Option.some.inj cut)
            exact ⟨by rw [beq_iff_eq.mp dot]; rfl, rfl, opens⟩
          · cases cut
      · cases cut

/-- What every mention in a text looks like. -/
def Legible : TypePiece → Prop
  | plain _ => True
  | mention path name => isPath path = true ∧ opensName name = true ∧ '.' ∉ name.toList

/-- The pieces of a text are the text, and in each mention are a path and a name. -/
theorem ofChars_pieces (text : List Char) :
    (ofChars text).flatMap chars = text ∧ ∀ piece ∈ ofChars text, piece.Legible := by
  induction text using ofChars.induct with
  | case1 =>
      rw [ofChars]
      exact ⟨rfl, List.forall_mem_nil _⟩
  | case2 c rest starts path following cut ih =>
      obtain ⟨spelled, inPath, opens⟩ := cutAtLastName_eq_some cut
      have read : ofChars (c :: rest) =
          mention (String.ofList (c :: path)) (String.ofList (following.takeWhile Unicode.isWord)) ::
            ofChars (following.dropWhile Unicode.isWord) := by
        rw [ofChars, if_pos starts]
        split
        · rename_i same
          rw [cut] at same
          obtain ⟨rfl, rfl⟩ := Prod.mk.inj (Option.some.inj same)
          rfl
        · rename_i same
          rw [cut] at same
          cases same
      obtain ⟨whole, mentions⟩ := ih
      rw [read]
      constructor
      · rw [List.flatMap_cons, whole, chars, spelled]
        simp
      · refine List.forall_mem_cons.mpr ⟨⟨?_, ?_, ?_⟩, mentions⟩
        · simp [isPath, starts, inPath]
        · -- the first character is kept, since it is a word character
          cases following with
          | nil => cases opens
          | cons first others =>
              have word : Unicode.isWord first = true :=
                isWord_of_isNameChar (isNameChar_of_canStartName opens)
              rw [opensName, String.toList_ofList, List.takeWhile_cons_of_pos word]
              exact opens
        · intro member
          rw [String.toList_ofList] at member
          exact absurd (List.mem_takeWhile_imp member) (by decide)
  | case3 c rest starts cut ih =>
      obtain ⟨whole, mentions⟩ := ih
      rw [ofChars_cons_plain fun _ => cut]
      exact ⟨congrArg (c :: ·) whole, List.forall_mem_cons.mpr ⟨trivial, mentions⟩⟩
  | case4 c rest starts ih =>
      obtain ⟨whole, mentions⟩ := ih
      rw [ofChars_cons_plain fun opens => absurd opens starts]
      exact ⟨congrArg (c :: ·) whole, List.forall_mem_cons.mpr ⟨trivial, mentions⟩⟩

theorem after_last_dot_unique {before before' after after' : List Char}
    (same : before ++ '.' :: after = before' ++ '.' :: after') (undotted : '.' ∉ after)
    (undotted' : '.' ∉ after') : after = after' := by
  -- a longer front would take the dot of the other side into what follows the dot
  rcases List.append_eq_append_iff.mp same with ⟨between, _, spelled⟩ | ⟨between, _, spelled⟩
  · cases between with
    | nil => exact (List.cons.inj spelled).2
    | cons c between =>
        rw [(List.cons.inj spelled).2] at undotted
        simp at undotted
  · cases between with
    | nil => exact (List.cons.inj spelled).2.symm
    | cons c between =>
        rw [(List.cons.inj spelled).2] at undotted'
        simp at undotted'

/-- Of the pieces of a text with a dot, one is the dot alone or there is a mention whose name
begins what follows the last dot. -/
theorem last_dot {pieces : List TypePiece} {before name : List Char}
    (mentions : ∀ piece ∈ pieces, piece.Legible)
    (spelled : pieces.flatMap chars = before ++ '.' :: name) (undotted : '.' ∉ name) :
    plain '.' ∈ pieces ∨
      ∃ path mentioned rest, mention path mentioned ∈ pieces ∧ name = mentioned.toList ++ rest := by
  induction pieces using List.reverseRecOn generalizing name with
  | nil => simp at spelled
  | append_singleton pieces last ih =>
      rw [List.flatMap_append, List.flatMap_singleton] at spelled
      obtain ⟨earlier, here⟩ := List.forall_mem_append.mp mentions
      cases last with
      | plain c =>
          rcases List.eq_nil_or_concat name with rfl | ⟨front, final, rfl⟩
          · obtain ⟨_, same⟩ := List.append_inj' spelled rfl
            obtain rfl : c = '.' := by simpa [chars] using same
            exact .inl (by simp)
          · rw [List.concat_eq_append, ← List.cons_append, ← List.append_assoc] at spelled
            obtain ⟨spelled, _⟩ := List.append_inj' spelled rfl
            rw [List.concat_eq_append, List.mem_append, not_or] at undotted
            rcases ih earlier spelled undotted.1 with alone | ⟨path, mentioned, rest, among, rfl⟩
            · exact .inl (List.mem_append_left _ alone)
            · refine .inr ⟨path, mentioned, rest ++ [final], List.mem_append_left _ among, ?_⟩
              rw [List.concat_eq_append, List.append_assoc]
      | mention path mentioned =>
          have plainName : '.' ∉ mentioned.toList := (here _ (List.mem_singleton_self _)).2.2
          rw [chars, ← List.append_assoc] at spelled
          have same := after_last_dot_unique spelled plainName undotted
          refine .inr ⟨path, mentioned, [], by simp, ?_⟩
          rw [List.append_nil, same]

end TypePiece

/-! Texts that a unit writes -/

namespace ImportScope

open TypePiece (plain mention opensName isPath)

variable {scope : ImportScope} {type : GoType} {path name : String}

/-- A unit without imports qualifies the types of all packages but its own. -/
theorem qualifier_isSome (bare : scope.unit.imports = []) (foreign : path ≠ scope.unit.packagePath) :
    ∃ qualifier, (scope.qualifier path).1 = some qualifier := by
  have lacks : scope.Lacks path := by
    refine ⟨foreign, ?_, ?_⟩
    · rw [CompilationUnit.importOf?, bare]
      rfl
    · rw [isLocalName, bare]
      rfl
  rw [qualifier_of_lacks lacks]
  cases Assoc.find? path scope.added with
  | some name => exact ⟨name, rfl⟩
  | none => exact ⟨_, rfl⟩

theorem mem_textIn {piece : TypePiece} {c : Char} (among : piece ∈ type.pieces)
    (member : c ∈ (piece.textBehind (scope.pieceQualifier piece)).toList) :
    c ∈ (scope.textIn type).toList := by
  rw [textIn, String.toList_join, List.flatMap_map]
  exact List.mem_flatMap.mpr ⟨piece, among, member⟩

/-- Where a type of the unit's own package is written as its bare name, a path and a name were
read from it. -/
theorem isPath_of_spell_own (bare : scope.unit.imports = [])
    (parts : type.namedParts? = some (scope.unit.packagePath, name))
    (written : (scope.spell type).1 = type.star ++ name) :
    isPath scope.unit.packagePath = true ∧ opensName name = true := by
  obtain ⟨spelled, undotted⟩ := GoType.text_of_namedParts? parts
  obtain ⟨whole, mentions⟩ := TypePiece.ofChars_pieces type.text.toList
  let after := (scope.spell type).2
  have keeps : scope.Keeps after := scope.spellPieces_keeps _
  have text : (scope.spell type).1 = after.textIn type := (spell_kept (.refl after)).1
  have noDot : '.' ∉ (after.textIn type).toList := by
    rw [← text, written, String.toList_append, List.mem_append, not_or, GoType.star]
    refine ⟨?_, undotted⟩
    split <;> decide
  have parted : type.pieces.flatMap TypePiece.chars =
      (type.star ++ scope.unit.packagePath).toList ++ '.' :: name.toList := by
    rw [GoType.pieces, whole, spelled]
    simp
  -- the dot of the type must have gone with the path of a mention, which is that of the unit
  rcases TypePiece.last_dot mentions parted undotted with
    alone | ⟨path, mentioned, rest, among, spelledName⟩
  · exact absurd (mem_textIn alone (by simp [TypePiece.textBehind])) noDot
  · obtain ⟨inPath, opens, _⟩ := mentions _ among
    have own : path = after.unit.packagePath := by
      by_contra foreign
      obtain ⟨qualifier, found⟩ := qualifier_isSome (keeps.unit ▸ bare) foreign
      refine noDot (mem_textIn among ?_)
      simp [pieceQualifier, TypePiece.path?, found, TypePiece.textBehind]
    rw [keeps.unit] at own
    refine ⟨own ▸ inPath, ?_⟩
    rw [opensName] at opens ⊢
    rw [spelledName]
    cases letters : mentioned.toList with
    | nil => simp [letters] at opens
    | cons first others => simpa [letters] using opens

theorem spellPieces_plain (scope : ImportScope) (text : List Char) :
    scope.spellPieces (text.map plain) = (String.ofList text, scope) := by
  induction text with
  | nil => rfl
  | cons c text ih =>
      rw [List.map_cons, spellPieces, spellPiece]
      dsimp only
      rw [ih]
      simp [String.ofList_cons]

theorem spellPieces_mention (scope : ImportScope) (path short : String) (rest : List Char) :
    scope.spellPieces (mention path short :: rest.map plain) =
      ((mention path (short ++ String.ofList rest)).textBehind (scope.qualifier path).1,
        (scope.qualifier path).2) := by
  rw [spellPieces, spellPiece]
  rcases scope.qualifier path with ⟨_ | qualifier, after⟩
  · dsimp only
    rw [spellPieces_plain]
    rfl
  · dsimp only
    rw [spellPieces_plain]
    simp [TypePiece.textBehind, String.append_assoc]

/-- A unit writes a named type as its package's qualifier and its name, whatever the unit and the
package are, exactly if the path and the beginning of the name are ones that a mention can have. -/
theorem spell_parts_iff (parts : type.namedParts? = some (path, name)) :
    (∀ scope : ImportScope, scope.spell type =
      (type.star ++ (mention path name).textBehind (scope.qualifier path).1,
        (scope.qualifier path).2)) ↔
    isPath path = true ∧ opensName name = true := by
  obtain ⟨spelled, undotted⟩ := GoType.text_of_namedParts? parts
  constructor
  · intro split
    let home : ImportScope :=
      ⟨{ (default : CompilationUnit) with packagePath := path, imports := [] }, [], []⟩
    have own : (home.qualifier path).1 = none := by rw [qualifier, if_pos rfl]
    have written : (home.spell type).1 = type.star ++ name := by
      rw [split home, own]
      rfl
    exact @isPath_of_spell_own home _ _ rfl parts written
  · rintro ⟨inPath, opens⟩ scope
    have read := TypePiece.ofChars_named inPath opens undotted
    have parted : String.ofList (name.toList.takeWhile Unicode.isWord) ++
        String.ofList (name.toList.dropWhile Unicode.isWord) = name := by
      rw [← String.ofList_append, List.takeWhile_append_dropWhile, String.ofList_toList]
    have base := scope.spellPieces_mention path
      (String.ofList (name.toList.takeWhile Unicode.isWord))
      (name.toList.dropWhile Unicode.isWord)
    rw [parted] at base
    rw [spell, GoType.pieces, spelled, GoType.star]
    split
    · have starred : ("*" ++ (path ++ "." ++ name)).toList =
          '*' :: (path.toList ++ '.' :: name.toList) := by simp
      rw [starred, TypePiece.ofChars_cons_plain fun starts => absurd starts (by decide), read,
        spellPieces, spellPiece]
      dsimp only
      rw [base]
      rfl
    · have bare : ("" ++ (path ++ "." ++ name)).toList = path.toList ++ '.' :: name.toList := by
        simp
      rw [bare, read, base, String.empty_append]

/-- Letters of any script can follow the first one. -/
theorem spell_parts_iff_accented :
    (⟨"*example.com/go-thing.Gerät"⟩ : GoType).namedParts? =
        some ("example.com/go-thing", "Gerät") ∧
      ∀ scope : ImportScope, scope.spell ⟨"*example.com/go-thing.Gerät"⟩ =
        ("*" ++ (mention "example.com/go-thing" "Gerät").textBehind
          (scope.qualifier "example.com/go-thing").1, (scope.qualifier "example.com/go-thing").2) := by
  have parts : (⟨"*example.com/go-thing.Gerät"⟩ : GoType).namedParts? =
      some ("example.com/go-thing", "Gerät") := by decide
  exact ⟨parts, (spell_parts_iff parts).mpr ⟨by decide, by decide⟩⟩

/-- A unit without imports. -/
def plainUnit : CompilationUnit :=
  { (default : CompilationUnit) with packagePath := "example.com/app" }

/-- A name that begins with another letter is not read, even as a name of the unit's own package. -/
theorem spell_overlooks_accented :
    (⟨"*example.com/app.Ämt"⟩ : GoType).namedParts? = some ("example.com/app", "Ämt") ∧
      (ImportScope.mk plainUnit [] []).qualifier "example.com/app" = (none, ⟨plainUnit, [], []⟩) ∧
      ((ImportScope.mk plainUnit [] []).spell ⟨"*example.com/app.Ämt"⟩).1 ≠ "*Ämt" := by
  have parts : (⟨"*example.com/app.Ämt"⟩ : GoType).namedParts? =
      some ("example.com/app", "Ämt") := by decide
  refine ⟨parts, if_pos rfl, fun written => ?_⟩
  have opens := (@isPath_of_spell_own ⟨plainUnit, [], []⟩ _ _ rfl parts written).2
  exact absurd opens (by decide)

end ImportScope
end AspectLoom
