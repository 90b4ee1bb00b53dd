import AspectLoom.Proofs.WrittenQualifiers
/-!
Types by their structure, and their texts. The text of a type is read in mentions without any
regard to its structure; still the mentions that are read are the named types in it, from left to
right, so spelling the type changes nothing else.
-/
namespace AspectLoom

/-! Texts that mention nothing -/

namespace TypePiece

/-- The characters of a piece in a canonical type. -/
def chars : TypePiece → List Char
  | plain c => [c]
  | mention path name => path.toList ++ '.' :: name.toList

def literal (text : String) : List TypePiece := text.toList.map plain

@[simp] theorem flatMap_chars_literal (text : String) :
    (literal text).flatMap chars = text.toList := by
  simp [literal, List.flatMap_map, chars]

theorem ofChars_cons_plain {c : Char} {rest : List Char}
    (unread : canStartPath c = true → cutAtLastName rest = none) :
    ofChars (c :: rest) = plain c :: ofChars rest := by
  rw [ofChars]
  split
  · rename_i starts
    split
    · rename_i cut
      rw [unread starts] at cut
      cases cut
    · rfl
  · rfl

/-- Whether a text mentions nothing, whatever follows: a mark stands behind each letter in it. -/
def separates : List Char → Bool
  | [] => true
  | c :: rest =>
    (!canStartPath c || (cutAtLastName rest).isNone && rest.any fun c => !isPathChar c) &&
      separates rest

theorem ofChars_separator {text rest : List Char} (apart : separates text = true) :
    ofChars (text ++ rest) = text.map plain ++ ofChars rest := by
  induction text with
  | nil => rfl
  | cons c text ih =>
      obtain ⟨here, later⟩ := Bool.and_eq_true_iff.mp apart
      have unread : canStartPath c = true → cutAtLastName (text ++ rest) = none := by
        intro starts
        rw [starts, Bool.not_true, Bool.false_or, Bool.and_eq_true, List.any_eq_true] at here
        obtain ⟨uncut, mark, member, isMark⟩ := here
        rw [cutAtLastName_followed (.inl ⟨mark, member, by simpa using isMark⟩),
          Option.isNone_iff_eq_none.mp uncut, Option.map_none]
      rw [List.cons_append, ofChars_cons_plain unread, ih later]
      rfl

theorem ofChars_word {text rest : List Char} (word : text.all Unicode.isWord = true)
    (ended : Ended rest) : ofChars (text ++ rest) = text.map plain ++ ofChars rest := by
  induction text with
  | nil => rfl
  | cons c text ih =>
      obtain ⟨_, later⟩ := Bool.and_eq_true_iff.mp (List.all_cons ▸ word)
      have noDot : ∀ c ∈ text, c ≠ '.' := by
        rintro c member rfl
        exact absurd (List.all_eq_true.mp later '.' member) (by decide)
      have unread : cutAtLastName (text ++ rest) = none := by
        rw [cutAtLastName_followed (.inr ended), cutAtLastName_eq_none noDot, Option.map_none]
      rw [List.cons_append, ofChars_cons_plain fun _ => unread, ih later]
      rfl

/-! Pieces that a text is read in -/

/-- The pieces are read out of their characters, where no path goes on behind them. -/
def Reads (pieces : List TypePiece) : Prop :=
  ∀ rest, Ended rest → ofChars (pieces.flatMap chars ++ rest) = pieces ++ ofChars rest

/-- The pieces are read out of their characters, whatever follows. -/
def Leads (pieces : List TypePiece) : Prop :=
  ∀ rest, ofChars (pieces.flatMap chars ++ rest) = pieces ++ ofChars rest

/-- Whether no path goes on into the pieces, and there is one at least. -/
def opensWithMark (pieces : List TypePiece) : Bool :=
  (pieces.flatMap chars).head?.any fun c => !isPathChar c

variable {first second : List TypePiece}

theorem Leads.reads (leads : Leads first) : Reads first := fun rest _ => leads rest

theorem Leads.append_reads (leads : Leads first) (reads : Reads second) :
    Reads (first ++ second) := by
  intro rest ended
  rw [List.flatMap_append, List.append_assoc, leads, reads rest ended, List.append_assoc]

theorem Leads.append (leads : Leads first) (later : Leads second) : Leads (first ++ second) := by
  intro rest
  rw [List.flatMap_append, List.append_assoc, leads, later, List.append_assoc]

/-- A mark ends whatever stands in front of it. -/
theorem Reads.append_leads (reads : Reads first) (leads : Leads second)
    (opens : opensWithMark second = true) : Leads (first ++ second) := by
  intro rest
  have ended : Ended (second.flatMap chars ++ rest) := by
    intro c member
    rw [opensWithMark] at opens
    cases spelled : second.flatMap chars with
    | nil => simp [spelled] at opens
    | cons d others =>
        rw [spelled, List.cons_append, List.head?_cons, Option.mem_some_iff] at member
        rw [spelled, List.head?_cons, Option.any_some, Bool.not_eq_true'] at opens
        rwa [← member]
  rw [List.flatMap_append, List.append_assoc, reads _ ended, leads, List.append_assoc]

theorem leads_nil : Leads [] := fun _ => rfl

theorem leads_literal {text : String} (apart : separates text.toList = true) :
    Leads (literal text) := by
  intro rest
  rw [flatMap_chars_literal, ofChars_separator apart]
  rfl

theorem reads_word {text : String} (word : text.toList.all Unicode.isWord = true) :
    Reads (literal text) := by
  intro rest ended
  rw [flatMap_chars_literal, ofChars_word word ended]
  rfl

theorem reads_mention {path name : String} (inPath : isPath path = true)
    (named : isName name = true) : Reads [mention path name] := by
  intro rest ended
  rw [List.flatMap_singleton, chars, ofChars_mention inPath named ended]
  rfl

theorem leads_comma : Leads (literal ", ") := leads_literal (by decide)

/-- Items behind commas -/
theorem reads_intercalate {items : List (List TypePiece)} (each : ∀ item ∈ items, Reads item) :
    Reads ((literal ", ").intercalate items) := by
  induction items with
  | nil => exact leads_nil.reads
  | cons item items ih =>
      obtain ⟨here, later⟩ := List.forall_mem_cons.mp each
      cases items with
      | nil => simpa using here
      | cons other items =>
          -- no path goes on into a comma, so the item in front of it is read to its end
          rw [List.intercalate_cons_cons]
          exact (here.append_leads leads_comma (by decide)).append_reads (ih later)

end TypePiece

/-! Types by their structure -/

/-- A text of word characters, such as a predeclared name or the length of an array. -/
structure Word where
  text : String
  word : text.toList.all Unicode.isWord = true

inductive ChannelWay where
  | both
  | receive
  | send
deriving DecidableEq, Repr

mutual

/-- A type by its structure. -/
inductive TypeForm where
  | bare (name : Word)
  | named (path name : String) (inPath : TypePiece.isPath path = true)
      (isName : TypePiece.isName name = true)
  | pointer (elem : TypeForm)
  | slice (elem : TypeForm)
  | array (length : Word) (elem : TypeForm)
  | map (key value : TypeForm)
  | channel (way : ChannelWay) (elem : TypeForm)
  | function (params : TypeSlots true) (results : TypeSlots false)

/-- Parameters, of which the last one may be variadic, or results. A slot may have names. -/
inductive TypeSlots : Bool → Type where
  | none {varies : Bool} : TypeSlots varies
  | variadic (names : List Word) (elem : TypeForm) : TypeSlots true
  | slot {varies : Bool} (names : List Word) (type : TypeForm) (rest : TypeSlots varies) :
      TypeSlots varies

end

namespace TypePiece

/-- The names of a slot, in front of its type. -/
def ofNames : List Word → List TypePiece
  | [] => []
  | names => (literal ", ").intercalate (names.map fun name => literal name.text) ++ literal " "

/-- Slots in parentheses. -/
def ofSlots (slots : List (List TypePiece)) : List TypePiece :=
  literal "(" ++ (literal ", ").intercalate slots ++ literal ")"

/-- The results of a function. A single one without a name needs no parentheses. -/
def ofResults (isNamed : Bool) (slots : List (List TypePiece)) : List TypePiece :=
  match isNamed, slots with
  | _, [] => []
  | false, [slot] => literal " " ++ slot
  | _, slots => literal " " ++ ofSlots slots

end TypePiece

/-- Whether the arrow of a channel would be taken for that of a channel in front of it. -/
def TypeForm.opensWithArrow : TypeForm → Bool
  | channel .receive _ => true
  | _ => false

def TypeSlots.isNamed {varies : Bool} : TypeSlots varies → Bool
  | slot [] _ _ => false
  | _ => true

open TypePiece (literal)

mutual

/-- The text of a type in pieces: its characters, and its named types. -/
def TypeForm.pieces : TypeForm → List TypePiece
  | .bare name => literal name.text
  | .named path name _ _ => [.mention path name]
  | .pointer elem => literal "*" ++ elem.pieces
  | .slice elem => literal "[]" ++ elem.pieces
  | .array length elem => literal "[" ++ literal length.text ++ literal "]" ++ elem.pieces
  | .map key value => literal "map[" ++ key.pieces ++ literal "]" ++ value.pieces
  | .channel .both elem =>
    if elem.opensWithArrow then literal "chan (" ++ elem.pieces ++ literal ")"
    else literal "chan " ++ elem.pieces
  | .channel .receive elem => literal "<-chan " ++ elem.pieces
  | .channel .send elem => literal "chan<- " ++ elem.pieces
  | .function params results =>
    literal "func" ++ TypePiece.ofSlots params.pieces ++
      TypePiece.ofResults results.isNamed results.pieces

/-- The pieces of every slot. -/
def TypeSlots.pieces {varies : Bool} : TypeSlots varies → List (List TypePiece)
  | .none => []
  | .variadic names elem => [TypePiece.ofNames names ++ literal "..." ++ elem.pieces]
  | .slot names type rest => (TypePiece.ofNames names ++ type.pieces) :: rest.pieces

end

/-! Reading the text of a type -/

namespace TypePiece

theorem leads_ofNames (names : List Word) : Leads (ofNames names) := by
  cases names with
  | nil => exact leads_nil
  | cons name names =>
      have each : ∀ item ∈ (name :: names).map fun name => literal name.text, Reads item := by
        intro item member
        obtain ⟨name, _, rfl⟩ := List.mem_map.mp member
        exact reads_word name.word
      have blank : Leads (literal " ") := leads_literal (by decide)
      exact (reads_intercalate each).append_leads blank (by decide)

variable {slots : List (List TypePiece)} (each : ∀ slot ∈ slots, Reads slot)
include each

theorem leads_ofSlots : Leads (ofSlots slots) := by
  have opening : Leads (literal "(") := leads_literal (by decide)
  have closing : Leads (literal ")") := leads_literal (by decide)
  exact (opening.append_reads (reads_intercalate each)).append_leads closing (by decide)

theorem reads_ofResults (isNamed : Bool) : Reads (ofResults isNamed slots) := by
  have blank : Leads (literal " ") := leads_literal (by decide)
  unfold ofResults
  split
  · exact leads_nil.reads
  · exact blank.append_reads (each _ (List.mem_singleton_self _))
  · exact (blank.append (leads_ofSlots each)).reads

end TypePiece

mutual

/-- The text of a type is read in the pieces that it was put together from. -/
theorem TypeForm.reads (form : TypeForm) : TypePiece.Reads form.pieces := by
  match form with
  | .bare name => exact TypePiece.reads_word name.word
  | .named path name inPath isName => exact TypePiece.reads_mention inPath isName
  | .pointer elem => exact (TypePiece.leads_literal (by decide)).append_reads elem.reads
  | .slice elem => exact (TypePiece.leads_literal (by decide)).append_reads elem.reads
  | .array length elem =>
      have opening : TypePiece.Leads (literal "[") := TypePiece.leads_literal (by decide)
      have closing : TypePiece.Leads (literal "]") := TypePiece.leads_literal (by decide)
      have bounded := opening.append_reads (TypePiece.reads_word length.word)
      exact (bounded.append_leads closing (by decide)).append_reads elem.reads
  | .map key value =>
      have opening : TypePiece.Leads (literal "map[") := TypePiece.leads_literal (by decide)
      have closing : TypePiece.Leads (literal "]") := TypePiece.leads_literal (by decide)
      have keyed := (opening.append_reads key.reads).append_leads closing (by decide)
      exact keyed.append_reads value.reads
  | .channel .both elem =>
      have closing : TypePiece.Leads (literal ")") := TypePiece.leads_literal (by decide)
      rw [TypeForm.pieces]
      split
      · have opening : TypePiece.Leads (literal "chan (") := TypePiece.leads_literal (by decide)
        exact ((opening.append_reads elem.reads).append_leads closing (by decide)).reads
      · exact (TypePiece.leads_literal (by decide)).append_reads elem.reads
  | .channel .receive elem =>
      exact (TypePiece.leads_literal (by decide)).append_reads elem.reads
  | .channel .send elem => exact (TypePiece.leads_literal (by decide)).append_reads elem.reads
  | .function params results =>
      have keyword : TypePiece.Reads (literal "func") := TypePiece.reads_word (by decide)
      have listed := TypePiece.leads_ofSlots params.reads
      rw [TypeForm.pieces]
      exact (keyword.append_leads listed rfl).append_reads
        (TypePiece.reads_ofResults results.reads results.isNamed)

theorem TypeSlots.reads {varies : Bool} (slots : TypeSlots varies) :
    ∀ slot ∈ slots.pieces, TypePiece.Reads slot := by
  match slots with
  | .none => exact List.forall_mem_nil _
  | .variadic names elem =>
      have dots : TypePiece.Leads (literal "...") := TypePiece.leads_literal (by decide)
      rw [TypeSlots.pieces, List.forall_mem_singleton]
      exact ((TypePiece.leads_ofNames names).append dots).append_reads elem.reads
  | .slot names type rest =>
      rw [TypeSlots.pieces, List.forall_mem_cons]
      exact ⟨(TypePiece.leads_ofNames names).append_reads type.reads, rest.reads⟩

end

/-! Spelling the text of a type -/

namespace TypeForm

/-- The text of a type, with its packages written in some way. -/
def printed (form : TypeForm) (qualify : String → Option String) : String :=
  String.join (form.pieces.map fun piece => piece.textBehind (piece.path?.bind qualify))

/-- The canonical type writes every package by its path. -/
def canonical (form : TypeForm) : GoType := ⟨form.printed some⟩

/-- The packages of the named types, from left to right. -/
def paths (form : TypeForm) : List String := form.pieces.filterMap TypePiece.path?

theorem pieces_canonical (form : TypeForm) : form.canonical.pieces = form.pieces := by
  have ended : TypePiece.Ended [] := nofun
  have spelled : form.canonical.text.toList = form.pieces.flatMap TypePiece.chars := by
    rw [canonical, printed, String.toList_join, List.flatMap_map]
    congr 1
    funext piece
    cases piece <;> simp [TypePiece.textBehind, TypePiece.path?, TypePiece.chars]
  have read := form.reads [] ended
  rw [List.append_nil, TypePiece.ofChars, List.append_nil] at read
  rw [GoType.pieces, spelled, read]

end TypeForm

namespace ImportScope

/-- Whether a unit has no name for a package so far. -/
def needsAlias (scope : ImportScope) (path : String) : Bool :=
  path != scope.unit.packagePath && (scope.unit.importOf? path).isNone &&
    !scope.isLocalName path && (Assoc.find? path scope.added).isNone

variable {scope : ImportScope} {path : String}

theorem qualifier_of_needsAlias (needs : scope.needsAlias path = true) :
    scope.qualifier path = (some (scope.freshAlias path), scope.adding path) := by
  simp only [needsAlias, Bool.and_eq_true, bne_iff_ne, Option.isNone_iff_eq_none,
    Bool.not_eq_true'] at needs
  obtain ⟨⟨⟨foreign, missing⟩, unbound⟩, unknown⟩ := needs
  rw [qualifier_of_lacks ⟨foreign, missing, unbound⟩, unknown, adding,
    insert_of_find?_eq_none unknown]

theorem qualifier_of_named (named : scope.needsAlias path = false) :
    (scope.qualifier path).2 = scope := by
  by_cases lacks : scope.Lacks path
  · rw [qualifier_of_lacks lacks]
    cases known : Assoc.find? path scope.added with
    | some name => rfl
    | none => simp [needsAlias, lacks.foreign, lacks.missing, lacks.unbound, known] at named
  · rw [qualifier_of_not_lacks lacks]

/-- Once a package has an alias, the other packages are no better off. -/
theorem needsAlias_adding (scope : ImportScope) (path other : String) :
    (scope.adding path).needsAlias other = (scope.needsAlias other && !other == path) := by
  have found : (Assoc.find? other (scope.adding path).added).isNone =
      ((Assoc.find? other scope.added).isNone && !other == path) := by
    rw [Bool.eq_iff_iff, Bool.and_eq_true, Option.isNone_iff_eq_none, Option.isNone_iff_eq_none,
      Assoc.find?_eq_none, Assoc.find?_eq_none]
    simp [adding]
  rw [needsAlias, found, ← Bool.and_assoc]
  rfl

/-- New aliases come in the order in which their packages are needed first. -/
theorem spellPieces_added (scope : ImportScope) (pieces : List TypePiece) :
    let after := (scope.spellPieces pieces).2
    ∃ entries, after.added = scope.added ++ entries ∧
      entries.map Prod.fst =
        ((pieces.filterMap TypePiece.path?).filter scope.needsAlias).eraseDups ∧
      ∀ entry ∈ entries, after.qualifier entry.1 = (some entry.2, after) := by
  induction pieces generalizing scope with
  | nil => exact ⟨[], (List.append_nil _).symm, rfl, List.forall_mem_nil _⟩
  | cons piece rest ih =>
      cases piece with
      | plain c => exact ih scope
      | mention path name =>
          have step : (scope.spellPieces (.mention path name :: rest)).2 =
              ((scope.qualifier path).2.spellPieces rest).2 := by
            rw [spellPieces, spellPiece]
            rcases scope.qualifier path with ⟨_ | qualifier, after⟩ <;> rfl
          have mentioned : (TypePiece.mention path name :: rest).filterMap TypePiece.path? =
              path :: rest.filterMap TypePiece.path? := rfl
          rw [step, mentioned, List.filter_cons]
          cases needs : scope.needsAlias path with
          | false =>
              -- the package has a name, so the scope stays as it is
              rw [qualifier_of_named needs]
              exact ih scope
          | true =>
              have named := qualifier_of_needsAlias needs
              have keeps := (scope.qualifier path).2.spellPieces_keeps rest
              have kept := qualifier_kept keeps
              rw [named] at kept ⊢
              obtain ⟨entries, added, order, later⟩ := ih (scope.adding path)
              -- what still needs an alias is what needed one before, but for this package
              have others : (rest.filterMap TypePiece.path?).filter (scope.adding path).needsAlias =
                  ((rest.filterMap TypePiece.path?).filter scope.needsAlias).filter
                    fun other => !other == path := by
                rw [List.filter_filter]
                refine List.filter_congr fun other _ => ?_
                rw [needsAlias_adding, Bool.and_comm]
              refine ⟨(path, scope.freshAlias path) :: entries, ?_, ?_, ?_⟩
              · rw [added, adding, List.append_assoc]
                rfl
              · rw [if_pos rfl, List.eraseDups_cons, ← others, ← order]
                rfl
              · exact List.forall_mem_cons.mpr ⟨kept, later⟩

end ImportScope

/-- A type in a unit that imports only one of its two packages. -/
example :
    let worker : TypeForm := .named "example.com/app/worker" "W" (by decide) (by decide)
    let reader : TypeForm := .named "io" "Reader" (by decide) (by decide)
    let int : TypeForm := .bare ⟨"int", by decide⟩
    let convert : TypeForm := .function
      (.slot [] (.array ⟨"4", by decide⟩ reader) (.variadic [] int)) (.slot [] reader .none)
    let form : TypeForm := .map worker (.channel .both (.channel .receive convert))
    let unit : CompilationUnit :=
      { (default : CompilationUnit) with imports := [⟨some "w", "example.com/app/worker"⟩] }
    form.canonical.text =
        "map[example.com/app/worker.W]chan (<-chan func([4]io.Reader, ...int) io.Reader)" ∧
      (ImportScope.spell ⟨unit, [], []⟩ form.canonical).1 =
        "map[w.W]chan (<-chan func([4]_ag_io.Reader, ...int) _ag_io.Reader)" := by
  decide +kernel

end AspectLoom
