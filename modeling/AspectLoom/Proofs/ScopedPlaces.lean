import AspectLoom.Proofs.ScopeRules
/-!
Going through a tree in the order of its pieces. The names that were declared on the way to a use,
less those of the blocks that were left, are the names in scope at its place.
-/
namespace AspectLoom.Scoping

open Syntax (Node Kind)

/-- A use in some pieces, with the names that were declared before it and still count. -/
inductive UsedAfter (source : String) : List Piece → Node → Bool → List String → Prop where
  | use (name : Node) (isOperand : Bool) (rest : List Piece) :
      UsedAfter source (.use name isOperand :: rest) name isOperand []
  | inside {child name : Node} {isOperand : Bool} {hidden : List String} (rest : List Piece)
      (used : UsedAfter source (pieces source child) name isOperand hidden) :
      UsedAfter source (.part child :: rest) name isOperand hidden
  | later {rest : List Piece} {name : Node} {isOperand : Bool} {hidden : List String}
      (piece : Piece) (used : UsedAfter source rest name isOperand hidden) :
      UsedAfter source (piece :: rest) name isOperand
        ((piece.declared source).map Prod.fst ++ hidden)

section
variable {source : String} {node child inner name other : Node} {isOperand isOther : Bool}
  {hidden otherHidden : List String} {all more : List Piece} {piece : Piece}

theorem usedAfter_append (more : List Piece) (used : UsedAfter source all name isOperand hidden) :
    UsedAfter source (all ++ more) name isOperand hidden := by
  induction used with
  | use name isOperand rest => exact .use name isOperand _
  | inside rest used _ => exact .inside _ used
  | later piece _ ih => exact .later piece ih

theorem usedAfter_behind (front : List Piece)
    (used : UsedAfter source all name isOperand hidden) :
    UsedAfter source (front ++ all) name isOperand
      ((front.flatMap (Piece.declared source)).map Prod.fst ++ hidden) := by
  induction front with
  | nil => exact used
  | cons piece rest ih =>
      rw [List.flatMap_cons, List.map_append, List.append_assoc]
      exact .later piece ih

/-- What a use is, or where it is, among some pieces. -/
theorem usedAfter_split (used : UsedAfter source all name isOperand hidden) :
    ∃ front piece back inner, all = front ++ piece :: back ∧
      hidden = (front.flatMap (Piece.declared source)).map Prod.fst ++ inner ∧
      ((piece = .use name isOperand ∧ inner = []) ∨
        ∃ child, piece = .part child ∧
          UsedAfter source (pieces source child) name isOperand inner) := by
  induction used with
  | use name isOperand rest => exact ⟨[], _, rest, [], rfl, rfl, .inl ⟨rfl, rfl⟩⟩
  | inside rest used _ => exact ⟨[], _, rest, _, rfl, rfl, .inr ⟨_, rfl, used⟩⟩
  | later piece _ ih =>
      obtain ⟨front, found, back, inner, rfl, rfl, is⟩ := ih
      refine ⟨piece :: front, found, back, inner, rfl, ?_, is⟩
      rw [List.flatMap_cons, List.map_append, List.append_assoc]

theorem usedAfter_append_cases (used : UsedAfter source (all ++ more) name isOperand hidden) :
    UsedAfter source all name isOperand hidden ∨
      ∃ last, UsedAfter source more name isOperand last ∧
        hidden = (all.flatMap (Piece.declared source)).map Prod.fst ++ last := by
  induction all generalizing hidden with
  | nil => exact .inr ⟨hidden, used, rfl⟩
  | cons piece rest ih =>
      cases used with
      | use => exact .inl (.use _ _ _)
      | inside _ used => exact .inl (.inside _ used)
      | later piece used =>
          rcases ih used with here | ⟨last, there, rfl⟩
          · exact .inl (.later piece here)
          · refine .inr ⟨last, there, ?_⟩
            rw [List.flatMap_cons, List.map_append, List.append_assoc]

/-! Uses -/

theorem uses_part (isPart : .part child ∈ pieces source node)
    (uses : Uses source child name isOperand) : Uses source node name isOperand := by
  obtain ⟨inner, holds, used⟩ := uses
  exact ⟨inner, .part isPart holds, used⟩

theorem usedAfter_of_mem (member : piece ∈ all)
    (used : UsedAfter source [piece] name isOperand hidden) :
    ∃ hidden, UsedAfter source all name isOperand hidden := by
  obtain ⟨front, back, rfl⟩ := List.append_of_mem member
  exact ⟨_, usedAfter_behind front (usedAfter_append back used)⟩

theorem usedAfter_uses (used : UsedAfter source all name isOperand hidden) : ∃ piece ∈ all,
    piece = .use name isOperand ∨
      ∃ child, piece = .part child ∧ Uses source child name isOperand := by
  induction used with
  | use name isOperand rest => exact ⟨_, List.mem_cons_self, .inl rfl⟩
  | @inside child name isOperand hidden rest _ ih =>
      refine ⟨_, List.mem_cons_self, .inr ⟨child, rfl, ?_⟩⟩
      obtain ⟨piece, member, rfl | ⟨inner, rfl, uses⟩⟩ := ih
      · exact ⟨child, .self child, member⟩
      · exact uses_part member uses
  | later piece _ ih =>
      obtain ⟨found, member, is⟩ := ih
      exact ⟨found, List.mem_cons_of_mem _ member, is⟩

/-- Every use is come to. -/
theorem uses_iff : Uses source node name isOperand ↔
    ∃ hidden, UsedAfter source (pieces source node) name isOperand hidden := by
  constructor
  · rintro ⟨inner, holds, used⟩
    induction holds with
    | self node => exact usedAfter_of_mem used (.use name isOperand [])
    | part isPart _ ih =>
        obtain ⟨hidden, inside⟩ := ih used
        exact usedAfter_of_mem isPart (.inside [] inside)
  · rintro ⟨hidden, used⟩
    obtain ⟨piece, member, rfl | ⟨child, rfl, uses⟩⟩ := usedAfter_uses used
    · exact ⟨node, .self node, member⟩
    · exact uses_part member uses

theorem pieces_identifier (source : String) (kind : node.kind = .identifier) :
    pieces source node = [.use node false] := by
  simp [pieces, kind, Resolver.isSkipped, Kind.isType]

theorem pieces_selector (source : String) {operand field : Node}
    (kind : node.kind = .selectorExpression) (found : node.child? .operand = some operand)
    (fieldFound : node.child? .field = some field) :
    pieces source node =
      if operand.kind = .identifier then [.use operand true] else [.part operand] := by
  simp [pieces, kind, Resolver.isSkipped, Kind.isType, found, fieldFound]

/-- The names that a node is about: a bare name, or the name in front of a selector. -/
inductive Refers (node : Node) : Node → Bool → Prop where
  | bare (kind : node.kind = .identifier) : Refers node node false
  | operand {name field : Node} (kind : node.kind = .selectorExpression)
      (found : node.child? .operand = some name) (fieldFound : node.child? .field = some field)
      (isName : name.kind = .identifier) : Refers node name true

theorem refers_of_mem (member : .use name isOperand ∈ pieces source node) :
    Refers node name isOperand := by
  unfold pieces at member
  split at member
  · cases member
  · split at member
    all_goals rename_i kind
    -- functions
    iterate 3 simp at member
    · cases List.mem_singleton.mp member
      exact .bare kind
    · split at member
      · rename_i operand field found fieldFound
        split at member
        · rename_i isName
          cases List.mem_singleton.mp member
          exact .operand kind found fieldFound isName
        · cases List.mem_singleton.mp member
      · simp at member
    iterate 5 simp at member
    -- clauses
    iterate 2
      split at member <;> simp at member
    iterate 2 simp at member

/-- A use is all that its node is about. -/
theorem use_cases (member : .use name isOperand ∈ pieces source node) :
    pieces source node = [.use name isOperand] ∧ name.kind = .identifier ∧
      (name = node ∨ name ∈ node.children) := by
  cases refers_of_mem member with
  | bare kind => exact ⟨pieces_identifier source kind, kind, .inl rfl⟩
  | operand kind found fieldFound isName =>
      refine ⟨?_, isName, .inr (Node.mem_of_child? found)⟩
      rw [pieces_selector source kind found fieldFound, if_pos isName]

/-! Places of uses -/

theorem use_between (laid : node.Laid) (member : .use name isOperand ∈ pieces source node) :
    node.start ≤ name.start ∧ name.start < name.stop ∧ name.stop ≤ node.stop := by
  obtain ⟨_, kind, rfl | among⟩ := use_cases member
  · have filled := (Node.laid_arranged laid).filled (.inl kind)
    exact ⟨Nat.le_refl _, filled, Nat.le_refl _⟩
  · have filled := (Node.laid_arranged (Node.laid_children laid among)).filled (.inl kind)
    have inside := Node.laid_inside laid among
    exact ⟨inside.1, filled, inside.2⟩

theorem holds_between (laid : node.Laid) (holds : Holds source node inner) :
    inner.Laid ∧ node.start ≤ inner.start ∧ inner.stop ≤ node.stop := by
  induction holds with
  | self node => exact ⟨laid, Nat.le_refl _, Nat.le_refl _⟩
  | part isPart _ ih =>
      have among := mem_children isPart
      have inside := Node.laid_inside laid among
      obtain ⟨innerLaid, starts, stops⟩ := ih (Node.laid_children laid among)
      exact ⟨innerLaid, by omega, by omega⟩

theorem uses_between (laid : node.Laid) (uses : Uses source node name isOperand) :
    node.start ≤ name.start ∧ name.start < name.stop ∧ name.stop ≤ node.stop := by
  obtain ⟨inner, holds, used⟩ := uses
  obtain ⟨innerLaid, starts, stops⟩ := holds_between laid holds
  have between := use_between innerLaid used
  omega

theorem holds_size (holds : Holds source node inner) : sizeOf inner ≤ sizeOf node := by
  induction holds with
  | self node => exact Nat.le_refl _
  | part isPart _ ih => exact Nat.le_trans ih (Nat.le_of_lt (sizeOf_part_lt isPart))

/-- Two parts that share a place are the same. -/
theorem part_unique {place : Nat} (laid : node.Laid) (isPart : .part child ∈ pieces source node)
    (isOther : .part other ∈ pieces source node)
    (inside : child.start ≤ place ∧ place < child.stop)
    (otherInside : other.start ≤ place ∧ place < other.stop) : other = child := by
  by_contra different
  rcases Node.laid_apart laid (mem_children isOther) (mem_children isPart) different with
    before | behind
  · change other.stop ≤ child.start at before
    omega
  · change child.stop ≤ other.start at behind
    omega

theorem uses_cases (uses : Uses source node name isOperand) :
    .use name isOperand ∈ pieces source node ∨
      ∃ child, .part child ∈ pieces source node ∧ Uses source child name isOperand := by
  obtain ⟨inner, holds, used⟩ := uses
  cases holds with
  | self => exact .inl used
  | part isPart holds => exact .inr ⟨_, isPart, inner, holds, used⟩

/-- There is one use at most at a place. -/
theorem uses_unique (node : Node) (laid : node.Laid) (uses : Uses source node name isOperand)
    (others : Uses source node other isOther) (same : other.start = name.start) :
    other = name ∧ isOther = isOperand := by
  rcases uses_cases uses with used | ⟨child, isPart, inner⟩
  · have alone := (use_cases used).1
    rcases uses_cases others with otherUsed | ⟨_, isOther, _⟩
    · rw [alone] at otherUsed
      cases List.mem_singleton.mp otherUsed
      exact ⟨rfl, rfl⟩
    · rw [alone] at isOther
      cases List.mem_singleton.mp isOther
  · rcases uses_cases others with otherUsed | ⟨otherChild, isOther, otherInner⟩
    · rw [(use_cases otherUsed).1] at isPart
      cases List.mem_singleton.mp isPart
    · have childLaid := Node.laid_children laid (mem_children isPart)
      have between := uses_between childLaid inner
      have otherBetween :=
        uses_between (Node.laid_children laid (mem_children isOther)) otherInner
      have here : child.start ≤ name.start ∧ name.start < child.stop := by omega
      cases part_unique laid isPart isOther here (by omega)
      exact uses_unique child childLaid inner otherInner same
termination_by sizeOf node
decreasing_by exact sizeOf_part_lt isPart

/-- What is in scope at a place in a part was declared around the part or is in scope in it. -/
theorem inScope_part_iff {place : Nat} {text : String} (laid : node.Laid)
    (isPart : .part child ∈ pieces source node)
    (inside : child.start ≤ place ∧ place < child.stop) :
    InScope source node text place ↔
      (∃ begins, (text, begins) ∈ declared source node ∧ begins ≤ place) ∨
        InScope source child text place := by
  have around : node.start ≤ place ∧ place < node.stop := by
    have wide := Node.laid_inside laid (mem_children isPart)
    omega
  constructor
  · rintro ⟨block, holds, isOne, within, begins⟩
    cases holds with
    | self => exact .inl begins
    | @part _ other _ isOther holds =>
        right
        have otherLaid := Node.laid_children laid (mem_children isOther)
        have held := holds_between otherLaid holds
        have same := part_unique laid isPart isOther inside (by omega)
        subst same
        refine ⟨block, holds, ?_, within, begins⟩
        refine .inr (isOne.resolve_left ?_)
        rintro rfl
        have smaller := sizeOf_part_lt isPart
        have larger := holds_size holds
        omega
  · rintro (⟨begins, declares, before⟩ | ⟨block, holds, isOne, within, begins⟩)
    · exact ⟨node, .self node, .inl rfl, around, begins, declares, before⟩
    · by_cases isBlock : isBlock block = true
      · exact ⟨block, .part isPart holds, .inr isBlock, within, begins⟩
      · cases isOne.resolve_right isBlock
        obtain ⟨begins, declares, before⟩ := begins
        refine ⟨node, .self node, .inl rfl, around, begins, ?_, before⟩
        refine mem_declared_iff.mpr ⟨_, isPart, ?_⟩
        rw [Piece.declared, if_neg isBlock]
        exact declares

section
variable {text : String} {begins place : Nat}

theorem declares_before (laid : node.Laid) (member : piece ∈ pieces source node)
    (before : piece.Before source (.part child))
    (declares : (text, begins) ∈ piece.declared source) :
    begins ≤ child.start := by
  cases piece with
  | part earlier =>
      rcases before with apart | ⟨nothing, _⟩
      · rw [Piece.declared] at declares
        split at declares
        · cases declares
        · have earlierLaid := Node.laid_children laid (mem_children member)
          exact Nat.le_trans (declared_between earlier earlierLaid declares).2 apart
      · rw [nothing] at declares
        cases declares
  | declare names _ =>
      obtain ⟨_, _, rfl⟩ := mem_declare_iff.mp declares
      exact before
  | use => cases declares

theorem declares_behind (laid : node.Laid) (member : piece ∈ pieces source node)
    (before : (Piece.part child).Before source piece)
    (declares : (text, begins) ∈ piece.declared source) : child.stop ≤ begins := by
  cases piece with
  | part later =>
      rcases before with apart | ⟨_, nothing⟩
      · rw [Piece.declared] at declares
        split at declares
        · cases declares
        · have laterLaid := Node.laid_children laid (mem_children member)
          exact Nat.le_trans apart (declared_between later laterLaid declares).1
      · rw [nothing] at declares
        cases declares
  | declare names _ =>
      obtain ⟨_, _, rfl⟩ := mem_declare_iff.mp declares
      exact before
  | use => cases declares

theorem inScope_of_declares (declares : (text, begins) ∈ (Piece.part child).declared source)
    (inside : child.start ≤ place ∧ place < child.stop) (before : begins ≤ place) :
    InScope source child text place := by
  rw [Piece.declared] at declares
  split at declares
  · cases declares
  · exact ⟨child, .self child, .inl rfl, inside, begins, declares, before⟩

theorem not_inScope_of_use {used : Node} {isOperand : Bool}
    (alone : pieces source node = [.use used isOperand]) :
    ¬ InScope source node text place := by
  rintro ⟨block, holds, _, _, begins, declares, _⟩
  cases holds with
  | self =>
      rw [declared_eq, alone] at declares
      simp [Piece.declared] at declares
  | part isPart _ =>
      rw [alone] at isPart
      cases List.mem_singleton.mp isPart

/-- What is in scope in a part was declared before the part or is in scope by the part itself: what is
declared behind the part begins behind it. -/
theorem declared_or_inScope_iff {front back : List Piece} (formed : Formed node)
    (split : pieces source node = front ++ .part child :: back)
    (inside : child.start ≤ place ∧ place < child.stop) :
    text ∈ (front.flatMap (Piece.declared source)).map Prod.fst ∨ InScope source child text place ↔
      (∃ begins, (text, begins) ∈ declared source node ∧ begins ≤ place) ∨
        InScope source child text place := by
  have ordered : (pieces source node).Pairwise (Piece.Before source) := pieces_before formed
  rw [split] at ordered
  obtain ⟨_, following, behind⟩ := List.pairwise_append.mp ordered
  obtain ⟨later, _⟩ := List.pairwise_cons.mp following
  constructor
  · rintro (before | inner)
    · obtain ⟨⟨_, begins⟩, declares, rfl⟩ := List.mem_map.mp before
      obtain ⟨earlier, among, declares⟩ := List.mem_flatMap.mp declares
      have member : earlier ∈ pieces source node := split ▸ List.mem_append_left _ among
      have ends := declares_before formed.laid member (behind earlier among _ List.mem_cons_self)
        declares
      exact .inl ⟨begins, mem_declared_iff.mpr ⟨earlier, member, declares⟩, by omega⟩
    · exact .inr inner
  · rintro (⟨begins, declares, before⟩ | inner)
    · obtain ⟨other, member, declares⟩ := mem_declared_iff.mp declares
      rcases List.mem_append.mp (split ▸ member) with earlier | rest
      · exact .inl (List.mem_map.mpr ⟨_, List.mem_flatMap.mpr ⟨other, earlier, declares⟩, rfl⟩)
      rcases List.mem_cons.mp rest with rfl | behindIt
      · exact .inr (inScope_of_declares declares inside before)
      · have ends := declares_behind formed.laid member (later other behindIt) declares
        omega
    · exact .inr inner

end

/-- The names that were declared before a use and still count are those in scope at its place. The
recursion is down to the use: each node on the way adds what its pieces before the next one declare. -/
theorem hidden_iff (node : Node) (formed : Formed node) {hidden : List String}
    (used : UsedAfter source (pieces source node) name isOperand hidden) (text : String) :
    text ∈ hidden ↔ InScope source node text name.start := by
  obtain ⟨front, piece, back, inner, split, rfl, is⟩ := usedAfter_split used
  have member : piece ∈ pieces source node := by
    rw [split]
    simp
  rcases is with ⟨rfl, rfl⟩ | ⟨child, rfl, innerUsed⟩
  · obtain ⟨alone, _⟩ := use_cases member
    have frontless : front = [] := by
      rw [alone] at split
      cases front with
      | nil => rfl
      | cons first rest => simp at split
    subst frontless
    exact iff_of_false (by simp) (not_inScope_of_use alone)
  · have childFormed := formed_child formed (mem_children member)
    have place := uses_between childFormed.laid (uses_iff.mpr ⟨_, innerUsed⟩)
    have inside : child.start ≤ name.start ∧ name.start < child.stop := by omega
    rw [List.mem_append, hidden_iff child childFormed innerUsed text,
      inScope_part_iff formed.laid member inside]
    exact declared_or_inScope_iff formed split inside
termination_by sizeOf node
decreasing_by exact sizeOf_part_lt member

end
end AspectLoom.Scoping
