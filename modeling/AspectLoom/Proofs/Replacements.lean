import AspectLoom.Proofs.IssuedNames
import AspectLoom.Proofs.WovenText
import Mathlib.Data.List.Forall2
import Mathlib.Data.List.Nodup
import Mathlib.Data.List.TakeWhile
/-!
Weaving a unit replaces its join points and nothing else.
-/
namespace AspectLoom.UnitWeaver

open Actions

/-- What a session has issued between two moments. -/
structure Grown (before after : WeaveSession) (pairs : List ProxyPair) : Prop where
  pairs_eq : after.pairs = before.pairs ++ pairs
  issued_eq : after.names.issued =
    (pairs.map fun pair => pair.names.proxy).reverse ++ before.names.issued
  fresh : ∀ pair ∈ pairs, pair.names.proxy ∉ before.names.issued
  distinct : (pairs.map fun pair => pair.names.proxy).Nodup
  ofProxy : ∀ pair ∈ pairs, pair.names = .ofProxy pair.names.proxy

theorem grown_refl (session : WeaveSession) : Grown session session [] where
  pairs_eq := by simp
  issued_eq := by simp
  fresh := by simp
  distinct := by simp
  ofProxy := by simp

theorem grown_trans {first second third : WeaveSession} {left right : List ProxyPair}
    (begins : Grown first second left) (goesOn : Grown second third right) :
    Grown first third (left ++ right) where
  pairs_eq := by rw [goesOn.pairs_eq, begins.pairs_eq, List.append_assoc]
  issued_eq := by
    rw [goesOn.issued_eq, begins.issued_eq, List.map_append, List.reverse_append,
      List.append_assoc]
  fresh := by
    intro pair member
    rcases List.mem_append.mp member with earlier | later
    · exact begins.fresh pair earlier
    · intro known
      apply goesOn.fresh pair later
      rw [begins.issued_eq]
      exact List.mem_append_right _ known
  distinct := by
    rw [List.map_append, List.nodup_append]
    refine ⟨begins.distinct, goesOn.distinct, ?_⟩
    rintro proxy earlier _ later rfl
    obtain ⟨pair, member, rfl⟩ := List.mem_map.mp later
    apply goesOn.fresh pair member
    rw [begins.issued_eq]
    exact List.mem_append_left _ (List.mem_reverse.mpr earlier)
  ofProxy := by
    intro pair member
    rcases List.mem_append.mp member with earlier | later
    · exact begins.ofProxy pair earlier
    · exact goesOn.ofProxy pair later

/-- How the reference at a join point reaches what it names. -/
def calleeOf : Shape → Option Callee
  | .ident name => some (.function none name)
  | .qualified qualifier name => some (.function (some qualifier) name)
  | .selector _ name _ => some (.method name)
  | .unsupported _ => none

/-- The pair that a reference gets: its declaration as it is spelled in some scope, its advice and
its names. -/
def PairOf (package : TargetPackage) (imports : ProxyImports)
    (call : JoinPoint × SyntheticNames) (pair : ProxyPair) : Prop :=
  ∃ decl callee scope, package.symbols.get? call.1.decl = some decl ∧
    calleeOf call.1.site.shape = some callee ∧
    pair = (Advised.mk (SpelledSignature.ofDeclaration scope decl decl.receiver).1
      call.1.advice callee call.2).pair imports

theorem pairOf_names {package : TargetPackage} {imports : ProxyImports}
    {call : JoinPoint × SyntheticNames} {pair : ProxyPair}
    (made : PairOf package imports call pair) : pair.names = call.2 := by
  obtain ⟨decl, callee, scope, _, _, rfl⟩ := made
  rfl

variable {weaver : UnitWeaver} {memory final : UnitMemory}

/-- A generated call comes with one pair, which the session keeps. -/
theorem call_ok {point : JoinPoint} {decl : Declaration} {callee : Callee} {receiver text : String}
    (ran : runFrom (weaver.call point decl callee receiver) memory = (.ok text, final)) :
    ∃ names scope, text = replacement names receiver ∧
      Grown memory.session final.session
        [(Advised.mk (SpelledSignature.ofDeclaration scope decl decl.receiver).1
          point.advice callee names).pair weaver.imports] := by
  unfold call at ran
  obtain ⟨names, named, issued, ran⟩ := runFrom_bind_ok ran
  rw [runFrom_nextNames] at issued
  split at issued
  · rename_i given session next
    obtain ⟨ofProxy, fresh, grows⟩ := NameSession.next_ok next
    cases issued
    cases ran
    refine ⟨names, memory.scope, rfl, ⟨rfl, ?_, ?_, ?_, ?_⟩⟩
    · simpa [Advised.pair] using grows
    · simpa [Advised.pair] using fresh
    · simp
    · simpa [Advised.pair] using ofProxy
  · cases issued

/-- A reference is replaced in one of two ways: a function's at once, a method's after its operand. -/
theorem weavePoint_ok {point : JoinPoint} {nested : List JoinPoint} {text : String}
    (ran : runFrom (weaver.weavePoint point nested) memory = (.ok text, final)) :
    ∃ decl callee, weaver.package.symbols.get? point.decl = some decl ∧
      calleeOf point.site.shape = some callee ∧
      ((decl.receiver = none ∧
          (∀ operand name type, point.site.shape ≠ .selector operand name type) ∧
          runFrom (weaver.call point decl callee "") memory = (.ok text, final)) ∨
        ∃ operand name operandType receiver inner middle,
          point.site.shape = .selector operand name operandType ∧ decl.receiver = some receiver ∧
          runFrom (weaver.weaveText operand.start operand.stop (within operand nested)) memory =
            (.ok inner, middle) ∧
          runFrom (weaver.call point decl callee (adaptReceiver inner operandType receiver)) middle =
            (.ok text, final)) := by
  rw [weavePoint] at ran
  cases known : weaver.package.symbols.get? point.decl with
  | none =>
      rw [known] at ran
      cases ran
  | some decl =>
      rw [known] at ran
      dsimp only at ran
      cases shape : point.site.shape with
      | ident name =>
          cases receiver : decl.receiver with
          | none =>
              rw [shape, receiver] at ran
              exact ⟨decl, _, rfl, rfl, .inl ⟨receiver, by simp, ran⟩⟩
          | some type =>
              rw [shape, receiver] at ran
              cases ran
      | qualified qualifier name =>
          cases receiver : decl.receiver with
          | none =>
              rw [shape, receiver] at ran
              exact ⟨decl, _, rfl, rfl, .inl ⟨receiver, by simp, ran⟩⟩
          | some type =>
              rw [shape, receiver] at ran
              cases ran
      | selector operand name operandType =>
          cases receiver : decl.receiver with
          | none =>
              rw [shape, receiver] at ran
              cases ran
          | some type =>
              rw [shape, receiver] at ran
              obtain ⟨inner, middle, operandRan, called⟩ := runFrom_bind_ok ran
              exact ⟨decl, _, rfl, rfl, .inr ⟨operand, name, operandType, type, inner, middle, rfl,
                receiver, operandRan, called⟩⟩
      | unsupported kind =>
          rw [shape] at ran
          cases ran

/-! What is nested in a join point -/

theorem nestedIn_append_after (point : JoinPoint) (rest : List JoinPoint) :
    nestedIn point rest ++ after point rest = rest := List.takeWhile_append_dropWhile

theorem nestedIn_begins {point inner : JoinPoint} {rest : List JoinPoint}
    (member : inner ∈ nestedIn point rest) :
    inner.site.span.start < point.site.span.stop := by
  simpa using List.mem_takeWhile_imp member

/-- Behind the first join point that begins beyond an end all others do so too. -/
theorem after_begins {point : JoinPoint} {rest : List JoinPoint}
    (ordered : rest.Pairwise fun left right => left.site.span.start ≤ right.site.span.start) :
    ∀ later ∈ after point rest, point.site.span.stop ≤ later.site.span.start := by
  induction rest with
  | nil => simp [after]
  | cons first rest ih =>
      obtain ⟨below, restOrdered⟩ := List.pairwise_cons.mp ordered
      intro later member
      unfold after at member
      rw [List.dropWhile_cons] at member
      split at member
      · exact ih restOrdered later member
      · rename_i beyond
        simp only [decide_eq_true_eq, not_lt] at beyond
        rcases List.mem_cons.mp member with rfl | behind
        · exact beyond
        · exact beyond.trans (below later behind)

/-- The join points of a stretch of the source, in order and with all their ends in it. -/
structure InStretch (source : String) (start stop : Nat) (points : List JoinPoint) : Prop where
  follows : points.Pairwise JoinPoint.Follows
  onPlaces : ∀ point ∈ points, point.site.OnPlaces source
  filled : ∀ point ∈ points, point.site.span.start < point.site.span.stop
  operandInside : ∀ point ∈ points, ∀ operand name type,
    point.site.shape = .selector operand name type →
      operand.start ≤ operand.stop ∧ point.site.span.contains operand = true
  inside : ∀ point ∈ points, start ≤ point.site.span.start ∧ point.site.span.stop ≤ stop

section
variable {source : String} {start stop : Nat} {point : JoinPoint} {rest : List JoinPoint}

theorem inStretch_mono {low high : Nat} {points kept : List JoinPoint}
    (stretch : InStretch source start stop points) (sublist : kept.Sublist points)
    (inside : ∀ point ∈ kept, low ≤ point.site.span.start ∧ point.site.span.stop ≤ high) :
    InStretch source low high kept where
  follows := stretch.follows.sublist sublist
  onPlaces := fun point member => stretch.onPlaces point (sublist.subset member)
  filled := fun point member => stretch.filled point (sublist.subset member)
  operandInside := fun point member => stretch.operandInside point (sublist.subset member)
  inside := inside

/-- What begins in a join point lies in its operand. -/
theorem nestedIn_inOperand (follows : (point :: rest).Pairwise JoinPoint.Follows) :
    ∀ inner ∈ nestedIn point rest, inner.site.InOperand point.site := by
  intro inner member
  have begins := nestedIn_begins member
  have following := (List.pairwise_cons.mp follows).1 inner
    ((List.takeWhile_sublist _).subset member)
  rcases following with beyond | within
  · omega
  · exact within

theorem nestedIn_function (follows : (point :: rest).Pairwise JoinPoint.Follows)
    (function : ∀ operand name type, point.site.shape ≠ .selector operand name type) :
    nestedIn point rest = [] := by
  rw [List.eq_nil_iff_forall_not_mem]
  intro inner member
  obtain ⟨operand, name, type, shape, _⟩ := nestedIn_inOperand follows inner member
  exact function operand name type shape

theorem nestedIn_held {operand : Span} {name : String} {type : GoType}
    (follows : (point :: rest).Pairwise JoinPoint.Follows)
    (method : point.site.shape = .selector operand name type) :
    ∀ inner ∈ nestedIn point rest, operand.contains inner.site.span = true := by
  intro inner member
  obtain ⟨other, _, _, shape, inside⟩ := nestedIn_inOperand follows inner member
  rw [method] at shape
  cases shape
  exact inside

theorem within_nestedIn {operand : Span} {name : String} {type : GoType}
    (follows : (point :: rest).Pairwise JoinPoint.Follows)
    (method : point.site.shape = .selector operand name type) :
    within operand (nestedIn point rest) = nestedIn point rest :=
  List.filter_eq_self.mpr (nestedIn_held follows method)

theorem nestedIn_method {operand : Span} {name : String} {type : GoType}
    (stretch : InStretch source start stop (point :: rest))
    (method : point.site.shape = .selector operand name type) :
    InStretch source operand.start operand.stop (nestedIn point rest) := by
  refine inStretch_mono stretch ?_ ?_
  · exact (List.takeWhile_sublist _).trans (List.sublist_cons_self _ _)
  · intro inner member
    exact (Span.contains_iff ..).mp (nestedIn_held stretch.follows method inner member)

theorem after_inStretch (stretch : InStretch source start stop (point :: rest)) :
    InStretch source point.site.span.stop stop (after point rest) := by
  have ordered : rest.Pairwise fun left right =>
      left.site.span.start ≤ right.site.span.start := by
    apply (List.pairwise_cons.mp stretch.follows).2.imp_of_mem
    intro left right leftMember _ follows
    have filled := stretch.filled left (List.mem_cons_of_mem _ leftMember)
    rcases follows with beyond | ⟨operand, name, type, shape, within⟩
    · omega
    · have own := (stretch.operandInside left (List.mem_cons_of_mem _ leftMember) _ _ _ shape).2
      rw [Span.contains_iff] at within own
      omega
  refine inStretch_mono stretch ?_ ?_
  · exact (List.dropWhile_sublist _).trans (List.sublist_cons_self _ _)
  · intro later member
    have kept := (List.dropWhile_sublist _).subset member
    exact ⟨after_begins ordered later member,
      (stretch.inside later (List.mem_cons_of_mem _ kept)).2⟩

end

/-- The text that weaving gives for a stretch, together with the pairs that it makes, is that of
the stretch cut at its join points. -/
structure CutFor (weaver : UnitWeaver) (start stop : Nat) (points : List JoinPoint)
    (memory final : UnitMemory) (text : String) (cut : WovenText) (pairs : List ProxyPair) :
    Prop where
  original : cut.original = weaver.unit.text ⟨start, stop⟩
  woven : cut.woven = text
  lies : cut.Lies weaver.package.symbols start
  perm : (cut.calls.map Prod.fst).Perm points
  made : List.Forall₂ (PairOf weaver.package weaver.imports) cut.calls pairs
  grown : Grown memory.session final.session pairs

section
variable {weaver : UnitWeaver} {start stop : Nat} {point : JoinPoint} {rest : List JoinPoint}
  {memory middle called final : UnitMemory} {names : SyntheticNames} {decl : Declaration}
  {pair : ProxyPair} {following : String} {restCut : WovenText} {restPairs : List ProxyPair}

/-- The stretch from its beginning to the end of its first join point. -/
theorem text_before (stretch : InStretch weaver.unit.source start stop (point :: rest))
    (opens : Text.IsPlace weaver.unit.source start) :
    start + (weaver.unit.text ⟨start, point.site.span.start⟩).utf8ByteSize =
      point.site.span.start :=
  Text.slice_size opens (stretch.onPlaces point List.mem_cons_self).starts
    (stretch.inside point List.mem_cons_self).1

theorem text_joined (stretch : InStretch weaver.unit.source start stop (point :: rest))
    (opens : Text.IsPlace weaver.unit.source start)
    (closes : Text.IsPlace weaver.unit.source stop) :
    weaver.unit.text ⟨start, point.site.span.start⟩ ++ weaver.unit.text point.site.span ++
      weaver.unit.text ⟨point.site.span.stop, stop⟩ = weaver.unit.text ⟨start, stop⟩ := by
  have places := stretch.onPlaces point List.mem_cons_self
  have filled := stretch.filled point List.mem_cons_self
  have inside := stretch.inside point List.mem_cons_self
  have first : weaver.unit.text ⟨start, point.site.span.start⟩ ++
      weaver.unit.text point.site.span = weaver.unit.text ⟨start, point.site.span.stop⟩ :=
    Text.slice_append opens places.starts places.stops inside.1 filled.le
  rw [first]
  exact Text.slice_append opens places.stops closes (inside.1.trans filled.le) inside.2

theorem cutFor_function (stretch : InStretch weaver.unit.source start stop (point :: rest))
    (opens : Text.IsPlace weaver.unit.source start) (closes : Text.IsPlace weaver.unit.source stop)
    (known : weaver.package.symbols.get? point.decl = some decl) (function : decl.receiver = none)
    (isFunction : ∀ operand name type, point.site.shape ≠ .selector operand name type)
    (made : PairOf weaver.package weaver.imports (point, names) pair)
    (grown : Grown memory.session middle.session [pair])
    (restFor : CutFor weaver point.site.span.stop stop (after point rest) middle final following
      restCut restPairs) :
    CutFor weaver start stop (point :: rest) memory final
      (weaver.unit.text ⟨start, point.site.span.start⟩ ++ replacement names "" ++ following)
      (.function (weaver.unit.text ⟨start, point.site.span.start⟩) point names
        (weaver.unit.text point.site.span) restCut)
      (pair :: restPairs) := by
  have places := stretch.onPlaces point List.mem_cons_self
  have before := text_before stretch opens
  have size : point.site.span.start + (weaver.unit.text point.site.span).utf8ByteSize =
      point.site.span.stop :=
    Text.slice_size places.starts places.stops (stretch.filled point List.mem_cons_self).le
  refine ⟨?_, ?_, ?_, ?_, .cons made restFor.made, grown_trans grown restFor.grown⟩
  · rw [WovenText.original, restFor.original]
    exact text_joined stretch opens closes
  · rw [WovenText.woven, restFor.woven]
    simp [replacement]
  · simp only [WovenText.Lies, before, size]
    exact ⟨trivial, ⟨decl, known, function⟩, restFor.lies⟩
  · have whole := nestedIn_append_after point rest
    rw [nestedIn_function stretch.follows isFunction, List.nil_append] at whole
    have perm := restFor.perm
    rw [whole] at perm
    exact perm.cons point

theorem cutFor_method {operand : Span} {name inner : String} {operandType receiver : GoType}
    {cut : WovenText} {pairs : List ProxyPair}
    (stretch : InStretch weaver.unit.source start stop (point :: rest))
    (opens : Text.IsPlace weaver.unit.source start) (closes : Text.IsPlace weaver.unit.source stop)
    (known : weaver.package.symbols.get? point.decl = some decl)
    (method : decl.receiver = some receiver)
    (shape : point.site.shape = .selector operand name operandType)
    (operandFor : CutFor weaver operand.start operand.stop (nestedIn point rest) memory middle inner
      cut pairs)
    (made : PairOf weaver.package weaver.imports (point, names) pair)
    (grown : Grown middle.session called.session [pair])
    (restFor : CutFor weaver point.site.span.stop stop (after point rest) called final following
      restCut restPairs) :
    CutFor weaver start stop (point :: rest) memory final
      (weaver.unit.text ⟨start, point.site.span.start⟩ ++
        replacement names (adaptReceiver inner operandType receiver) ++ following)
      (.method (weaver.unit.text ⟨start, point.site.span.start⟩) point names operandType receiver
        (weaver.unit.text ⟨point.site.span.start, operand.start⟩) cut
        (weaver.unit.text ⟨operand.stop, point.site.span.stop⟩) restCut)
      (pairs ++ pair :: restPairs) := by
  have places := stretch.onPlaces point List.mem_cons_self
  have operandPlaces := places.operand operand name operandType shape
  obtain ⟨ordered, held⟩ :=
    stretch.operandInside point List.mem_cons_self operand name operandType shape
  rw [Span.contains_iff] at held
  have before := text_before stretch opens
  -- The texts before, in and behind the operand are as long as their stretches of the source.
  have front : point.site.span.start +
      (weaver.unit.text ⟨point.site.span.start, operand.start⟩).utf8ByteSize = operand.start :=
    Text.slice_size places.starts operandPlaces.1 held.1
  have middleSize : operand.start + cut.original.utf8ByteSize = operand.stop := by
    rw [operandFor.original]
    exact Text.slice_size operandPlaces.1 operandPlaces.2 ordered
  have back : operand.stop +
      (weaver.unit.text ⟨operand.stop, point.site.span.stop⟩).utf8ByteSize =
        point.site.span.stop :=
    Text.slice_size operandPlaces.2 places.stops held.2
  refine ⟨?_, ?_, ?_, ?_, ?_, ?_⟩
  · have whole : weaver.unit.text ⟨point.site.span.start, operand.start⟩ ++ cut.original ++
        weaver.unit.text ⟨operand.stop, point.site.span.stop⟩ =
          weaver.unit.text point.site.span := by
      rw [operandFor.original]
      exact (congrArg (· ++ _) (Text.slice_append places.starts operandPlaces.1 operandPlaces.2
        held.1 ordered)).trans (Text.slice_append places.starts operandPlaces.2 places.stops
          (held.1.trans ordered) held.2)
    rw [WovenText.original, whole, restFor.original]
    exact text_joined stretch opens closes
  · rw [WovenText.woven, restFor.woven, operandFor.woven]
    rfl
  · simp only [WovenText.Lies, before, front, middleSize, back]
    exact ⟨trivial, ⟨name, shape⟩, ⟨decl, known, method⟩, operandFor.lies, restFor.lies⟩
  · simp only [WovenText.calls, List.map_append, List.map_cons]
    refine List.perm_middle.trans (List.Perm.cons point ?_)
    have joined := operandFor.perm.append restFor.perm
    rwa [nestedIn_append_after] at joined
  · exact List.rel_append operandFor.made (.cons made restFor.made)
  · exact grown_trans operandFor.grown (grown_trans grown restFor.grown)

end

theorem weaveText_cut (weaver : UnitWeaver) (count : Nat) :
    ∀ (points : List JoinPoint) (start stop : Nat) (memory final : UnitMemory) (text : String),
      points.length = count → InStretch weaver.unit.source start stop points →
      Text.IsPlace weaver.unit.source start → Text.IsPlace weaver.unit.source stop →
      runFrom (weaver.weaveText start stop points) memory = (.ok text, final) →
      ∃ cut pairs, CutFor weaver start stop points memory final text cut pairs := by
  induction count using Nat.strong_induction_on with
  | _ count ih =>
      intro points start stop memory final text length stretch opens closes ran
      cases points with
      | nil =>
          rw [weaveText] at ran
          cases ran
          exact ⟨.plain (weaver.unit.text ⟨start, stop⟩), [],
            ⟨rfl, rfl, trivial, .nil, .nil, grown_refl _⟩⟩
      | cons point rest =>
          rw [weaveText] at ran
          obtain ⟨replaced, called, pointRan, ran⟩ := runFrom_bind_ok ran
          obtain ⟨following, last, restRan, ran⟩ := runFrom_bind_ok ran
          cases ran
          have places := stretch.onPlaces point List.mem_cons_self
          have shorter := length_after_lt point point rest
          obtain ⟨restCut, restPairs, restFor⟩ := ih _ (by omega) (after point rest)
            point.site.span.stop stop called final following rfl (after_inStretch stretch)
            places.stops closes restRan
          obtain ⟨decl, callee, known, reached, function | method⟩ := weavePoint_ok pointRan
          · obtain ⟨isFunction, shape, callRan⟩ := function
            obtain ⟨names, scope, rfl, grown⟩ := call_ok callRan
            exact ⟨_, _, cutFor_function stretch opens closes known isFunction shape
              ⟨decl, callee, scope, known, reached, rfl⟩ grown restFor⟩
          · obtain ⟨operand, name, operandType, receiver, inner, middle, shape, isMethod,
              operandRan, callRan⟩ := method
            obtain ⟨names, scope, rfl, grown⟩ := call_ok callRan
            have nested := nestedIn_method stretch shape
            rw [within_nestedIn stretch.follows shape] at operandRan
            have fewer := length_nestedIn_lt point point rest
            have operandPlaces := places.operand operand name operandType shape
            obtain ⟨cut, pairs, operandFor⟩ := ih _ (by omega) (nestedIn point rest)
              operand.start operand.stop memory middle inner rfl nested operandPlaces.1
              operandPlaces.2 operandRan
            exact ⟨_, _, cutFor_method stretch opens closes known isMethod shape operandFor
              ⟨decl, callee, scope, known, reached, rfl⟩ grown restFor⟩

/-! Whole units -/

theorem run_ok {points : List JoinPoint} {woven : WovenUnit}
    (ran : runFrom (weaver.run points) memory = (.ok woven, final)) :
    ∃ text middle, runFrom (weaver.weaveText 0 weaver.unit.source.utf8ByteSize
        (JoinPoints.inOrder points)) memory = (.ok text, middle) ∧
      woven.body = weaver.insertImports (importBlock (weaver.missingImports middle.scope)) text ∧
      woven.pairs = middle.session.pairs ∧
      final.session = { middle.session with pairs := [] } := by
  unfold run at ran
  obtain ⟨text, middle, textRan, ran⟩ := runFrom_bind_ok ran
  refine ⟨text, middle, textRan, ?_⟩
  cases ran
  exact ⟨rfl, rfl, rfl⟩

/-- Imports go between what ends with the package clause and the rest of the text. -/
theorem insertImports_append (block head tail : String)
    (size : head.utf8ByteSize = weaver.unit.packageClause.stop) :
    weaver.insertImports block (head ++ tail) = head ++ block ++ tail := by
  have before := Text.slice_between "" head tail
  have behind := Text.slice_between head tail ""
  simp only [String.empty_append, String.utf8ByteSize_empty, Nat.zero_add,
    String.append_empty] at before behind
  simp only [insertImports, ← size, String.utf8ByteSize_append, before, behind]

/-- No reference of a cut text comes before the end of the package clause. -/
theorem clause_in_head {cut : WovenText} {source : String} {symbols : SymbolTable} {stop : Nat}
    (original : cut.original = source) (lies : cut.Lies symbols 0) (place : Text.IsPlace source stop)
    (beyond : ∀ call ∈ cut.calls, stop ≤ call.1.site.span.start) :
    ∃ head tail, head.utf8ByteSize = stop ∧ cut.woven = head ++ tail := by
  have fits : stop ≤ cut.head.utf8ByteSize := by
    cases cut with
    | plain text =>
        cases original
        exact Text.isPlace_le place
    | function before point names text rest =>
        have start := congrArg Span.start lies.1
        have later := beyond (point, names) List.mem_cons_self
        simp only [start, Nat.zero_add] at later
        exact later
    | method before point names operandType receiver front operand back rest =>
        have start := congrArg Span.start lies.1
        have later := beyond (point, names)
          (List.mem_append_right _ List.mem_cons_self)
        simp only [start, Nat.zero_add] at later
        exact later
  obtain ⟨rest, wovenRest, shared, sharedWoven⟩ := cut.head_shared
  rw [← original, shared] at place
  obtain ⟨head, behind, same, size⟩ := Text.isPlace_left place fits
  exact ⟨head, behind ++ wovenRest, size, by rw [sharedWoven, same, String.append_assoc]⟩

theorem inOrder_inStretch {unit : CompilationUnit} {points : List JoinPoint}
    (sites : SitesNested unit (points.map JoinPoint.site))
    (places : ∀ point ∈ points, point.site.OnPlaces unit.source) :
    InStretch unit.source 0 unit.source.utf8ByteSize (JoinPoints.inOrder points) := by
  have among : ∀ point ∈ JoinPoints.inOrder points, point ∈ points := fun point member =>
    (JoinPoints.inOrder_perm points).mem_iff.mp member
  have site : ∀ point ∈ JoinPoints.inOrder points, point.site ∈ points.map JoinPoint.site :=
    fun point member => List.mem_map_of_mem (among point member)
  exact {
    follows := JoinPoints.inOrder_follows sites
    onPlaces := fun point member => places point (among point member)
    filled := fun point member => sites.filled _ (site point member)
    operandInside := fun point member => sites.operandInside _ (site point member)
    inside := fun point member =>
      ⟨Nat.zero_le _, Text.isPlace_le (places point (among point member)).stops⟩ }

theorem pairs_names {package : TargetPackage} {imports : ProxyImports}
    {calls : List (JoinPoint × SyntheticNames)} {pairs : List ProxyPair}
    (made : List.Forall₂ (PairOf package imports) calls pairs) :
    pairs.map ProxyPair.names = calls.map Prod.snd := by
  induction made with
  | nil => rfl
  | cons first _ ih => rw [List.map_cons, List.map_cons, ih, pairOf_names first]

/-- Generators are told apart by the proxies that they are named after. -/
theorem grown_generators {before after : WeaveSession} {pairs : List ProxyPair}
    (grown : Grown before after pairs) :
    (pairs.map fun pair => pair.names.generator).Nodup := by
  have named : (pairs.map fun pair => pair.names.generator) =
      (pairs.map fun pair => pair.names.proxy).map ("_ag_pgen" ++ ·) := by
    rw [List.map_map]
    apply List.map_congr_left
    intro pair member
    rw [grown.ofProxy pair member]
    rfl
  rw [named]
  exact List.Nodup.map (fun _ _ same => (String.append_right_inj _).mp same) grown.distinct

end AspectLoom.UnitWeaver

namespace AspectLoom.WovenUnit

open Actions UnitWeaver

theorem weave_ok {package : TargetPackage} {imports : ProxyImports} {unit : CompilationUnit}
    {points : List JoinPoint} {session after : WeaveSession} {woven : WovenUnit}
    (ran : weave package imports unit points session = (.ok (some woven), after)) :
    ∃ final, runFrom ((UnitWeaver.mk package unit imports).run points)
        ⟨session, { unit := unit, packageNames := package.packageNames }⟩ = (.ok woven, final) ∧
      final.session = after := by
  unfold weave at ran
  split at ran
  · cases ran
  · dsimp only at ran
    split at ran
    rename_i outcome final inner
    simp only [Prod.mk.injEq] at ran
    cases outcome with
    | ok given =>
        cases ran.1
        exact ⟨final, inner, ran.2⟩
    | error cause => cases ran.1

/-- A unit in which there is something to see has been woven. -/
theorem weave_of_view {package : TargetPackage} {imports : ProxyImports} {unit : CompilationUnit}
    {points : List JoinPoint} {session : WeaveSession} {β : Type} {view : WovenUnit → β} {seen : β}
    (found : (weave package imports unit points session).1.toOption.join.map view = some seen) :
    ∃ woven after, weave package imports unit points session = (.ok (some woven), after) ∧
      view woven = seen := by
  rcases ran : weave package imports unit points session with ⟨cause | none | woven, after⟩
  · rw [ran] at found
    cases found
  · rw [ran] at found
    cases found
  · rw [ran] at found
    exact ⟨woven, after, rfl, Option.some.inj found⟩

/-- Weaving a unit puts a call of its own generator in the place of each join point, in operands
too, and keeps every other byte. The imports stand at the end of the package clause. Each join
point gets one pair, after those of the join points in its operand and otherwise in source order,
and the session keeps no pair back. -/
theorem weave_replaces {package : TargetPackage} {imports : ProxyImports} {unit : CompilationUnit}
    {points : List JoinPoint} {session after : WeaveSession} {woven : WovenUnit}
    (sites : SitesNested unit (points.map JoinPoint.site))
    (places : ∀ point ∈ points, point.site.OnPlaces unit.source)
    (clause : Text.IsPlace unit.source unit.packageClause.stop)
    (noPairs : session.pairs = [])
    (ran : weave package imports unit points session = (.ok (some woven), after)) :
    ∃ cut : WovenText,
      cut.original = unit.source ∧ cut.Lies package.symbols 0 ∧
      (∃ head tail scope, head.utf8ByteSize = unit.packageClause.stop ∧ cut.woven = head ++ tail ∧
        woven.body = head ++
          importBlock ((UnitWeaver.mk package unit imports).missingImports scope) ++ tail) ∧
      (cut.calls.map Prod.fst).Perm points ∧
      ((cut.calls.map Prod.fst).Pairwise fun earlier later =>
        earlier.site.InOperand later.site ∨
          earlier.site.span.stop ≤ later.site.span.start) ∧
      List.Forall₂ (PairOf package imports) cut.calls woven.pairs ∧
      woven.pairs.map ProxyPair.names = cut.calls.map Prod.snd ∧
      (woven.pairs.map fun pair => pair.names.generator).Nodup ∧
      after.pairs = [] ∧
      after.names.issuedCount = session.names.issuedCount + points.length := by
  obtain ⟨final, unitRan, rfl⟩ := weave_ok ran
  obtain ⟨text, middle, textRan, body, pairs, closing⟩ := run_ok unitRan
  have stretch := inOrder_inStretch sites places
  obtain ⟨cut, made, cutFor⟩ := weaveText_cut (UnitWeaver.mk package unit imports) _ _ 0 _ _ _ _
    rfl stretch (Text.isPlace_zero _) (Text.isPlace_size _) textRan
  have original : cut.original = unit.source := by
    rw [cutFor.original]
    exact Text.slice_whole unit.source
  have perm := cutFor.perm.trans (JoinPoints.inOrder_perm points)
  have madePairs : woven.pairs = made := by
    rw [pairs, cutFor.grown.pairs_eq, noPairs, List.nil_append]
  -- The package clause ends before every join point, so the kept text at the front has all of it.
  have beyond : ∀ call ∈ cut.calls, unit.packageClause.stop ≤ call.1.site.span.start := by
    intro call member
    have among := perm.mem_iff.mp (List.mem_map_of_mem (f := Prod.fst) member)
    exact sites.afterClause _ (List.mem_map_of_mem among)
  obtain ⟨head, tail, size, shared⟩ := clause_in_head original cutFor.lies clause beyond
  refine ⟨cut, original, cutFor.lies, ⟨head, tail, middle.scope, size, shared, ?_⟩, perm,
    WovenText.calls_ordered cutFor.lies, ?_, ?_, ?_, ?_, ?_⟩
  · rw [body, ← cutFor.woven, shared]
    exact insertImports_append _ head tail size
  · rw [madePairs]
    exact cutFor.made
  · rw [madePairs]
    exact pairs_names cutFor.made
  · rw [madePairs]
    exact grown_generators cutFor.grown
  · rw [closing]
  · have counted := congrArg List.length (pairs_names cutFor.made)
    have sized := perm.length_eq
    simp only [List.length_map] at counted sized
    rw [closing]
    simp only [NameSession.issuedCount, cutFor.grown.issued_eq, List.length_append,
      List.length_reverse, List.length_map]
    omega

/-- A unit in which a method is named behind a call of a function. -/
def nestedUnit : CompilationUnit where
  id := 0
  path := ⟨"/s/m.go"⟩
  relativePath := ⟨"m.go"⟩
  packageName := "p"
  packagePath := "p"
  source := "package p\nvar _ = f().M\n"
  imports := []
  packageClause := ⟨0, 9⟩
  isAspect := false

def nestedPackage : TargetPackage where
  layout := ⟨⟨"/s"⟩, "p"⟩
  path := "p"
  units := [nestedUnit]
  symbols := .ofDeclarations [⟨"p", "f", none, {}⟩, ⟨"p", "M", some ⟨"*p.T"⟩, {}⟩]
  packageNames := []

/-- The outer reference comes first, as a selection may give it. -/
def nestedPoints : List JoinPoint :=
  [⟨⟨⟨0, ⟨18, 23⟩⟩, 2, 9, .selector ⟨18, 21⟩ "M" ⟨"p.T"⟩⟩, 1, 0, "A"⟩,
   ⟨⟨⟨0, ⟨18, 19⟩⟩, 2, 9, .ident "f"⟩, 0, 0, "A"⟩]

theorem nestedPoints_inOrder : JoinPoints.inOrder nestedPoints = nestedPoints :=
  sortBy_of_pairwise (by decide)

def nestedBody : String :=
  "package p\n\nimport (\n\taspectrt \"golang.org/x/exp/aspectgo/aspect/rt\"\n" ++
    "\tagaspect \"agaspect\"\n)\n" ++
    "var _ = (_ag_pgen_ag_proxy_1(&((_ag_pgen_ag_proxy_0())())))\n"

theorem nested_woven : ∃ woven after,
    weave nestedPackage {} nestedUnit nestedPoints ⟨⟨.sequential, 0, []⟩, []⟩ =
      (.ok (some woven), after) ∧ woven.body = nestedBody := by
  have body : ((weave nestedPackage {} nestedUnit nestedPoints
      ⟨⟨.sequential, 0, []⟩, []⟩).1.toOption.join.map WovenUnit.body) = some nestedBody := by
    unfold weave UnitWeaver.run
    rw [nestedPoints_inOrder]
    decide +kernel
  exact weave_of_view body

theorem nested_sites : SitesNested nestedUnit (nestedPoints.map JoinPoint.site) where
  afterClause := by decide
  filled := by decide
  operandInside := by
    intro site member operand name type shape
    rcases List.mem_pair.mp member with rfl | rfl
    · cases shape
      decide
    · cases shape
  separable := by
    refine List.pairwise_pair.mpr ⟨by decide, .inr (.inr ⟨_, _, _, rfl, by decide⟩)⟩

theorem nested_places : ∀ point ∈ nestedPoints, point.site.OnPlaces nestedUnit.source := by
  have opens : Text.IsPlace nestedUnit.source 18 :=
    ⟨"package p\nvar _ = ", "f().M\n", by decide +kernel, by decide +kernel⟩
  intro point member
  rcases List.mem_pair.mp member with rfl | rfl
  · refine ⟨opens, ⟨"package p\nvar _ = f().M", "\n", by decide +kernel, by decide +kernel⟩, ?_⟩
    intro operand name type shape
    cases shape
    exact ⟨opens, "package p\nvar _ = f()", ".M\n", by decide +kernel, by decide +kernel⟩
  · refine ⟨opens, ⟨"package p\nvar _ = f", "().M\n", by decide +kernel, by decide +kernel⟩, ?_⟩
    intro operand name type shape
    cases shape

theorem weave_replaces_nested :
    SitesNested nestedUnit (nestedPoints.map JoinPoint.site) ∧
      ∃ woven after, ∃ cut : WovenText,
        weave nestedPackage {} nestedUnit nestedPoints ⟨⟨.sequential, 0, []⟩, []⟩ =
          (.ok (some woven), after) ∧
        woven.body = nestedBody ∧ cut.original = nestedUnit.source ∧
        (cut.calls.map Prod.fst).Perm nestedPoints ∧
        woven.pairs.map ProxyPair.names = cut.calls.map Prod.snd ∧ after.names.issuedCount = 2 := by
  obtain ⟨woven, after, ran, body⟩ := nested_woven
  have clause : Text.IsPlace nestedUnit.source nestedUnit.packageClause.stop :=
    ⟨"package p", "\nvar _ = f().M\n", by decide +kernel, by decide +kernel⟩
  obtain ⟨cut, original, _, _, perm, _, _, names, _, _, issued⟩ :=
    weave_replaces nested_sites nested_places clause rfl ran
  exact ⟨nested_sites, woven, after, cut, ran, body, original, perm, names, issued⟩

end AspectLoom.WovenUnit
