import AspectLoom.Proofs.IssuedNames
/-!
Names over a whole weave. Of all names that a session issues no two are equal, counted names run
from zero without a gap, and a reference whose name is taken leaves no trace in the session.
-/
namespace AspectLoom

/-- What the names of a reference are made for and from. -/
structure NameRequest where
  path : Path
  span : Span
  fullName : String

/-- The hash that names a reference by its content. -/
def NameRequest.short (request : NameRequest) : String :=
  (ContentHash.ofSite request.path request.span request.fullName).short

/-- What a request is answered with: its names, or the name that is taken already. -/
abbrev NameAnswer := Except String SyntheticNames

/-- The names among some answers. -/
def granted (answers : List NameAnswer) : List SyntheticNames := answers.filterMap Except.toOption

/-- All names of generated functions among some answers. -/
def grantedNames (answers : List NameAnswer) : List String :=
  (granted answers).flatMap fun names => [names.proxy, names.generator]

namespace SyntheticNames

/-- A generator is never called as a proxy is. -/
theorem generator_ne_proxy (proxy rest : String) :
    (ofProxy proxy).generator ≠ "_ag_proxy_" ++ rest := by
  intro same
  have letters := congrArg (fun name => name.toList[5]?) same
  simp [ofProxy] at letters

theorem generator_injective {left right : String}
    (same : (ofProxy left).generator = (ofProxy right).generator) : left = right :=
  (String.append_right_inj _).mp same

end SyntheticNames

namespace NameSession

def answer (session : NameSession) (request : NameRequest) : NameAnswer × NameSession :=
  session.next request.path request.span request.fullName

/-- The answers to requests one after the other, and the session behind them. -/
def answerAll (session : NameSession) : List NameRequest → List NameAnswer × NameSession
  | [] => ([], session)
  | request :: rest =>
    let (first, middle) := session.answer request
    let (others, last) := middle.answerAll rest
    (first :: others, last)

variable {session : NameSession} {request : NameRequest}

theorem answerAll_cons (session : NameSession) (request : NameRequest) (rest : List NameRequest) :
    session.answerAll (request :: rest) =
      ((session.answer request).1 :: ((session.answer request).2.answerAll rest).1,
        ((session.answer request).2.answerAll rest).2) := rfl

theorem answerAll_append (session : NameSession) (requests more : List NameRequest) :
    session.answerAll (requests ++ more) =
      ((session.answerAll requests).1 ++ ((session.answerAll requests).2.answerAll more).1,
        ((session.answerAll requests).2.answerAll more).2) := by
  induction requests generalizing session with
  | nil => rfl
  | cons request rest ih =>
      simp only [List.cons_append, answerAll_cons, ih]

/-- The session that remembers one more proxy name. -/
def remember (session : NameSession) (proxy : String) : NameSession :=
  { session with issued := proxy :: session.issued }

theorem mem_remember (session : NameSession) (proxy name : String) :
    name ∈ (session.advance.remember proxy).issued ↔ name = proxy ∨ name ∈ session.issued := by
  rw [remember, advance_issued, List.mem_cons]

/-- Names are issued exactly where the proxy name is new. -/
theorem answer_cases (session : NameSession) (request : NameRequest) :
    let proxy := session.proxyName request.path request.span request.fullName
    (proxy ∈ session.issued ∧ session.answer request = (.error proxy, session.advance)) ∨
      (proxy ∉ session.issued ∧ session.answer request =
        (.ok (.ofProxy proxy), session.advance.remember proxy)) := by
  unfold answer next remember
  simp only [advance_issued, List.contains_eq_mem, decide_eq_true_eq]
  split
  · rename_i taken
    exact .inl ⟨taken, rfl⟩
  · rename_i free
    exact .inr ⟨free, rfl⟩

theorem answer_scheme (session : NameSession) (request : NameRequest) :
    (session.answer request).2.scheme = session.scheme := next_scheme (Prod.eta _).symm

theorem answerAll_scheme (session : NameSession) (requests : List NameRequest) :
    (session.answerAll requests).2.scheme = session.scheme := by
  induction requests generalizing session with
  | nil => rfl
  | cons request rest ih => rw [answerAll_cons, ih, answer_scheme]

/-! Names that differ -/

/-- What a session issues is new, and it remembers that and what it issued before. -/
theorem answerAll_fresh (session : NameSession) (requests : List NameRequest) :
    let proxies := (granted (session.answerAll requests).1).map SyntheticNames.proxy
    proxies.Nodup ∧ (∀ proxy ∈ proxies, proxy ∉ session.issued) ∧
      ∀ proxy, proxy ∈ (session.answerAll requests).2.issued ↔
        proxy ∈ proxies ∨ proxy ∈ session.issued := by
  induction requests generalizing session with
  | nil => simp [answerAll, granted]
  | cons request rest ih =>
      obtain ⟨distinct, fresh, issued⟩ := ih (session.answer request).2
      rw [answerAll_cons]
      obtain ⟨_, answered⟩ | ⟨free, answered⟩ := session.answer_cases request
      · rw [answered] at distinct fresh issued ⊢
        rw [advance_issued] at fresh issued
        exact ⟨distinct, fresh, issued⟩
      · rw [answered] at distinct fresh issued ⊢
        refine ⟨List.nodup_cons.mpr ⟨?_, distinct⟩, List.forall_mem_cons.mpr ⟨free, ?_⟩, ?_⟩
        · intro again
          exact fresh _ again ((mem_remember ..).mpr (.inl rfl))
        · exact fun proxy member old => fresh proxy member ((mem_remember ..).mpr (.inr old))
        · intro proxy
          refine (issued proxy).trans ?_
          rw [mem_remember, or_left_comm, ← or_assoc]
          exact or_congr_left List.mem_cons.symm

/-- All names are built from the proxy name for a request in some state of the session. -/
theorem answerAll_built (session : NameSession) (requests : List NameRequest) :
    ∀ names ∈ granted (session.answerAll requests).1,
      ∃ (state : NameSession) (request : NameRequest),
        names = .ofProxy (state.proxyName request.path request.span request.fullName) := by
  induction requests generalizing session with
  | nil => simp [answerAll, granted]
  | cons request rest ih =>
      have others := ih (session.answer request).2
      rw [answerAll_cons]
      obtain ⟨_, answered⟩ | ⟨_, answered⟩ := session.answer_cases request
      · rw [answered] at others ⊢
        exact others
      · rw [answered] at others ⊢
        exact List.forall_mem_cons.mpr ⟨⟨session, request, rfl⟩, others⟩

theorem answerAll_names (session : NameSession) (requests : List NameRequest) :
    ∀ names ∈ granted (session.answerAll requests).1,
      names = .ofProxy names.proxy ∧ ∃ rest, names.proxy = "_ag_proxy_" ++ rest := by
  intro names member
  obtain ⟨state, request, rfl⟩ := session.answerAll_built requests names member
  exact ⟨rfl, _, rfl⟩

/-- Different proxies have different generators, none of which is called as a proxy. -/
theorem grantedNames_nodup {answers : List NameAnswer}
    (distinct : ((granted answers).map SyntheticNames.proxy).Nodup)
    (built : ∀ names ∈ granted answers,
      names = .ofProxy names.proxy ∧ ∃ rest, names.proxy = "_ag_proxy_" ++ rest) :
    (grantedNames answers).Nodup := by
  have apart : ∀ left ∈ granted answers, ∀ right ∈ granted answers,
      left.proxy ≠ right.generator := by
    intro left leftMember right rightMember same
    obtain ⟨_, rest, proxy⟩ := built left leftMember
    rw [proxy, (built right rightMember).1] at same
    exact SyntheticNames.generator_ne_proxy _ _ same.symm
  refine List.pairwise_flatMap.mpr ⟨?_, ?_⟩
  · intro names member
    simp [apart names member names member]
  · apply (List.pairwise_map.mp distinct).imp_of_mem
    intro left right leftMember rightMember different
    have generators : left.generator ≠ right.generator := by
      intro same
      rw [(built left leftMember).1, (built right rightMember).1] at same
      exact different (SyntheticNames.generator_injective same)
    simp [different, generators, apart left leftMember right rightMember,
      (apart right rightMember left leftMember).symm]

/-! Counted names -/

theorem answerAll_counted {session : NameSession} (counted : session.Counted)
    (sequential : session.scheme = .sequential) (requests : List NameRequest) :
    (session.answerAll requests).1 = (List.range requests.length).map fun number =>
      .ok (.ofProxy ("_ag_proxy_" ++ toString (session.counter + number))) := by
  induction requests generalizing session with
  | nil => rfl
  | cons request rest ih =>
      have name : session.proxyName request.path request.span request.fullName =
          "_ag_proxy_" ++ toString session.counter := proxyName_counted sequential
      obtain ⟨_, answered⟩ | ⟨_, answered⟩ := session.answer_cases request
      · obtain ⟨names, good⟩ := next_free counted sequential answered
        cases good
      · have others := ih (next_counted counted answered) ((next_scheme answered).trans sequential)
        have next : (session.advance.remember ("_ag_proxy_" ++ toString session.counter)).counter =
            session.counter + 1 := advance_counter sequential
        rw [name] at answered others
        rw [next] at others
        rw [answerAll_cons, answered, List.length_cons, List.range_succ_eq_map, List.map_cons,
          List.map_map]
        refine congrArg _ (others.trans (List.map_congr_left fun number _ => ?_))
        rw [Function.comp_apply, Nat.succ_eq_add_one, Nat.add_assoc, Nat.add_comm 1]

/-! Names by content -/

theorem proxyName_content (content : session.scheme = .content) :
    session.proxyName request.path request.span request.fullName =
      "_ag_proxy_" ++ request.short := by
  unfold proxyName
  rw [content]
  rfl

theorem advance_content (content : session.scheme = .content) : session.advance = session := by
  unfold advance
  rw [content]

/-- A session under content naming refuses a name that it has issued and stays as it is. -/
theorem answer_content (content : session.scheme = .content) :
    session.answer request =
      if "_ag_proxy_" ++ request.short ∈ session.issued then
        (.error ("_ag_proxy_" ++ request.short), session)
      else
        (.ok (.ofProxy ("_ag_proxy_" ++ request.short)),
          session.remember ("_ag_proxy_" ++ request.short)) := by
  have cases := session.answer_cases request
  rw [proxyName_content content, advance_content content] at cases
  obtain ⟨taken, answered⟩ | ⟨free, answered⟩ := cases
  · rw [if_pos taken, answered]
  · rw [if_neg free, answered]

/-- In a weave all names are distinct. Counted names are issued for every reference, numbered from
zero. A name by content is refused exactly when one with its hash was issued before, and then the
session is the same as without that reference. -/
theorem answerAll_unique (scheme : NamingScheme) (requests : List NameRequest) :
    (grantedNames (answerAll { scheme := scheme } requests).1).Nodup ∧
    (answerAll { scheme := .sequential } requests).1 = ((List.range requests.length).map fun number =>
      .ok (.ofProxy ("_ag_proxy_" ++ toString number))) ∧
    ∀ earlier request later, requests = earlier ++ request :: later →
      let start : NameSession := { scheme := .content }
      let (answers, reached) := start.answerAll earlier
      let (answer, after) := reached.answer request
      (answer.isOk = false ↔
        ∃ names ∈ granted answers, names.proxy = "_ag_proxy_" ++ request.short) ∧
      (answer.isOk = false → after = reached ∧
        (start.answerAll requests).1 = answers ++ answer :: (reached.answerAll later).1 ∧
        start.answerAll (earlier ++ later) =
          (answers ++ (reached.answerAll later).1, (start.answerAll requests).2)) := by
  refine ⟨?_, ?_, ?_⟩
  · exact grantedNames_nodup (answerAll_fresh _ requests).1 (answerAll_names _ requests)
  · rw [answerAll_counted (counted_start .sequential) rfl]
    simp only [Nat.zero_add]
  · intro earlier request later same
    dsimp only
    have issued := (answerAll_fresh { scheme := .content } earlier).2.2
    have content := answerAll_scheme { scheme := .content } earlier
    rcases ran : answerAll { scheme := .content } earlier with ⟨answers, reached⟩
    rw [ran] at issued content
    have here : reached.answer request = _ := answer_content content
    have known : "_ag_proxy_" ++ request.short ∈ reached.issued ↔
        ∃ names ∈ granted answers, names.proxy = "_ag_proxy_" ++ request.short := by
      rw [issued]
      simp
    dsimp only
    rw [← known, same, answerAll_append, answerAll_append, ran, answerAll_cons, here]
    split
    · rename_i taken
      simp [taken, Except.isOk, Except.toBool]
    · rename_i free
      simp [free, Except.isOk, Except.toBool]

end NameSession
end AspectLoom
