import AspectLoom.Proofs.Entries
import AspectLoom.Proofs.GoRuns
import Mathlib.Data.List.Nodup
import Std.Data.String.ToNat
/-!
The variables of generated functions. Numbered names are distinct, and the names of one stem are
none of another.
-/
namespace AspectLoom

namespace Assoc

variable {κ α : Type} [DecidableEq κ] {key : κ} {value : α} {entries later : List (κ × α)}

theorem find?_append_of_mem (distinct : (entries.map Prod.fst).Nodup)
    (member : (key, value) ∈ entries) : find? key (entries ++ later) = some value := by
  induction entries with
  | nil => cases member
  | cons entry rest ih =>
      obtain ⟨other, held⟩ := entry
      obtain ⟨absent, restDistinct⟩ := List.nodup_cons.mp distinct
      rw [List.cons_append, find?]
      rcases List.mem_cons.mp member with same | among
      · cases same
        exact if_pos rfl
      · have different : other ≠ key := by
          rintro rfl
          exact absent (List.mem_map.mpr ⟨_, among, rfl⟩)
        rw [if_neg different]
        exact ih restDistinct among

theorem find?_append_of_notMem (absent : key ∉ entries.map Prod.fst) :
    find? key (entries ++ later) = find? key later := by
  induction entries with
  | nil => rfl
  | cons entry rest ih =>
      obtain ⟨other, held⟩ := entry
      rw [List.map_cons, List.mem_cons, not_or] at absent
      rw [List.cons_append, find?, if_neg (Ne.symm absent.1)]
      exact ih absent.2

end Assoc

namespace SpelledSignature

variable {stem name : String} {count : Nat}

theorem numbered_length (stem : String) (count : Nat) : (numbered stem count).length = count := by
  rw [numbered, List.length_map, List.length_range]

theorem numbered_nodup (stem : String) (count : Nat) : (numbered stem count).Nodup := by
  refine List.Nodup.map ?_ List.nodup_range
  intro left right same
  exact Nat.repr_injective ((String.append_right_inj _).mp same)

theorem notMem_numbered (other : ∀ digits, digits ≠ "" → name ≠ stem ++ digits) :
    name ∉ numbered stem count := by
  intro member
  obtain ⟨number, _, same⟩ := List.mem_map.mp member
  exact other _ (Nat.repr_ne_empty) same.symm

variable (signature : SpelledSignature)

theorem receiver_notMem_paramNames : receiverName ∉ signature.paramNames := by
  refine notMem_numbered fun digits _ same => ?_
  have chars := congrArg String.toList same
  simp [receiverName] at chars

theorem receiver_notMem_argumentNames : receiverName ∉ signature.argumentNames := by
  refine notMem_numbered fun digits _ same => ?_
  have chars := congrArg String.toList same
  simp [receiverName] at chars

theorem context_notMem_argumentNames : "_ag_ctx" ∉ signature.argumentNames := by
  refine notMem_numbered fun digits _ same => ?_
  have chars := congrArg String.toList same
  simp at chars

theorem boxes_notMem_resultNames : "_ag_res" ∉ signature.resultNames := by
  refine notMem_numbered fun digits some same => ?_
  have chars := congrArg String.toList same
  simp at chars
  exact some chars

theorem paramNames_nodup : signature.paramNames.Nodup := numbered_nodup _ _

theorem argumentNames_nodup : signature.argumentNames.Nodup := numbered_nodup _ _

theorem resultNames_nodup : signature.resultNames.Nodup := numbered_nodup _ _

theorem markLast_length (mark : String) (types : List String) :
    (markLast mark types).length = types.length := by
  fun_induction markLast mark types with
  | case1 => rfl
  | case2 last => rfl
  | case3 first rest several ih => rw [List.length_cons, List.length_cons, ih]

theorem slotTypes_length : signature.slotTypes.length = signature.params.length := by
  unfold slotTypes
  split
  · exact markLast_length _ _
  · rfl

theorem slotTypes_ne_nil (some : signature.params ≠ []) : signature.slotTypes ≠ [] := by
  rw [← List.length_pos_iff, slotTypes_length, List.length_pos_iff]
  exact some

theorem paramNames_length : signature.paramNames.length = signature.slotTypes.length := by
  rw [slotTypes_length]
  exact numbered_length _ _

theorem argumentNames_length : signature.argumentNames.length = signature.slotTypes.length := by
  rw [slotTypes_length]
  exact numbered_length _ _

theorem resultNames_length : signature.resultNames.length = signature.results.length :=
  numbered_length _ _

end SpelledSignature

namespace GoScope

variable {V : Type} {m : Type → Type} {scope entries : GoScope V m} {names : List String}
  {values : List (Typed V)}

theorem leaves_iff {name : String} : scope.leaves name = true ↔ name ∉ scope.map Prod.fst := by
  rw [leaves, Option.isNone_iff_eq_none, Assoc.find?_eq_none]

theorem named_names (long : names.length = values.length) :
    (named names values : GoScope V m).map Prod.fst = names := by
  refine List.map_fst_zip (Nat.le_of_eq ?_)
  rw [List.length_map, long]

theorem values?_of_mem (distinct : (entries.map Prod.fst).Nodup)
    (long : names.length = values.length)
    (members : ∀ entry ∈ (named names values : GoScope V m), entry ∈ entries) :
    GoScope.values? (entries ++ scope) names = some values := by
  induction names generalizing values with
  | nil =>
      cases values with
      | nil => rfl
      | cons value rest => cases long
  | cons name rest ih =>
      cases values with
      | nil => cases long
      | cons value others =>
          rw [named, List.map_cons, List.zip_cons_cons, List.forall_mem_cons] at members
          have first : GoScope.value? (entries ++ scope) name = some value := by
            rw [value?, Assoc.find?_append_of_mem distinct members.1]
            rfl
          have later : List.mapM (GoScope.value? (entries ++ scope)) rest = some others :=
            ih (Nat.succ.inj long) members.2
          rw [values?, List.mapM_cons, first, later]
          rfl

theorem values?_named (scope : GoScope V m) (distinct : names.Nodup) (long : names.length = values.length) :
    GoScope.values? (named names values ++ scope) names = some values := by
  refine values?_of_mem ?_ long fun entry member => member
  rw [named_names long]
  exact distinct

/-- Variables that are bound one after the other are found as well. -/
theorem values?_named_reverse (scope : GoScope V m) (distinct : names.Nodup) (long : names.length = values.length) :
    GoScope.values? ((named names values).reverse ++ scope) names = some values := by
  refine values?_of_mem ?_ long fun entry member => List.mem_reverse.mpr member
  rw [List.map_reverse, List.nodup_reverse, named_names long]
  exact distinct

theorem values?_append_of_notMem (apart : ∀ name ∈ names, name ∉ entries.map Prod.fst) :
    GoScope.values? (entries ++ scope) names = scope.values? names := by
  induction names with
  | nil => rfl
  | cons name rest ih =>
      rw [List.forall_mem_cons] at apart
      have first : GoScope.value? (entries ++ scope) name = scope.value? name := by
        rw [value?, Assoc.find?_append_of_notMem apart.1, value?]
      have later : List.mapM (GoScope.value? (entries ++ scope)) rest = List.mapM scope.value? rest :=
        ih apart.2
      rw [values?, List.mapM_cons, first, later, values?, List.mapM_cons]

theorem values?_append {others : List String} {more : List (Typed V)}
    (first : scope.values? names = some values) (second : scope.values? others = some more) :
    scope.values? (names ++ others) = some (values ++ more) := by
  rw [values?] at first second
  rw [values?, List.mapM_append, first, second]
  rfl

end GoScope
end AspectLoom
