import AspectLoom.Assoc
import Mathlib.Data.List.Basic
/-!
Entries of association lists. Setting a value neither brings in other entries nor repeats a key.
-/
namespace AspectLoom.Assoc

variable {κ α : Type} [DecidableEq κ] {key other : κ} {value : α} {entries : List (κ × α)}

theorem mem_of_find? (found : find? key entries = some value) : (key, value) ∈ entries := by
  induction entries with
  | nil => cases found
  | cons entry rest ih =>
      obtain ⟨first, held⟩ := entry
      rw [find?] at found
      split at found
      · rename_i same
        cases found
        subst same
        exact List.mem_cons_self
      · exact List.mem_cons_of_mem _ (ih found)

theorem find?_of_mem (distinct : (entries.map Prod.fst).Nodup) (member : (key, value) ∈ entries) :
    find? key entries = some value := by
  induction entries with
  | nil => cases member
  | cons entry rest ih =>
      obtain ⟨first, held⟩ := entry
      obtain ⟨absent, restDistinct⟩ := List.nodup_cons.mp distinct
      rw [find?]
      rcases List.mem_cons.mp member with same | later
      · cases same
        rw [if_pos rfl]
      · rw [if_neg, ih restDistinct later]
        rintro rfl
        exact absent (List.mem_map.mpr ⟨_, later, rfl⟩)

/-- Setting a value that is held already changes nothing. -/
theorem insert_of_find? (found : find? key entries = some value) :
    insert key value entries = entries := by
  induction entries with
  | nil => cases found
  | cons entry rest ih =>
      obtain ⟨first, held⟩ := entry
      rw [find?] at found
      rw [insert]
      split
      · rename_i same
        rw [if_pos same] at found
        cases found
        rw [same]
      · rename_i different
        rw [if_neg different] at found
        rw [ih found]

theorem mem_insert {entry : κ × α} (member : entry ∈ insert key value entries) :
    entry = (key, value) ∨ entry ∈ entries := by
  induction entries with
  | nil => exact .inl (List.mem_singleton.mp member)
  | cons first rest ih =>
      obtain ⟨other, old⟩ := first
      rw [insert] at member
      split at member
      · rcases List.mem_cons.mp member with rfl | later
        · exact .inl rfl
        · exact .inr (List.mem_cons_of_mem _ later)
      · rcases List.mem_cons.mp member with rfl | later
        · exact .inr List.mem_cons_self
        · exact (ih later).imp_right (List.mem_cons_of_mem _)

theorem find?_eq_none : find? key entries = none ↔ key ∉ entries.map Prod.fst := by
  induction entries with
  | nil => simp [find?]
  | cons entry rest ih =>
      obtain ⟨other, held⟩ := entry
      rw [find?]
      split
      · rename_i same
        simp [same]
      · rename_i different
        rw [ih, List.map_cons, List.mem_cons]
        simp [Ne.symm different]

/-- A new key comes behind the others. -/
theorem keys_insert (key : κ) (value : α) (entries : List (κ × α)) :
    (insert key value entries).map Prod.fst =
      if key ∈ entries.map Prod.fst then entries.map Prod.fst
      else entries.map Prod.fst ++ [key] := by
  induction entries with
  | nil => simp [insert]
  | cons entry rest ih =>
      obtain ⟨other, held⟩ := entry
      rw [insert]
      by_cases same : other = key
      · simp [same]
      · rw [if_neg same, List.map_cons, ih]
        by_cases known : key ∈ rest.map Prod.fst
        · simp [known]
        · simp [known, Ne.symm same]

theorem mem_keys_insert : other ∈ (insert key value entries).map Prod.fst ↔
    other = key ∨ other ∈ entries.map Prod.fst := by
  rw [keys_insert]
  split
  · rename_i known
    exact ⟨.inr, fun among => among.elim (fun same => same ▸ known) id⟩
  · rw [List.mem_append, List.mem_singleton, or_comm]

theorem length_insert (key : κ) (value : α) (entries : List (κ × α)) :
    (insert key value entries).length =
      if (find? key entries).isSome then entries.length else entries.length + 1 := by
  have keys := congrArg List.length (keys_insert key value entries)
  cases known : find? key entries with
  | none =>
      rw [if_neg (find?_eq_none.mp known)] at keys
      simpa using keys
  | some held =>
      have member : key ∈ entries.map Prod.fst := List.mem_map_of_mem (mem_of_find? known)
      rw [if_pos member] at keys
      simpa using keys

theorem keys_insert_nodup (distinct : (entries.map Prod.fst).Nodup) :
    ((insert key value entries).map Prod.fst).Nodup := by
  induction entries with
  | nil => simp [insert]
  | cons first rest ih =>
      obtain ⟨other, old⟩ := first
      obtain ⟨absent, restDistinct⟩ := List.nodup_cons.mp distinct
      rw [insert]
      split
      · rename_i same
        subst same
        exact distinct
      · rename_i different
        refine List.nodup_cons.mpr ⟨?_, ih restDistinct⟩
        intro member
        obtain ⟨entry, among, same⟩ := List.mem_map.mp member
        rcases mem_insert among with rfl | old
        · exact different same.symm
        · exact absent (List.mem_map.mpr ⟨entry, old, same⟩)

/-- Filtering by keys keeps the values of the keys that are kept. -/
theorem find?_filter (keeps : κ → Bool) :
    find? key (entries.filter fun entry => keeps entry.1) =
      if keeps key then find? key entries else none := by
  induction entries with
  | nil => simp [find?]
  | cons entry rest ih =>
      obtain ⟨other, held⟩ := entry
      by_cases same : other = key
      · subst same
        by_cases kept : keeps other = true
        · simp [find?, kept]
        · simp [kept, ih]
      · by_cases kept : keeps other = true
        · simp [find?, kept, same, ih]
        · simp [find?, kept, same, ih]

end AspectLoom.Assoc
