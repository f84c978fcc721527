import AuthzClient.Entries
import Mathlib.Data.List.Induction
import Mathlib.Data.List.Nodup

/-!
Entries as maps. A key has one value, and the members settle the entries. Pairs that are put in one after the other leave for
each key the last of its values, so pairs with different keys may come in any order.
-/

namespace AuthzClient.Entries

variable {α : Type} {key : String} {value : α} {entries others : Entries α} {pairs : List (String × α)}

theorem mem_of_get? (found : get? key entries = some value) : (key, value) ∈ entries := by
  induction entries with
  | nil => cases found
  | cons head rest ih =>
    obtain ⟨k, v⟩ := head
    rw [get?] at found
    split at found
    · rename_i same
      cases same
      cases found
      exact List.mem_cons_self
    · exact List.mem_cons_of_mem _ (ih found)

theorem get?_of_forall_lt (above : ∀ entry ∈ entries, key < entry.1) : get? key entries = none := by
  cases found : get? key entries with
  | none => rfl
  | some value => exact absurd (above _ (mem_of_get? found)) (String.lt_irrefl key)

theorem value_unique (ascending : entries.Ascending) {other : α} (one : (key, value) ∈ entries)
    (two : (key, other) ∈ entries) : value = other := by
  induction ascending with
  | nil => cases one
  | @cons head rest above _ ih =>
    rcases List.mem_cons.mp one with rfl | first
    · rcases List.mem_cons.mp two with same | second
      · exact congrArg Prod.snd same.symm
      · exact absurd (above (key, other) second) (String.lt_irrefl key)
    · rcases List.mem_cons.mp two with rfl | second
      · exact absurd (above (key, value) first) (String.lt_irrefl key)
      · exact ih first second

/-- The last value that pairs have for a key. -/
def IsLast (pairs : List (String × α)) (key : String) (value : α) : Prop :=
  ∃ before after, pairs = before ++ (key, value) :: after ∧ ∀ pair ∈ after, pair.1 ≠ key

theorem mem_put_iff (ascending : entries.Ascending) {pair : String × α} :
    pair ∈ put key value entries ↔ pair = (key, value) ∨ pair ∈ entries ∧ pair.1 ≠ key := by
  have apart {k : String} {rest : Entries α} (above : ∀ pair ∈ rest, k < pair.1) (inside : pair ∈ rest) : pair.1 ≠ k := by
    intro same
    exact String.lt_irrefl k (same ▸ above pair inside)
  induction entries with
  | nil => simp [put]
  | cons head rest ih =>
    obtain ⟨k, v⟩ := head
    obtain ⟨above, tail⟩ := List.pairwise_cons.mp ascending
    rw [put]
    split
    · rename_i same
      subst same
      rw [List.mem_cons, List.mem_cons]
      refine or_congr_right ⟨fun inside => ⟨Or.inr inside, apart above inside⟩, ?_⟩
      rintro ⟨rfl | inside, other⟩
      · exact absurd rfl other
      · exact inside
    · rename_i differs
      split
      · rename_i before
        have beyond : ∀ pair ∈ (k, v) :: rest, key < pair.1 := by
          intro pair inside
          rcases List.mem_cons.mp inside with rfl | inside
          · exact before
          · exact String.lt_trans before (above pair inside)
        rw [List.mem_cons]
        exact or_congr_right ⟨fun inside => ⟨inside, apart beyond inside⟩, And.left⟩
      · refine List.mem_cons.trans ((or_congr_right (ih tail)).trans ?_)
        rw [List.mem_cons]
        constructor
        · rintro (rfl | same | ⟨inside, other⟩)
          · exact Or.inr ⟨Or.inl rfl, Ne.symm differs⟩
          · exact Or.inl same
          · exact Or.inr ⟨Or.inr inside, other⟩
        · rintro (same | ⟨rfl | inside, other⟩)
          · exact Or.inr (Or.inl same)
          · exact Or.inl rfl
          · exact Or.inr (Or.inr ⟨inside, other⟩)

theorem isLast_concat_iff {pair : String × α} :
    IsLast (pairs ++ [pair]) key value ↔ (key, value) = pair ∨ IsLast pairs key value ∧ key ≠ pair.1 := by
  constructor
  · rintro ⟨before, after, whole, later⟩
    rcases List.eq_nil_or_concat after with rfl | ⟨after, last, rfl⟩
    · exact Or.inl (List.singleton_inj.mp (List.append_inj' whole rfl).2).symm
    · rw [List.concat_eq_append, ← List.cons_append, ← List.append_assoc] at whole
      obtain ⟨same, singles⟩ := List.append_inj' whole rfl
      cases singles
      have apart := later pair (by simp)
      exact Or.inr ⟨⟨before, after, same, fun pair inside => later pair (by simp [inside])⟩, Ne.symm apart⟩
  · rintro (rfl | ⟨⟨before, after, rfl, later⟩, other⟩)
    · exact ⟨pairs, [], rfl, nofun⟩
    · refine ⟨before, after ++ [pair], by simp, fun next inside => ?_⟩
      rcases List.mem_append.mp inside with inside | last
      · exact later next inside
      · rw [List.mem_singleton.mp last]
        exact Ne.symm other

theorem mem_ofPairs_iff : (key, value) ∈ ofPairs pairs ↔ IsLast pairs key value := by
  induction pairs using List.reverseRecOn with
  | nil => simp [ofPairs, IsLast]
  | append_singleton pairs pair ih =>
    have next : ofPairs (pairs ++ [pair]) = put pair.1 pair.2 (ofPairs pairs) := List.foldl_append
    rw [next, mem_put_iff (ascending_ofPairs pairs), ih, isLast_concat_iff]

theorem ofPairs_eq_nil_iff : ofPairs pairs = [] ↔ pairs = [] := by
  refine ⟨fun empty => ?_, fun empty => by rw [empty]; rfl⟩
  rcases List.eq_nil_or_concat pairs with none | ⟨before, last, rfl⟩
  · exact none
  · have inside : (last.1, last.2) ∈ ofPairs (before.concat last) :=
      mem_ofPairs_iff.mpr ⟨before, [], List.concat_eq_append, nofun⟩
    rw [empty] at inside
    cases inside

theorem nodup_of_ascending (ascending : entries.Ascending) : entries.Nodup := by
  have ordered : entries.Pairwise fun a b => a.1 < b.1 := ascending
  refine ordered.imp ?_
  rintro a _ less rfl
  exact String.lt_irrefl a.1 less

/-- Entries are settled by their members. -/
theorem eq_of_mem_iff (ascending : entries.Ascending) (other : others.Ascending)
    (same : ∀ pair, pair ∈ entries ↔ pair ∈ others) : entries = others := by
  refine List.Perm.eq_of_pairwise (fun a b _ _ less more => ?_) ascending other ?_
  · exact absurd (String.lt_trans less more) (String.lt_irrefl a.1)
  · exact (List.perm_ext_iff_of_nodup (nodup_of_ascending ascending) (nodup_of_ascending other)).mpr same

theorem isLast_iff_mem (distinct : (pairs.map Prod.fst).Nodup) : IsLast pairs key value ↔ (key, value) ∈ pairs := by
  constructor
  · rintro ⟨before, after, rfl, _⟩
    exact List.mem_append_right _ List.mem_cons_self
  · intro inside
    obtain ⟨before, after, rfl⟩ := List.append_of_mem inside
    refine ⟨before, after, rfl, fun pair behind same => ?_⟩
    rw [List.map_append, List.map_cons] at distinct
    have apart := (List.nodup_cons.mp (List.nodup_append.mp distinct).2.1).1
    have inside : pair.1 ∈ after.map Prod.fst := List.mem_map_of_mem behind
    exact apart (same ▸ inside)

/-- Pairs with different keys may be put in in any order. -/
theorem ofPairs_perm {pairs others : List (String × α)} (distinct : (pairs.map Prod.fst).Nodup)
    (moved : others.Perm pairs) : ofPairs others = ofPairs pairs := by
  have still : (others.map Prod.fst).Nodup := (moved.map Prod.fst).nodup_iff.mpr distinct
  refine eq_of_mem_iff (ascending_ofPairs others) (ascending_ofPairs pairs) fun pair => ?_
  rw [mem_ofPairs_iff, mem_ofPairs_iff, isLast_iff_mem still, isLast_iff_mem distinct, moved.mem_iff]

end AuthzClient.Entries
