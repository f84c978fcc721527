/-!
Entries under text keys: a list of pairs in ascending order of the keys, one pair for each key. Settings, path and query
parameters, metadata and JSON objects are kept in this form, so the order in which they were given never shows.
-/

namespace AuthzClient

abbrev Entries (α : Type) := List (String × α)

namespace Entries

variable {α β : Type}

/-- Puts a value under a key, in place of the value that was there. -/
def put (key : String) (value : α) : Entries α → Entries α
  | [] => [(key, value)]
  | (k, v) :: rest =>
    if key = k then (key, value) :: rest
    else if key < k then (key, value) :: (k, v) :: rest
    else (k, v) :: put key value rest

def get? (key : String) : Entries α → Option α
  | [] => none
  | (k, v) :: rest => if key = k then some v else get? key rest

/-- The pairs of a list put in one after the other, so that of two values for one key the later stays. -/
def ofPairs (pairs : List (String × α)) : Entries α := pairs.foldl (fun entries p => put p.1 p.2 entries) []

def Ascending (entries : Entries α) : Prop := entries.Pairwise fun a b => a.1 < b.1

theorem get?_put_self (key : String) (value : α) (entries : Entries α) :
    get? key (put key value entries) = some value := by
  induction entries with
  | nil => simp [put, get?]
  | cons head rest ih =>
    obtain ⟨k, v⟩ := head
    simp only [put]
    split
    · simp [get?]
    · split
      · simp [get?]
      · rename_i differs _
        simp [get?, differs, ih]

theorem get?_put_other {key other : String} (value : α) (entries : Entries α) (differs : other ≠ key) :
    get? other (put key value entries) = get? other entries := by
  induction entries with
  | nil => simp [put, get?, differs]
  | cons head rest ih =>
    obtain ⟨k, v⟩ := head
    simp only [put]
    split
    · next same => subst same; simp [get?, differs]
    · split
      · simp [get?, differs]
      · simp [get?, ih]

theorem mem_of_mem_put {key : String} {value : α} {entries : Entries α} {p : String × α}
    (mem : p ∈ put key value entries) : p = (key, value) ∨ p ∈ entries := by
  induction entries with
  | nil => exact Or.inl (List.mem_singleton.mp mem)
  | cons head rest ih =>
    obtain ⟨k, v⟩ := head
    simp only [put] at mem
    split at mem
    · exact (List.mem_cons.mp mem).imp_right (List.mem_cons_of_mem _)
    · split at mem
      · exact List.mem_cons.mp mem
      · rcases List.mem_cons.mp mem with rfl | behind
        · exact Or.inr List.mem_cons_self
        · exact (ih behind).imp_right (List.mem_cons_of_mem _)

theorem ascending_put (key : String) (value : α) {entries : Entries α} (ascending : Ascending entries) :
    Ascending (put key value entries) := by
  induction entries with
  | nil => exact List.pairwise_singleton _ _
  | cons head rest ih =>
    obtain ⟨k, v⟩ := head
    obtain ⟨above, tail⟩ := List.pairwise_cons.mp ascending
    simp only [put]
    split
    · next same => exact List.pairwise_cons.mpr ⟨fun p mem => same ▸ above p mem, tail⟩
    · next differs =>
      split
      · next before =>
        refine List.pairwise_cons.mpr ⟨fun p mem => ?_, ascending⟩
        rcases List.mem_cons.mp mem with rfl | behind
        · exact before
        · exact String.lt_trans before (above p behind)
      · next notBefore =>
        refine List.pairwise_cons.mpr ⟨fun p mem => ?_, ih tail⟩
        rcases mem_of_mem_put mem with rfl | behind
        · exact Std.lt_of_le_of_ne (String.not_lt.mp notBefore) (Ne.symm differs)
        · exact above p behind

theorem ascending_ofPairs (pairs : List (String × α)) : Ascending (ofPairs pairs) := by
  suffices ∀ entries : Entries α, Ascending entries → Ascending (pairs.foldl (fun e p => put p.1 p.2 e) entries) from
    this [] List.Pairwise.nil
  induction pairs with
  | nil => exact fun _ ascending => ascending
  | cons p pairs ih => exact fun _ ascending => ih _ (ascending_put p.1 p.2 ascending)

end Entries

end AuthzClient
