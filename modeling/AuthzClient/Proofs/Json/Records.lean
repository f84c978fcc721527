import AuthzClient.Json.Decoder

/-!
Records that are read have all the fields that they need, in either of their forms: an object names such a field exactly
once, and an array does not end before it.
-/

namespace AuthzClient.Json.Decoder

variable {α σ : Type} {P : σ → Prop} {R : σ → Prop}

/-- Nothing that becomes of a field takes a property away. -/
structure Field.Keeps (P : σ → Prop) (field : Field σ) : Prop where
  take : ∀ {gathered found : σ} {fuel room : Nat} {bs rest : List UInt8}, P gathered →
    field.take gathered fuel room bs = .ok (found, rest) → P found
  absent : ∀ {gathered found : σ}, P gathered → field.absent gathered = some found → P found
  short : ∀ {gathered found : σ}, P gathered → field.short gathered = some found → P found

/-- A field that gives a record a property, and without which there is no record. -/
structure Field.Needed (P : σ → Prop) (field : Field σ) : Prop where
  take : ∀ {gathered found : σ} {fuel room : Nat} {bs rest : List UInt8},
    field.take gathered fuel room bs = .ok (found, rest) → P found
  absent : ∀ gathered, field.absent gathered = none
  short : ∀ gathered, field.short gathered = none

/-- What an object has gathered so far has a property if it has named a field. -/
def Field.Told (P : σ → Prop) (field : Field σ) (state : List String × σ) : Prop := field.name ∈ state.1 → P state.2

theorem Field.told_nil (field : Field σ) (gathered : σ) : field.Told P ([], gathered) :=
  fun named => absurd named List.not_mem_nil

theorem Field.Needed.keeps {field : Field σ} (needed : field.Needed P) : field.Keeps P where
  take _ taken := needed.take taken
  absent _ left := by cases (needed.absent _).symm.trans left
  short _ left := by cases (needed.short _).symm.trans left

theorem reject_ne_ok (bs : List UInt8) (read : α × List UInt8) : reject bs ≠ .ok read := by
  intro same
  unfold reject at same
  split at same
  · cases same
  · repeat' (split at same <;> try cases same)

theorem map_eq_ok {ε β : Type} {x : Except ε α} {f : α → β} {b : β} (mapped : x.map f = .ok b) :
    ∃ a, x = .ok a ∧ f a = b := by
  cases x with
  | error => cases mapped
  | ok a =>
    cases mapped
    exact ⟨a, rfl, rfl⟩

theorem Field.Needed.required {d : Decoder α} {store : α → σ → σ} (name : String)
    (gives : ∀ {fuel room : Nat} {bs rest : List UInt8} {a : α}, d fuel room bs = .ok (a, rest) → ∀ gathered,
      P (store a gathered)) : (Field.required name d store).Needed P where
  take taken := by
    obtain ⟨_, read, same⟩ := map_eq_ok taken
    cases same
    exact gives read _
  absent _ := rfl
  short _ := rfl

theorem Field.Keeps.defaulted {d : Decoder α} {store : α → σ → σ} (name : String)
    (kept : ∀ a gathered, P gathered → P (store a gathered)) : (Field.defaulted name d store).Keeps P where
  take before taken := by
    obtain ⟨read, _, same⟩ := map_eq_ok taken
    cases same
    exact kept read.1 _ before
  absent before left := Option.some.inj left ▸ before
  short before left := Option.some.inj left ▸ before

/-- What each member keeps holds of what all members gather. -/
theorem members_invariant {step : String → σ → List UInt8 → Scanned σ}
    (kept : ∀ {name : String} {gathered found : σ} {bs rest : List UInt8}, R gathered →
      step name gathered bs = .ok (found, rest) → R found)
    {fuel : Nat} {gathered found : σ} {bs rest : List UInt8} (before : R gathered)
    (read : members step fuel gathered bs = .ok (found, rest)) : R found := by
  induction fuel generalizing gathered bs with
  | zero => cases read
  | succ fuel ih =>
    unfold members at read
    split at read
    · cases read
    · split at read
      · cases read
      · rename_i _ _ next more stepped
        have after : R next := kept before stepped
        split at read
        · cases read
        · split at read
          · cases read
            exact after
          · split at read
            · cases read
            · split at read
              · cases read
              · exact ih after read

section Forms

variable {fields : List (Field σ)} {field : Field σ} (needed : field.Needed P)
variable (keeps : ∀ other ∈ fields, other = field ∨ other.Keeps P)
variable {gathered found : σ} {fuel room : Nat} {bs rest : List UInt8}

include needed keeps

theorem keeps_field {other : Field σ} (inside : other ∈ fields) : other.Keeps P := by
  rcases keeps other inside with rfl | kept
  · exact needed.keeps
  · exact kept

/-- An array has taken the field, or the field is still to come. -/
theorem positional_needed {first : Bool} (pending : P gathered ∨ field ∈ fields)
    (read : positional fuel room fields first gathered bs = .ok (found, rest)) : P found := by
  induction fields generalizing gathered bs first with
  | nil =>
    have before : P gathered := pending.resolve_right List.not_mem_nil
    unfold positional at read
    split at read
    · cases read
    · split at read
      · cases read
        exact before
      · cases read
  | cons head tail ih =>
    have headKeeps : head.Keeps P := keeps_field needed keeps List.mem_cons_self
    have tailKeeps : ∀ other ∈ tail, other = field ∨ other.Keeps P := fun other inside =>
      keeps other (List.mem_cons_of_mem _ inside)
    have next {later : σ} {bs rest : List UInt8} (taken : head.take gathered fuel room bs = .ok (later, rest)) :
        P later ∨ field ∈ tail := by
      rcases pending with before | inside
      · exact Or.inl (headKeeps.take before taken)
      · rcases List.mem_cons.mp inside with rfl | behind
        · exact Or.inl (needed.take taken)
        · exact Or.inr behind
    unfold positional at read
    split at read
    · cases read
    · split at read
      · split at read
        · cases read
        · rename_i later left
          refine ih tailKeeps ?_ read
          rcases pending with before | inside
          · exact Or.inl (headKeeps.short before left)
          · rcases List.mem_cons.mp inside with rfl | behind
            · cases (needed.short gathered).symm.trans left
            · exact Or.inr behind
      · split at read
        · split at read
          · cases read
          · rename_i taken
            exact ih tailKeeps (next taken) read
        · split at read
          · cases read
          · split at read
            · cases read
            · split at read
              · cases read
              · split at read
                · cases read
                · rename_i taken
                  exact ih tailKeeps (next taken) read

/-- An object settles only if it has named the field. -/
theorem settle_needed {seen : List String} (pending : P gathered ∨ field ∈ fields ∧ field.name ∉ seen)
    (settled : settle fields seen gathered = some found) : P found := by
  induction fields generalizing gathered with
  | nil =>
    cases settled
    exact pending.resolve_right fun missing => List.not_mem_nil missing.1
  | cons head tail ih =>
    have headKeeps : head.Keeps P := keeps_field needed keeps List.mem_cons_self
    have tailKeeps : ∀ other ∈ tail, other = field ∨ other.Keeps P := fun other inside =>
      keeps other (List.mem_cons_of_mem _ inside)
    unfold settle at settled
    split at settled
    · rename_i named
      refine ih tailKeeps (pending.imp_right fun ⟨inside, unnamed⟩ => ⟨?_, unnamed⟩) settled
      rcases List.mem_cons.mp inside with rfl | behind
      · exact absurd (List.contains_iff_mem.mp named) unnamed
      · exact behind
    · obtain ⟨later, left, settled⟩ := Option.bind_eq_some_iff.mp settled
      refine ih tailKeeps ?_ settled
      rcases pending with before | ⟨inside, unnamed⟩
      · exact Or.inl (headKeeps.absent before left)
      · rcases List.mem_cons.mp inside with rfl | behind
        · cases (needed.absent gathered).symm.trans left
        · exact Or.inr ⟨behind, unnamed⟩

/-- Once the member of the field is read the property is there, and no other member takes it away. -/
theorem recordStep_needed (known : fields.find? (·.name == field.name) = some field) {name : String}
    {state later : List String × σ} (before : field.Told P state)
    (stepped : recordStep fields fuel room name state bs = .ok (later, rest)) : field.Told P later := by
  unfold recordStep at stepped
  dsimp only at stepped
  split at stepped
  · split at stepped
    · cases stepped
    · obtain ⟨_, _, same⟩ := map_eq_ok stepped
      cases same
      exact before
  · rename_i other found
    split at stepped
    · cases stepped
    · split at stepped
      · cases stepped
      · obtain ⟨⟨gathered, more⟩, taken, same⟩ := map_eq_ok stepped
        cases same
        intro named
        rcases List.mem_cons.mp named with rfl | earlier
        · cases known.symm.trans found
          exact needed.take taken
        · exact (keeps_field needed keeps (List.mem_of_find?_eq_some found)).take (before earlier) taken

/-- Every record that is read has what a field that it needs gives. -/
theorem record_needed (known : fields.find? (·.name == field.name) = some field) {empty : σ}
    (read : record fields empty fuel room bs = .ok (found, rest)) : P found := by
  have inside : field ∈ fields := List.mem_of_find?_eq_some known
  have finish (state : List String × σ) (before : field.Told P state)
      (settled : settle fields state.1 state.2 = some found) : P found := by
    by_cases named : field.name ∈ state.1
    · exact settle_needed needed keeps (Or.inl (before named)) settled
    · exact settle_needed needed keeps (Or.inr ⟨inside, named⟩) settled
  unfold record at read
  split at read
  · cases read
  · split at read
    · split at read
      · cases read
      · cases read
      · dsimp only at read
        split at read
        · cases read
        · split at read
          · split at read
            · rename_i settled
              cases read
              exact finish ([], empty) (field.told_nil empty) settled
            · cases read
          · split at read
            · cases read
            · rename_i state _ gathered
              split at read
              · rename_i settled
                cases read
                refine finish state (members_invariant ?_ (field.told_nil empty) gathered) settled
                exact fun before stepped => recordStep_needed needed keeps known before stepped
              · cases read
    · split at read
      · split at read
        · cases read
        · cases read
        · exact positional_needed needed keeps (Or.inr inside) read
      · exact absurd read (reject_ne_ok _ _)

end Forms

end AuthzClient.Json.Decoder
