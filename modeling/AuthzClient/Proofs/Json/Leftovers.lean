import AuthzClient.Proofs.Json.Records

/-!
What readers leave of a text. None of them leaves more than it was given, neither the small pieces nor values that are
passed over nor records, as long as the values of their fields leave no more either.
-/

namespace AuthzClient.Json

theorem length_skipSpace_le (bs : List UInt8) : (skipSpace bs).length ≤ bs.length :=
  (List.dropWhile_suffix isSpace).length_le

/-- Behind white space and one byte more there is less than before. -/
theorem length_of_skipSpace {b : UInt8} {bs rest : List UInt8} (same : skipSpace bs = b :: rest) :
    rest.length < bs.length := by
  have shorter := length_skipSpace_le bs
  rw [same, List.length_cons] at shorter
  omega

theorem expect_eq_ok_iff {es bs rest : List UInt8} : expect es bs = .ok rest ↔ bs = es ++ rest := by
  induction es generalizing bs with
  | nil => simp [expect]
  | cons e es ih =>
    cases bs with
    | nil => simp [expect]
    | cons b bs =>
      rw [expect, List.cons_append, List.cons.injEq]
      by_cases same : e = b
      · simp [same, ih]
      · simp [same, Ne.symm same]

theorem length_of_expect {es bs rest : List UInt8} (read : expect es bs = .ok rest) : rest.length ≤ bs.length := by
  rw [expect_eq_ok_iff.mp read, List.length_append]
  omega

theorem length_of_textBytes {seen bs bytes rest : List UInt8} (read : textBytes seen bs = .ok (bytes, rest)) :
    rest.length ≤ bs.length := by
  fun_induction textBytes seen bs <;> simp_all <;> omega

theorem length_of_readText {bs rest : List UInt8} {s : String} (read : readText bs = .ok (s, rest)) :
    rest.length ≤ bs.length := by
  unfold readText at read
  split at read
  · cases read
  · rename_i bytes
    split at read
    · cases read
      exact length_of_textBytes bytes
    · cases read

section Numbers

variable {negative : Bool} {n : Nat} {bs rest : List UInt8} {number : Number}

theorem length_takeDigits_le (n count : Nat) (bs : List UInt8) : (takeDigits n count bs).2.2.length ≤ bs.length := by
  fun_induction takeDigits n count bs <;> simp_all <;> omega

theorem length_countDigits_le (count : Nat) (bs : List UInt8) : (countDigits count bs).2.length ≤ bs.length := by
  fun_induction countDigits count bs <;> simp_all <;> omega

theorem length_takeExponent_le (e : Nat) (bs : List UInt8) : (takeExponent e bs).2.length ≤ bs.length := by
  fun_induction takeExponent e bs <;> simp_all <;> omega

theorem rest_of_realOfParts {exponent : Int} {left : List UInt8}
    (read : realOfParts negative n exponent left = .ok (number, rest)) : rest = left := by
  unfold realOfParts at read
  split at read
  · cases read
    rfl
  · cases read

theorem length_of_readExponent {start : Int} (read : readExponent negative n start bs = .ok (number, rest)) :
    rest.length ≤ bs.length := by
  unfold readExponent at read
  split at read
  rename_i positive left signed
  have behind : left.length ≤ bs.length := by
    split at signed
    · split at signed
      · cases signed
        exact Nat.le_succ _
      · split at signed
        · cases signed
          exact Nat.le_succ _
        · cases signed
          exact Nat.le_refl _
    · cases signed
      exact Nat.le_refl _
  split at read
  · cases read
  · rename_i b more
    have digits := length_takeExponent_le (digit b) more
    rw [List.length_cons] at behind
    split at read
    · cases read
    · split at read
      · rename_i taken
        rw [taken] at digits
        rw [rest_of_realOfParts read]
        exact Nat.le_trans digits (Nat.le_of_succ_le behind)
      · rename_i left taken
        rw [taken] at digits
        split at read
        · cases read
        · cases read
          exact Nat.le_trans (length_countDigits_le 0 left) (Nat.le_trans digits (Nat.le_of_succ_le behind))

theorem length_of_readFraction {start : Int} (read : readFraction negative n start bs = .ok (number, rest)) :
    rest.length ≤ bs.length := by
  unfold readFraction at read
  have digits := length_takeDigits_le n 0 bs
  generalize takeDigits n 0 bs = taken at read digits
  obtain ⟨m, count, left⟩ := taken
  dsimp only at read digits
  have passed := length_countDigits_le 0 left
  split at read
  · split at read
    · have exponent := length_of_readExponent read
      rw [List.length_drop] at exponent
      omega
    · rw [rest_of_realOfParts read]
      omega
  · split at read
    · split at read <;> cases read
    · split at read
      · have exponent := length_of_readExponent read
        rw [List.length_drop] at exponent
        omega
      · rw [rest_of_realOfParts read]
        exact digits

theorem length_of_finishNumber (read : finishNumber negative n bs = .ok (number, rest)) : rest.length ≤ bs.length := by
  unfold finishNumber at read
  split at read
  · rw [List.length_cons]
    split at read
    · exact Nat.le_succ_of_le (length_of_readFraction read)
    · split at read
      · exact Nat.le_succ_of_le (length_of_readExponent read)
      · cases read
        exact Nat.le_refl _
  · cases read
    exact Nat.le_refl _

theorem length_of_readNumber (read : readNumber negative bs = .ok (number, rest)) : rest.length ≤ bs.length := by
  unfold readNumber at read
  split at read
  · cases read
  · rename_i b more
    rw [List.length_cons]
    split at read
    · split at read
      · cases read
      · exact Nat.le_succ_of_le (length_of_finishNumber read)
    · split at read
      · have digits := length_takeDigits_le (digit b) 1 more
        generalize takeDigits (digit b) 1 more = taken at read digits
        obtain ⟨m, count, left⟩ := taken
        dsimp only at read digits
        split at read
        · have passed := length_countDigits_le 0 left
          generalize countDigits 0 left = counted at read passed
          obtain ⟨extra, behind⟩ := counted
          dsimp only at read passed
          split at read
          · rw [List.length_cons] at passed
            split at read
            · have fraction := length_of_readFraction read
              omega
            · split at read
              · have exponent := length_of_readExponent read
                omega
              · rw [rest_of_realOfParts read, List.length_cons]
                omega
          · rw [rest_of_realOfParts read]
            exact Nat.zero_le _
        · have finished := length_of_finishNumber read
          omega
      · cases read

end Numbers

section Passing

variable {bs rest : List UInt8}

theorem length_of_skipText (passed : skipText bs = .ok rest) : rest.length ≤ bs.length := by
  fun_induction skipText bs <;> simp_all <;> omega

theorem length_of_skipExponent (passed : skipNumber.exponent bs = .ok rest) : rest.length ≤ bs.length := by
  cases bs with
  | nil => cases passed
  | cons b more =>
    unfold skipNumber.exponent at passed
    dsimp only at passed
    -- Both branches of the sign go on with the same digits.
    have digits (left : List UInt8) (shorter : left.length ≤ (b :: more).length)
        (read : (if startsWithDigit left then .ok (countDigits 0 left).2 else .error .malformed) =
          (.ok rest : Except Fault (List UInt8))) : rest.length ≤ (b :: more).length := by
      split at read
      · cases read
        exact Nat.le_trans (length_countDigits_le 0 left) shorter
      · cases read
    refine digits _ ?_ passed
    split
    · exact Nat.le_succ _
    · exact Nat.le_refl _

theorem length_of_skipTail (passed : skipNumber.tail bs = .ok rest) : rest.length ≤ bs.length := by
  unfold skipNumber.tail at passed
  split at passed
  · rename_i b more
    rw [List.length_cons]
    split at passed
    · split at passed
      · have counted := length_countDigits_le 0 more
        dsimp only at passed
        split at passed
        · have exponent := length_of_skipExponent passed
          rw [List.length_drop] at exponent
          omega
        · cases passed
          omega
      · cases passed
    · split at passed
      · exact Nat.le_succ_of_le (length_of_skipExponent passed)
      · cases passed
        exact Nat.le_refl _
  · cases passed
    exact Nat.le_refl _

theorem length_of_skipNumber (passed : skipNumber bs = .ok rest) : rest.length < bs.length := by
  unfold skipNumber at passed
  split at passed
  · cases passed
  · rename_i b more
    rw [List.length_cons]
    split at passed
    · split at passed
      · cases passed
      · exact Nat.lt_succ_of_le (length_of_skipTail passed)
    · split at passed
      · exact Nat.lt_succ_of_le (Nat.le_trans (length_of_skipTail passed) (length_countDigits_le 0 more))
      · cases passed

theorem length_of_skipName (passed : skipName bs = .ok rest) : rest.length ≤ bs.length := by
  unfold skipName at passed
  split at passed
  · cases passed
  · rename_i opened
    have begun := length_of_skipSpace opened
    split at passed
    · cases passed
    · split at passed
      · cases passed
      · rename_i named
        have text := length_of_skipText named
        split at passed
        · cases passed
        · rename_i closed
          have behind := length_of_skipSpace closed
          split at passed
          · cases passed
            omega
          · cases passed

theorem length_of_skipValue {fuel : Nat} {within : List Bool} {after : Bool}
    (passed : skipValue fuel within after bs = .ok rest) : rest.length ≤ bs.length := by
  fun_induction skipValue fuel within after bs <;>
    grind [→ length_of_skipSpace, → length_of_expect, → length_of_skipNumber, → length_of_skipText, → length_of_skipName]

end Passing

namespace Decoder

variable {α σ : Type}

/-- A reader that leaves no more than it was given. -/
def IsConsuming (d : Decoder α) : Prop :=
  ∀ ⦃fuel room : Nat⦄ ⦃bs rest : List UInt8⦄ ⦃a : α⦄, d fuel room bs = .ok (a, rest) → rest.length ≤ bs.length

theorem isConsuming_text : IsConsuming text := by
  intro fuel room bs rest s read
  unfold text at read
  split at read
  · rename_i opened
    split at read
    · exact Nat.le_trans (length_of_readText read) (Nat.le_of_lt (length_of_skipSpace opened))
    · exact absurd read (reject_ne_ok _ _)
  · cases read

theorem isConsuming_integer (least most : Int) : IsConsuming (integer least most) := by
  intro fuel room bs rest n read
  unfold integer at read
  dsimp only at read
  split at read
  · rename_i opened
    have behind := length_of_skipSpace opened
    split at read
    · split at read
      · cases read
      · rename_i number
        split at read
        · cases read
          exact Nat.le_trans (length_of_readNumber number) (Nat.le_of_lt behind)
        · cases read
      · cases read
    · split at read
      · split at read
        · cases read
        · rename_i number
          split at read
          · cases read
            exact Nat.le_trans (length_of_readNumber number) behind
          · cases read
        · cases read
      · exact absurd read (reject_ne_ok _ _)
  · cases read

theorem IsConsuming.nullable {d : Decoder α} (consuming : d.IsConsuming) : IsConsuming (nullable d) := by
  intro fuel room bs rest a read
  unfold Decoder.nullable at read
  split at read
  · rename_i opened
    have behind := length_of_skipSpace opened
    split at read
    · split at read
      · cases read
      · rename_i word
        cases read
        exact Nat.le_trans (length_of_expect word) (Nat.le_of_lt behind)
    · split at read
      · cases read
      · rename_i value
        cases read
        exact Nat.le_trans (consuming value) behind
  · cases read

theorem length_of_memberName {bs rest : List UInt8} {name : String} (read : memberName bs = .ok (name, rest)) :
    rest.length < bs.length := by
  unfold memberName at read
  split at read
  · cases read
  · split at read
    · cases read
    · split at read
      · cases read
      · rename_i text
        cases read
        exact Nat.lt_succ_of_le (length_of_readText text)

theorem length_of_colon {bs rest : List UInt8} (read : colon bs = .ok rest) : rest.length < bs.length := by
  unfold colon at read
  split at read
  · cases read
  · rename_i opened
    split at read
    · cases read
      exact length_of_skipSpace opened
    · cases read

/-- A field whose value leaves no more than it was given. -/
def Field.IsConsuming (field : Field σ) : Prop := ∀ gathered, Decoder.IsConsuming (field.take gathered)

theorem IsConsuming.map {β : Type} {d : Decoder α} (consuming : d.IsConsuming) (f : α → β) :
    IsConsuming fun fuel room bs => (d fuel room bs).map fun (a, rest) => (f a, rest) := by
  intro fuel room bs rest b read
  obtain ⟨⟨a, left⟩, taken, same⟩ := map_eq_ok read
  cases same
  exact consuming taken

theorem Field.IsConsuming.optional {d : Decoder α} (consuming : d.IsConsuming) (name : String) (store : Option α → σ → σ) :
    (Field.optional name d store).IsConsuming := fun gathered => consuming.nullable.map (store · gathered)

theorem Field.IsConsuming.defaulted {d : Decoder α} (consuming : d.IsConsuming) (name : String) (store : α → σ → σ) :
    (Field.defaulted name d store).IsConsuming := fun gathered => consuming.map (store · gathered)

theorem Field.IsConsuming.required {d : Decoder α} (consuming : d.IsConsuming) (name : String) (store : α → σ → σ) :
    (Field.required name d store).IsConsuming := fun gathered => consuming.map (store · gathered)

section Values

variable {fuel room : Nat} {bs rest : List UInt8}

theorem length_of_items {item : List UInt8 → Scanned α} {seen found : List α}
    (single : ∀ ⦃bs rest a⦄, item bs = .ok (a, rest) → rest.length ≤ bs.length)
    (read : items item fuel seen bs = .ok (found, rest)) : rest.length ≤ bs.length := by
  induction fuel generalizing seen bs with
  | zero => cases read
  | succ fuel ih =>
    unfold items at read
    split at read
    · cases read
    · rename_i value
      have behind := single value
      split at read
      · cases read
      · rename_i opened
        have comma := length_of_skipSpace opened
        split at read
        · cases read
          omega
        · split at read
          · cases read
          · split at read
            · cases read
            · rename_i next
              have more := length_of_skipSpace next
              split at read
              · cases read
              · have others := ih read
                rw [List.length_cons] at others
                omega

theorem length_of_members {step : String → σ → List UInt8 → Scanned σ} {gathered found : σ}
    (stepped : ∀ ⦃name gathered found bs rest⦄, step name gathered bs = .ok (found, rest) → rest.length ≤ bs.length)
    (read : members step fuel gathered bs = .ok (found, rest)) : rest.length ≤ bs.length := by
  induction fuel generalizing gathered bs with
  | zero => cases read
  | succ fuel ih =>
    unfold members at read
    split at read
    · cases read
    · rename_i named
      have name := length_of_memberName named
      split at read
      · cases read
      · rename_i value
        have behind := stepped value
        split at read
        · cases read
        · rename_i opened
          have comma := length_of_skipSpace opened
          split at read
          · cases read
            omega
          · split at read
            · cases read
            · split at read
              · cases read
              · rename_i next
                have more := length_of_skipSpace next
                have others := ih read
                rw [List.length_cons] at others
                omega

theorem length_of_value {found : Json} (read : value fuel room bs = .ok (found, rest)) : rest.length ≤ bs.length := by
  induction room using Nat.strongRecOn generalizing bs rest found with
  | ind room ih =>
    unfold value at read
    split at read
    · cases read
    · rename_i b more opened
      have behind := length_of_skipSpace opened
      split at read
      · obtain ⟨left, word, same⟩ := map_eq_ok read
        cases same
        exact Nat.le_trans (length_of_expect word) (Nat.le_of_lt behind)
      split at read
      · obtain ⟨left, word, same⟩ := map_eq_ok read
        cases same
        exact Nat.le_trans (length_of_expect word) (Nat.le_of_lt behind)
      split at read
      · obtain ⟨left, word, same⟩ := map_eq_ok read
        cases same
        exact Nat.le_trans (length_of_expect word) (Nat.le_of_lt behind)
      split at read
      · obtain ⟨⟨n, left⟩, number, same⟩ := map_eq_ok read
        cases same
        exact Nat.le_trans (length_of_readNumber number) (Nat.le_of_lt behind)
      split at read
      · obtain ⟨⟨n, left⟩, number, same⟩ := map_eq_ok read
        cases same
        exact Nat.le_trans (length_of_readNumber number) behind
      split at read
      · obtain ⟨⟨s, left⟩, text, same⟩ := map_eq_ok read
        cases same
        exact Nat.le_trans (length_of_readText text) (Nat.le_of_lt behind)
      split at read
      · split at read
        · cases read
        · cases read
        · split at read
          · cases read
          · rename_i begun
            have first := length_of_skipSpace begun
            split at read
            · cases read
              omega
            · obtain ⟨⟨as, left⟩, items, same⟩ := map_eq_ok read
              cases same
              have inner := length_of_items (fun _ _ _ item => ih _ (Nat.lt_succ_self _) item) items
              rw [List.length_cons] at inner
              omega
      split at read
      · split at read
        · cases read
        · cases read
        · split at read
          · cases read
          · rename_i c text begun
            have first := length_of_skipSpace begun
            split at read
            · cases read
              omega
            · obtain ⟨⟨as, left⟩, gathered, same⟩ := map_eq_ok read
              cases same
              have inner : rest.length ≤ (c :: text).length := by
                refine length_of_members (fun _ _ _ _ _ stepped => ?_) gathered
                split at stepped
                · cases stepped
                · rename_i pointed
                  split at stepped
                  · cases stepped
                  · rename_i single
                    cases stepped
                    exact Nat.le_trans (ih _ (Nat.lt_succ_self _) single) (Nat.le_of_lt (length_of_colon pointed))
              rw [List.length_cons] at inner
              omega
      cases read

theorem isConsuming_any : IsConsuming any := fun _ _ _ _ _ read => length_of_value read

end Values

section Records

variable {fields : List (Field σ)} (consuming : ∀ field ∈ fields, field.IsConsuming)
variable {fuel room : Nat} {bs rest : List UInt8}

include consuming

theorem length_of_recordStep {name : String} {state later : List String × σ}
    (read : recordStep fields fuel room name state bs = .ok (later, rest)) : rest.length ≤ bs.length := by
  unfold recordStep at read
  dsimp only at read
  split at read
  · split at read
    · cases read
    · rename_i pointed
      obtain ⟨left, passed, same⟩ := map_eq_ok read
      cases same
      exact Nat.le_trans (length_of_skipValue passed) (Nat.le_of_lt (length_of_colon pointed))
  · rename_i field known
    split at read
    · cases read
    · split at read
      · cases read
      · rename_i pointed
        obtain ⟨⟨gathered, left⟩, taken, same⟩ := map_eq_ok read
        cases same
        have value := consuming field (List.mem_of_find?_eq_some known) _ taken
        exact Nat.le_trans value (Nat.le_of_lt (length_of_colon pointed))

theorem length_of_positional {first : Bool} {gathered found : σ}
    (read : positional fuel room fields first gathered bs = .ok (found, rest)) : rest.length ≤ bs.length := by
  induction fields generalizing gathered bs first with
  | nil =>
    unfold positional at read
    split at read
    · cases read
    · rename_i closed
      split at read
      · cases read
        exact Nat.le_of_lt (length_of_skipSpace closed)
      · cases read
  | cons field others ih =>
    obtain ⟨head, tail⟩ := List.forall_mem_cons.mp consuming
    -- What is taken for this field and read for the others.
    have next {taken : σ} {left more : List UInt8} (value : field.take gathered fuel room left = .ok (taken, more))
        (read : positional fuel room others false taken more = .ok (found, rest)) : rest.length ≤ left.length :=
      Nat.le_trans (ih tail read) (head gathered value)
    unfold positional at read
    split at read
    · cases read
    · rename_i opened
      have behind := length_of_skipSpace opened
      split at read
      · split at read
        · cases read
        · have short := ih tail read
          rw [List.length_cons] at short
          omega
      · split at read
        · split at read
          · cases read
          · rename_i value
            have taken := next value read
            rw [List.length_cons] at taken
            omega
        · split at read
          · cases read
          · split at read
            · cases read
            · rename_i following
              have comma := length_of_skipSpace following
              split at read
              · cases read
              · split at read
                · cases read
                · rename_i value
                  have taken := next value read
                  rw [List.length_cons] at taken
                  omega

theorem isConsuming_record (empty : σ) : IsConsuming (record fields empty) := by
  intro fuel room bs rest found read
  unfold record at read
  split at read
  · cases read
  · rename_i opened
    have behind := length_of_skipSpace opened
    split at read
    · split at read
      · cases read
      · cases read
      · dsimp only at read
        split at read
        · cases read
        · rename_i first
          have begun := length_of_skipSpace first
          split at read
          · split at read
            · cases read
              omega
            · cases read
          · split at read
            · cases read
            · rename_i gathered
              have members := length_of_members (fun _ _ _ _ _ => length_of_recordStep consuming) gathered
              rw [List.length_cons] at members
              split at read
              · cases read
                omega
              · cases read
    · split at read
      · split at read
        · cases read
        · cases read
        · have items := length_of_positional consuming read
          omega
      · exact absurd read (reject_ne_ok _ _)

end Records

end Decoder

end AuthzClient.Json
