import AuthzClient.Text.Blank
import AuthzClient.Text.Digit
import Mathlib.Algebra.Group.Nat.Defs
import Mathlib.Data.List.Induction

/-!
Numbers that are written in a base are read back, and digits write no number that is too large for them. A whole number is
read exactly from its digits, with zeros in front of them and a sign in front of all.
-/

namespace AuthzClient.Text

variable {base n : Nat} {cs : List Char}

theorem digitIn?_digitChar (small : base ≤ 16) (digit : n < base) : digitIn? base (Nat.digitChar n) = some n := by
  have all : ∀ base : Fin 17, ∀ n : Fin 16, n.val < base.val → digitIn? base (Nat.digitChar n) = some n.val := by
    decide +kernel
  exact all ⟨base, by omega⟩ ⟨n, by omega⟩ digit

theorem digitIn?_lt {c : Char} (read : digitIn? base c = some n) : n < base := by
  obtain ⟨_, below⟩ := Option.filter_eq_some_iff.mp read
  exact of_decide_eq_true below

theorem inBase?_toDigits (large : 1 < base) (small : base ≤ 16) (n : Nat) : inBase? base (Nat.toDigits base n) = some n := by
  induction n using Nat.base_induction base large with
  | single n digit =>
    rw [Nat.toDigits_of_lt_base digit, inBase?, List.foldlM_cons, digitIn?_digitChar small digit]
    simp
  | digit n last bound positive ih =>
    rw [← Nat.toDigits_append_toDigits large positive bound, inBase?, List.foldlM_append]
    change ((inBase? base (Nat.toDigits base n)).bind _) = _
    rw [ih, Nat.toDigits_of_lt_base bound, Option.bind_some, List.foldlM_cons, digitIn?_digitChar small bound]
    simp [Nat.mul_comm]

/-- Each digit makes room for one factor of the base. -/
theorem lt_of_foldlM {first : Nat}
    (read : cs.foldlM (fun n c => (digitIn? base c).map (n * base + ·)) first = some n) :
    n < (first + 1) * base ^ cs.length := by
  induction cs generalizing first with
  | nil =>
    cases read
    simp
  | cons c cs ih =>
    rw [List.foldlM_cons] at read
    obtain ⟨next, step, read⟩ := Option.bind_eq_some_iff.mp read
    obtain ⟨digit, known, rfl⟩ := Option.map_eq_some_iff.mp step
    have bound : first * base + digit + 1 ≤ (first + 1) * base := by
      have below := digitIn?_lt known
      rw [Nat.add_mul]
      omega
    calc n < (first * base + digit + 1) * base ^ cs.length := ih read
      _ ≤ (first + 1) * base * base ^ cs.length := Nat.mul_le_mul_right _ bound
      _ = (first + 1) * base ^ (c :: cs).length := by rw [List.length_cons, Nat.pow_succ', Nat.mul_assoc]

theorem lt_of_inBase? (read : inBase? base cs = some n) : n < base ^ cs.length := by
  simpa using lt_of_foldlM read

theorem digitsValue_toDigits (n : Nat) : digitsValue (Nat.toDigits 10 n) = n := by
  have same : digitsValue (Nat.toDigits 10 n) = Nat.ofDigitChars 10 (Nat.toDigits 10 n) 0 := by
    rw [digitsValue, Nat.ofDigitChars]
    congr 1
    funext sum c
    rw [Nat.mul_comm]
    rfl
  rw [same, Nat.ofDigitChars_ten_toDigits]

variable {c : Char}

theorem exists_digit_of_mem_toDigitsCore {fuel : Nat} {digits : List Char}
    (before : ∀ c ∈ digits, ∃ digit, c = Nat.digitChar digit) (inside : c ∈ Nat.toDigitsCore base fuel n digits) :
    ∃ digit, c = Nat.digitChar digit := by
  induction fuel generalizing n digits with
  | zero => exact before c inside
  | succ fuel ih =>
    have more : ∀ d ∈ Nat.digitChar (n % base) :: digits, ∃ digit, d = Nat.digitChar digit := by
      intro d here
      rcases List.mem_cons.mp here with rfl | behind
      · exact ⟨_, rfl⟩
      · exact before d behind
    rw [Nat.toDigitsCore] at inside
    split at inside
    · exact more c inside
    · exact ih more inside

/-- A number is written in digits. -/
theorem exists_digit (inside : c ∈ Nat.toDigits base n) : ∃ digit, c = Nat.digitChar digit :=
  exists_digit_of_mem_toDigitsCore (List.forall_mem_nil _) inside

theorem isDigit_of_mem_toDigits (inside : c ∈ Nat.toDigits 10 n) : isDigit c = true := by
  have digit : c.isDigit = true := Nat.isDigit_of_mem_toDigits (by decide) (by decide) inside
  simpa only [Char.isDigit, isDigit, Char.le_def, ge_iff_le] using digit

section Decimal

variable {digits : List Char} {n : Nat}

/-- Digits write a number: those of its shortest form, behind any number of zeros. -/
def WritesNat (digits : List Char) (n : Nat) : Prop := ∃ zeros, digits = List.replicate zeros '0' ++ Nat.toDigits 10 n

/-- A text writes a whole number, with a sign or without one. -/
inductive WritesInt : List Char → Int → Prop
  | bare {digits : List Char} {n : Nat} : WritesNat digits n → WritesInt digits n
  | plus {digits : List Char} {n : Nat} : WritesNat digits n → WritesInt ('+' :: digits) n
  | minus {digits : List Char} {n : Nat} : WritesNat digits n → WritesInt ('-' :: digits) (-n)

theorem digitsValue_concat (front : List Char) (c : Char) :
    digitsValue (front ++ [c]) = digitsValue front * 10 + digitValue c := by
  rw [digitsValue, List.foldl_append]
  rfl

theorem digitsValue_zeros_append (zeros : Nat) (digits : List Char) :
    digitsValue (List.replicate zeros '0' ++ digits) = digitsValue digits := by
  induction zeros with
  | zero => rfl
  | succ zeros ih => exact ih

theorem digitChar_digitValue {c : Char} (digit : isDigit c = true) :
    digitValue c < 10 ∧ Nat.digitChar (digitValue c) = c := by
  have range : 48 ≤ c.toNat ∧ c.toNat ≤ 57 := by
    simp only [isDigit, Bool.and_eq_true, decide_eq_true_eq, Char.le_def, UInt32.le_iff_toNat_le] at digit
    exact digit
  have value : digitValue c = c.toNat - 48 := rfl
  refine ⟨by omega, Char.toNat_inj.mp ?_⟩
  rw [Nat.toNat_digitChar_of_lt_ten (by omega)]
  omega

theorem WritesNat.concat {c : Char} (written : WritesNat digits n) (digit : isDigit c = true) :
    WritesNat (digits ++ [c]) (n * 10 + digitValue c) := by
  obtain ⟨zeros, rfl⟩ := written
  obtain ⟨small, same⟩ := digitChar_digitValue digit
  have last : Nat.toDigits 10 (digitValue c) = [c] := by rw [Nat.toDigits_of_lt_base small, same]
  rcases Nat.eq_zero_or_pos n with rfl | positive
  · refine ⟨zeros + 1, ?_⟩
    rw [Nat.zero_mul, Nat.zero_add, last, List.replicate_succ']
    rfl
  · refine ⟨zeros, ?_⟩
    rw [List.append_assoc, ← last, Nat.toDigits_append_toDigits (by decide) positive small, Nat.mul_comm]

/-- Digits, and at least one, write the number that they are read as. -/
theorem writesNat_iff :
    WritesNat digits n ↔ digits ≠ [] ∧ (∀ c ∈ digits, isDigit c = true) ∧ digitsValue digits = n := by
  constructor
  · rintro ⟨zeros, rfl⟩
    refine ⟨List.append_ne_nil_of_right_ne_nil _ Nat.toDigits_ne_nil, fun c inside => ?_, ?_⟩
    · rcases List.mem_append.mp inside with zero | digit
      · rw [List.eq_of_mem_replicate zero]
        rfl
      · exact isDigit_of_mem_toDigits digit
    · rw [digitsValue_zeros_append, digitsValue_toDigits]
  · rintro ⟨present, all, rfl⟩
    induction digits using List.reverseRecOn with
    | nil => exact absurd rfl present
    | append_singleton front c ih =>
      have digit := all c (List.mem_append_right _ List.mem_cons_self)
      rcases List.eq_nil_or_concat front with rfl | ⟨start, d, whole⟩
      · obtain ⟨small, same⟩ := digitChar_digitValue digit
        refine ⟨0, ?_⟩
        rw [digitsValue_concat]
        change [c] = Nat.toDigits 10 (0 * 10 + digitValue c)
        rw [Nat.zero_mul, Nat.zero_add, Nat.toDigits_of_lt_base small, same]
      · have before := ih (by rw [whole]; simp) fun d inside => all d (List.mem_append_left _ inside)
        rw [digitsValue_concat]
        exact before.concat digit

theorem parseDigits_eq_some_iff {m : Int} :
    (if digits.isEmpty || !digits.all isDigit then none else some (digitsValue digits : Int)) = some m ↔
      ∃ n : Nat, WritesNat digits n ∧ m = n := by
  have legal : (digits.isEmpty || !digits.all isDigit) = true ↔
      ¬(digits ≠ [] ∧ ∀ c ∈ digits, isDigit c = true) := by
    simp [imp_iff_not_or]
  simp only [writesNat_iff]
  split
  · rename_i illegal
    refine iff_of_false nofun ?_
    rintro ⟨n, ⟨present, all, _⟩, _⟩
    exact legal.mp illegal ⟨present, all⟩
  · rename_i fits
    obtain ⟨present, all⟩ := not_not.mp (mt legal.mpr fits)
    constructor
    · intro same
      exact ⟨_, ⟨present, all, rfl⟩, (Option.some.inj same).symm⟩
    · rintro ⟨n, ⟨_, _, rfl⟩, rfl⟩
      rfl

/-- No digits begin with a sign. -/
theorem not_writesNat_sign {c : Char} (sign : isDigit c = false) (rest : List Char) (n : Nat) :
    ¬WritesNat (c :: rest) n := fun written => by
  have digit := (writesNat_iff.mp written).2.1 c List.mem_cons_self
  cases sign.symm.trans digit

theorem parseInt?_eq_some_iff {cs : List Char} {m : Int} : parseInt? cs = some m ↔ WritesInt cs m := by
  unfold parseInt?
  dsimp only
  split
  · rename_i digits
    rw [Option.map_eq_some_iff]
    constructor
    · rintro ⟨k, read, rfl⟩
      obtain ⟨n, written, rfl⟩ := parseDigits_eq_some_iff.mp read
      exact .minus written
    · rintro (written | _ | written)
      · exact absurd written (not_writesNat_sign rfl _ _)
      · exact ⟨_, parseDigits_eq_some_iff.mpr ⟨_, written, rfl⟩, rfl⟩
  · rename_i digits
    rw [parseDigits_eq_some_iff]
    constructor
    · rintro ⟨n, written, rfl⟩
      exact .plus written
    · rintro (written | written | _)
      · exact absurd written (not_writesNat_sign rfl _ _)
      · exact ⟨_, written, rfl⟩
  · rename_i notMinus notPlus
    rw [parseDigits_eq_some_iff]
    constructor
    · rintro ⟨n, written, rfl⟩
      exact .bare written
    · intro written
      cases written with
      | bare written => exact ⟨_, written, rfl⟩
      | plus => exact (notPlus _ rfl).elim
      | minus => exact (notMinus _ rfl).elim

end Decimal

end AuthzClient.Text
