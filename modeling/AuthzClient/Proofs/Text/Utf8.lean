import AuthzClient.Proofs.Text.Percent
import Mathlib.Data.String.Basic

/-!
Reading UTF-8 takes back what writing it made of any text, and writing it keeps the order of texts.
-/

namespace AuthzClient.Text.Utf8

section Bytes

variable {n m : Nat}

theorem toNat_toUInt8 (small : n < 0x100) : n.toUInt8.toNat = n := by
  rw [Nat.toUInt8, UInt8.toNat_ofNat']
  omega

theorem toUInt8_lt (small : n < 0x100) (bound : UInt8) : n.toUInt8 < bound ↔ n < bound.toNat := by
  rw [UInt8.lt_iff_toNat_lt, toNat_toUInt8 small]

theorem le_toUInt8 (small : n < 0x100) (bound : UInt8) : bound ≤ n.toUInt8 ↔ bound.toNat ≤ n := by
  rw [UInt8.le_iff_toNat_le, toNat_toUInt8 small]

theorem toUInt8_eq (small : n < 0x100) (b : UInt8) : n.toUInt8 = b ↔ n = b.toNat := by
  rw [← UInt8.toNat_inj, toNat_toUInt8 small]

theorem isTail_toUInt8 (least : 0x80 ≤ n) (most : n < 0xc0) : isTail n.toUInt8 = true := by
  have small : n < 0x100 := by omega
  simp only [isTail, Bool.and_eq_true, decide_eq_true_eq, le_toUInt8 small, toUInt8_lt small]
  exact ⟨least, most⟩

theorem low_toUInt8 (most : n < 0x40) : low (0x80 + n).toUInt8 = n := by
  rw [low, toNat_toUInt8 (by omega)]
  omega

/-- What can stand behind a leading byte that is not one of the four with a narrower range. -/
theorem follows_toUInt8 (least : 0xc2 ≤ n) (most : n ≤ 0xf4) (tail : 0x80 ≤ m ∧ m < 0xc0)
    (long : n = 0xe0 → 0xa0 ≤ m) (whole : n = 0xed → m < 0xa0) (longer : n = 0xf0 → 0x90 ≤ m)
    (inside : n = 0xf4 → m < 0x90) : follows n.toUInt8 m.toUInt8 = true := by
  have lead : n < 0x100 := by omega
  have next : m < 0x100 := by omega
  have continued : isTail m.toUInt8 = true := isTail_toUInt8 tail.1 tail.2
  unfold follows
  simp only [continued, beq_iff_eq, toUInt8_lt lead, toUInt8_lt next, le_toUInt8 next, toUInt8_eq lead,
    UInt8.reduceToNat]
  repeat' split
  all_goals simp only [Bool.and_eq_true, decide_eq_true_eq, Bool.false_eq_true]
  all_goals omega

end Bytes

/-- The number of a character is below the limit and not that of a half of a pair. -/
theorem toNat_range (c : Char) : c.toNat < 0xd800 ∨ 0xdfff < c.toNat ∧ c.toNat < 0x110000 := c.valid

section Scanning

variable (seen : List Char) (clean : Bool) {b0 b1 b2 b3 : UInt8} (rest : List UInt8)

theorem scan_two (wide : ¬b0 < 0x80) (second : follows b0 b1 = true) (short : b0 < 0xe0) :
    scan seen clean (b0 :: b1 :: rest) = scan (Char.ofNat (b0.toNat % 0x20 * 0x40 + low b1) :: seen) clean rest := by
  rw [scan.eq_def]
  simp only [if_neg wide, second, Bool.not_true, Bool.false_eq_true, if_false, if_pos short]

theorem scan_three (long : ¬b0 < 0xe0) (second : follows b0 b1 = true) (third : isTail b2 = true) (short : b0 < 0xf0) :
    scan seen clean (b0 :: b1 :: b2 :: rest) =
      scan (Char.ofNat (b0.toNat % 0x10 * 0x1000 + low b1 * 0x40 + low b2) :: seen) clean rest := by
  have wide : ¬b0 < 0x80 := fun ascii => long (UInt8.lt_trans ascii (by decide))
  rw [scan.eq_def]
  simp only [if_neg wide, second, third, Bool.not_true, Bool.false_eq_true, if_false, if_neg long, if_pos short]

theorem scan_four (long : ¬b0 < 0xf0) (second : follows b0 b1 = true) (third : isTail b2 = true)
    (fourth : isTail b3 = true) :
    scan seen clean (b0 :: b1 :: b2 :: b3 :: rest) =
      scan (Char.ofNat (b0.toNat % 8 * 0x40000 + low b1 * 0x1000 + low b2 * 0x40 + low b3) :: seen) clean rest := by
  have wide : ¬b0 < 0x80 := fun ascii => long (UInt8.lt_trans ascii (by decide))
  have longer : ¬b0 < 0xe0 := fun short => long (UInt8.lt_trans short (by decide))
  rw [scan.eq_def]
  simp only [if_neg wide, second, third, fourth, Bool.not_true, Bool.false_eq_true, if_false, if_neg long,
    if_neg longer]

/-- Reading takes one character back from its bytes. -/
theorem scan_encodeChar (c : Char) : scan seen clean (encodeChar c ++ rest) = scan (c :: seen) clean rest := by
  have range := toNat_range c
  have whole {n : Nat} (same : n = c.toNat) : Char.ofNat n = c := by rw [same, Char.ofNat_toNat]
  unfold encodeChar
  dsimp only
  split
  · rename_i ascii
    have small : c.toNat < 0x100 := by omega
    rw [List.singleton_append, scan.eq_def]
    simp only [if_pos ((toUInt8_lt small 0x80).mpr ascii), toNat_toUInt8 small, Char.ofNat_toNat]
  · rename_i wide
    split
    · have lead : 0xc0 + c.toNat / 0x40 < 0x100 := by omega
      rw [List.cons_append, List.singleton_append, scan_two seen clean rest, toNat_toUInt8 lead,
        low_toUInt8 (by omega), whole (by omega)]
      · rw [toUInt8_lt lead]
        exact Nat.not_lt.mpr (by change 0x80 ≤ _; omega)
      · exact follows_toUInt8 (by omega) (by omega) (by omega) (by omega) (by omega) (by omega) (by omega)
      · rw [toUInt8_lt lead]
        change _ < 0xe0
        omega
    · split
      · have lead : 0xe0 + c.toNat / 0x1000 < 0x100 := by omega
        rw [List.cons_append, List.cons_append, List.singleton_append, scan_three seen clean rest, toNat_toUInt8 lead,
          low_toUInt8 (by omega), low_toUInt8 (by omega), whole (by omega)]
        · rw [toUInt8_lt lead]
          exact Nat.not_lt.mpr (Nat.le_add_right ..)
        · exact follows_toUInt8 (by omega) (by omega) (by omega) (by omega) (by omega) (by omega) (by omega)
        · exact isTail_toUInt8 (by omega) (by omega)
        · rw [toUInt8_lt lead]
          change _ < 0xf0
          omega
      · have lead : 0xf0 + c.toNat / 0x40000 < 0x100 := by omega
        rw [List.cons_append, List.cons_append, List.cons_append, List.singleton_append, scan_four seen clean rest,
          toNat_toUInt8 lead, low_toUInt8 (by omega), low_toUInt8 (by omega), low_toUInt8 (by omega), whole (by omega)]
        · rw [toUInt8_lt lead]
          exact Nat.not_lt.mpr (Nat.le_add_right ..)
        · exact follows_toUInt8 (by omega) (by omega) (by omega) (by omega) (by omega) (by omega) (by omega)
        · exact isTail_toUInt8 (by omega) (by omega)
        · exact isTail_toUInt8 (by omega) (by omega)

theorem scan_encodeChars (cs : List Char) : scan seen clean (encodeChars cs) = (seen.reverse ++ cs, clean) := by
  induction cs generalizing seen with
  | nil =>
    rw [List.append_nil]
    rfl
  | cons c cs ih =>
    rw [encodeChars_cons, scan_encodeChar, ih, List.reverse_cons, List.append_assoc]
    rfl

end Scanning

theorem decode?_encodeChars (cs : List Char) : decode? (encodeChars cs) = some cs := by
  rw [decode?, scan_encodeChars]
  rfl

theorem encodeChars_injective : Function.Injective encodeChars := by
  intro cs ds same
  have read := decode?_encodeChars cs
  rw [same, decode?_encodeChars] at read
  exact (Option.some.inj read).symm

section Order

theorem cons_lt_cons {n m : Nat} (small : n < 0x100) (other : m < 0x100) {front rest : List UInt8} :
    n.toUInt8 :: front < m.toUInt8 :: rest ↔ n < m ∨ n = m ∧ front < rest := by
  rw [List.cons_lt_cons_iff, toUInt8_lt small, toUInt8_eq small, toNat_toUInt8 other]

/-- The lesser one of two characters is written with lesser bytes, whatever comes behind them. -/
theorem encodeChar_append_lt {c d : Char} (less : c < d) (front rest : List UInt8) :
    encodeChar c ++ front < encodeChar d ++ rest := by
  have order : c.toNat < d.toNat := less
  have range := toNat_range d
  unfold encodeChar
  dsimp only
  generalize c.toNat = n at order ⊢
  generalize d.toNat = m at order range ⊢
  repeat' split
  all_goals simp (disch := omega) only [List.cons_append, List.nil_append, cons_lt_cons]
  all_goals omega

theorem encodeChars_lt {cs ds : List Char} (less : cs < ds) : encodeChars cs < encodeChars ds := by
  induction cs generalizing ds with
  | nil =>
    cases ds with
    | nil => cases less
    | cons d ds =>
      obtain ⟨b, bs, written⟩ := List.exists_cons_of_ne_nil (encodeChar_ne_nil d)
      rw [encodeChars_cons, written]
      exact List.nil_lt_cons ..
  | cons c cs ih =>
    cases ds with
    | nil => cases less
    | cons d ds =>
      rw [encodeChars_cons, encodeChars_cons]
      rcases List.cons_lt_cons_iff.mp less with before | ⟨rfl, behind⟩
      · exact encodeChar_append_lt before _ _
      · exact List.Lex.append_left (· < ·) (ih behind) _

theorem encode_lt {s t : String} (less : s < t) : encode s < encode t :=
  encodeChars_lt (String.lt_iff_toList_lt.mp less)

end Order

end AuthzClient.Text.Utf8
