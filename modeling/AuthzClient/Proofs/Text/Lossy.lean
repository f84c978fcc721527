import AuthzClient.Proofs.Text.Utf8
import Mathlib.Data.String.Basic

/-!
Reading bytes that need not be UTF-8. They fall into pieces: characters, and beginnings of characters that are not
continued. Each of the latter is read as one character of three bytes, which may be longer than it, never shorter. So the
text has as many bytes as were read, and what the broken pieces are short of.
-/

namespace AuthzClient.Text.Utf8

section Bytes

variable {b0 b1 b2 b3 : UInt8}

theorem range_of_isTail {b : UInt8} (tail : isTail b = true) : 0x80 ≤ b.toNat ∧ b.toNat < 0xc0 := by
  simpa only [isTail, Bool.and_eq_true, decide_eq_true_eq, UInt8.le_iff_toNat_le, UInt8.lt_iff_toNat_lt,
    UInt8.reduceToNat] using tail

/-- What a second byte tells: it continues a character, and no leading byte has an overlong form, half of a pair, or a
number beyond the last one behind it. -/
theorem range_of_follows (second : follows b0 b1 = true) :
    0xc2 ≤ b0.toNat ∧ b0.toNat ≤ 0xf4 ∧ (0x80 ≤ b1.toNat ∧ b1.toNat < 0xc0) ∧
      (b0.toNat = 0xe0 → 0xa0 ≤ b1.toNat) ∧ (b0.toNat = 0xed → b1.toNat < 0xa0) ∧
      (b0.toNat = 0xf0 → 0x90 ≤ b1.toNat) ∧ (b0.toNat = 0xf4 → b1.toNat < 0x90) := by
  simp only [follows, isTail, beq_iff_eq, ← UInt8.toNat_inj, UInt8.le_iff_toNat_le, UInt8.lt_iff_toNat_lt,
    UInt8.reduceToNat] at second
  repeat' split at second
  all_goals simp only [Bool.and_eq_true, decide_eq_true_eq, Bool.false_eq_true] at second
  all_goals omega

theorem toUInt8_toNat {n : Nat} {b : UInt8} (same : n = b.toNat) : n.toUInt8 = b :=
  (toUInt8_eq (same ▸ b.toNat_lt) b).mpr same

/-- A number that is that of a character. -/
theorem toNat_ofNat_valid {n : Nat} (valid : n < 0xd800 ∨ 0xdfff < n ∧ n < 0x110000) : (Char.ofNat n).toNat = n := by
  unfold Char.ofNat
  rw [dif_pos valid]
  rfl

theorem encodeChar_one (ascii : b0 < 0x80) : encodeChar (Char.ofNat b0.toNat) = [b0] := by
  have ascii : b0.toNat < 0x80 := UInt8.lt_iff_toNat_lt.mp ascii
  rw [encodeChar_ascii (by rwa [toNat_ofNat ascii]), toNat_ofNat ascii, toUInt8_toNat rfl]

theorem encodeChar_two (second : follows b0 b1 = true) (short : b0 < 0xe0) :
    encodeChar (Char.ofNat (b0.toNat % 0x20 * 0x40 + low b1)) = [b0, b1] := by
  obtain ⟨least, _, tail, _⟩ := range_of_follows second
  have short : b0.toNat < 0xe0 := UInt8.lt_iff_toNat_lt.mp short
  have number : (Char.ofNat (b0.toNat % 0x20 * 0x40 + low b1)).toNat =
      (b0.toNat - 0xc0) * 0x40 + (b1.toNat - 0x80) := by
    rw [low, toNat_ofNat_valid (by omega)]
    omega
  unfold encodeChar
  dsimp only
  rw [number, if_neg (by omega), if_pos (by omega), List.cons.injEq, List.cons.injEq]
  exact ⟨toUInt8_toNat (by omega), toUInt8_toNat (by omega), rfl⟩

theorem encodeChar_three (second : follows b0 b1 = true) (long : ¬b0 < 0xe0) (third : isTail b2 = true)
    (short : b0 < 0xf0) :
    encodeChar (Char.ofNat (b0.toNat % 0x10 * 0x1000 + low b1 * 0x40 + low b2)) = [b0, b1, b2] := by
  obtain ⟨_, _, tail, overlong, half, _⟩ := range_of_follows second
  have last := range_of_isTail third
  have long : 0xe0 ≤ b0.toNat := Nat.le_of_not_lt fun less => long (UInt8.lt_iff_toNat_lt.mpr less)
  have short : b0.toNat < 0xf0 := UInt8.lt_iff_toNat_lt.mp short
  have number : (Char.ofNat (b0.toNat % 0x10 * 0x1000 + low b1 * 0x40 + low b2)).toNat =
      (b0.toNat - 0xe0) * 0x1000 + (b1.toNat - 0x80) * 0x40 + (b2.toNat - 0x80) := by
    rw [low, low, toNat_ofNat_valid (by omega)]
    omega
  unfold encodeChar
  dsimp only
  rw [number, if_neg (by omega), if_neg (by omega), if_pos (by omega), List.cons.injEq, List.cons.injEq,
    List.cons.injEq]
  exact ⟨toUInt8_toNat (by omega), toUInt8_toNat (by omega), toUInt8_toNat (by omega), rfl⟩

theorem encodeChar_four (second : follows b0 b1 = true) (third : isTail b2 = true) (long : ¬b0 < 0xf0)
    (fourth : isTail b3 = true) :
    encodeChar (Char.ofNat (b0.toNat % 8 * 0x40000 + low b1 * 0x1000 + low b2 * 0x40 + low b3)) = [b0, b1, b2, b3] := by
  obtain ⟨_, most, tail, _, _, overlong, beyond⟩ := range_of_follows second
  have next := range_of_isTail third
  have last := range_of_isTail fourth
  have long : 0xf0 ≤ b0.toNat := Nat.le_of_not_lt fun less => long (UInt8.lt_iff_toNat_lt.mpr less)
  have number : (Char.ofNat (b0.toNat % 8 * 0x40000 + low b1 * 0x1000 + low b2 * 0x40 + low b3)).toNat =
      (b0.toNat - 0xf0) * 0x40000 + (b1.toNat - 0x80) * 0x1000 + (b2.toNat - 0x80) * 0x40 + (b3.toNat - 0x80) := by
    rw [low, low, low, toNat_ofNat_valid (by omega)]
    omega
  unfold encodeChar
  dsimp only
  rw [number, if_neg (by omega), if_neg (by omega), if_neg (by omega), List.cons.injEq, List.cons.injEq,
    List.cons.injEq, List.cons.injEq]
  exact ⟨toUInt8_toNat (by omega), toUInt8_toNat (by omega), toUInt8_toNat (by omega), toUInt8_toNat (by omega), rfl⟩

end Bytes

/-- What is read at once: a character, or the beginning of one that is not continued. -/
inductive Piece
  | char (c : Char)
  | broken (bytes : List UInt8) (short : 0 < bytes.length ∧ bytes.length ≤ 3)

namespace Piece

def bytes : Piece → List UInt8
  | char c => encodeChar c
  | broken bytes _ => bytes

/-- The character that a piece is read as. -/
def shown : Piece → Char
  | char c => c
  | broken _ _ => replacement

def isChar : Piece → Bool
  | char _ => true
  | broken _ _ => false

/-- How many bytes a piece has less than the character that it is read as. -/
def shortage : Piece → Nat
  | char _ => 0
  | broken bytes _ => 3 - bytes.length

theorem length_shown (piece : Piece) : (encodeChar piece.shown).length = piece.bytes.length + piece.shortage := by
  cases piece with
  | char c => rfl
  | broken bytes short =>
    have three : (encodeChar replacement).length = 3 := by decide
    rw [shown, three, Piece.bytes, shortage]
    omega

theorem shortage_le (piece : Piece) : piece.shortage ≤ 2 * piece.bytes.length := by
  cases piece with
  | char c => exact Nat.zero_le _
  | broken bytes short =>
    rw [shortage, Piece.bytes]
    omega

end Piece

/-- The first piece of bytes of which the first one is given, and what is left behind it. -/
def cut (b0 : UInt8) (rest1 : List UInt8) : Piece × List UInt8 :=
  if b0 < 0x80 then (.char (Char.ofNat b0.toNat), rest1)
  else
    match rest1 with
    | [] => (.broken [b0] (by simp), [])
    | b1 :: rest2 =>
      if !follows b0 b1 then (.broken [b0] (by simp), b1 :: rest2)
      else if b0 < 0xe0 then (.char (Char.ofNat (b0.toNat % 0x20 * 0x40 + low b1)), rest2)
      else
        match rest2 with
        | [] => (.broken [b0, b1] (by simp), [])
        | b2 :: rest3 =>
          if !isTail b2 then (.broken [b0, b1] (by simp), b2 :: rest3)
          else if b0 < 0xf0 then
            (.char (Char.ofNat (b0.toNat % 0x10 * 0x1000 + low b1 * 0x40 + low b2)), rest3)
          else
            match rest3 with
            | [] => (.broken [b0, b1, b2] (by simp), [])
            | b3 :: rest4 =>
              if !isTail b3 then (.broken [b0, b1, b2] (by simp), b3 :: rest4)
              else
                (.char (Char.ofNat (b0.toNat % 8 * 0x40000 + low b1 * 0x1000 + low b2 * 0x40 + low b3)), rest4)

section Cutting

variable (b0 : UInt8) (rest : List UInt8)

/-- Reading goes on behind the first piece. -/
theorem scan_cons (seen : List Char) (clean : Bool) :
    scan seen clean (b0 :: rest) =
      scan ((cut b0 rest).1.shown :: seen) (clean && (cut b0 rest).1.isChar) (cut b0 rest).2 := by
  rw [scan.eq_def]
  dsimp only
  fun_cases cut b0 rest <;> simp [*, Piece.shown, Piece.isChar, scan]

theorem bytes_cut : (cut b0 rest).1.bytes ++ (cut b0 rest).2 = b0 :: rest := by
  fun_cases cut b0 rest <;> simp_all [Piece.bytes, encodeChar_one, encodeChar_two, encodeChar_three, encodeChar_four]

theorem length_cut : (cut b0 rest).2.length < (b0 :: rest).length := by
  fun_cases cut b0 rest <;> simp only [List.length_cons, List.length_nil] <;> omega

end Cutting

/-- How many bytes the pieces of a byte sequence have less than the characters that they are read as. -/
def shortage : List UInt8 → Nat
  | [] => 0
  | b0 :: rest => (cut b0 rest).1.shortage + shortage (cut b0 rest).2
termination_by bs => bs.length
decreasing_by exact length_cut b0 rest

theorem length_scan (seen : List Char) (clean : Bool) (bs : List UInt8) :
    (encodeChars (scan seen clean bs).1).length = (encodeChars seen.reverse).length + (bs.length + shortage bs) := by
  fun_induction shortage bs generalizing seen clean with
  | case1 => rfl
  | case2 b0 rest ih =>
    have bytes := congrArg List.length (bytes_cut b0 rest)
    rw [List.length_append] at bytes
    rw [scan_cons, ih, List.reverse_cons, encodeChars_append, List.length_append, encodeChars_cons, List.length_append,
      Piece.length_shown, ← bytes]
    simp only [encodeChars, List.flatMap_nil, List.length_nil]
    omega

/-- A reading that stays clean puts nothing in the place of anything. -/
theorem encodeChars_scan {seen : List Char} {clean : Bool} {bs : List UInt8} (whole : (scan seen clean bs).2 = true) :
    clean = true ∧ encodeChars (scan seen clean bs).1 = encodeChars seen.reverse ++ bs := by
  fun_induction shortage bs generalizing seen clean with
  | case1 => exact ⟨whole, (List.append_nil _).symm⟩
  | case2 b0 rest ih =>
    rw [scan_cons] at whole ⊢
    obtain ⟨before, same⟩ := ih whole
    rw [Bool.and_eq_true] at before
    have bytes := bytes_cut b0 rest
    generalize (cut b0 rest).1 = piece, (cut b0 rest).2 = behind at before same bytes ⊢
    cases piece with
    | broken => cases before.2
    | char c =>
      rw [same, List.reverse_cons, encodeChars_append, List.append_assoc, ← bytes]
      refine ⟨before.1, ?_⟩
      simp [encodeChars, Piece.shown, Piece.bytes]

theorem encodeChars_of_decode? {bs : List UInt8} {cs : List Char} (read : decode? bs = some cs) :
    encodeChars cs = bs ∧ decodeLossy bs = cs := by
  unfold decode? at read
  dsimp only at read
  split at read
  · rename_i clean
    cases read
    exact ⟨(encodeChars_scan clean).2, rfl⟩
  · cases read

theorem shortage_le (bs : List UInt8) : shortage bs ≤ 2 * bs.length := by
  fun_induction shortage bs with
  | case1 => exact Nat.zero_le _
  | case2 b0 rest ih =>
    have bytes := congrArg List.length (bytes_cut b0 rest)
    rw [List.length_append] at bytes
    have piece := (cut b0 rest).1.shortage_le
    omega

theorem length_encodeChar (c : Char) : (encodeChar c).length = c.utf8Size := by
  have bound (n : UInt32) : c.val ≤ n ↔ c.toNat < n.toNat + 1 := UInt32.le_iff_toNat_le.trans Nat.lt_succ_iff.symm
  unfold encodeChar Char.utf8Size
  simp only [bound, apply_ite List.length]
  rfl

theorem size_ofList (cs : List Char) : size (String.ofList cs) = (encodeChars cs).length := by
  rw [size, String.utf8ByteSize_ofList]
  induction cs with
  | nil => rfl
  | cons c cs ih => rw [String.utf8Len_cons, ih, encodeChars_cons, List.length_append, length_encodeChar, Nat.add_comm]

/-- The text that is read from bytes has as many bytes as these, and as many as their pieces are short of. -/
theorem size_decodeLossy (bs : List UInt8) : size (String.ofList (decodeLossy bs)) = bs.length + shortage bs := by
  rw [size_ofList, decodeLossy, length_scan]
  exact Nat.zero_add _

theorem shortage_of_decode? {bs : List UInt8} {cs : List Char} (read : decode? bs = some cs) : shortage bs = 0 := by
  obtain ⟨same, lossy⟩ := encodeChars_of_decode? read
  have length := size_decodeLossy bs
  rw [size_ofList, lossy, same] at length
  omega

theorem shortage_replicate (n : Nat) : shortage (List.replicate n 0xff) = 2 * n := by
  induction n with
  | zero => simp [shortage]
  | succ n ih =>
    have first : cut 0xff (List.replicate n 0xff) = (.broken [0xff] (by simp), List.replicate n 0xff) := by
      cases n with
      | zero => rfl
      | succ n => rfl
    rw [List.replicate_succ, shortage, first, ih, Piece.shortage]
    simp only [List.length_singleton]
    omega

end AuthzClient.Text.Utf8
