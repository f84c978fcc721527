import AuthzClient.Text.Percent

/-!
Percent encoding and what undoes it. ASCII characters are one byte each, so an encoded text is read back byte by byte.
-/

namespace AuthzClient.Text

theorem toNat_ofNat_of_isValidChar {n : Nat} (valid : n.isValidChar) : (Char.ofNat n).toNat = n := by
  unfold Char.ofNat
  rw [dif_pos valid]
  rfl

theorem toNat_ofNat {n : Nat} (small : n < 0x80) : (Char.ofNat n).toNat = n :=
  toNat_ofNat_of_isValidChar (Or.inl (by omega))

/-- What holds of the bytes of all numbers holds of every byte. -/
theorem forall_byte {p : UInt8 → Prop} (all : ∀ n : Fin 256, p (UInt8.ofNat n)) (b : UInt8) : p b := by
  have here := all ⟨b.toNat, b.toNat_lt⟩
  rwa [UInt8.ofNat_toNat] at here

/-- What holds of the characters of the first numbers holds of every ASCII character. -/
theorem forall_ascii {p : Char → Prop} (all : ∀ n : Fin 0x80, p (Char.ofNat n)) (c : Char) (ascii : c.toNat < 0x80) :
    p c := by
  have here := all ⟨c.toNat, ascii⟩
  rwa [Char.ofNat_toNat] at here

namespace Utf8

theorem encodeChar_ascii {c : Char} (ascii : c.toNat < 0x80) : encodeChar c = [c.toNat.toUInt8] := if_pos ascii

/-- A byte below 0x80 stands for the character with its number and for no other. -/
theorem toNat_of_mem_encodeChar {c : Char} {b : UInt8} (inside : b ∈ encodeChar c) (ascii : b.toNat < 0x80) :
    c.toNat = b.toNat := by
  have range : c.toNat < 0x110000 := by
    have valid := c.valid
    simp only [UInt32.isValidChar, Nat.isValidChar] at valid
    change c.val.toNat < _
    omega
  unfold encodeChar at inside
  dsimp only at inside
  split at inside
  · rw [List.mem_singleton.mp inside, Nat.toUInt8, UInt8.toNat_ofNat']
    omega
  · have high (n : Nat) (least : 0x80 ≤ n) (most : n < 0x100) : b ≠ n.toUInt8 := by
      rintro rfl
      rw [Nat.toUInt8, UInt8.toNat_ofNat'] at ascii
      omega
    split at inside
    · simp only [List.mem_cons, List.not_mem_nil, or_false] at inside
      rcases inside with same | same
      · exact absurd same (high _ (by omega) (by omega))
      · exact absurd same (high _ (by omega) (by omega))
    · split at inside
      · simp only [List.mem_cons, List.not_mem_nil, or_false] at inside
        rcases inside with same | same | same
        · exact absurd same (high _ (by omega) (by omega))
        · exact absurd same (high _ (by omega) (by omega))
        · exact absurd same (high _ (by omega) (by omega))
      · simp only [List.mem_cons, List.not_mem_nil, or_false] at inside
        rcases inside with same | same | same | same
        · exact absurd same (high _ (by omega) (by omega))
        · exact absurd same (high _ (by omega) (by omega))
        · exact absurd same (high _ (by omega) (by omega))
        · exact absurd same (high _ (by omega) (by omega))

theorem encodeChar_ne_nil (c : Char) : encodeChar c ≠ [] := by
  unfold encodeChar
  dsimp only
  split
  · nofun
  · split
    · nofun
    · split <;> nofun

theorem encodeChars_cons (c : Char) (cs : List Char) : encodeChars (c :: cs) = encodeChar c ++ encodeChars cs :=
  List.flatMap_cons ..

theorem encodeChars_append (front rest : List Char) :
    encodeChars (front ++ rest) = encodeChars front ++ encodeChars rest := List.flatMap_append ..

theorem encodeChars_ascii {cs : List Char} (ascii : ∀ c ∈ cs, c.toNat < 0x80) :
    encodeChars cs = cs.map fun c => c.toNat.toUInt8 := by
  induction cs with
  | nil => rfl
  | cons c cs ih =>
    rw [encodeChars_cons, encodeChar_ascii (ascii c List.mem_cons_self), ih fun d inside =>
      ascii d (List.mem_cons_of_mem _ inside)]
    rfl

/-- Bytes that begin below 0x80 begin with an ASCII character. -/
theorem encodeChars_eq_cons {cs : List Char} {b : UInt8} {bs : List UInt8} (same : encodeChars cs = b :: bs)
    (ascii : b.toNat < 0x80) : ∃ rest, cs = Char.ofNat b.toNat :: rest ∧ encodeChars rest = bs := by
  cases cs with
  | nil => cases same
  | cons c rest =>
    rw [encodeChars_cons] at same
    have first : c.toNat = b.toNat := by
      refine toNat_of_mem_encodeChar ?_ ascii
      cases written : encodeChar c with
      | nil => exact absurd written (encodeChar_ne_nil c)
      | cons d ds =>
        rw [written] at same
        cases same
        exact List.mem_cons_self
    rw [encodeChar_ascii (by omega)] at same
    cases same
    refine ⟨rest, ?_, rfl⟩
    rw [← first, Char.ofNat_toNat]

theorem encodeChars_eq_nil {cs : List Char} (empty : encodeChars cs = []) : cs = [] := by
  cases cs with
  | nil => rfl
  | cons c cs =>
    rw [encodeChars_cons] at empty
    exact absurd (List.append_eq_nil_iff.mp empty).1 (encodeChar_ne_nil c)

end Utf8

namespace Percent

theorem hexValue?_hexDigit {n : Nat} (small : n < 16) : hexValue? (hexDigit n).toNat.toUInt8 = some n := by
  have all : ∀ n : Fin 16, hexValue? (hexDigit n).toNat.toUInt8 = some n.val := by decide
  exact all ⟨n, small⟩

theorem hexDigit_ascii {n : Nat} (small : n < 16) : (hexDigit n).toNat < 0x80 := by
  have all : ∀ n : Fin 16, (hexDigit n).toNat < 0x80 := by decide
  exact all ⟨n, small⟩

/-- An encoded text consists of bytes that stand for themselves, percent signs and digits. -/
theorem mem_encodeBytes {allowed : UInt8 → Bool} {bs : List UInt8} {c : Char} (inside : c ∈ encodeBytes allowed bs) :
    (∃ b ∈ bs, allowed b = true ∧ c = Char.ofNat b.toNat) ∨ c = '%' ∨ ∃ n < 16, c = hexDigit n := by
  obtain ⟨b, here, inside⟩ := List.mem_flatMap.mp inside
  split at inside
  · rename_i plain
    exact Or.inl ⟨b, here, plain, List.mem_singleton.mp inside⟩
  · have range : b.toNat < 256 := b.toNat_lt
    simp only [escape, List.mem_cons, List.not_mem_nil, or_false] at inside
    rcases inside with rfl | rfl | rfl
    · exact Or.inr (Or.inl rfl)
    · exact Or.inr (Or.inr ⟨_, by omega, rfl⟩)
    · exact Or.inr (Or.inr ⟨_, by omega, rfl⟩)

theorem decode_cons (b : UInt8) (rest : List UInt8) :
    decode (b :: rest) =
      if b == 0x25 then
        match rest with
        | h :: l :: more =>
          match hexValue? h, hexValue? l with
          | some h, some l => (h * 16 + l).toUInt8 :: decode more
          | _, _ => b :: decode (h :: l :: more)
        | more => b :: decode more
      else b :: decode rest := decode.eq_def (b :: rest)

theorem decode_cons_plain {b : UInt8} (plain : b ≠ 0x25) (rest : List UInt8) : decode (b :: rest) = b :: decode rest := by
  rw [decode_cons, if_neg (by simpa using plain)]

theorem decode_escape (b : UInt8) (rest : List UInt8) : decode (Utf8.encodeChars (escape b) ++ rest) = b :: decode rest := by
  have range : b.toNat < 256 := b.toNat_lt
  have high : b.toNat / 16 < 16 := by omega
  have low : b.toNat % 16 < 16 := by omega
  have written : Utf8.encodeChars (escape b) =
      [0x25, (hexDigit (b.toNat / 16)).toNat.toUInt8, (hexDigit (b.toNat % 16)).toNat.toUInt8] := by
    refine Utf8.encodeChars_ascii fun c inside => ?_
    simp only [escape, List.mem_cons, List.not_mem_nil, or_false] at inside
    rcases inside with rfl | rfl | rfl
    · decide
    · exact hexDigit_ascii high
    · exact hexDigit_ascii low
  rw [written, List.cons_append, List.cons_append, List.cons_append, List.nil_append]
  rw [decode]
  simp only [beq_self_eq_true, if_true, hexValue?_hexDigit high, hexValue?_hexDigit low]
  rw [Nat.div_add_mod' b.toNat 16]
  simp

/-- Decoding takes every encoded byte back, if no percent sign stands for itself. -/
theorem decode_encodeBytes {allowed : UInt8 → Bool} (plain : ∀ b, allowed b = true → b.toNat < 0x80 ∧ b ≠ 0x25)
    (bs : List UInt8) : decode (Utf8.encodeChars (encodeBytes allowed bs)) = bs := by
  induction bs with
  | nil => rfl
  | cons b bs ih =>
    rw [encodeBytes, List.flatMap_cons, Utf8.encodeChars_append]
    change decode (_ ++ Utf8.encodeChars (encodeBytes allowed bs)) = _
    split
    · rename_i free
      obtain ⟨ascii, other⟩ := plain b free
      have same : Utf8.encodeChars [Char.ofNat b.toNat] = [b] := by
        have number : (Char.ofNat b.toNat).toNat = b.toNat := toNat_ofNat (by omega)
        rw [Utf8.encodeChars_cons, Utf8.encodeChar_ascii (by omega), number]
        simp [Utf8.encodeChars]
      rw [same, List.singleton_append, decode_cons_plain other, ih]
    · rw [decode_escape, ih]

/-- ASCII text of allowed characters is not encoded. -/
theorem encodeChars_allowed {allowed : UInt8 → Bool} {cs : List Char}
    (plain : ∀ c ∈ cs, c.toNat < 0x80 ∧ allowed c.toNat.toUInt8 = true) : encodeChars allowed cs = cs := by
  rw [encodeChars, encodeBytes, Utf8.encodeChars_ascii fun c inside => (plain c inside).1]
  induction cs with
  | nil => rfl
  | cons c cs ih =>
    obtain ⟨ascii, free⟩ := plain c List.mem_cons_self
    have number : c.toNat.toUInt8.toNat = c.toNat := by
      rw [Nat.toUInt8, UInt8.toNat_ofNat']
      omega
    rw [List.map_cons, List.flatMap_cons, if_pos free, number, Char.ofNat_toNat, ih fun d inside =>
      plain d (List.mem_cons_of_mem _ inside)]
    rfl

/-- Bytes of ASCII among which are the percent sign and the digits that stand behind it, so that encoded text is not
encoded again. -/
structure IsStable (allowed : UInt8 → Bool) : Prop where
  ascii : ∀ b, allowed b = true → b.toNat < 0x80
  percent : allowed 0x25 = true
  digit : ∀ n : Fin 16, allowed (hexDigit n).toNat.toUInt8 = true

/-- Text that encoding leaves alone. -/
def IsEncoded (allowed : UInt8 → Bool) (cs : List Char) : Prop := ∀ c ∈ cs, c.toNat < 0x80 ∧ allowed c.toNat.toUInt8 = true

theorem IsStable.isEncoded {allowed : UInt8 → Bool} (stable : IsStable allowed) (cs : List Char) :
    IsEncoded allowed (encodeChars allowed cs) := by
  intro c inside
  rcases mem_encodeBytes inside with ⟨b, _, free, rfl⟩ | rfl | ⟨n, small, rfl⟩
  · have ascii := stable.ascii b free
    have same : (Char.ofNat b.toNat).toNat.toUInt8 = b := by
      rw [toNat_ofNat ascii, Nat.toUInt8, UInt8.ofNat_toNat]
    rw [same, toNat_ofNat ascii]
    exact ⟨ascii, free⟩
  · exact ⟨by decide, stable.percent⟩
  · exact ⟨hexDigit_ascii small, stable.digit ⟨n, small⟩⟩

theorem isUnreserved_plain (b : UInt8) (free : isUnreserved b = true) : b.toNat < 0x80 ∧ b ≠ 0x25 := by
  have all : ∀ b, isUnreserved b = true → b.toNat < 0x80 ∧ b ≠ 0x25 := forall_byte (by decide +kernel)
  exact all b free

theorem decode_component (s : String) : decode (Utf8.encode (component s)) = Utf8.encode s := by
  rw [component, Utf8.encode, String.toList_ofList]
  exact decode_encodeBytes isUnreserved_plain _

/-- What a byte is decoded from. -/
theorem decode_eq_cons {bytes rest : List UInt8} {b : UInt8} (read : decode bytes = b :: rest) :
    (∃ more, bytes = b :: more ∧ decode more = rest) ∨
      ∃ h l high low more, bytes = 0x25 :: h :: l :: more ∧ hexValue? h = some high ∧ hexValue? l = some low ∧
        b = (high * 16 + low).toUInt8 ∧ decode more = rest := by
  cases bytes with
  | nil => cases read
  | cons c more =>
    rw [decode_cons] at read
    split at read
    · rename_i percent
      split at read
      · rename_i h l more
        split at read
        · rename_i high low first second
          cases read
          exact Or.inr ⟨h, l, high, low, more, by rw [eq_of_beq percent], first, second, rfl, rfl⟩
        · cases read
          exact Or.inl ⟨_, rfl, rfl⟩
      · cases read
        exact Or.inl ⟨_, rfl, rfl⟩
    · cases read
      exact Or.inl ⟨_, rfl, rfl⟩

theorem decode_eq_nil {bytes : List UInt8} (empty : decode bytes = []) : bytes = [] := by
  cases bytes with
  | nil => rfl
  | cons b rest =>
    rw [decode_cons] at empty
    split at empty
    · split at empty
      · split at empty <;> cases empty
      · cases empty
    · cases empty

end Percent

end AuthzClient.Text
