import AuthzClient.Proofs.Text.Percent
import AuthzClient.Proofs.Text.Utf8
import AuthzClient.Url.Form

/-!
A form is read back as the pairs it was written from, whatever their names and values are: neither separator stands in what
is written for a name or a value, and what is written for a byte is read as that byte.
-/

namespace AuthzClient.Form

open Text

/-- What is written for a byte is ASCII, and no separator is in it. -/
theorem mem_encodeByte {b : UInt8} {c : Char} (inside : c ∈ encodeByte b) : c.toNat < 0x80 ∧ c ≠ '&' ∧ c ≠ '=' := by
  have all : ∀ b, (encodeByte b).all (fun c => c.toNat < 0x80 && c != '&' && c != '=') = true :=
    forall_byte (by decide +kernel)
  simpa [and_assoc] using List.all_eq_true.mp (all b) c inside

theorem mem_encodeText {s : String} {c : Char} (inside : c ∈ encodeText s) : c.toNat < 0x80 ∧ c ≠ '&' ∧ c ≠ '=' := by
  obtain ⟨b, -, inside⟩ := List.mem_flatMap.mp inside
  exact mem_encodeByte inside

theorem not_mem_encodeText {s : String} {separator : UInt8} (apart : separator = 0x26 ∨ separator = 0x3d) :
    separator ∉ Utf8.encodeChars (encodeText s) := by
  intro inside
  rw [Utf8.encodeChars_ascii fun c inside => (mem_encodeText inside).1] at inside
  obtain ⟨c, inside, same⟩ := List.mem_map.mp inside
  obtain ⟨ascii, ampersand, equals⟩ := mem_encodeText inside
  have whole : c = Char.ofNat separator.toNat := by
    rw [← same, Utf8.toNat_toUInt8 (by omega), Char.ofNat_toNat]
  rcases apart with rfl | rfl
  · exact ampersand whole
  · exact equals whole

/-- A plus sign that is read stands for a space, and a plus sign that is meant is not written as such. -/
def unplus (b : UInt8) : UInt8 := if b == 0x2b then 0x20 else b

theorem decode_encodeByte (b : UInt8) (rest : List UInt8) :
    Percent.decode ((Utf8.encodeChars (encodeByte b) ++ rest).map unplus) = b :: Percent.decode (rest.map unplus) := by
  have escaped : ∀ b, (Utf8.encodeChars (Percent.escape b)).map unplus = Utf8.encodeChars (Percent.escape b) :=
    forall_byte (by decide +kernel)
  have plain : ∀ b, isPlain b = true → Utf8.encodeChars [Char.ofNat b.toNat] = [b] ∧ unplus b = b ∧ b ≠ 0x25 :=
    forall_byte (by decide +kernel)
  rw [List.map_append, encodeByte]
  split
  · rename_i space
    rw [eq_of_beq space]
    exact Percent.decode_cons_plain (by decide) _
  · split
    · rename_i free
      obtain ⟨same, kept, other⟩ := plain b free
      rw [same, List.map_singleton, kept, List.singleton_append, Percent.decode_cons_plain other]
    · rw [escaped, Percent.decode_escape]

theorem decodeText_encodeText (s : String) : decodeText (Utf8.encodeChars (encodeText s)) = s := by
  have bytes (bs : List UInt8) : Percent.decode ((Utf8.encodeChars (bs.flatMap encodeByte)).map unplus) = bs := by
    induction bs with
    | nil => rfl
    | cons b bs ih => rw [List.flatMap_cons, Utf8.encodeChars_append, decode_encodeByte, ih]
  have text : decodeText (Utf8.encodeChars (encodeText s)) = String.ofList (Utf8.decodeLossy (Utf8.encode s)) :=
    congrArg (fun bs => String.ofList (Utf8.decodeLossy bs)) (bytes _)
  rw [text, Utf8.encode, Utf8.decodeLossy, Utf8.scan_encodeChars]
  exact String.ofList_toList

theorem encodeChars_encodePair (pair : String × String) :
    Utf8.encodeChars (encodePair pair) =
      Utf8.encodeChars (encodeText pair.1) ++ 0x3d :: Utf8.encodeChars (encodeText pair.2) := by
  rw [encodePair, Utf8.encodeChars_append, Utf8.encodeChars_cons]
  rfl

theorem decodePair_encodePair (pair : String × String) : decodePair (Utf8.encodeChars (encodePair pair)) = pair := by
  have name : ∀ b ∈ Utf8.encodeChars (encodeText pair.1), (b != 0x3d) = true := fun b inside =>
    bne_iff_ne.mpr (ne_of_mem_of_not_mem inside (not_mem_encodeText (Or.inr rfl)))
  rw [decodePair, encodeChars_encodePair, List.takeWhile_append_of_pos name, List.dropWhile_append_of_pos name]
  simp only [List.takeWhile_cons, List.dropWhile_cons, bne_self_eq_false, Bool.false_eq_true, if_false, List.append_nil,
    List.drop_one, List.tail_cons, decodeText_encodeText]

theorem not_mem_encodePair (pair : String × String) : 0x26 ∉ Utf8.encodeChars (encodePair pair) := by
  rw [encodeChars_encodePair, List.mem_append, List.mem_cons, not_or, not_or]
  exact ⟨not_mem_encodeText (Or.inl rfl), by decide, not_mem_encodeText (Or.inl rfl)⟩

section Split

variable {separator : UInt8} {part : List UInt8}

theorem splitAll_ne_nil (separator : UInt8) (bs : List UInt8) : splitAll separator bs ≠ [] := by
  fun_cases splitAll separator bs <;> simp_all

theorem splitAll_cons (separator b : UInt8) (bs : List UInt8) :
    ∃ first others, splitAll separator bs = first :: others ∧
      splitAll separator (b :: bs) = if b == separator then [] :: first :: others else (b :: first) :: others := by
  obtain ⟨first, others, same⟩ := List.exists_cons_of_ne_nil (splitAll_ne_nil separator bs)
  refine ⟨first, others, same, ?_⟩
  rw [splitAll, same]

theorem splitAll_append (clean : separator ∉ part) (rest : List UInt8) :
    splitAll separator (part ++ separator :: rest) = part :: splitAll separator rest := by
  induction part with
  | nil =>
    obtain ⟨first, others, same, whole⟩ := splitAll_cons separator separator rest
    rw [List.nil_append, whole, if_pos (beq_self_eq_true separator), same]
  | cons b part ih =>
    have other := List.ne_of_not_mem_cons clean
    obtain ⟨first, others, same, whole⟩ := splitAll_cons separator b (part ++ separator :: rest)
    rw [ih (List.not_mem_of_not_mem_cons clean)] at same
    cases same
    rw [List.cons_append, whole, if_neg (by simpa using Ne.symm other)]

theorem splitAll_of_not_mem (clean : separator ∉ part) : splitAll separator part = [part] := by
  induction part with
  | nil => rfl
  | cons b part ih =>
    have other := List.ne_of_not_mem_cons clean
    obtain ⟨first, others, same, whole⟩ := splitAll_cons separator b part
    rw [ih (List.not_mem_of_not_mem_cons clean)] at same
    cases same
    rw [whole, if_neg (by simpa using Ne.symm other)]

end Split

theorem splitAll_encode (pair : String × String) (pairs : List (String × String)) :
    splitAll 0x26 (Utf8.encodeChars (encode (pair :: pairs))) =
      (pair :: pairs).map fun pair => Utf8.encodeChars (encodePair pair) := by
  induction pairs generalizing pair with
  | nil =>
    have whole : encode [pair] = encodePair pair := List.intercalate_singleton
    rw [whole, splitAll_of_not_mem (not_mem_encodePair pair), List.map_singleton]
  | cons next pairs ih =>
    have whole : encode (pair :: next :: pairs) = encodePair pair ++ '&' :: encode (next :: pairs) := by
      simp only [encode, List.map_cons, List.intercalate_cons_cons, List.append_assoc, List.singleton_append]
    have ampersand : Utf8.encodeChar '&' = [0x26] := rfl
    rw [whole, Utf8.encodeChars_append, Utf8.encodeChars_cons, ampersand, List.singleton_append,
      splitAll_append (not_mem_encodePair pair), ih, List.map_cons (l := next :: pairs)]

/-- A form is read back as the pairs it was written from. -/
theorem decode_encode (pairs : List (String × String)) : decode (Utf8.encodeChars (encode pairs)) = pairs := by
  cases pairs with
  | nil => rfl
  | cons pair pairs =>
    have present : ∀ bs ∈ (pair :: pairs).map fun pair => Utf8.encodeChars (encodePair pair), (!bs.isEmpty) = true := by
      intro bs inside
      obtain ⟨pair, -, rfl⟩ := List.mem_map.mp inside
      rw [encodeChars_encodePair]
      simp
    rw [decode, splitAll_encode, List.filter_eq_self.mpr present, List.map_map]
    exact List.map_id'' decodePair_encodePair _

/-- What stands for a separator or for a space outside stands for itself inside of names and values. -/
example :
    String.ofList (encode [("a=b", "c&d"), ("e f", "g+h%")]) = "a%3Db=c%26d&e+f=g%2Bh%25" ∧
      decode (Utf8.encode "a%3Db=c%26d&&e+f") = [("a=b", "c&d"), ("e f", "")] := by
  decide +kernel

end AuthzClient.Form
