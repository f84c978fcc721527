import AuthzClient.Proofs.Text.Percent
import AuthzClient.Url.Parser
import Mathlib.Data.List.TakeWhile

/-!
Segments of paths. A path that is written from segments of plain characters is read as these very segments unless one of
them is a dot segment, and no path that was read has a dot segment. What a segment percent-decodes to tells whether it
is one.
-/

namespace AuthzClient.Url

open Text

/-- A character of a segment that is read as it is written. -/
def isSegmentChar (c : Char) : Bool :=
  0x20 < c.toNat && c.toNat < 0x7f && !"\"#/<>?\\\x60\x7b\x7d".toList.contains c

/-- A segment that leads to the same or to the upper place. -/
def isDots (segment : List Char) : Bool := isDot segment || isDoubleDot segment

section Characters

variable {c : Char} {cs : List Char}

theorem ascii_of_isSegmentChar (plain : isSegmentChar c = true) : c.toNat < 0x80 := by
  simp only [isSegmentChar, Bool.and_eq_true, decide_eq_true_eq] at plain
  omega

theorem isPathByte_of_isSegmentChar (plain : isSegmentChar c = true) : isPathByte c.toNat.toUInt8 = true := by
  have all : ∀ c : Char, c.toNat < 0x80 → isSegmentChar c = true → isPathByte c.toNat.toUInt8 = true :=
    forall_ascii (by decide +kernel)
  exact all c (ascii_of_isSegmentChar plain) plain

/-- The bytes that stand for plain characters, byte by byte. -/
theorem isSegmentChar_table : ∀ b : UInt8,
    (isPathByte b = true → Char.ofNat b.toNat ≠ '/' → Char.ofNat b.toNat ≠ '\\' →
      isSegmentChar (Char.ofNat b.toNat) = true) ∧
    (Percent.isUnreserved b = true → isSegmentChar (Char.ofNat b.toNat) = true) :=
  forall_byte (by decide +kernel)

theorem isSegmentChar_of_isPathByte {b : UInt8} (free : isPathByte b = true) (unslashed : Char.ofNat b.toNat ≠ '/')
    (unstruck : Char.ofNat b.toNat ≠ '\\') : isSegmentChar (Char.ofNat b.toNat) = true :=
  (isSegmentChar_table b).1 free unslashed unstruck

theorem isSegmentChar_of_isUnreserved {b : UInt8} (free : Percent.isUnreserved b = true) :
    isSegmentChar (Char.ofNat b.toNat) = true :=
  (isSegmentChar_table b).2 free

theorem isSegmentChar_hexDigit {n : Nat} (small : n < 16) : isSegmentChar (Percent.hexDigit n) = true := by
  have all : ∀ n : Fin 16, isSegmentChar (Percent.hexDigit n) = true := by decide
  exact all ⟨n, small⟩

/-- Plain characters are not encoded again. -/
theorem encodeChars_plain (plain : ∀ c ∈ cs, isSegmentChar c = true) : Percent.encodeChars isPathByte cs = cs :=
  Percent.encodeChars_allowed fun c inside =>
    ⟨ascii_of_isSegmentChar (plain c inside), isPathByte_of_isSegmentChar (plain c inside)⟩

/-- What encoding makes of text without slashes is plain. -/
theorem isSegmentChar_of_mem_encodeChars (apart : ∀ c ∈ cs, c ≠ '/' ∧ c ≠ '\\')
    (inside : c ∈ Percent.encodeChars isPathByte cs) : isSegmentChar c = true := by
  rcases Percent.mem_encodeBytes inside with ⟨b, here, free, rfl⟩ | rfl | ⟨n, small, rfl⟩
  · obtain ⟨d, written, byte⟩ := List.mem_flatMap.mp here
    have ascii : b.toNat < 0x80 := by
      simp only [isPathByte, Bool.and_eq_true, decide_eq_true_eq] at free
      exact Nat.lt_of_lt_of_le (UInt8.lt_iff_toNat_lt.mp free.1.2) (by decide)
    have same : Char.ofNat b.toNat = d := by rw [← Utf8.toNat_of_mem_encodeChar byte ascii, Char.ofNat_toNat]
    exact isSegmentChar_of_isPathByte free (same ▸ (apart d written).1) (same ▸ (apart d written).2)
  · rfl
  · exact isSegmentChar_hexDigit small

theorem isSegmentChar_of_mem_component {s : String} (inside : c ∈ (Percent.component s).toList) :
    isSegmentChar c = true := by
  rw [Percent.component, String.toList_ofList] at inside
  rcases Percent.mem_encodeBytes inside with ⟨b, _, free, rfl⟩ | rfl | ⟨n, small, rfl⟩
  · exact isSegmentChar_of_isUnreserved free
  · rfl
  · exact isSegmentChar_hexDigit small

end Characters

section Splitting

variable {separator : Char} {cs rest : List Char}

theorem splitChars_ne_nil (separator : Char) (cs : List Char) : splitChars separator cs ≠ [] := by
  cases cs with
  | nil => nofun
  | cons c cs =>
    unfold splitChars
    split
    · nofun
    · split <;> nofun

theorem splitChars_cons (separator c : Char) (cs : List Char) :
    ∃ part parts, splitChars separator cs = part :: parts ∧
      splitChars separator (c :: cs) = if c = separator then [] :: part :: parts else (c :: part) :: parts := by
  cases split : splitChars separator cs with
  | nil => exact absurd split (splitChars_ne_nil separator cs)
  | cons part parts => exact ⟨part, parts, rfl, by rw [splitChars, split]; simp only [beq_iff_eq]⟩

theorem splitChars_apart (apart : ∀ c ∈ cs, c ≠ separator) : splitChars separator cs = [cs] := by
  induction cs with
  | nil => rfl
  | cons c cs ih =>
    obtain ⟨part, parts, below, here⟩ := splitChars_cons separator c cs
    rw [ih fun d inside => apart d (List.mem_cons_of_mem _ inside)] at below
    cases below
    rw [here, if_neg (apart c List.mem_cons_self)]

theorem splitChars_append (apart : ∀ c ∈ cs, c ≠ separator) (rest : List Char) :
    splitChars separator (cs ++ separator :: rest) = cs :: splitChars separator rest := by
  induction cs with
  | nil =>
    obtain ⟨part, parts, below, here⟩ := splitChars_cons separator separator rest
    rw [List.nil_append, here, if_pos rfl, below]
  | cons c cs ih =>
    obtain ⟨part, parts, below, here⟩ := splitChars_cons separator c (cs ++ separator :: rest)
    rw [ih fun d inside => apart d (List.mem_cons_of_mem _ inside)] at below
    cases below
    rw [List.cons_append, here, if_neg (apart c List.mem_cons_self)]

theorem mem_splitChars {part : List Char} {c : Char} (inside : part ∈ splitChars separator cs) (here : c ∈ part) :
    c ∈ cs ∧ c ≠ separator := by
  induction cs generalizing part with
  | nil =>
    rw [List.mem_singleton.mp inside] at here
    cases here
  | cons d cs ih =>
    obtain ⟨first, parts, below, split⟩ := splitChars_cons separator d cs
    rw [below] at ih
    rw [split] at inside
    split at inside
    · rcases List.mem_cons.mp inside with rfl | behind
      · cases here
      · exact (ih behind here).imp_left (List.mem_cons_of_mem _)
    · rename_i other
      rcases List.mem_cons.mp inside with rfl | behind
      · rcases List.mem_cons.mp here with rfl | later
        · exact ⟨List.mem_cons_self, other⟩
        · exact (ih List.mem_cons_self later).imp_left (List.mem_cons_of_mem _)
      · exact (ih (List.mem_cons_of_mem _ behind) here).imp_left (List.mem_cons_of_mem _)

end Splitting

/-- The text of a path, each segment behind a slash. -/
def written (segments : List (List Char)) : List Char := segments.flatMap ('/' :: ·)

theorem written_cons (segment : List Char) (rest : List (List Char)) :
    written (segment :: rest) = '/' :: (segment ++ written rest) := rfl

theorem written_append (front rest : List (List Char)) : written (front ++ rest) = written front ++ written rest :=
  List.flatMap_append ..

theorem chars_pathOf (segments : List (List Char)) : (pathOf segments).chars = written segments := by
  simp [pathOf, Path.chars, written, List.flatMap_map]

section Dots

theorem resolve_plain {above segments : List (List Char)} (present : segments ≠ [])
    (plain : ∀ segment ∈ segments, isDots segment = false) : resolve above segments = above.reverse ++ segments := by
  induction segments generalizing above with
  | nil => exact absurd rfl present
  | cons segment rest ih =>
    have first := plain segment List.mem_cons_self
    simp only [isDots, Bool.or_eq_false_iff] at first
    cases rest with
    | nil => simp [resolve, first]
    | cons next rest =>
      have later : resolve (segment :: above) (next :: rest) = (segment :: above).reverse ++ next :: rest :=
        ih nofun fun other inside => plain other (List.mem_cons_of_mem _ inside)
      rw [resolve, first.2, first.1]
      · simpa using later
      · nofun

theorem mem_climb {above : List (List Char)} {segment : List Char} (inside : segment ∈ climb above) : segment ∈ above := by
  unfold climb at inside
  split at inside
  · cases inside
  · split at inside
    · exact inside
    · exact List.mem_cons_of_mem _ inside

/-- No dot segment is left, and only an empty one is added. -/
theorem mem_resolve {above segments : List (List Char)} {segment : List Char}
    (inside : segment ∈ resolve above segments) :
    segment ∈ above ∨ segment = [] ∨ segment ∈ segments ∧ isDots segment = false := by
  induction segments generalizing above with
  | nil => exact Or.inl (List.mem_reverse.mp inside)
  | cons first rest ih =>
    have further {place : List (List Char)} (inside : segment ∈ resolve place rest)
        (known : segment ∈ place → segment ∈ above ∨ segment = first ∧ isDots first = false) :
        segment ∈ above ∨ segment = [] ∨ segment ∈ first :: rest ∧ isDots segment = false := by
      rcases ih inside with before | empty | ⟨behind, plain⟩
      · rcases known before with above | ⟨rfl, plain⟩
        · exact Or.inl above
        · exact Or.inr (Or.inr ⟨List.mem_cons_self, plain⟩)
      · exact Or.inr (Or.inl empty)
      · exact Or.inr (Or.inr ⟨List.mem_cons_of_mem _ behind, plain⟩)
    cases rest with
    | nil =>
      rw [resolve] at inside
      split at inside
      · rcases List.mem_cons.mp (List.mem_reverse.mp inside) with rfl | before
        · exact Or.inr (Or.inl rfl)
        · exact Or.inl (mem_climb before)
      · split at inside
        · rcases List.mem_cons.mp (List.mem_reverse.mp inside) with rfl | before
          · exact Or.inr (Or.inl rfl)
          · exact Or.inl before
        · rename_i double single
          rcases List.mem_cons.mp (List.mem_reverse.mp inside) with rfl | before
          · exact Or.inr (Or.inr ⟨List.mem_cons_self, by simp [isDots, double, single]⟩)
          · exact Or.inl before
    | cons next rest =>
      rw [resolve] at inside
      split at inside
      · exact further inside fun before => Or.inl (mem_climb before)
      · split at inside
        · exact further inside Or.inl
        · rename_i double single
          refine further inside fun before => ?_
          rcases List.mem_cons.mp before with rfl | above
          · exact Or.inr ⟨rfl, by simp [isDots, double, single]⟩
          · exact Or.inl above
      · nofun

/-- Some segment is left. -/
theorem resolve_ne_nil {above segments : List (List Char)} (present : segments ≠ []) : resolve above segments ≠ [] := by
  induction segments generalizing above with
  | nil => exact absurd rfl present
  | cons segment rest ih =>
    cases rest with
    | nil =>
      rw [resolve]
      split
      · simp
      · split <;> simp
    | cons next rest =>
      have later {place : List (List Char)} : resolve place (next :: rest) ≠ [] := ih nofun
      rw [resolve]
      · split
        · exact later
        · split
          · exact later
          · exact later
      · nofun

theorem isDots_nil : isDots [] = false := by decide

/-- How a point is written in a dot segment. -/
def points : List (List Char) := [['.'], ['%', '2', 'e'], ['%', '2', 'E']]

theorem lowerAscii_of_le {c : Char} (high : 0x80 ≤ c.toNat) : lowerAscii c = c := by
  refine if_neg fun letter => Nat.not_lt.mpr high ?_
  simp only [Bool.and_eq_true, decide_eq_true_eq] at letter
  exact Nat.lt_of_le_of_lt letter.2 (by decide)

theorem lowerAscii_lowerAscii (c : Char) : lowerAscii (lowerAscii c) = lowerAscii c := by
  by_cases ascii : c.toNat < 0x80
  · revert c
    exact forall_ascii (by decide +kernel)
  · rw [lowerAscii_of_le (Nat.not_lt.mp ascii), lowerAscii_of_le (Nat.not_lt.mp ascii)]

theorem eq_of_lowerAscii (c : Char) :
    (lowerAscii c = '.' → c = '.') ∧ (lowerAscii c = '%' → c = '%') ∧ (lowerAscii c = '2' → c = '2') ∧
      (lowerAscii c = 'e' → c = 'e' ∨ c = 'E') := by
  by_cases ascii : c.toNat < 0x80
  · revert c
    exact forall_ascii (by decide +kernel)
  · rw [lowerAscii_of_le (Nat.not_lt.mp ascii)]
    exact ⟨id, id, id, Or.inl⟩

/-- A text whose lower-case form begins with a point or its code begins with one way to write it. -/
theorem exists_point {cs rest : List Char}
    (lower : cs.map lowerAscii = '.' :: rest ∨ cs.map lowerAscii = '%' :: '2' :: 'e' :: rest) :
    ∃ point ∈ points, ∃ more, cs = point ++ more ∧ more.map lowerAscii = rest := by
  rcases lower with lower | lower
  · obtain ⟨c, more, rfl, point, rfl⟩ := List.map_eq_cons_iff.mp lower
    rw [(eq_of_lowerAscii c).1 point]
    exact ⟨['.'], by decide, more, rfl, rfl⟩
  · obtain ⟨c, cs, rfl, percent, lower⟩ := List.map_eq_cons_iff.mp lower
    obtain ⟨d, cs, rfl, two, lower⟩ := List.map_eq_cons_iff.mp lower
    obtain ⟨e, more, rfl, letter, rfl⟩ := List.map_eq_cons_iff.mp lower
    rw [(eq_of_lowerAscii c).2.1 percent, (eq_of_lowerAscii d).2.2.1 two]
    rcases (eq_of_lowerAscii e).2.2.2 letter with rfl | rfl
    · exact ⟨['%', '2', 'e'], by decide, more, rfl, rfl⟩
    · exact ⟨['%', '2', 'E'], by decide, more, rfl, rfl⟩

theorem decode_point {point : List Char} (inside : point ∈ points) (more : List Char) :
    Percent.decode (Utf8.encodeChars (point ++ more)) = 0x2e :: Percent.decode (Utf8.encodeChars more) := by
  rw [Utf8.encodeChars_append]
  simp only [points, List.mem_cons, List.not_mem_nil, or_false] at inside
  rcases inside with rfl | rfl | rfl
  · exact Percent.decode_cons_plain (by decide) _
  · exact Percent.decode_cons _ _
  · exact Percent.decode_cons _ _

/-- The bytes that are digits of codes, and those in which a point is written. -/
theorem hexValue?_table : ∀ b : UInt8, (∀ n ∈ hexValue? b, n < 16) ∧ (hexValue? b = some 2 → b = 0x32) ∧
    (hexValue? b = some 14 → b = 0x65 ∨ b = 0x45) :=
  forall_byte (by decide +kernel)

theorem hexValue?_lt {b : UInt8} {n : Nat} (digit : hexValue? b = some n) : n < 16 := (hexValue?_table b).1 n digit

/-- The digits in which the number of a point is written. -/
theorem point_digits {h l : UInt8} {high low : Nat} (first : hexValue? h = some high) (second : hexValue? l = some low)
    (point : 0x2e = (high * 16 + low).toUInt8) : h = 0x32 ∧ (l = 0x65 ∨ l = 0x45) := by
  have upper := hexValue?_lt first
  have lower := hexValue?_lt second
  have number := congrArg UInt8.toNat point
  rw [Nat.toUInt8, UInt8.toNat_ofNat', Nat.mod_eq_of_lt (by omega)] at number
  change 46 = _ at number
  obtain rfl : high = 2 := by omega
  obtain rfl : low = 14 := by omega
  exact ⟨(hexValue?_table h).2.1 first, (hexValue?_table l).2.2 second⟩

/-- Only a way to write a point is decoded to one. -/
theorem exists_point_of_decode {cs : List Char} {rest : List UInt8}
    (read : Percent.decode (Utf8.encodeChars cs) = 0x2e :: rest) :
    ∃ point ∈ points, ∃ more, cs = point ++ more ∧ Percent.decode (Utf8.encodeChars more) = rest := by
  rcases Percent.decode_eq_cons read with ⟨bytes, same, rfl⟩ | ⟨h, l, high, low, bytes, same, first, second, byte, rfl⟩
  · obtain ⟨more, rfl, rfl⟩ := Utf8.encodeChars_eq_cons same (by decide)
    exact ⟨['.'], by decide, more, rfl, rfl⟩
  · have digits : h = 0x32 ∧ (l = 0x65 ∨ l = 0x45) := point_digits first second byte
    obtain ⟨rfl, letter⟩ := digits
    obtain ⟨behind, rfl, digits⟩ := Utf8.encodeChars_eq_cons same (by decide)
    obtain ⟨last, rfl, digit⟩ := Utf8.encodeChars_eq_cons digits (by decide)
    rcases letter with rfl | rfl
    · obtain ⟨more, rfl, rfl⟩ := Utf8.encodeChars_eq_cons digit (by decide)
      exact ⟨['%', '2', 'e'], by decide, more, rfl, rfl⟩
    · obtain ⟨more, rfl, rfl⟩ := Utf8.encodeChars_eq_cons digit (by decide)
      exact ⟨['%', '2', 'E'], by decide, more, rfl, rfl⟩

theorem isDot_iff (segment : List Char) :
    isDot segment = true ↔ Percent.decode (Utf8.encodeChars segment) = [0x2e] := by
  constructor
  · intro dot
    simp only [isDot, Bool.or_eq_true, beq_iff_eq] at dot
    obtain ⟨point, inside, more, rfl, empty⟩ := exists_point dot
    rw [List.map_eq_nil_iff.mp empty]
    exact decode_point inside []
  · intro read
    obtain ⟨point, inside, more, rfl, empty⟩ := exists_point_of_decode read
    rw [Utf8.encodeChars_eq_nil (Percent.decode_eq_nil empty), List.append_nil]
    have all : ∀ point ∈ points, isDot point = true := by decide
    exact all point inside

theorem isDoubleDot_iff (segment : List Char) :
    isDoubleDot segment = true ↔ Percent.decode (Utf8.encodeChars segment) = [0x2e, 0x2e] := by
  constructor
  · intro dots
    have lower : ∃ rest, (segment.map lowerAscii = '.' :: rest ∨ segment.map lowerAscii = '%' :: '2' :: 'e' :: rest) ∧
        (rest = ['.'] ∨ rest = ['%', '2', 'e']) := by
      simp only [isDoubleDot, List.contains_cons, List.contains_nil, Bool.or_false, Bool.or_eq_true, beq_iff_eq,
        ← String.toList_inj, String.toList_ofList] at dots
      rcases dots with same | same | same | same
      · exact ⟨_, Or.inl same, Or.inl rfl⟩
      · exact ⟨_, Or.inl same, Or.inr rfl⟩
      · exact ⟨_, Or.inr same, Or.inl rfl⟩
      · exact ⟨_, Or.inr same, Or.inr rfl⟩
    obtain ⟨rest, first, second⟩ := lower
    obtain ⟨point, inside, more, rfl, rfl⟩ := exists_point first
    obtain ⟨other, also, more, rfl, empty⟩ := exists_point second
    rw [decode_point inside, List.map_eq_nil_iff.mp empty, decode_point also]
    rfl
  · intro read
    obtain ⟨point, inside, behind, rfl, next⟩ := exists_point_of_decode read
    obtain ⟨other, also, more, rfl, empty⟩ := exists_point_of_decode next
    rw [Utf8.encodeChars_eq_nil (Percent.decode_eq_nil empty), List.append_nil]
    have all : ∀ point ∈ points, ∀ other ∈ points, isDoubleDot (point ++ other) = true := by decide
    exact all point inside other also

/-- A segment is a dot segment exactly if it decodes to one or two points. -/
theorem isDots_iff (segment : List Char) :
    isDots segment = true ↔ Percent.decode (Utf8.encodeChars segment) = [0x2e] ∨
      Percent.decode (Utf8.encodeChars segment) = [0x2e, 0x2e] := by
  rw [isDots, Bool.or_eq_true, isDot_iff, isDoubleDot_iff]

end Dots

/-- A segment of a path that was read. -/
structure IsSegment (segment : List Char) : Prop where
  plain : ∀ c ∈ segment, isSegmentChar c = true
  undotted : isDots segment = false

section Reading

theorem written_plain {segments : List (List Char)}
    (plain : ∀ segment ∈ segments, ∀ c ∈ segment, isSegmentChar c = true) {c : Char} (inside : c ∈ written segments) :
    c = '/' ∨ isSegmentChar c = true := by
  obtain ⟨segment, here, inside⟩ := List.mem_flatMap.mp inside
  exact (List.mem_cons.mp inside).imp_right (plain segment here c)

theorem above_of_written {c : Char} (plain : c = '/' ∨ isSegmentChar c = true) : 0x20 < c.toNat := by
  rcases plain with rfl | plain
  · decide
  · simp only [isSegmentChar, Bool.and_eq_true, decide_eq_true_eq] at plain
    exact plain.1.1

theorem ne_of_isSegmentChar {c d : Char} (plain : isSegmentChar c = true) (special : isSegmentChar d = false) : c ≠ d := by
  rintro rfl
  rw [plain] at special
  cases special

theorem not_endsPath {c : Char} (plain : c = '/' ∨ isSegmentChar c = true) : endsPath c = false := by
  rcases plain with rfl | plain
  · rfl
  · have question : c ≠ '?' := ne_of_isSegmentChar plain (by decide)
    have hash : c ≠ '#' := ne_of_isSegmentChar plain (by decide)
    simp [endsPath, question, hash]

theorem slash_of_isSlash {c : Char} (plain : c = '/' ∨ isSegmentChar c = true) :
    (if isSlash true c then '/' else c) = c := by
  rcases plain with rfl | plain
  · rfl
  · have slash : c ≠ '/' := ne_of_isSegmentChar plain (by decide)
    have back : c ≠ '\\' := ne_of_isSegmentChar plain (by decide)
    simp [isSlash, slash, back]

theorem splitChars_written {first : List Char} {rest : List (List Char)}
    (apart : ∀ segment ∈ first :: rest, ∀ c ∈ segment, c ≠ '/') :
    splitChars '/' (first ++ written rest) = first :: rest := by
  induction rest generalizing first with
  | nil =>
    rw [written, List.flatMap_nil, List.append_nil]
    exact splitChars_apart (apart first List.mem_cons_self)
  | cons next rest ih =>
    rw [written_cons, splitChars_append (apart first List.mem_cons_self), ih fun segment inside =>
      apart segment (List.mem_cons_of_mem _ inside)]

/-- A path of plain segments is read as these, with their dot segments resolved. -/
theorem readPath_written {first : List Char} {rest : List (List Char)}
    (plain : ∀ segment ∈ first :: rest, ∀ c ∈ segment, isSegmentChar c = true) :
    readPath true (written (first :: rest)) = pathOf (resolve [] (first :: rest)) := by
  have whole : (written (first :: rest)).takeWhile (!endsPath ·) = '/' :: (first ++ written rest) := by
    rw [written_cons]
    refine List.takeWhile_eq_self_iff.mpr fun c inside => ?_
    rw [not_endsPath (written_plain plain inside), Bool.not_false]
  have slashed : (first ++ written rest).map (fun c => if isSlash true c then '/' else c) = first ++ written rest := by
    refine (List.map_congr_left fun c inside => ?_).trans (List.map_id _)
    exact slash_of_isSlash (written_plain plain (List.mem_cons_of_mem '/' inside))
  have apart : ∀ segment ∈ first :: rest, ∀ c ∈ segment, c ≠ '/' := fun segment inside c here =>
    ne_of_isSegmentChar (plain segment inside c here) (by decide)
  have kept : (first :: rest).map (Percent.encodeChars isPathByte) = first :: rest :=
    (List.map_congr_left fun segment inside => encodeChars_plain (plain segment inside)).trans (List.map_id _)
  rw [readPath, whole]
  dsimp only
  rw [if_pos (show isSlash true '/' = true from rfl), readSegments, splitPath, slashed, splitChars_written apart, kept]

/-- Segments that lead nowhere else are read as a path from its text. -/
theorem readPath_pathOf {segments : List (List Char)} (present : segments ≠ [])
    (plain : ∀ segment ∈ segments, IsSegment segment) : readPath true (written segments) = pathOf segments := by
  obtain ⟨first, rest, rfl⟩ := List.exists_cons_of_ne_nil present
  rw [readPath_written fun segment inside => (plain segment inside).plain,
    resolve_plain present fun segment inside => (plain segment inside).undotted]
  rfl

/-- Where nothing ends the path, there is neither query nor fragment. -/
theorem readTail_of_not_endsPath {cs : List Char} (within : ∀ c ∈ cs, endsPath c = false) :
    readTail true cs = (none, none) := by
  have nothing : cs.dropWhile (!endsPath ·) = [] := by
    refine List.dropWhile_eq_nil_iff.mpr fun c inside => ?_
    rw [within c inside, Bool.not_false]
  rw [readTail, nothing]

theorem readTail_written {segments : List (List Char)}
    (plain : ∀ segment ∈ segments, ∀ c ∈ segment, isSegmentChar c = true) :
    readTail true (written segments) = (none, none) :=
  readTail_of_not_endsPath fun _ inside => not_endsPath (written_plain plain inside)

/-- Whatever is read as a path behind an authority of the web, its segments are plain and lead nowhere else. -/
theorem readPath_segments (cs : List Char) :
    ∃ segments, readPath true cs = pathOf segments ∧ segments ≠ [] ∧ ∀ segment ∈ segments, IsSegment segment := by
  have nothing : IsSegment [] := ⟨nofun, isDots_nil⟩
  unfold readPath
  dsimp only
  split
  · exact ⟨[[]], rfl, nofun, fun segment inside => List.mem_singleton.mp inside ▸ nothing⟩
  · refine ⟨_, rfl, resolve_ne_nil fun none => splitChars_ne_nil _ _ (List.map_eq_nil_iff.mp none),
      fun segment inside => ?_⟩
    rcases mem_resolve inside with above | rfl | ⟨here, undotted⟩
    · cases above
    · exact nothing
    · refine ⟨fun c written => ?_, undotted⟩
      obtain ⟨part, split, rfl⟩ := List.mem_map.mp here
      refine isSegmentChar_of_mem_encodeChars (fun d inside => ?_) written
      obtain ⟨mapped, slash⟩ := mem_splitChars split inside
      refine ⟨slash, ?_⟩
      obtain ⟨e, _, rfl⟩ := List.mem_map.mp mapped
      split
      · decide
      · rename_i unslashed
        rintro rfl
        exact unslashed rfl

end Reading

end AuthzClient.Url
