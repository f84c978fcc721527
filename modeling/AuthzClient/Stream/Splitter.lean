import AuthzClient.Text.Utf8

/-!
Lines cut out of a buffer that grows at its end. A line ends with a line feed; one carriage return in front of it is
dropped. A line that grows too long is reported once and then passed over up to its end.
-/

namespace AuthzClient.Stream

def longestLine : Nat := 1048576

def lineFeed : UInt8 := 0x0a

def carriageReturn : UInt8 := 0x0d

/-- A buffer of bytes that no line was made of yet. -/
structure Splitter where
  buffer : List UInt8
  /-- How many bytes at the front of the buffer are known to hold no line feed. -/
  searched : Nat
  /-- Whether the rest of a line that was too long is passed over. -/
  skipping : Bool
  searched_le : searched ≤ buffer.length
  unbroken : lineFeed ∉ buffer.take searched
  deriving Repr

inductive Cut
  /-- The bytes of a line and the characters that they write. -/
  | line (bytes : List UInt8) (text : List Char)
  | notUtf8
  | tooLong
  | nothing
  deriving DecidableEq, Repr

/-- The place of the first line feed among the first `room` bytes, the first byte being at `place`. -/
def findEnd? (place : Nat) : Nat → List UInt8 → Option Nat
  | 0, _ => none
  | _, [] => none
  | room + 1, b :: rest => if b = lineFeed then some place else findEnd? (place + 1) room rest

def pastEnd? : List UInt8 → Option (List UInt8)
  | [] => none
  | b :: rest => if b = lineFeed then some rest else pastEnd? rest

def withoutReturn (line : List UInt8) : List UInt8 :=
  if line.getLast? = some carriageReturn then line.dropLast else line

/-- The line that bytes are, if they are text. -/
def Cut.ofBytes (bytes : List UInt8) : Cut :=
  match Text.Utf8.decode? (withoutReturn bytes) with
  | some text => .line (withoutReturn bytes) text
  | none => .notUtf8

theorem Cut.ofBytes_ne_nothing (bytes : List UInt8) : Cut.ofBytes bytes ≠ .nothing := by
  unfold Cut.ofBytes
  split <;> simp

namespace Splitter

/-- A buffer in which nothing was searched yet. -/
def fresh (buffer : List UInt8) (skipping : Bool) : Splitter := ⟨buffer, 0, skipping, Nat.zero_le _, by simp⟩

def empty : Splitter := fresh [] false

def extend (bytes : List UInt8) (splitter : Splitter) : Splitter where
  buffer := splitter.buffer ++ bytes
  searched := splitter.searched
  skipping := splitter.skipping
  searched_le := by
    have within := splitter.searched_le
    simp only [List.length_append]
    omega
  unbroken := by
    rw [List.take_append_of_le_length splitter.searched_le]
    exact splitter.unbroken

/-- The place of the first line feed, if it is no further than the longest line reaches. -/
def end? (splitter : Splitter) : Option Nat :=
  findEnd? splitter.searched (longestLine + 1 - splitter.searched) (splitter.buffer.drop splitter.searched)

end Splitter

theorem findEnd?_some {place room found : Nat} {bytes : List UInt8} (search : findEnd? place room bytes = some found) :
    ∃ front rest, bytes = front ++ lineFeed :: rest ∧ lineFeed ∉ front ∧ front.length < room ∧
      found = place + front.length := by
  fun_induction findEnd? place room bytes with
  | case1 => cases search
  | case2 => cases search
  | case3 place room rest =>
    cases search
    exact ⟨[], rest, rfl, by simp, Nat.succ_pos _, rfl⟩
  | case4 place room b rest other ih =>
    obtain ⟨front, rest, same, unbroken, near, value⟩ := ih search
    refine ⟨b :: front, rest, by rw [same, List.cons_append], ?_, by simpa using near, ?_⟩
    · simpa [Ne.symm other] using unbroken
    · simp only [List.length_cons]
      omega

theorem findEnd?_none {place room : Nat} {bytes : List UInt8} (search : findEnd? place room bytes = none) :
    lineFeed ∉ bytes.take room := by
  fun_induction findEnd? place room bytes with
  | case1 => simp
  | case2 => simp
  | case3 => cases search
  | case4 place room b rest other ih => simpa [Ne.symm other] using ih search

theorem pastEnd?_some {bytes rest : List UInt8} (search : pastEnd? bytes = some rest) :
    ∃ front, bytes = front ++ lineFeed :: rest ∧ lineFeed ∉ front := by
  fun_induction pastEnd? bytes with
  | case1 => cases search
  | case2 rest' =>
    cases search
    exact ⟨[], rfl, by simp⟩
  | case3 b bytes other ih =>
    obtain ⟨front, same, unbroken⟩ := ih search
    exact ⟨b :: front, by rw [same, List.cons_append], by simpa [Ne.symm other] using unbroken⟩

theorem pastEnd?_eq_none_iff {bytes : List UInt8} : pastEnd? bytes = none ↔ lineFeed ∉ bytes := by
  fun_induction pastEnd? bytes with
  | case1 => simp
  | case2 => simp
  | case3 b bytes other ih => simpa [Ne.symm other] using ih

theorem pastEnd?_append {front : List UInt8} (unbroken : lineFeed ∉ front) (rest : List UInt8) :
    pastEnd? (front ++ rest) = pastEnd? rest := by
  induction front with
  | nil => rfl
  | cons b front ih =>
    obtain ⟨other, unbroken⟩ := List.ne_and_not_mem_of_not_mem_cons unbroken
    simp only [List.cons_append, pastEnd?, if_neg (Ne.symm other), ih unbroken]

theorem pastEnd?_append_lineFeed {front : List UInt8} (unbroken : lineFeed ∉ front) (rest : List UInt8) :
    pastEnd? (front ++ lineFeed :: rest) = some rest := by
  rw [pastEnd?_append unbroken, pastEnd?, if_pos rfl]

namespace Splitter

/-- What was searched before needs no second search: the place is that of the first line feed of the whole buffer. -/
theorem end?_some {splitter : Splitter} {place : Nat} (search : splitter.end? = some place) :
    ∃ front rest, splitter.buffer = front ++ lineFeed :: rest ∧ lineFeed ∉ front ∧ front.length = place ∧
      place ≤ longestLine := by
  obtain ⟨front, rest, same, unbroken, near, value⟩ := findEnd?_some search
  have whole := List.take_append_drop splitter.searched splitter.buffer
  have length : (splitter.buffer.take splitter.searched).length = splitter.searched :=
    List.length_take_of_le splitter.searched_le
  refine ⟨splitter.buffer.take splitter.searched ++ front, rest, ?_, ?_, ?_, by omega⟩
  · rw [List.append_assoc, ← same, whole]
  · simpa using ⟨splitter.unbroken, unbroken⟩
  · rw [List.length_append, length, value]

theorem end?_none {splitter : Splitter} (search : splitter.end? = none) :
    lineFeed ∉ splitter.buffer.take (longestLine + 1) := by
  have unbroken := findEnd?_none search
  by_cases near : splitter.searched ≤ longestLine + 1
  · have split : longestLine + 1 = splitter.searched + (longestLine + 1 - splitter.searched) := by omega
    rw [split, List.take_add]
    simpa using ⟨splitter.unbroken, unbroken⟩
  · intro member
    have shorter := List.take_subset_take_left splitter.buffer (Nat.le_of_not_le near) member
    exact splitter.unbroken shorter

/-- Cuts the first line out of a buffer that begins with one. -/
def cutLine (splitter : Splitter) : Cut × Splitter :=
  match search : splitter.end? with
  | some place => (.ofBytes (splitter.buffer.take place), fresh (splitter.buffer.drop (place + 1)) false)
  | none =>
    if long : longestLine < splitter.buffer.length then (.tooLong, { splitter with skipping := true })
    else
      (.nothing, { splitter with
        searched := splitter.buffer.length
        searched_le := Nat.le_refl _
        unbroken := by
          have unbroken := end?_none search
          rw [List.take_of_length_le (by omega)] at unbroken
          rwa [List.take_length] })

def cut (splitter : Splitter) : Cut × Splitter :=
  if splitter.skipping then
    match pastEnd? splitter.buffer with
    | some rest => (fresh rest false).cutLine
    | none => (.nothing, fresh [] true)
  else splitter.cutLine

/-- Cuts the next line out of a buffer that does not grow any more. What is left at the end is a line, unless it is a
single carriage return. -/
def cutLast (splitter : Splitter) : Cut × Splitter :=
  match splitter.cut with
  | (.nothing, rest) =>
    if rest.buffer = [] ∨ rest.buffer = [carriageReturn] then (.nothing, fresh rest.buffer rest.skipping)
    else (.ofBytes rest.buffer, fresh [] rest.skipping)
  | found => found

/-- A line in reach is cut out; a line that has outgrown the limit stays where it is; all else waits. -/
theorem cutLine_cases (splitter : Splitter) :
    (∃ front rest, splitter.buffer = front ++ lineFeed :: rest ∧ lineFeed ∉ front ∧ front.length ≤ longestLine ∧
      splitter.cutLine = (.ofBytes front, fresh rest false)) ∨
    (longestLine < splitter.buffer.length ∧ lineFeed ∉ splitter.buffer.take (longestLine + 1) ∧
      splitter.cutLine = (.tooLong, { splitter with skipping := true })) ∨
    (splitter.buffer.length ≤ longestLine ∧ lineFeed ∉ splitter.buffer ∧ ∃ rest, splitter.cutLine = (.nothing, rest) ∧
      rest.buffer = splitter.buffer ∧ rest.skipping = splitter.skipping) := by
  unfold cutLine
  split
  · rename_i place search
    obtain ⟨front, rest, same, unbroken, length, near⟩ := end?_some search
    refine Or.inl ⟨front, rest, same, unbroken, by omega, ?_⟩
    subst place
    simp [same]
  · rename_i search
    have unbroken := end?_none search
    split
    · rename_i long
      exact Or.inr (Or.inl ⟨long, unbroken, rfl⟩)
    · rename_i short
      rw [List.take_of_length_le (by omega)] at unbroken
      exact Or.inr (Or.inr ⟨Nat.le_of_not_lt short, unbroken, _, rfl, rfl, rfl⟩)

/-- What is left to do with a buffer: every byte counts twice, so that passing over a line end pays for the change to
the line behind it. -/
def weight (splitter : Splitter) : Nat := 2 * splitter.buffer.length + (!splitter.skipping).toNat

theorem weight_extend (bytes : List UInt8) (splitter : Splitter) :
    (splitter.extend bytes).weight = splitter.weight + 2 * bytes.length := by
  simp only [weight, extend, List.length_append]
  omega

theorem weight_cutLine {splitter : Splitter} (reading : splitter.skipping = false) :
    splitter.cutLine.2.weight ≤ splitter.weight ∧
      (splitter.cutLine.1 ≠ .nothing → splitter.cutLine.2.weight < splitter.weight) := by
  rcases cutLine_cases splitter with ⟨front, rest, same, _, _, value⟩ | ⟨_, _, value⟩ | ⟨_, _, rest, value, same, mode⟩
  · have less : (fresh rest false).weight < splitter.weight := by
      simp only [weight, fresh, same, reading, List.length_append, List.length_cons]
      omega
    rw [value]
    exact ⟨Nat.le_of_lt less, fun _ => less⟩
  · rw [value]
    simp [weight, reading]
  · rw [value]
    simp [weight, same, mode]

theorem weight_cut (splitter : Splitter) :
    splitter.cut.2.weight ≤ splitter.weight ∧
      (splitter.cut.1 ≠ .nothing → splitter.cut.2.weight < splitter.weight) := by
  unfold cut
  split
  · rename_i skipping
    split
    · rename_i rest search
      obtain ⟨front, same, _⟩ := pastEnd?_some search
      have passed : (fresh rest false).weight < splitter.weight := by
        simp only [weight, fresh, same, skipping, List.length_append, List.length_cons, Bool.not_false, Bool.not_true,
          Bool.toNat_true, Bool.toNat_false]
        omega
      have line : (fresh rest false).cutLine.2.weight ≤ (fresh rest false).weight := (weight_cutLine rfl).1
      exact ⟨by omega, fun _ => Nat.lt_of_le_of_lt line passed⟩
    · simp [weight, fresh, skipping]
  · rename_i reading
    exact weight_cutLine (Bool.eq_false_iff.mpr reading)

theorem weight_cutLast (splitter : Splitter) :
    splitter.cutLast.2.weight ≤ splitter.weight ∧
      (splitter.cutLast.1 ≠ .nothing → splitter.cutLast.2.weight < splitter.weight) := by
  have bound := weight_cut splitter
  unfold cutLast
  split
  · rename_i rest value
    rw [value] at bound
    split
    · exact ⟨bound.1, fun line => absurd rfl line⟩
    · rename_i left
      obtain ⟨some, -⟩ := not_or.mp left
      have positive := List.length_pos_iff.mpr some
      have less : (fresh [] rest.skipping).weight < rest.weight := by
        simp only [weight, fresh, List.length_nil]
        omega
      have whole := Nat.lt_of_lt_of_le less bound.1
      exact ⟨Nat.le_of_lt whole, fun _ => whole⟩
  · rename_i other
    exact bound

end Splitter

end AuthzClient.Stream
