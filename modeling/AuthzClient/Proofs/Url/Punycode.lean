import AuthzClient.Proofs.Text.Percent
import AuthzClient.Url.Punycode
import Mathlib.Data.List.Sort

/-!
Labels in ASCII characters are read as what they were written from. The writer goes through the label once for each
character number and counts the places it passes; the reader holds the characters that were put in so far and takes the
same way in one step.
-/

namespace AuthzClient.Url.Punycode

/-- A character that numbers are written with. -/
def IsDigit (c : Char) : Prop := ∃ n, n < 36 ∧ c = digit n

theorem digitValue?_digit {n : Nat} (small : n < 36) : digitValue? (digit n) = some n := by
  have all : ∀ n, n < 36 → digitValue? (digit n) = some n := by decide
  exact all n small

theorem threshold_bounds (place bias : Nat) : 1 ≤ threshold place bias ∧ threshold place bias ≤ 26 := by
  unfold threshold
  omega

theorem isDigit_of_mem_digits {fuel n place bias : Nat} (enough : n ≤ fuel) {c : Char}
    (inside : c ∈ digits fuel n place bias) : IsDigit c := by
  induction fuel generalizing n place with
  | zero =>
    obtain rfl : n = 0 := Nat.le_zero.mp enough
    exact ⟨0, by decide, List.mem_singleton.mp inside⟩
  | succ fuel ih =>
    obtain ⟨least, most⟩ := threshold_bounds place bias
    rw [digits] at inside
    generalize threshold place bias = t at least most inside
    split at inside
    · exact ⟨n, by omega, List.mem_singleton.mp inside⟩
    · rename_i large
      rcases List.mem_cons.mp inside with rfl | later
      · have below : (n - t) % (36 - t) < 36 - t := Nat.mod_lt _ (by omega)
        exact ⟨_, by omega, rfl⟩
      · have less : (n - t) / (36 - t) ≤ n - t := Nat.div_le_self _ _
        exact ih (by omega) later

/-- The digits of a number are read as this number, and what it says is put in. -/
theorem readNumbers_digits (reader : Reader) (rest : List Char) {fuel n : Nat} (enough : n ≤ fuel)
    (number weight place : Nat) :
    readNumbers reader number weight place (digits fuel n place reader.bias ++ rest) =
      match reader.insert? (number + n * weight) with
      | some reader => readNumbers reader 0 1 36 rest
      | none => none := by
  have last {n : Nat} (number weight place : Nat) (small : n < threshold place reader.bias) :
      readNumbers reader number weight place ([digit n] ++ rest) =
        match reader.insert? (number + n * weight) with
        | some reader => readNumbers reader 0 1 36 rest
        | none => none := by
    have bounds := threshold_bounds place reader.bias
    rw [List.singleton_append, readNumbers, digitValue?_digit (by omega)]
    exact if_pos small
  induction fuel generalizing n number weight place with
  | zero =>
    obtain rfl : n = 0 := Nat.le_zero.mp enough
    exact last number weight place (threshold_bounds place reader.bias).1
  | succ fuel ih =>
    obtain ⟨least, most⟩ := threshold_bounds place reader.bias
    rw [digits]
    split
    · rename_i small
      exact last number weight place small
    · rename_i large
      have step := ih (n := (n - threshold place reader.bias) / (36 - threshold place reader.bias))
      generalize found : threshold place reader.bias = t at least most large step
      have less : (n - t) / (36 - t) ≤ n - t := Nat.div_le_self _ _
      have below : (n - t) % (36 - t) < 36 - t := Nat.mod_lt _ (by omega)
      have whole : t + (n - t) % (36 - t) + (36 - t) * ((n - t) / (36 - t)) = n := by
        have parts := Nat.mod_add_div (n - t) (36 - t)
        omega
      have large : ¬t + (n - t) % (36 - t) < t := by omega
      rw [List.cons_append, readNumbers, digitValue?_digit (by omega)]
      dsimp only
      rw [found, if_neg large, step (by omega)]
      have sum : number + (t + (n - t) % (36 - t)) * weight + (n - t) / (36 - t) * (weight * (36 - t)) =
          number + n * weight := by
        conv_rhs => rw [← whole, Nat.add_mul]
        rw [Nat.add_assoc, Nat.mul_comm weight, ← Nat.mul_assoc, Nat.mul_comm (36 - t)]
      rw [sum]

section Course

/-- The characters of a text with numbers below a given one. -/
def below (n : Nat) (cs : List Char) : List Char := cs.filter (·.toNat < n)

variable {level : Nat} {front back label : List Char} {writer : Writer} {reader : Reader}

/-- The reader that has read what the writer has written, when those with number `level` are put in and the writer is
between two parts of the label. -/
structure Meets (level : Nat) (front back : List Char) (writer : Writer) (reader : Reader) : Prop where
  holds : reader.label = below (level + 1) front ++ below level back
  count : writer.count = reader.label.length
  reached : reader.level ≤ level
  /-- What the writer has counted leads from the place of the last character that was put in to the present one. -/
  delta : reader.index + writer.delta =
    (writer.count + 1) * (level - reader.level) + (below (level + 1) front).length
  bias : writer.bias = reader.bias
  first : writer.first = reader.first

/-- What one writer has written more than another one is what one reader reads more than another one. -/
def Writes (writer written : Writer) (reader read : Reader) : Prop :=
  ∃ more, written.written = writer.written ++ more ∧ (∀ c ∈ more, IsDigit c) ∧
    ∀ rest, readNumbers reader 0 1 36 (more ++ rest) = readNumbers read 0 1 36 rest

theorem Writes.refl {written : Writer} (same : written.written = writer.written) (reader : Reader) :
    Writes writer written reader reader :=
  ⟨[], by rw [same, List.append_nil], nofun, fun _ => rfl⟩

theorem Writes.trans {first second : Writer} {early late : Reader} (one : Writes writer first reader early)
    (other : Writes first second early late) : Writes writer second reader late := by
  obtain ⟨front, wrote, digits, reads⟩ := one
  obtain ⟨behind, wrote', digits', reads'⟩ := other
  refine ⟨front ++ behind, by rw [wrote', wrote, List.append_assoc], fun c inside => ?_, fun rest => ?_⟩
  · rcases List.mem_append.mp inside with inside | inside
    · exact digits c inside
    · exact digits' c inside
  · rw [List.append_assoc, reads, reads']

/-- The number that is written puts the character in where the writer is. -/
theorem Meets.insert? {c : Char} (meets : Meets level front (c :: back) writer reader) (here : c.toNat = level) :
    reader.insert? writer.delta = some ⟨below (level + 1) (front ++ [c]) ++ below level back, level,
      (below (level + 1) front).length + 1, adapt writer.delta (writer.count + 1) writer.first, false⟩ := by
  have label : reader.label = below (level + 1) front ++ below level back := by
    rw [meets.holds, below, below, below, List.filter_cons_of_neg (by simp [here])]
  have within : (below (level + 1) front).length < writer.count + 1 := by
    rw [meets.count, label, List.length_append]
    omega
  have rounds : ((writer.count + 1) * (level - reader.level) + (below (level + 1) front).length) / (writer.count + 1) =
      level - reader.level := by
    rw [Nat.mul_add_div (Nat.succ_pos _), Nat.div_eq_of_lt within, Nat.add_zero]
  have place : ((writer.count + 1) * (level - reader.level) + (below (level + 1) front).length) % (writer.count + 1) =
      (below (level + 1) front).length := by
    rw [Nat.mul_add_mod, Nat.mod_eq_of_lt within]
  have reached : reader.level + (level - reader.level) = level := Nat.add_sub_cancel' meets.reached
  have grown : below (level + 1) (front ++ [c]) = below (level + 1) front ++ [c] := by
    rw [below, List.filter_append, List.filter_cons_of_pos (by simp [here])]
    rfl
  have valid : level < 0xd800 ∨ (0xe000 ≤ level ∧ level < 0x110000) := here ▸ c.valid
  have char : Char.ofNat level = c := by rw [← here, Char.ofNat_toNat]
  rw [Reader.insert?, ← meets.count, meets.delta, rounds, place, reached, if_pos valid, label, List.take_left, List.drop_left, char, grown, meets.first, List.append_assoc]
  rfl

theorem Meets.pass {c : Char} (meets : Meets level front (c :: back) writer reader) :
    ∃ read, Meets level (front ++ [c]) back (writer.pass level c) read ∧
      Writes writer (writer.pass level c) reader read := by
  rcases Nat.lt_trichotomy c.toNat level with lower | here | higher
  · have passed : writer.pass level c = { writer with delta := writer.delta + 1 } := if_pos lower
    have grown : below (level + 1) (front ++ [c]) = below (level + 1) front ++ [c] := by
      rw [below, List.filter_append, List.filter_cons_of_pos (by simp; omega)]
      rfl
    rw [passed]
    refine ⟨reader, ⟨?_, meets.count, meets.reached, ?_, meets.bias, meets.first⟩, .refl rfl reader⟩
    · rw [meets.holds, grown, below, below, below, List.filter_cons_of_pos (by simpa using lower)]
      simp
    · rw [grown, List.length_append, ← Nat.add_assoc, ← Nat.add_assoc, meets.delta]
      rfl
  · have passed : writer.pass level c = ⟨0, adapt writer.delta (writer.count + 1) writer.first, writer.count + 1, false,
        writer.written ++ digits writer.delta writer.delta 36 writer.bias⟩ :=
      (if_neg (by omega)).trans (if_pos here)
    have grown : (below (level + 1) (front ++ [c])).length = (below (level + 1) front).length + 1 := by
      rw [below, List.filter_append, List.filter_cons_of_pos (by simp [here])]
      simp [below]
    have skipped : below level (c :: back) = below level back := List.filter_cons_of_neg (by simp [here])
    have count : writer.count = (below (level + 1) front).length + (below level back).length := by
      rw [meets.count, meets.holds, skipped, List.length_append]
    rw [passed]
    refine ⟨⟨below (level + 1) (front ++ [c]) ++ below level back, level, (below (level + 1) front).length + 1,
      adapt writer.delta (writer.count + 1) writer.first, false⟩, ⟨rfl, ?_, Nat.le_refl level, ?_, rfl, rfl⟩, _, rfl,
      fun c => isDigit_of_mem_digits (Nat.le_refl _), fun rest => ?_⟩
    · dsimp only
      rw [List.length_append, grown, count]
      omega
    · dsimp only
      rw [Nat.sub_self, Nat.mul_zero, grown, Nat.zero_add, Nat.add_zero]
    · rw [meets.bias, readNumbers_digits reader rest (Nat.le_refl _), Nat.zero_add, Nat.mul_one, meets.insert? here]
  · have passed : writer.pass level c = writer := (if_neg (by omega)).trans (if_neg (by omega))
    have skipped : below level (c :: back) = below level back := List.filter_cons_of_neg (by simp; omega)
    have same : below (level + 1) (front ++ [c]) = below (level + 1) front := by
      rw [below, List.filter_append, List.filter_cons_of_neg (by simp; omega)]
      exact List.append_nil _
    rw [passed]
    refine ⟨reader, ⟨?_, meets.count, meets.reached, ?_, meets.bias, meets.first⟩, .refl rfl reader⟩
    · rw [meets.holds, skipped, same]
    · rw [meets.delta, same]

/-- Going through the label once puts in all characters of a number. -/
theorem Meets.scan (meets : Meets level front back writer reader) :
    ∃ read, Meets level (front ++ back) [] (back.foldl (Writer.pass level) writer) read ∧
      Writes writer (back.foldl (Writer.pass level) writer) reader read := by
  induction back generalizing front writer reader with
  | nil => exact ⟨reader, by rwa [List.append_nil], .refl rfl reader⟩
  | cons c back ih =>
    obtain ⟨early, meets, writes⟩ := meets.pass
    obtain ⟨late, meets, wrote⟩ := ih meets
    rw [List.append_assoc, List.singleton_append] at meets
    exact ⟨late, meets, writes.trans wrote⟩

/-- Numbers of which the label has no character are passed over at once. -/
theorem Meets.skip (meets : Meets level [] label writer reader) {next : Nat} (later : level ≤ next)
    (none : ∀ c ∈ label, c.toNat < next → c.toNat < level) :
    Meets next [] label { writer with delta := writer.delta + (next - level) * (writer.count + 1) } reader := by
  have same : below next label = below level label := by
    refine List.filter_congr fun c inside => ?_
    rw [decide_eq_decide]
    exact ⟨none c inside, fun lower => Nat.lt_of_lt_of_le lower later⟩
  refine ⟨?_, meets.count, Nat.le_trans meets.reached later, ?_, meets.bias, meets.first⟩
  · rw [meets.holds, same]
    rfl
  · have sum : next - reader.level = (level - reader.level) + (next - level) := by
      have := meets.reached
      omega
    have nothing : (below (level + 1) []).length = 0 := rfl
    dsimp only
    rw [← Nat.add_assoc, meets.delta, sum, nothing, Nat.add_zero, Nat.mul_comm (next - level), ← Nat.mul_add]
    rfl

/-- Behind the end of the label it goes on with the next number at its beginning. -/
theorem Meets.turn (meets : Meets level label [] writer reader) :
    Meets (level + 1) [] label { writer with delta := writer.delta + 1 } reader := by
  have whole : reader.label = below (level + 1) label := meets.holds.trans (List.append_nil _)
  refine ⟨whole, meets.count, Nat.le_succ_of_le meets.reached, ?_, meets.bias, meets.first⟩
  have step : level + 1 - reader.level = level - reader.level + 1 := by
    have := meets.reached
    omega
  dsimp only
  rw [← Nat.add_assoc, meets.delta, step, Nat.mul_add, Nat.mul_one, ← whole, ← meets.count, Nat.add_assoc]
  rfl

/-- What is written from the beginning of the label on, number by number, is read as the whole label. -/
theorem Meets.writeLevels {levels : List Nat} (meets : Meets level [] label writer reader)
    (ascending : levels.Pairwise (· < ·)) (ahead : ∀ n ∈ levels, level ≤ n)
    (all : ∀ c ∈ label, c.toNat < level ∨ c.toNat ∈ levels) :
    ∃ more, writeLevels label level writer levels = writer.written ++ more ∧ (∀ c ∈ more, IsDigit c) ∧
      readNumbers reader 0 1 36 more = some label := by
  induction levels generalizing level writer reader with
  | nil =>
    have whole : below level label = label :=
      List.filter_eq_self.mpr fun c inside => by simpa using all c inside
    refine ⟨[], (List.append_nil _).symm, nofun, ?_⟩
    rw [readNumbers, if_pos rfl, meets.holds, whole]
    rfl
  | cons next levels ih =>
    obtain ⟨least, ascending⟩ := List.pairwise_cons.mp ascending
    have none : ∀ c ∈ label, c.toNat < next → c.toNat < level := by
      intro c inside lower
      rcases all c inside with done | later
      · exact done
      · rcases List.mem_cons.mp later with rfl | later
        · exact absurd lower (Nat.lt_irrefl _)
        · exact absurd lower (Nat.lt_asymm (least _ later))
    obtain ⟨read, meets, front, wrote, digits, reads⟩ := (meets.skip (ahead next List.mem_cons_self) none).scan
    have rest : ∀ c ∈ label, c.toNat < next + 1 ∨ c.toNat ∈ levels := by
      intro c inside
      rcases all c inside with done | later
      · exact Or.inl (by have := ahead next List.mem_cons_self; omega)
      · exact (List.mem_cons.mp later).imp_left fun same => by omega
    obtain ⟨behind, wrote', digits', reads'⟩ := ih meets.turn ascending least rest
    refine ⟨front ++ behind, ?_, fun c inside => ?_, by rw [reads, reads']⟩
    · rw [Punycode.writeLevels, wrote', wrote, List.append_assoc]
    · rcases List.mem_append.mp inside with inside | inside
      · exact digits c inside
      · exact digits' c inside

end Course

/-- Sorted numbers without repetitions ascend. -/
theorem pairwise_eraseDups {numbers : List Nat} (sorted : numbers.Pairwise (· ≤ ·)) :
    numbers.eraseDups.Pairwise (· < ·) := by
  induction many : numbers.length using Nat.strongRecOn generalizing numbers with
  | ind length ih =>
    cases numbers with
    | nil => exact .nil
    | cons n numbers =>
      obtain ⟨least, sorted⟩ := List.pairwise_cons.mp sorted
      have fewer : (numbers.filter fun m => !m == n).length < length := by
        have kept := List.length_filter_le (fun m => !m == n) numbers
        rw [List.length_cons] at many
        omega
      rw [List.eraseDups_cons]
      refine List.pairwise_cons.mpr ⟨fun m inside => ?_, ih _ fewer (sorted.filter _) rfl⟩
      obtain ⟨inside, other⟩ := List.mem_filter.mp (List.mem_eraseDups.mp inside)
      exact Nat.lt_of_le_of_ne (least m inside) fun same => by simp [same] at other

/-- The ASCII characters of a label stand in front, and what is written behind them is read as the whole label. -/
theorem exists_encode (label : List Char) :
    ∃ more, encode label =
        (if (below 0x80 label).isEmpty then [] else below 0x80 label ++ ['-']) ++ more ∧ (∀ c ∈ more, IsDigit c) ∧
      readNumbers ⟨below 0x80 label, 0x80, 0, 72, true⟩ 0 1 36 more = some label := by
  have meets : Meets 0x80 [] label ⟨0, 72, (below 0x80 label).length, true,
      if (below 0x80 label).isEmpty then [] else below 0x80 label ++ ['-']⟩ ⟨below 0x80 label, 0x80, 0, 72, true⟩ :=
    ⟨rfl, rfl, Nat.le_refl _, rfl, rfl, rfl⟩
  have mem {n : Nat} : n ∈ (((label.filter (0x80 ≤ ·.toNat)).map Char.toNat).mergeSort).eraseDups ↔
      ∃ c ∈ label, 0x80 ≤ c.toNat ∧ c.toNat = n := by
    simp [and_assoc]
  have sorted := List.pairwise_mergeSort' (· ≤ ·) ((label.filter (0x80 ≤ ·.toNat)).map Char.toNat)
  refine meets.writeLevels (pairwise_eraseDups sorted) (fun n inside => ?_) fun c inside => ?_
  · obtain ⟨c, _, high, rfl⟩ := mem.mp inside
    exact high
  · exact (Nat.lt_or_ge c.toNat 0x80).imp_right fun high => mem.mpr ⟨c, inside, high, rfl⟩

theorem ne_hyphen_of_isDigit {c : Char} (digit : IsDigit c) : c ≠ '-' := by
  obtain ⟨n, small, rfl⟩ := digit
  have all : ∀ n, n < 36 → Punycode.digit n ≠ '-' := by decide
  exact all n small

section Hyphens

variable {plain more : List Char} (digits : ∀ c ∈ more, IsDigit c)

include digits

theorem takeWhile_digits (rest : List Char) :
    (more.reverse ++ rest).takeWhile (· != '-') = more.reverse ++ rest.takeWhile (· != '-') :=
  List.takeWhile_append_of_pos fun c inside =>
    bne_iff_ne.mpr (ne_hyphen_of_isDigit (digits c (List.mem_reverse.mp inside)))

/-- Without a hyphen there are no ASCII characters in front. -/
theorem decode?_digits : decode? more = readNumbers ⟨[], 0x80, 0, 72, true⟩ 0 1 36 more := by
  have behind : more.reverse.takeWhile (· != '-') = more.reverse := by
    simpa using takeWhile_digits digits []
  simp [decode?, behind]

/-- The last hyphen ends them. -/
theorem decode?_hyphen (present : plain ≠ []) :
    decode? (plain ++ '-' :: more) = readNumbers ⟨plain, 0x80, 0, 72, true⟩ 0 1 36 more := by
  have behind : (plain ++ '-' :: more).reverse.takeWhile (· != '-') = more.reverse := by
    rw [List.reverse_append, List.reverse_cons, List.append_assoc, takeWhile_digits digits]
    exact List.append_nil _
  have front : (plain ++ '-' :: more).length - more.length - 1 = plain.length := by
    rw [List.length_append, List.length_cons]
    omega
  simp only [decode?, behind, List.reverse_reverse, front, List.take_left]
  rw [if_neg (by simpa using present)]

end Hyphens

/-- A label is read from its ASCII form. -/
theorem decode?_encode (label : List Char) : decode? (encode label) = some label := by
  obtain ⟨more, written, digits, reads⟩ := exists_encode label
  rw [written]
  split
  · rename_i none
    rw [List.isEmpty_iff.mp none] at reads
    rw [List.nil_append, decode?_digits digits, reads]
  · rename_i present
    rw [List.append_assoc, List.singleton_append, decode?_hyphen digits (by simpa using present), reads]

/-- An ASCII form is of characters of the label, of hyphens and of digits. -/
theorem mem_encode {label : List Char} {c : Char} (inside : c ∈ encode label) :
    (c ∈ label ∧ c.toNat < 0x80) ∨ c = '-' ∨ IsDigit c := by
  obtain ⟨more, written, digits, _⟩ := exists_encode label
  rw [written] at inside
  rcases List.mem_append.mp inside with front | behind
  · split at front
    · cases front
    · rcases List.mem_append.mp front with plain | hyphen
      · obtain ⟨inside, low⟩ := List.mem_filter.mp plain
        exact Or.inl ⟨inside, of_decide_eq_true low⟩
      · exact Or.inr (Or.inl (List.mem_singleton.mp hyphen))
  · exact Or.inr (Or.inr (digits c behind))

section Reading

variable {written : List Char}

/-- The characters of a reader are of a text, or they are none of ASCII. -/
structure Reader.Draws (written : List Char) (reader : Reader) : Prop where
  level : 0x80 ≤ reader.level
  drawn : ∀ c ∈ reader.label, c ∈ written ∨ 0x80 ≤ c.toNat

theorem Reader.Draws.insert? {number : Nat} {reader next : Reader} (draws : reader.Draws written)
    (grown : reader.insert? number = some next) : next.Draws written := by
  unfold Reader.insert? at grown
  dsimp only at grown
  split at grown
  · rename_i valid
    cases grown
    have later := Nat.le_trans draws.level (Nat.le_add_right _ ((reader.index + number) / (reader.label.length + 1)))
    refine ⟨later, fun c inside => ?_⟩
    rcases List.mem_append.mp inside with front | behind
    · exact draws.drawn c (List.mem_of_mem_take front)
    · rcases List.mem_cons.mp behind with rfl | behind
      · right
        rwa [Text.toNat_ofNat_of_isValidChar (valid.imp_right fun ⟨above, below⟩ => ⟨Nat.lt_of_succ_le above, below⟩)]
      · exact draws.drawn c (List.mem_of_mem_drop behind)
  · cases grown

theorem Reader.Draws.readNumbers {reader : Reader} {number weight place : Nat} {cs label : List Char}
    (draws : reader.Draws written) (read : readNumbers reader number weight place cs = some label) :
    ∀ c ∈ label, c ∈ written ∨ 0x80 ≤ c.toNat := by
  induction cs generalizing reader number weight place with
  | nil =>
    rw [Punycode.readNumbers] at read
    split at read
    · cases read
      exact draws.drawn
    · cases read
  | cons c cs ih =>
    rw [Punycode.readNumbers] at read
    split at read
    · cases read
    · dsimp only at read
      split at read
      · split at read
        · rename_i grown
          exact ih (draws.insert? grown) read
        · cases read
      · exact ih draws read

/-- What is read from an ASCII form is of its characters and of others than ASCII. -/
theorem mem_of_decode? {label : List Char} (read : decode? written = some label) :
    ∀ c ∈ label, c ∈ written ∨ 0x80 ≤ c.toNat :=
  Reader.Draws.readNumbers ⟨Nat.le_refl _, fun _ inside => Or.inl (List.mem_of_mem_take inside)⟩ read

end Reading

end AuthzClient.Url.Punycode
