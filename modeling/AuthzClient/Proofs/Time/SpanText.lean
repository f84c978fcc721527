import AuthzClient.Proofs.Text.Number
import AuthzClient.Proofs.Text.Percent
import AuthzClient.Time.SpanText

/-!
A span that was written is read back. Its text is a row of terms, a number and the name of a unit each, and reading adds
up what they stand for. No check is in the way: all terms together are no longer than the longest span, and those below
a second are shorter than one.
-/

namespace AuthzClient.SpanText

open Time Text

theorem apart_of_isUnitChar {c : Char} (letter : isUnitChar c = true) : isDigit c = false ∧ isWhite c = false := by
  have all : ∀ c : Char, c.toNat < 0x80 → isUnitChar c = true → isDigit c = false ∧ isWhite c = false :=
    forall_ascii (by decide +kernel)
  simp only [isUnitChar, Bool.or_eq_true, Bool.and_eq_true, decide_eq_true_eq, beq_iff_eq] at letter
  rcases letter with (low | upper) | rfl
  · exact all c (Nat.lt_of_le_of_lt low.2 (by decide)) (by simp [isUnitChar, low])
  · exact all c (Nat.lt_of_le_of_lt upper.2 (by decide)) (by simp [isUnitChar, upper])
  · decide

theorem not_isWhite_of_isDigit {c : Char} (digit : isDigit c = true) : isWhite c = false := by
  have all : ∀ c : Char, c.toNat < 0x80 → isDigit c = true → isWhite c = false := forall_ascii (by decide +kernel)
  have ascii : c.toNat < 0x80 := by
    simp only [isDigit, Bool.and_eq_true, decide_eq_true_eq] at digit
    exact Nat.lt_of_le_of_lt digit.2 (by decide)
  exact all c ascii digit

/-- The name is one of the unit, and ends where something else than a letter follows. -/
structure Unit.IsName (unit : Unit) (name : String) : Prop where
  known : Unit.ofName? name = some unit
  letters : name.toList.all isUnitChar = true

instance (unit : Unit) (name : String) : Decidable (unit.IsName name) :=
  decidable_of_iff (Unit.ofName? name = some unit ∧ name.toList.all isUnitChar = true)
    ⟨fun ⟨known, letters⟩ => ⟨known, letters⟩, fun ⟨known, letters⟩ => ⟨known, letters⟩⟩

theorem Unit.IsName.mem_letters {u : Unit} {name : String} (named : u.IsName name) :
    ∀ c ∈ name.toList, isUnitChar c = true :=
  List.all_eq_true.mp named.letters

theorem Unit.IsName.exists_letter {u : Unit} {name : String} (named : u.IsName name) :
    ∃ c cs, name.toList = c :: cs ∧ isUnitChar c = true := by
  cases letters : name.toList with
  | nil =>
    have known := named.known
    rw [String.toList_eq_nil_iff.mp letters] at known
    cases known
  | cons c cs => exact ⟨c, cs, rfl, named.mem_letters c (letters ▸ List.mem_cons_self)⟩

/-- A number in front of the name of a unit. -/
structure Term where
  count : Nat
  unit : Unit
  name : String

namespace Term

def chars (term : Term) : List Char := Nat.toDigits 10 term.count ++ term.name.toList

def seconds (term : Term) : Nat := term.count * term.unit.seconds

/-- The nanoseconds of a term below the second. -/
def nanos (term : Term) : Nat := term.count * term.unit.nanos

def length (term : Term) : Nat := term.seconds * second + term.nanos

theorem count_lt {term : Term} (fine : term.nanos < second) (bound : term.length < 0x1_0000_0000_0000_0000 * second) :
    term.count < 0x1_0000_0000_0000_0000 := by
  unfold second at fine bound
  cases unit : term.unit <;>
    simp only [length, seconds, nanos, second, unit, Unit.seconds, Unit.nanos] at fine bound <;> omega

theorem exists_digits (term : Term) : ∃ d ds, Nat.toDigits 10 term.count = d :: ds ∧ isDigit d = true ∧
    (∀ c ∈ ds, isDigit c = true) ∧ ds.foldl (fun n c => n * 10 + digitValue c) (digitValue d) = term.count := by
  cases digits : Nat.toDigits 10 term.count with
  | nil => exact absurd digits Nat.toDigits_ne_nil
  | cons d ds =>
    have all : ∀ c ∈ d :: ds, isDigit c = true := fun c inside => isDigit_of_mem_toDigits (digits ▸ inside)
    have value : digitsValue (d :: ds) = term.count := digits ▸ digitsValue_toDigits term.count
    rw [digitsValue, List.foldl_cons, Nat.zero_mul, Nat.zero_add] at value
    exact ⟨d, ds, rfl, all d List.mem_cons_self, fun c inside => all c (List.mem_cons_of_mem d inside), value⟩

end Term

/-- A text that stands behind a term: nothing, or a blank and then the text. -/
def behind : List Char → List Char
  | [] => []
  | c :: cs => ' ' :: c :: cs

/-- Terms with a blank between them. -/
def row : List Term → List Char
  | [] => []
  | term :: rest => term.chars ++ behind (row rest)

variable {rest : List Char}

theorem checked_ok {n : Nat} (small : n < 0x1_0000_0000_0000_0000) : checked n = .ok n := by rw [checked, if_pos small]

theorem le_foldl_digits (n : Nat) (ds : List Char) : n ≤ ds.foldl (fun n c => n * 10 + digitValue c) n := by
  induction ds generalizing n with
  | nil => exact Nat.le_refl n
  | cons d ds ih => exact Nat.le_trans (by omega) (ih (n * 10 + digitValue d))

theorem number_digits (position : Nat) {n : Nat} {ds : List Char} {c : Char} (digits : ∀ d ∈ ds, isDigit d = true)
    (letter : isUnitChar c = true) (bound : ds.foldl (fun n c => n * 10 + digitValue c) n < 0x1_0000_0000_0000_0000) :
    ∃ p, number n (ds ++ c :: rest) position =
      .ok (ds.foldl (fun n c => n * 10 + digitValue c) n, none, ⟨c :: rest, p⟩) := by
  induction ds generalizing n position with
  | nil =>
    obtain ⟨noDigit, noWhite⟩ := apart_of_isUnitChar letter
    refine ⟨position, ?_⟩
    rw [List.nil_append, number]
    simp only [noDigit, noWhite, letter, Bool.false_eq_true, if_false, if_true, List.foldl_nil]
  | cons d ds ih =>
    obtain ⟨digit, digits⟩ := List.forall_mem_cons.mp digits
    have small : checked (n * 10 + digitValue d) = .ok (n * 10 + digitValue d) :=
      checked_ok (Nat.lt_of_le_of_lt (le_foldl_digits _ ds) bound)
    obtain ⟨p, read⟩ := ih (position + d.utf8Size) digits bound
    refine ⟨p, ?_⟩
    rw [List.cons_append, number]
    simp only [digit, if_true, small]
    exact read

theorem unitName_letters (seen : List Char) (position : Nat) {letters : List Char}
    (all : ∀ c ∈ letters, isUnitChar c = true) :
    ∃ p, unitName seen (letters ++ behind rest) position = .ok (seen.reverse ++ letters, ⟨rest, p⟩) := by
  induction letters generalizing seen position with
  | nil =>
    rw [List.append_nil, List.nil_append]
    cases rest with
    | nil => exact ⟨position, rfl⟩
    | cons c cs => exact ⟨_, rfl⟩
  | cons c letters ih =>
    obtain ⟨letter, all⟩ := List.forall_mem_cons.mp all
    obtain ⟨noDigit, noWhite⟩ := apart_of_isUnitChar letter
    obtain ⟨p, read⟩ := ih (c :: seen) (position + c.utf8Size) all
    refine ⟨p, ?_⟩
    rw [List.cons_append, unitName]
    simp only [noDigit, noWhite, letter, Bool.false_eq_true, if_false, if_true]
    rw [read, List.reverse_cons, List.append_assoc, List.singleton_append]

theorem accumulate_ok {total seconds nanos : Nat} (fine : total % second + nanos < second)
    (bound : total + (seconds * second + nanos) < 0x1_0000_0000_0000_0000 * second) :
    accumulate total seconds nanos = .ok (total + (seconds * second + nanos)) := by
  have under : ¬total % second + nanos > second := Nat.not_lt.mpr (Nat.le_of_lt fine)
  have sum : total / second * second + seconds * second + (total % second + nanos) =
      total + (seconds * second + nanos) := by unfold second; omega
  have first : checked (total % second + nanos) = .ok (total % second + nanos) :=
    checked_ok (by unfold second at fine ⊢; omega)
  have next : checked (total / second + seconds) = .ok (total / second + seconds) :=
    checked_ok (by unfold second at bound ⊢; omega)
  rw [accumulate, first]
  simp only [bind, Except.bind, pure, Except.pure, if_neg under, next, sum, if_pos bound]

theorem addUnit_term {term : Term} (named : term.unit.IsName term.name) {before : Nat}
    (fine : before % second + term.nanos < second)
    (bound : before + term.length < 0x1_0000_0000_0000_0000 * second) :
    addUnit before term.count none term.name.toList = .ok (before + term.length) := by
  have seconds : checked (term.count * term.unit.seconds) = .ok term.seconds :=
    checked_ok (by unfold Term.length Term.seconds second at bound; omega)
  have nanos : checked (term.count * term.unit.nanos) = .ok term.nanos :=
    checked_ok (by unfold Term.nanos second at fine; omega)
  rw [addUnit, String.ofList_toList, named.known]
  simp only [bind, Except.bind, seconds, nanos, accumulate_ok fine bound]
  rfl

/-- The measures of all terms of a row together. -/
def sum (measure : Term → Nat) : List Term → Nat
  | [] => 0
  | term :: rest => measure term + sum measure rest

theorem sum_cons (measure : Term → Nat) (term : Term) (rest : List Term) :
    sum measure (term :: rest) = measure term + sum measure rest := rfl

/-- The terms of a row can be added to what was read before it. -/
structure Fits (before : Nat) (row : List Term) : Prop where
  named : ∀ term ∈ row, term.unit.IsName term.name
  fine : before % second + sum Term.nanos row < second
  bound : before + sum Term.length row < 0x1_0000_0000_0000_0000 * second

theorem Fits.tail {before : Nat} {term : Term} {row : List Term} (fits : Fits before (term :: row)) :
    Fits (before + term.length) row := by
  have fine := fits.fine
  have bound := fits.bound
  simp only [sum] at fine bound
  refine ⟨fun other inside => fits.named other (List.mem_cons_of_mem term inside), ?_, ?_⟩
  · have whole : (before + term.length) % second = before % second + term.nanos := by
      unfold Term.length second at *
      omega
    omega
  · omega

/-- The first digit of a row that has a term. -/
theorem exists_row (term : Term) (others : List Term) : ∃ d ds, row (term :: others) = d :: ds ∧ isDigit d = true := by
  obtain ⟨d, ds, digits, digit, _⟩ := term.exists_digits
  refine ⟨d, ds ++ (term.name.toList ++ behind (row others)), ?_, digit⟩
  rw [row, Term.chars, digits, List.append_assoc, List.cons_append]

theorem firstDigit_row {d : Char} {ds : List Char} {term : Term} {others : List Term}
    (begins : row (term :: others) = d :: ds) (start position : Nat) :
    firstDigit start (row (term :: others)) position =
      .ok (some (digitValue d, .behind d ds position)) := by
  obtain ⟨first, rest, same, digit⟩ := exists_row term others
  cases begins.symm.trans same
  rw [begins, firstDigit]
  exact if_pos digit

/-- What is read behind a term, with the first digit of another one if there is one. -/
def goOn (fuel total : Nat) : Option (Nat × Cursor) → Except Fault Nat
  | none => .ok total
  | some (n, cursor) => terms fuel total n cursor

/-- The term in front of a row is added, and reading goes on with the others. -/
theorem terms_step (fuel position : Nat) {before : Nat} {term : Term} {others : List Term} {d : Char} {ds : List Char}
    (fits : Fits before (term :: others)) (begins : row (term :: others) = d :: ds) :
    ∃ p, terms (fuel + 1) before (digitValue d) ⟨ds, position⟩ =
      (firstDigit p (row others) p).bind (goOn fuel (before + term.length)) := by
  have named := fits.named term List.mem_cons_self
  obtain ⟨c, cs, name, letter⟩ := named.exists_letter
  obtain ⟨first, more, digits, _, all, value⟩ := term.exists_digits
  have text : first = d ∧ more ++ c :: (cs ++ behind (row others)) = ds := by
    rw [row, Term.chars, digits, name] at begins
    simpa using begins
  obtain ⟨rfl, rfl⟩ := text
  have fine := fits.fine
  have bound := fits.bound
  simp only [sum] at fine bound
  have small : term.count < 0x1_0000_0000_0000_0000 := term.count_lt (by omega) (by omega)
  obtain ⟨p, number⟩ : ∃ p, number (digitValue first) (more ++ c :: (cs ++ behind (row others))) position = _ :=
    number_digits position all letter (value.symm ▸ small)
  obtain ⟨q, unit⟩ : ∃ q, unitName [] (term.name.toList ++ behind (row others)) p = _ :=
    unitName_letters [] p named.mem_letters
  have added : addUnit before _ none _ = .ok (before + term.length) := addUnit_term named (by omega) (by omega)
  refine ⟨q, ?_⟩
  rw [terms]
  simp only [bind, Except.bind, number, value]
  rw [← List.cons_append, ← name, unit]
  simp only [List.reverse_nil, List.nil_append, added]
  rfl

/-- Every term of a row adds its length to what was read before it. -/
theorem terms_row (position : Nat) {before fuel : Nat} {term : Term} {others : List Term} {d : Char} {ds : List Char}
    (fits : Fits before (term :: others)) (room : others.length < fuel) (begins : row (term :: others) = d :: ds) :
    terms fuel before (digitValue d) ⟨ds, position⟩ = .ok (before + sum Term.length (term :: others)) := by
  -- The induction is on the terms behind the first one; what was read before and the position move along with it.
  induction others generalizing before fuel term d ds position with
  | nil =>
    obtain ⟨fuel, rfl⟩ := Nat.exists_eq_succ_of_ne_zero (Nat.ne_of_gt room)
    obtain ⟨p, step⟩ := terms_step fuel position fits begins
    rw [step, row, firstDigit, sum, sum, Nat.add_zero]
    rfl
  | cons next others ih =>
    obtain ⟨fuel, rfl⟩ := Nat.exists_eq_succ_of_ne_zero (Nat.ne_of_gt (Nat.lt_of_le_of_lt (Nat.zero_le _) room))
    obtain ⟨p, step⟩ := terms_step fuel position fits begins
    obtain ⟨e, es, more, _⟩ := exists_row next others
    have rest := ih (p + e.utf8Size) fits.tail (Nat.lt_of_succ_lt_succ room) more
    rw [step, firstDigit_row more]
    simp only [Except.bind, goOn, Cursor.behind, rest]
    rw [sum_cons _ term, Nat.add_assoc]

/-- A row begins with a digit and ends with a letter of a name. -/
theorem row_ends {term : Term} {others : List Term} (named : ∀ other ∈ term :: others, other.unit.IsName other.name) :
    ∃ front c, row (term :: others) = front ++ [c] ∧ isUnitChar c = true := by
  induction others generalizing term with
  | nil =>
    have letters := (named term List.mem_cons_self).mem_letters
    obtain ⟨c, cs, name, _⟩ := (named term List.mem_cons_self).exists_letter
    have full : term.name.toList ≠ [] := name ▸ List.cons_ne_nil c cs
    refine ⟨Nat.toDigits 10 term.count ++ term.name.toList.dropLast, term.name.toList.getLast full, ?_,
      letters _ (List.getLast_mem full)⟩
    rw [row, row, behind, List.append_nil, Term.chars, List.append_assoc, List.dropLast_concat_getLast]
  | cons next others ih =>
    obtain ⟨front, c, ends, letter⟩ := ih (List.forall_mem_cons.mp named).2
    obtain ⟨d, ds, begins, _⟩ := exists_row next others
    refine ⟨term.chars ++ ' ' :: front, c, ?_, letter⟩
    rw [row, begins, behind, ← begins, ends, List.append_assoc, List.cons_append]

theorem trimChars_row {term : Term} {others : List Term} (named : ∀ other ∈ term :: others, other.unit.IsName other.name) :
    trimChars (row (term :: others)) = row (term :: others) := by
  obtain ⟨d, ds, begins, digit⟩ := exists_row term others
  obtain ⟨front, c, ends, letter⟩ := row_ends named
  have left : (row (term :: others)).dropWhile isWhite = row (term :: others) := by
    rw [begins, List.dropWhile_cons_of_neg (Bool.eq_false_iff.mp (not_isWhite_of_isDigit digit))]
  have right : (row (term :: others)).reverse.dropWhile isWhite = (row (term :: others)).reverse := by
    rw [ends, List.reverse_append, List.reverse_singleton, List.singleton_append,
      List.dropWhile_cons_of_neg (Bool.eq_false_iff.mp (apart_of_isUnitChar letter).2)]
  rw [trimChars, left, right, List.reverse_reverse]

theorem length_le_row (terms : List Term) : terms.length ≤ (row terms).length := by
  induction terms with
  | nil => exact Nat.le_refl 0
  | cons term others ih =>
    obtain ⟨d, ds, digits, _⟩ := term.exists_digits
    have follows : (row others).length ≤ (behind (row others)).length := by
      cases row others with
      | nil => exact Nat.le_refl 0
      | cons c cs => exact Nat.le_succ _
    rw [row, Term.chars, digits, List.length_append, List.length_append, List.length_cons, List.length_cons]
    omega

/-- A row of terms that fit is read as the span that is as long as all of them. -/
theorem read_row {text : String} {term : Term} {others : List Term} (written : text.toList = row (term :: others))
    (fits : Fits 0 (term :: others)) {span : Span} (same : span.nanos = sum Term.length (term :: others)) :
    read text = .ok span := by
  obtain ⟨d, ds, begins, _⟩ := exists_row term others
  obtain ⟨front, c, ends, letter⟩ := row_ends fits.named
  -- The text of zero without a unit is read apart; a row is another text, for it ends with a letter.
  have notZero : (row (term :: others) == ['0']) = false := by
    refine beq_false_of_ne fun zero => ?_
    have last : c = '0' := by
      have both := congrArg List.getLast? (ends.symm.trans zero)
      simpa using both
    subst last
    cases letter
  have room : others.length < (row (term :: others)).length := length_le_row (term :: others)
  have added : terms _ 0 (digitValue d) ⟨ds, 0 + d.utf8Size⟩ = .ok (0 + sum Term.length (term :: others)) :=
    terms_row _ fits room begins
  have nanos : readNanos (row (term :: others)) = .ok span.nanos := by
    rw [readNanos, notZero, firstDigit_row begins]
    simp only [Bool.false_eq_true, if_false, bind, Except.bind, Cursor.behind, added]
    rw [Nat.zero_add, same]
  rw [read, written, trimChars_row fits.named, nanos]
  exact dif_pos span.in_range

/-- The name of a unit that stands behind a number, if it has a plural. -/
def plural (n : Nat) (name : String) : String := name ++ if n > 1 then "s" else ""

/-- The number of each unit in a span, largest unit first. -/
structure Parts where
  years : Nat
  months : Nat
  days : Nat
  hours : Nat
  minutes : Nat
  seconds : Nat
  millis : Nat
  micros : Nat
  nanos : Nat

namespace Parts

def ofSpan (span : Span) : Parts :=
  let inYear := span.seconds % 31557600
  let inMonth := inYear % 2630016
  let inDay := inMonth % 86400
  ⟨span.seconds / 31557600, inYear / 2630016, inMonth / 86400, inDay / 3600, inDay % 3600 / 60, inDay % 60,
    span.subNanos / 1000000, span.subNanos / 1000 % 1000, span.subNanos % 1000⟩

def terms (parts : Parts) : List Term :=
  [⟨parts.years, .year, plural parts.years "year"⟩, ⟨parts.months, .month, plural parts.months "month"⟩,
    ⟨parts.days, .day, plural parts.days "day"⟩, ⟨parts.hours, .hour, "h"⟩, ⟨parts.minutes, .minute, "m"⟩,
    ⟨parts.seconds, .second, "s"⟩, ⟨parts.millis, .millisecond, "ms"⟩, ⟨parts.micros, .microsecond, "us"⟩,
    ⟨parts.nanos, .nanosecond, "ns"⟩]

theorem seconds_terms (parts : Parts) : sum Term.seconds parts.terms =
    parts.years * 31557600 + (parts.months * 2630016 + (parts.days * 86400 + (parts.hours * 3600 +
      (parts.minutes * 60 + parts.seconds)))) := by
  simp only [terms, sum, Term.seconds, Unit.seconds, Nat.mul_zero, Nat.mul_one, Nat.add_zero]

theorem nanos_terms (parts : Parts) :
    sum Term.nanos parts.terms = parts.millis * 1000000 + (parts.micros * 1000 + parts.nanos) := by
  simp only [terms, sum, Term.nanos, Unit.nanos, Nat.mul_zero, Nat.mul_one, Nat.add_zero, Nat.zero_add]

theorem isName_plural {u : Unit} {name : String} (one : u.IsName name) (several : u.IsName (name ++ "s")) (n : Nat) :
    u.IsName (plural n name) := by
  rw [plural]
  split
  · exact several
  · rw [String.append_empty]
    exact one

theorem isName_terms (parts : Parts) : ∀ term ∈ parts.terms, term.unit.IsName term.name := by
  rw [terms]
  simp only [List.forall_mem_cons]
  exact ⟨isName_plural (by decide) (by decide) _, isName_plural (by decide) (by decide) _,
    isName_plural (by decide) (by decide) _, by decide, by decide, by decide, by decide, by decide, by decide,
    fun _ none => absurd none List.not_mem_nil⟩

end Parts

/-- Seconds taken apart into units and put together again. -/
theorem seconds_parts (seconds : Nat) :
    seconds / 31557600 * 31557600 + (seconds % 31557600 / 2630016 * 2630016 +
      (seconds % 31557600 % 2630016 / 86400 * 86400 + (seconds % 31557600 % 2630016 % 86400 / 3600 * 3600 +
        (seconds % 31557600 % 2630016 % 86400 % 3600 / 60 * 60 + seconds % 31557600 % 2630016 % 86400 % 60)))) =
      seconds := by
  -- The seconds are what the day leaves over sixty, not what the hour does.
  have minutes := Nat.div_add_mod' (seconds % 31557600 % 2630016 % 86400 % 3600) 60
  rw [Nat.mod_mod_of_dvd _ (by decide : 60 ∣ 3600)] at minutes
  rw [minutes, Nat.div_add_mod', Nat.div_add_mod', Nat.div_add_mod', Nat.div_add_mod']

theorem nanos_parts (nanos : Nat) :
    nanos / 1000000 * 1000000 + (nanos / 1000 % 1000 * 1000 + nanos % 1000) = nanos := by omega

theorem seconds_ofSpan (span : Span) : sum Term.seconds (Parts.ofSpan span).terms = span.seconds :=
  (Parts.seconds_terms _).trans (seconds_parts span.seconds)

theorem nanos_ofSpan (span : Span) : sum Term.nanos (Parts.ofSpan span).terms = span.subNanos :=
  (Parts.nanos_terms _).trans (nanos_parts span.subNanos)

theorem sum_length (row : List Term) : sum Term.length row = sum Term.seconds row * second + sum Term.nanos row := by
  induction row with
  | nil => rfl
  | cons term row ih =>
    rw [sum, sum, sum, ih, Term.length, Nat.add_mul]
    omega

theorem length_ofSpan (span : Span) : sum Term.length (Parts.ofSpan span).terms = span.nanos := by
  rw [sum_length, seconds_ofSpan, nanos_ofSpan]
  exact Nat.div_add_mod' span.nanos second

/-- The terms of a span that are written; a unit that does not occur is left out. -/
def written (span : Span) : List Term := (Parts.ofSpan span).terms.filter fun term => term.count != 0

theorem sum_filter {measure : Term → Nat} (nothing : ∀ term : Term, term.count = 0 → measure term = 0) (row : List Term) :
    sum measure (row.filter fun term => term.count != 0) = sum measure row := by
  induction row with
  | nil => rfl
  | cons term row ih =>
    rw [sum]
    by_cases zero : term.count = 0
    · rw [List.filter_cons_of_neg (by simp [zero]), ih, nothing term zero, Nat.zero_add]
    · rw [List.filter_cons_of_pos (by simpa using zero), sum, ih]

theorem sum_length_written (span : Span) : sum Term.length (written span) = span.nanos := by
  rw [written, sum_filter (fun term zero => by simp [Term.length, Term.seconds, Term.nanos, zero]), length_ofSpan]

theorem fits_written (span : Span) : Fits 0 (written span) := by
  refine ⟨fun term inside => Parts.isName_terms _ term (List.mem_filter.mp inside).1, ?_, ?_⟩
  · rw [written, sum_filter (fun term zero => by simp [Term.nanos, zero]), nanos_ofSpan, Nat.zero_mod, Nat.zero_add]
    exact Nat.mod_lt _ (by decide)
  · rw [sum_length_written, Nat.zero_add]
    exact span.in_range

def Term.text (term : Term) : String := toString term.count ++ term.name

theorem toList_intercalate_text (terms : List Term) :
    (String.intercalate " " (terms.map Term.text)).toList = row terms := by
  have chars (term : Term) : term.text.toList = term.chars := by
    rw [Term.text, String.toList_append, Nat.toString_eq_repr, Nat.toList_repr, Term.chars]
  rw [String.toList_intercalate, List.map_map]
  induction terms with
  | nil => rfl
  | cons term others ih =>
    cases others with
    | nil => simp [row, behind, chars]
    | cons next others =>
      obtain ⟨d, ds, begins, _⟩ := exists_row next others
      have blank : row (term :: next :: others) = term.chars ++ ' ' :: row (next :: others) := by
        rw [row, begins, behind]
      rw [List.map_cons, List.map_cons, List.intercalate_cons_cons, ← List.map_cons, ih, blank, Function.comp, chars,
        List.append_assoc]
      rfl

theorem longTerm_eq (n : Nat) (name : String) : longTerm n name = shortTerm n (plural n name) := by
  rw [longTerm, shortTerm, plural, String.append_assoc]

theorem shortTerm_eq (n : Nat) (u : Unit) (name : String) :
    shortTerm n name = ([⟨n, u, name⟩].filter fun term : Term => term.count != 0).map Term.text := by
  by_cases zero : n = 0
  · rw [shortTerm, if_pos zero, List.filter_cons_of_neg (by simp [zero])]
    rfl
  · rw [shortTerm, if_neg zero, List.filter_cons_of_pos (by simpa using zero)]
    rfl

theorem write_eq (span : Span) :
    write span =
      if (written span).isEmpty then "0s" else String.intercalate " " ((written span).map Term.text) := by
  rw [write]
  simp only [longTerm_eq, shortTerm_eq _ .year (plural _ "year"), shortTerm_eq _ .month (plural _ "month"),
    shortTerm_eq _ .day (plural _ "day"), shortTerm_eq _ .hour "h", shortTerm_eq _ .minute "m",
    shortTerm_eq _ .second "s", shortTerm_eq _ .millisecond "ms", shortTerm_eq _ .microsecond "us",
    shortTerm_eq _ .nanosecond "ns", ← List.map_append, ← List.filter_append,
    List.isEmpty_map, List.cons_append, List.nil_append]
  rfl

/-- A span that was written is read back. -/
theorem read_write (span : Span) : read (write span) = .ok span := by
  have sum := sum_length_written span
  have fits := fits_written span
  rw [write_eq]
  cases terms : written span with
  | nil =>
    -- Nothing is left to write of the span of no length, which is written as zero seconds.
    rw [terms] at sum
    have zero : span = ⟨0, by decide⟩ := Span.eq_of_nanos sum.symm
    exact zero ▸ @read_row "0s" ⟨0, .second, "s"⟩ [] rfl ⟨List.forall_mem_singleton.mpr (by decide), by decide, by decide⟩ _ rfl
  | cons term others =>
    rw [terms] at sum fits
    exact read_row (toList_intercalate_text _) fits sum.symm

example : write (Span.ofSeconds 31564801) = "1year 2h 1s" := by decide +kernel

end AuthzClient.SpanText
