import AuthzClient.Proofs.Json.Leftovers

/-!
The grammar of the values that are passed over. A value is a word, a number, a text, or an array or object of further
values, nested to any depth. What is passed over is exactly such a value, and one piece of fuel for each byte is enough.
-/

namespace AuthzClient.Json

mutual

/-- A value stands at the front of a text, maybe behind white space; the other text is what is behind the value. -/
inductive Stands : List UInt8 → List UInt8 → Prop
  | null {bs rest : List UInt8} : skipSpace bs = 0x6e :: (nullTail ++ rest) → Stands bs rest
  | true {bs rest : List UInt8} : skipSpace bs = 0x74 :: (trueTail ++ rest) → Stands bs rest
  | false {bs rest : List UInt8} : skipSpace bs = 0x66 :: (falseTail ++ rest) → Stands bs rest
  | negative {bs digits rest : List UInt8} : skipSpace bs = 0x2d :: digits → skipNumber digits = .ok rest →
      Stands bs rest
  | number {b : UInt8} {bs more rest : List UInt8} : skipSpace bs = b :: more → isDigitByte b →
      skipNumber (b :: more) = .ok rest → Stands bs rest
  | text {bs more rest : List UInt8} : skipSpace bs = 0x22 :: more → skipText more = .ok rest → Stands bs rest
  | emptyArray {bs more rest : List UInt8} : skipSpace bs = 0x5b :: more → skipSpace more = 0x5d :: rest →
      Stands bs rest
  | array {bs more rest : List UInt8} : skipSpace bs = 0x5b :: more → StandItems more rest → Stands bs rest
  | emptyObject {bs more rest : List UInt8} : skipSpace bs = 0x7b :: more → skipSpace more = 0x7d :: rest →
      Stands bs rest
  | object {bs more rest : List UInt8} : skipSpace bs = 0x7b :: more → StandMembers more rest → Stands bs rest

/-- The items of an array with commas between them, up to the closing bracket. -/
inductive StandItems : List UInt8 → List UInt8 → Prop
  | last {bs behind rest : List UInt8} : Stands bs behind → skipSpace behind = 0x5d :: rest → StandItems bs rest
  | next {bs behind more rest : List UInt8} : Stands bs behind → skipSpace behind = 0x2c :: more →
      StandItems more rest → StandItems bs rest

/-- The members of an object with commas between them, up to the closing brace. -/
inductive StandMembers : List UInt8 → List UInt8 → Prop
  | last {bs start behind rest : List UInt8} : skipName bs = .ok start → Stands start behind →
      skipSpace behind = 0x7d :: rest → StandMembers bs rest
  | next {bs start behind more rest : List UInt8} : skipName bs = .ok start → Stands start behind →
      skipSpace behind = 0x2c :: more → StandMembers more rest → StandMembers bs rest

end

/-- How the arrays and objects end that are still open behind an item; they are listed as they are for `skipValue`. -/
inductive Ends : List Bool → List UInt8 → List UInt8 → Prop
  | outside {bs : List UInt8} : Ends [] bs bs
  | array {within : List Bool} {bs more rest : List UInt8} : skipSpace bs = 0x5d :: more → Ends within more rest →
      Ends (false :: within) bs rest
  | item {within : List Bool} {bs more behind rest : List UInt8} : skipSpace bs = 0x2c :: more → Stands more behind →
      Ends (false :: within) behind rest → Ends (false :: within) bs rest
  | object {within : List Bool} {bs more rest : List UInt8} : skipSpace bs = 0x7d :: more → Ends within more rest →
      Ends (true :: within) bs rest
  | member {within : List Bool} {bs more start behind rest : List UInt8} : skipSpace bs = 0x2c :: more →
      skipName more = .ok start → Stands start behind → Ends (true :: within) behind rest →
      Ends (true :: within) bs rest

theorem skipSpace_skipSpace (bs : List UInt8) : skipSpace (skipSpace bs) = skipSpace bs := by
  induction bs with
  | nil => rfl
  | cons b bs ih =>
    by_cases blank : isSpace b = true
    · have drop : skipSpace (b :: bs) = skipSpace bs := List.dropWhile_cons_of_pos blank
      rw [drop, ih]
    · have keep : skipSpace (b :: bs) = b :: bs := List.dropWhile_cons_of_neg blank
      rw [keep, keep]

theorem skipName_skipSpace (bs : List UInt8) : skipName (skipSpace bs) = skipName bs := by
  unfold skipName
  rw [skipSpace_skipSpace]

section Grammar

variable {bs rest : List UInt8}

theorem Stands.of_skipSpace (stands : Stands (skipSpace bs) rest) : Stands bs rest := by
  cases stands with
  | null opened => exact .null (skipSpace_skipSpace bs ▸ opened)
  | true opened => exact .true (skipSpace_skipSpace bs ▸ opened)
  | false opened => exact .false (skipSpace_skipSpace bs ▸ opened)
  | negative opened number => exact .negative (skipSpace_skipSpace bs ▸ opened) number
  | number opened digit number => exact .number (skipSpace_skipSpace bs ▸ opened) digit number
  | text opened text => exact .text (skipSpace_skipSpace bs ▸ opened) text
  | emptyArray opened closed => exact .emptyArray (skipSpace_skipSpace bs ▸ opened) closed
  | array opened items => exact .array (skipSpace_skipSpace bs ▸ opened) items
  | emptyObject opened closed => exact .emptyObject (skipSpace_skipSpace bs ▸ opened) closed
  | object opened members => exact .object (skipSpace_skipSpace bs ▸ opened) members

/-- Behind an item of an array come the other items and its end. -/
theorem Ends.items {within : List Bool} {behind : List UInt8} (ends : Ends (false :: within) behind rest)
    (first : Stands bs behind) : ∃ left, StandItems bs left ∧ Ends within left rest := by
  generalize same : false :: within = still at ends
  induction ends generalizing bs with
  | outside => cases same
  | array closed outer =>
    cases same
    exact ⟨_, .last first closed, outer⟩
  | item comma second _ ih =>
    obtain ⟨left, items, outer⟩ := ih second same
    exact ⟨left, .next first comma items, outer⟩
  | object => cases same
  | member => cases same

theorem Ends.members {within : List Bool} {start behind : List UInt8} (ends : Ends (true :: within) behind rest)
    (named : skipName bs = .ok start) (first : Stands start behind) :
    ∃ left, StandMembers bs left ∧ Ends within left rest := by
  generalize same : true :: within = still at ends
  induction ends generalizing bs start with
  | outside => cases same
  | array => cases same
  | item => cases same
  | object closed outer =>
    cases same
    exact ⟨_, .last named first closed, outer⟩
  | member comma name second _ ih =>
    obtain ⟨left, members, outer⟩ := ih name second same
    exact ⟨left, .next named first comma members, outer⟩

/-- What is passed over is a value and the end of all that is open around it. -/
theorem stands_of_skipValue {fuel : Nat} {within : List Bool} {after : Bool}
    (passed : skipValue fuel within after bs = .ok rest) :
    if after then Ends within bs rest else ∃ behind, Stands bs behind ∧ Ends within behind rest := by
  induction fuel generalizing within after bs with
  | zero => cases within <;> cases after <;> cases passed
  | succ fuel ih =>
    match within, after with
    | [], true =>
      cases passed
      exact .outside
    | false :: within, true =>
      rw [skipValue] at passed
      split at passed
      · cases passed
      · rename_i b more opened
        rw [if_neg Bool.false_ne_true] at passed
        split at passed
        · rename_i closed
          exact .array (eq_of_beq closed ▸ opened) (ih passed)
        · split at passed
          · cases passed
          · rename_i comma
            obtain rfl : b = 0x2c := by simpa using comma
            obtain ⟨behind, stands, ends⟩ := ih passed
            exact .item opened stands ends
    | true :: within, true =>
      rw [skipValue] at passed
      split at passed
      · cases passed
      · rename_i b more opened
        rw [if_pos rfl] at passed
        split at passed
        · rename_i closed
          exact .object (eq_of_beq closed ▸ opened) (ih passed)
        · split at passed
          · cases passed
          · rename_i comma
            obtain rfl : b = 0x2c := by simpa using comma
            rw [if_pos rfl] at passed
            split at passed
            · cases passed
            · rename_i named
              obtain ⟨behind, stands, ends⟩ := ih passed
              exact .member opened named stands ends
    | within, false =>
      -- Words, numbers and texts end on their own; what is open around them is judged next.
      have single {left : List UInt8} (stands : Stands bs left) (outer : skipValue fuel within true left = .ok rest) :
          ∃ behind, Stands bs behind ∧ Ends within behind rest := ⟨left, stands, ih outer⟩
      rw [skipValue] at passed
      split at passed
      · cases passed
      · rename_i b more opened
        split at passed
        · rename_i letter
          split at passed
          · cases passed
          · rename_i tail
            exact single (.null (eq_of_beq letter ▸ expect_eq_ok_iff.mp tail ▸ opened)) passed
        split at passed
        · rename_i letter
          split at passed
          · cases passed
          · rename_i tail
            exact single (.true (eq_of_beq letter ▸ expect_eq_ok_iff.mp tail ▸ opened)) passed
        split at passed
        · rename_i letter
          split at passed
          · cases passed
          · rename_i tail
            exact single (.false (eq_of_beq letter ▸ expect_eq_ok_iff.mp tail ▸ opened)) passed
        split at passed
        · rename_i minus
          split at passed
          · cases passed
          · rename_i number
            exact single (.negative (eq_of_beq minus ▸ opened) number) passed
        split at passed
        · rename_i digit
          split at passed
          · cases passed
          · rename_i number
            exact single (.number opened digit number) passed
        split at passed
        · rename_i quote
          split at passed
          · cases passed
          · rename_i text
            exact single (.text (eq_of_beq quote ▸ opened) text) passed
        split at passed
        · rename_i bracket
          have opened : skipSpace bs = 0x5b :: more := eq_of_beq bracket ▸ opened
          split at passed
          · cases passed
          · rename_i c inner begun
            split at passed
            · rename_i closed
              exact single (.emptyArray opened (eq_of_beq closed ▸ begun)) passed
            · obtain ⟨behind, stands, ends⟩ := ih passed
              obtain ⟨left, items, outer⟩ := Ends.items ends (begun ▸ stands).of_skipSpace
              exact ⟨left, .array opened items, outer⟩
        split at passed
        · rename_i brace
          have opened : skipSpace bs = 0x7b :: more := eq_of_beq brace ▸ opened
          split at passed
          · cases passed
          · rename_i c inner begun
            split at passed
            · rename_i closed
              exact single (.emptyObject opened (eq_of_beq closed ▸ begun)) passed
            · split at passed
              · cases passed
              · rename_i named
                rw [← begun, skipName_skipSpace] at named
                obtain ⟨behind, stands, ends⟩ := ih passed
                obtain ⟨left, members, outer⟩ := Ends.members ends named stands
                exact ⟨left, .object opened members, outer⟩
        cases passed

mutual

theorem Stands.length_lt {bs rest : List UInt8} : Stands bs rest → rest.length < bs.length
  | .null opened | .true opened | .false opened => by
    have behind := length_of_skipSpace opened
    rw [List.length_append] at behind
    omega
  | .negative opened passed => Nat.lt_trans (length_of_skipNumber passed) (length_of_skipSpace opened)
  | .number opened _ passed => by
    have digits := length_of_skipNumber passed
    have begun := length_of_skipSpace opened
    rw [List.length_cons] at digits
    omega
  | .text opened passed => Nat.lt_of_le_of_lt (length_of_skipText passed) (length_of_skipSpace opened)
  | .emptyArray opened closed | .emptyObject opened closed =>
    Nat.lt_trans (length_of_skipSpace closed) (length_of_skipSpace opened)
  | .array opened items => Nat.lt_trans items.length_lt (length_of_skipSpace opened)
  | .object opened members => Nat.lt_trans members.length_lt (length_of_skipSpace opened)

theorem StandItems.length_lt {bs rest : List UInt8} : StandItems bs rest → rest.length < bs.length
  | .last item closed => Nat.lt_trans (length_of_skipSpace closed) item.length_lt
  | .next item comma others =>
    Nat.lt_trans others.length_lt (Nat.lt_trans (length_of_skipSpace comma) item.length_lt)

theorem StandMembers.length_lt {bs rest : List UInt8} : StandMembers bs rest → rest.length < bs.length
  | .last named value closed =>
    Nat.lt_of_lt_of_le (Nat.lt_trans (length_of_skipSpace closed) value.length_lt) (length_of_skipName named)
  | .next named value comma others =>
    Nat.lt_of_lt_of_le (Nat.lt_trans others.length_lt (Nat.lt_trans (length_of_skipSpace comma) value.length_lt))
      (length_of_skipName named)

end

theorem skipValue_skipSpace (fuel : Nat) (within : List Bool) (bs : List UInt8) :
    skipValue fuel within false (skipSpace bs) = skipValue fuel within false bs := by
  cases fuel with
  | zero => cases within <;> rfl
  | succ fuel => rw [skipValue, skipValue, skipSpace_skipSpace]

theorem Stands.begins {bs rest : List UInt8} (stands : Stands bs rest) :
    ∃ b more, skipSpace bs = b :: more ∧ b ≠ 0x5d := by
  cases stands with
  | number opened digit =>
    refine ⟨_, _, opened, ?_⟩
    rintro rfl
    exact absurd digit (by decide)
  | null opened | true opened | false opened | negative opened | text opened | emptyArray opened | array opened
  | emptyObject opened | object opened => exact ⟨_, _, opened, by decide⟩

theorem StandItems.begins {bs rest : List UInt8} (items : StandItems bs rest) :
    ∃ b more, skipSpace bs = b :: more ∧ b ≠ 0x5d := by
  cases items with
  | last first | next first => exact first.begins

theorem begins_of_skipName {bs rest : List UInt8} (named : skipName bs = .ok rest) :
    ∃ more, skipSpace bs = 0x22 :: more := by
  unfold skipName at named
  split at named
  · cases named
  · rename_i b more opened
    split at named
    · cases named
    · rename_i quote
      obtain rfl : b = 0x22 := by simpa using quote
      exact ⟨more, opened⟩

mutual

/-- A value is passed over if what is behind it is, with one piece of fuel more for each of its bytes. -/
theorem Stands.passed {bs behind : List UInt8} : Stands bs behind → ∀ {within : List Bool} {rest : List UInt8} {n : Nat},
    (∀ m, n ≤ m → skipValue m within true behind = .ok rest) →
    ∀ m, n + bs.length ≤ m + behind.length → skipValue m within false bs = .ok rest
  | stands, within, rest, n, outer, 0, enough => by
    have shorter := stands.length_lt
    omega
  | .null opened, within, rest, n, outer, m + 1, enough => by
    have shorter := (Stands.null opened).length_lt
    simp [skipValue, opened, expect_eq_ok_iff.mpr rfl, outer m (by omega)]
  | .true opened, within, rest, n, outer, m + 1, enough => by
    have shorter := (Stands.true opened).length_lt
    simp [skipValue, opened, expect_eq_ok_iff.mpr rfl, outer m (by omega)]
  | .false opened, within, rest, n, outer, m + 1, enough => by
    have shorter := (Stands.false opened).length_lt
    simp [skipValue, opened, expect_eq_ok_iff.mpr rfl, outer m (by omega)]
  | .negative opened passed, within, rest, n, outer, m + 1, enough => by
    have shorter := (Stands.negative opened passed).length_lt
    simp [skipValue, opened, passed, outer m (by omega)]
  | .number opened digit passed, within, rest, n, outer, m + 1, enough => by
    have shorter := (Stands.number opened digit passed).length_lt
    rename_i b more
    have other (letter : UInt8) (none : isDigitByte letter = false) : b ≠ letter := by
      rintro rfl
      exact Bool.false_ne_true (none.symm.trans digit)
    simp [skipValue, opened, other 0x6e rfl, other 0x74 rfl, other 0x66 rfl, other 0x2d rfl, digit, passed,
      outer m (by omega)]
  | .text opened passed, within, rest, n, outer, m + 1, enough => by
    have shorter := (Stands.text opened passed).length_lt
    simp [skipValue, opened, isDigitByte, passed, outer m (by omega)]
  | .emptyArray opened closed, within, rest, n, outer, m + 1, enough => by
    have shorter := (Stands.emptyArray opened closed).length_lt
    simp [skipValue, opened, isDigitByte, closed, outer m (by omega)]
  | .emptyObject opened closed, within, rest, n, outer, m + 1, enough => by
    have shorter := (Stands.emptyObject opened closed).length_lt
    simp [skipValue, opened, isDigitByte, closed, outer m (by omega)]
  | .array opened items, within, rest, n, outer, m + 1, enough => by
    rename_i left
    have begun := length_of_skipSpace opened
    obtain ⟨b, more, first, inside⟩ := items.begins
    have whole : skipValue (m + 1) within false bs = skipValue m (false :: within) false left := by
      rw [← skipValue_skipSpace m, first]
      simp [skipValue, opened, isDigitByte, first, inside]
    exact whole.trans (items.passed outer m (by omega))
  | .object opened members, within, rest, n, outer, m + 1, enough => by
    rename_i left
    have begun := length_of_skipSpace opened
    obtain ⟨start, named, passed⟩ := members.passed outer
    obtain ⟨more, first⟩ := begins_of_skipName named
    have whole : skipValue (m + 1) within false bs = skipValue m (true :: within) false start := by
      rw [← skipName_skipSpace, first] at named
      simp [skipValue, opened, isDigitByte, first, named]
    exact whole.trans (passed m (by omega))

theorem StandItems.passed {bs behind : List UInt8} : StandItems bs behind →
    ∀ {within : List Bool} {rest : List UInt8} {n : Nat},
    (∀ m, n ≤ m → skipValue m within true behind = .ok rest) →
    ∀ m, n + bs.length ≤ m + behind.length → skipValue m (false :: within) false bs = .ok rest
  | @StandItems.last _ left _ item closed, within, rest, n, outer, m, enough => by
    have shorter := length_of_skipSpace closed
    have closing (m : Nat) (some : n + 1 ≤ m) : skipValue m (false :: within) true left = .ok rest := by
      obtain ⟨m, rfl⟩ := Nat.exists_eq_add_one_of_ne_zero (Nat.ne_zero_of_lt some)
      simp [skipValue, closed, outer m (Nat.le_of_succ_le_succ some)]
    exact item.passed closing m (by omega)
  | @StandItems.next _ left more _ item comma others, within, rest, n, outer, m, enough => by
    have shorter := length_of_skipSpace comma
    have fewer := others.length_lt
    have following (m : Nat) (some : n + more.length - behind.length + 1 ≤ m) :
        skipValue m (false :: within) true left = .ok rest := by
      obtain ⟨m, rfl⟩ := Nat.exists_eq_add_one_of_ne_zero (Nat.ne_zero_of_lt some)
      simp [skipValue, comma, others.passed outer m (by omega)]
    exact item.passed following m (by omega)

theorem StandMembers.passed {bs behind : List UInt8} : StandMembers bs behind →
    ∀ {within : List Bool} {rest : List UInt8} {n : Nat},
    (∀ m, n ≤ m → skipValue m within true behind = .ok rest) →
    ∃ start, skipName bs = .ok start ∧
      ∀ m, n + bs.length ≤ m + behind.length → skipValue m (true :: within) false start = .ok rest
  | @StandMembers.last _ start left _ named value closed, within, rest, n, outer => by
    have name := length_of_skipName named
    have shorter := length_of_skipSpace closed
    have closing (m : Nat) (some : n + 1 ≤ m) : skipValue m (true :: within) true left = .ok rest := by
      obtain ⟨m, rfl⟩ := Nat.exists_eq_add_one_of_ne_zero (Nat.ne_zero_of_lt some)
      simp [skipValue, closed, outer m (Nat.le_of_succ_le_succ some)]
    exact ⟨start, named, fun m enough => value.passed closing m (by omega)⟩
  | @StandMembers.next _ start left more _ named value comma others, within, rest, n, outer => by
    have name := length_of_skipName named
    have shorter := length_of_skipSpace comma
    have fewer := others.length_lt
    obtain ⟨second, next, passed⟩ := others.passed outer
    have following (m : Nat) (some : n + more.length - behind.length + 1 ≤ m) :
        skipValue m (true :: within) true left = .ok rest := by
      obtain ⟨m, rfl⟩ := Nat.exists_eq_add_one_of_ne_zero (Nat.ne_zero_of_lt some)
      simp [skipValue, comma, next, passed m (by omega)]
    exact ⟨start, named, fun m enough => value.passed following m (by omega)⟩

end

theorem stands_of_skipped {fuel : Nat} {bs rest : List UInt8} (passed : skipValue fuel [] false bs = .ok rest) :
    Stands bs rest := by
  obtain ⟨behind, stands, ends⟩ := stands_of_skipValue passed
  cases ends
  exact stands

/-- What is passed over is exactly a value, as soon as there is more fuel than bytes. -/
theorem skipValue_eq_ok_iff {fuel : Nat} {bs rest : List UInt8} (enough : bs.length < fuel) :
    skipValue fuel [] false bs = .ok rest ↔ Stands bs rest := by
  refine ⟨stands_of_skipped, fun stands => ?_⟩
  have outside (m : Nat) (some : 1 ≤ m) : skipValue m [] true rest = .ok rest := by
    obtain ⟨m, rfl⟩ := Nat.exists_eq_add_one_of_ne_zero (Nat.ne_zero_of_lt some)
    rfl
  exact stands.passed outside fuel (by omega)

end Grammar

end AuthzClient.Json
