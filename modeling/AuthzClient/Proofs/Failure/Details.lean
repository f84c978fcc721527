import AuthzClient.Failure.ApiError

/-!
What the details of a validation message are, said without any reading: a message is of a form if it can be cut into
the pieces of that form, and the cut with the shortest piece in front decides. The scanners for the four forms find just
these cuts, wherever they begin and however often they fail before.
-/

namespace AuthzClient.Validation

open Text

/-- What a form of messages names in a text that begins with it; anything may stand behind. -/
abbrev Form := List Char → List Char → Prop

/-- A form fits behind `before`, and nowhere earlier. -/
def Form.Earliest (form : Form) (cs before found : List Char) : Prop :=
  ∃ rest, cs = before ++ rest ∧ form rest found ∧
    ∀ front more other, cs = front ++ more → form more other → before.length ≤ front.length

/-- A form fits nowhere in a text. -/
def Form.Nowhere (form : Form) (cs : List Char) : Prop := ∀ front more other, cs = front ++ more → ¬form more other

/-- A word that is not empty. -/
def IsRun (cs : List Char) : Prop := cs ≠ [] ∧ ∀ c ∈ cs, isWord c = true

/-- Nothing, or a single quote. -/
def IsQuote (cs : List Char) : Prop := cs = [] ∨ cs = ['\'']

/-- A word, a value in quotes, and that it is not found. -/
def missing (word : String) : Form := fun cs value =>
  value ≠ [] ∧ '\'' ∉ value ∧ ∃ behind, cs = word.toList ++ " '".toList ++ value ++ "' not found".toList ++ behind

/-- That a field of something is invalid. -/
def qualified : Form := fun cs field =>
  IsRun field ∧ ∃ owner behind, IsRun owner ∧
    cs = "invalid ".toList ++ owner ++ ".".toList ++ field ++ ":".toList ++ behind

/-- That a field, with or without quotes, must not be empty. -/
def emptied : Form := fun cs field =>
  IsRun field ∧ ∃ opening closing behind, IsQuote opening ∧ IsQuote closing ∧
    cs = opening ++ field ++ closing ++ " must not be empty".toList ++ behind

/-- The details of a message: the first form counts that fits anywhere, with the shortest text in front of it. -/
inductive Tells (message : List Char) : Details → Prop
  | relation {before value : List Char} : (missing "relation").Earliest message before value →
      Tells message ⟨some "relation", some (String.ofList value)⟩
  | type {before value : List Char} : (missing "relation").Nowhere message →
      (missing "type").Earliest message before value → Tells message ⟨some "type", some (String.ofList value)⟩
  | qualified {before field : List Char} : (missing "relation").Nowhere message → (missing "type").Nowhere message →
      qualified.Earliest message before field → Tells message ⟨some (String.ofList field), none⟩
  | emptied {before field : List Char} : (missing "relation").Nowhere message → (missing "type").Nowhere message →
      qualified.Nowhere message → emptied.Earliest message before field →
      Tells message ⟨some (String.ofList field), none⟩
  | nothing : (missing "relation").Nowhere message → (missing "type").Nowhere message → qualified.Nowhere message →
      emptied.Nowhere message → Tells message .none

section Search

variable {read? : List Char → Option (List Char)} {form : Form}

/-- A form fits in a text if it fits at its front or behind its first character. -/
theorem firstHit_cases (reads : ∀ cs found, read? cs = some found ↔ form cs found) (cs : List Char) :
    (∃ before found, firstHit read? cs = some found ∧ form.Earliest cs before found) ∨
      firstHit read? cs = none ∧ form.Nowhere cs := by
  induction cs with
  | nil =>
    rw [firstHit]
    cases hit : read? [] with
    | some found =>
      exact Or.inl ⟨[], found, rfl, [], rfl, (reads [] found).mp hit, fun _ _ _ _ _ => Nat.zero_le _⟩
    | none =>
      refine Or.inr ⟨rfl, fun front more other same fits => ?_⟩
      obtain ⟨rfl, rfl⟩ := List.append_eq_nil_iff.mp same.symm
      cases hit.symm.trans ((reads [] other).mpr fits)
  | cons c cs ih =>
    rw [firstHit]
    cases hit : read? (c :: cs) with
    | some found =>
      exact Or.inl ⟨[], found, rfl, c :: cs, rfl, (reads _ found).mp hit, fun _ _ _ _ _ => Nat.zero_le _⟩
    | none =>
      have notHere (other : List Char) : ¬form (c :: cs) other := fun fits => by
        cases hit.symm.trans ((reads _ other).mpr fits)
      rcases ih with ⟨before, found, later, rest, cut, fits, least⟩ | ⟨none, nowhere⟩
      · refine Or.inl ⟨c :: before, found, later, rest, by rw [cut, List.cons_append], fits, ?_⟩
        intro front more other same there
        cases front with
        | nil => exact absurd (same ▸ there) (notHere other)
        | cons d front =>
          exact Nat.succ_le_succ (least front more other (List.cons.inj same).2 there)
      · refine Or.inr ⟨none, fun front more other same there => ?_⟩
        cases front with
        | nil => exact absurd (same ▸ there) (notHere other)
        | cons d front => exact nowhere front more other (List.cons.inj same).2 there

theorem firstHit_of_earliest (reads : ∀ cs found, read? cs = some found ↔ form cs found) {cs before found : List Char}
    (earliest : form.Earliest cs before found) : firstHit read? cs = some found := by
  obtain ⟨rest, cut, fits, least⟩ := earliest
  rcases firstHit_cases reads cs with ⟨front, other, hit, more, same, there, first⟩ | ⟨_, nowhere⟩
  · have length : before.length = front.length :=
      Nat.le_antisymm (least front more other same there) (first before rest found cut fits)
    obtain ⟨_, rfl⟩ := List.append_inj (cut.symm.trans same) length
    have one : some found = some other := ((reads rest found).mpr fits).symm.trans ((reads rest other).mpr there)
    exact hit.trans one.symm
  · exact absurd fits (nowhere before rest found cut)

theorem firstHit_of_nowhere (reads : ∀ cs found, read? cs = some found ↔ form cs found) {cs : List Char}
    (nowhere : form.Nowhere cs) : firstHit read? cs = none := by
  rcases firstHit_cases reads cs with ⟨front, other, _, more, same, there, _⟩ | ⟨nothing, _⟩
  · exact absurd there (nowhere front more other same)
  · exact nothing

end Search

theorem stripStart?_eq_some_iff {start cs rest : List Char} : stripStart? start cs = some rest ↔ cs = start ++ rest :=
  ⟨eq_append_of_stripStart?, fun same => same ▸ stripStart?_append start rest⟩

section Classes

variable {p : Char → Bool} {run cs : List Char} {c : Char}

/-- Characters of a class in front of one that is not of it. -/
theorem takeWhile_stopped (inside : ∀ c ∈ run, p c = true) (stop : p c = false) (rest : List Char) :
    (run ++ c :: rest).takeWhile p = run := by
  rw [List.takeWhile_append_of_pos inside, List.takeWhile_cons_of_neg (Bool.eq_false_iff.mp stop), List.append_nil]

theorem dropWhile_stopped (inside : ∀ c ∈ run, p c = true) (stop : p c = false) (rest : List Char) :
    (run ++ c :: rest).dropWhile p = c :: rest := by
  rw [List.dropWhile_append_of_pos inside, List.dropWhile_cons_of_neg (Bool.eq_false_iff.mp stop)]

theorem of_mem_takeWhile (inside : c ∈ cs.takeWhile p) : p c = true :=
  List.all_eq_true.mp List.all_takeWhile c inside

theorem isRun_takeWhile (full : ¬(cs.takeWhile isWord).isEmpty = true) : IsRun (cs.takeWhile isWord) :=
  ⟨fun empty => full (List.isEmpty_iff.mpr empty), fun _ => of_mem_takeWhile⟩

theorem IsRun.isEmpty_eq_false (word : IsRun run) : run.isEmpty = false := List.isEmpty_eq_false_iff.mpr word.1

end Classes

theorem quotedNotFound?_eq_some_iff (word : String) (cs value : List Char) :
    quotedNotFound? word cs = some value ↔ missing word cs value := by
  unfold quotedNotFound? missing
  constructor
  · intro found
    obtain ⟨rest, opened, found⟩ := Option.bind_eq_some_iff.mp found
    dsimp only at found
    split at found
    · cases found
    · rename_i full
      obtain ⟨behind, closed, same⟩ := Option.bind_eq_some_iff.mp found
      cases same
      have text : rest.takeWhile (· != '\'') ++ ("' not found".toList ++ behind) = rest := by
        rw [← stripStart?_eq_some_iff.mp closed, List.takeWhile_append_dropWhile]
      refine ⟨fun empty => full (List.isEmpty_iff.mpr empty), fun quoted => ?_, behind, ?_⟩
      · cases of_mem_takeWhile quoted
      · calc cs = word.toList ++ " '".toList ++ rest := stripStart?_eq_some_iff.mp opened
          _ = word.toList ++ " '".toList ++ (rest.takeWhile (· != '\'') ++ ("' not found".toList ++ behind)) := by
            rw [text]
          _ = _ := by simp only [List.append_assoc]
  · rintro ⟨full, unquoted, behind, rfl⟩
    have inside : ∀ c ∈ value, (c != '\'') = true := fun c inside => bne_iff_ne.mpr fun same => unquoted (same ▸ inside)
    have text : word.toList ++ " '".toList ++ value ++ "' not found".toList ++ behind =
        word.toList ++ [' ', '\''] ++ (value ++ '\'' :: (" not found".toList ++ behind)) := by simp
    rw [text, stripStart?_append]
    simp only [Option.bind_eq_bind, Option.bind_some, takeWhile_stopped inside (c := '\'') rfl,
      dropWhile_stopped inside (c := '\'') rfl, List.isEmpty_eq_false_iff.mpr full, Bool.false_eq_true, if_false]
    rfl

theorem qualifiedField?_eq_some_iff (cs field : List Char) : qualifiedField? cs = some field ↔ qualified cs field := by
  unfold qualifiedField? qualified
  constructor
  · intro found
    obtain ⟨named, opened, found⟩ := Option.bind_eq_some_iff.mp found
    split at found
    · cases found
    · rename_i owned
      obtain ⟨rest, pointed, found⟩ := Option.bind_eq_some_iff.mp found
      dsimp only at found
      split at found
      · cases found
      · rename_i full
        obtain ⟨behind, closed, same⟩ := Option.bind_eq_some_iff.mp found
        cases same
        have point : named.dropWhile isWord = ".".toList ++ rest := stripStart?_eq_some_iff.mp pointed
        have colon : rest.dropWhile isWord = ":".toList ++ behind := stripStart?_eq_some_iff.mp closed
        have front : named.takeWhile isWord ++ (".".toList ++ rest) = named := by
          rw [← point, List.takeWhile_append_dropWhile]
        have back : rest.takeWhile isWord ++ (":".toList ++ behind) = rest := by
          rw [← colon, List.takeWhile_append_dropWhile]
        refine ⟨isRun_takeWhile full, named.takeWhile isWord, behind, isRun_takeWhile owned, ?_⟩
        calc cs = "invalid ".toList ++ named := stripStart?_eq_some_iff.mp opened
          _ = "invalid ".toList ++ (named.takeWhile isWord ++ (".".toList ++ rest)) := by rw [front]
          _ = "invalid ".toList ++ (named.takeWhile isWord ++ (".".toList ++
                (rest.takeWhile isWord ++ (":".toList ++ behind)))) := by rw [back]
          _ = _ := by simp only [List.append_assoc]
  · rintro ⟨word, owner, behind, owned, rfl⟩
    have text : "invalid ".toList ++ owner ++ ".".toList ++ field ++ ":".toList ++ behind =
        "invalid ".toList ++ (owner ++ '.' :: (field ++ ':' :: behind)) := by simp
    have point (rest : List Char) : stripStart? ['.'] ('.' :: rest) = some rest := stripStart?_append ['.'] rest
    have colon (rest : List Char) : stripStart? [':'] (':' :: rest) = some rest := stripStart?_append [':'] rest
    rw [text, stripStart?_append]
    simp only [Option.bind_eq_bind, Option.bind_some, takeWhile_stopped owned.2 (c := '.') rfl,
      dropWhile_stopped owned.2 (c := '.') rfl, takeWhile_stopped word.2 (c := ':') rfl,
      dropWhile_stopped word.2 (c := ':') rfl, owned.isEmpty_eq_false, word.isEmpty_eq_false, Bool.false_eq_true,
      if_false, point, colon]
    rfl

/-- The word at the front of a text, if a quote or none and `must not be empty` are behind it. -/
def bareField? (cs : List Char) : Option (List Char) :=
  if (cs.takeWhile isWord).isEmpty then none
  else if saysEmpty (cs.dropWhile isWord) then some (cs.takeWhile isWord)
  else none

/-- The same for a word with a quote or none in front of it. -/
def fieldHere? : List Char → Option (List Char)
  | '\'' :: cs => bareField? cs
  | cs => bareField? cs

theorem saysEmpty_iff {cs : List Char} : saysEmpty cs = true ↔
    ∃ closing behind, IsQuote closing ∧ cs = closing ++ " must not be empty".toList ++ behind := by
  simp only [saysEmpty, Bool.or_eq_true, Option.isSome_iff_exists, stripStart?_eq_some_iff]
  constructor
  · rintro (⟨behind, same⟩ | ⟨behind, same⟩)
    · exact ⟨[], behind, Or.inl rfl, same⟩
    · exact ⟨['\''], behind, Or.inr rfl, same⟩
  · rintro ⟨closing, behind, rfl | rfl, same⟩
    · exact Or.inl ⟨behind, same⟩
    · exact Or.inr ⟨behind, same⟩

theorem bareField?_eq_some_iff {cs field : List Char} : bareField? cs = some field ↔
    IsRun field ∧ ∃ closing behind, IsQuote closing ∧ cs = field ++ (closing ++ " must not be empty".toList ++ behind) := by
  unfold bareField?
  constructor
  · intro found
    split at found
    · cases found
    · rename_i full
      split at found
      · rename_i said
        cases found
        obtain ⟨closing, behind, quote, text⟩ := saysEmpty_iff.mp said
        exact ⟨isRun_takeWhile full, closing, behind, quote, by rw [← text, List.takeWhile_append_dropWhile]⟩
      · cases found
  · rintro ⟨word, closing, behind, quote, rfl⟩
    -- Behind the word stands a quote or a blank, and neither is a character of a word.
    obtain ⟨c, more, begins, stop⟩ : ∃ c more, closing ++ " must not be empty".toList ++ behind = c :: more ∧
        isWord c = false := by
      rcases quote with rfl | rfl
      · exact ⟨' ', _, rfl, rfl⟩
      · exact ⟨'\'', _, rfl, rfl⟩
    have said : saysEmpty (c :: more) = true := saysEmpty_iff.mpr ⟨closing, behind, quote, begins.symm⟩
    rw [begins, takeWhile_stopped word.2 stop, dropWhile_stopped word.2 stop, word.isEmpty_eq_false, said,
      if_neg Bool.false_ne_true, if_pos rfl]

theorem IsRun.exists_cons {run : List Char} (word : IsRun run) : ∃ c cs, run = c :: cs ∧ isWord c = true := by
  cases run with
  | nil => exact absurd rfl word.1
  | cons c cs => exact ⟨c, cs, rfl, word.2 c List.mem_cons_self⟩

theorem fieldHere?_unquoted {c : Char} (other : c ≠ '\'') (cs : List Char) : fieldHere? (c :: cs) = bareField? (c :: cs) := by
  unfold fieldHere?
  split
  · rename_i same
    exact absurd (List.cons.inj same).1 other
  · rfl

theorem fieldHere?_eq_some_iff (cs field : List Char) : fieldHere? cs = some field ↔ emptied cs field := by
  unfold emptied
  constructor
  · intro found
    unfold fieldHere? at found
    split at found
    · obtain ⟨word, closing, behind, quote, rfl⟩ := bareField?_eq_some_iff.mp found
      exact ⟨word, ['\''], closing, behind, Or.inr rfl, quote, by simp⟩
    · obtain ⟨word, closing, behind, quote, rfl⟩ := bareField?_eq_some_iff.mp found
      exact ⟨word, [], closing, behind, Or.inl rfl, quote, by simp⟩
  · rintro ⟨word, opening, closing, behind, open_, quote, rfl⟩
    have bare : bareField? (field ++ (closing ++ " must not be empty".toList ++ behind)) = some field :=
      bareField?_eq_some_iff.mpr ⟨word, closing, behind, quote, rfl⟩
    simp only [List.append_assoc] at bare ⊢
    rcases open_ with rfl | rfl
    · obtain ⟨c, cs, rfl, letter⟩ := word.exists_cons
      have other : c ≠ '\'' := by
        rintro rfl
        cases letter
      exact (fieldHere?_unquoted other _).trans bare
    · exact bare

/-- In a text that is all one word no field is found. -/
theorem firstHit_letters {run : List Char} (letters : ∀ c ∈ run, isWord c = true) : firstHit fieldHere? run = none := by
  rcases firstHit_cases fieldHere?_eq_some_iff run with ⟨before, field, _, rest, rfl, fits, _⟩ | ⟨nothing, _⟩
  · obtain ⟨_, opening, closing, behind, _, _, rfl⟩ := fits
    have blank : isWord ' ' = true := letters ' ' (by simp)
    cases blank
  · exact nothing

/-- A word that is followed by something else than that it must not be empty is passed over as a whole. -/
theorem firstHit_word {run cs : List Char} {c : Char} (letters : ∀ c ∈ run, isWord c = true) (stop : isWord c = false)
    (silent : saysEmpty (c :: cs) = false) :
    firstHit fieldHere? (run ++ c :: cs) = firstHit fieldHere? (c :: cs) := by
  induction run with
  | nil => rfl
  | cons d run ih =>
    have other : d ≠ '\'' := by
      rintro rfl
      cases letters '\'' List.mem_cons_self
    have nothing : fieldHere? (d :: (run ++ c :: cs)) = none := by
      rw [fieldHere?_unquoted other, ← List.cons_append, bareField?, takeWhile_stopped letters stop,
        dropWhile_stopped letters stop, silent]
      rfl
    rw [List.cons_append, firstHit, nothing]
    exact ih fun c inside => letters c (List.mem_cons_of_mem d inside)

/-- Nothing is lost when the search goes on behind a character that is of no word: what a quote opens is found again
without the quote. -/
theorem firstHit_stop {cs : List Char} {c : Char} (stop : isWord c = false) :
    firstHit fieldHere? (c :: cs) = firstHit fieldHere? cs := by
  rw [firstHit]
  by_cases quote : c = '\''
  · subst quote
    have inside : fieldHere? ('\'' :: cs) = bareField? cs := rfl
    rw [inside]
    cases found : bareField? cs with
    | none => rfl
    | some field =>
      obtain ⟨word, closing, behind, _, rfl⟩ := bareField?_eq_some_iff.mp found
      obtain ⟨d, ds, rfl, letter⟩ := word.exists_cons
      have other : d ≠ '\'' := by
        rintro rfl
        cases letter
      rw [List.cons_append] at found ⊢
      rw [firstHit, fieldHere?_unquoted other, found]
  · have nothing : bareField? (c :: cs) = none := by
      rw [bareField?, List.takeWhile_cons_of_neg (Bool.eq_false_iff.mp stop)]
      rfl
    rw [fieldHere?_unquoted quote, nothing]

/-- The scanner that keeps the word it is in finds what a search at every place of the text finds. -/
theorem emptyField?_eq (cs run : List Char) (letters : ∀ c ∈ run, isWord c = true) :
    emptyField? run cs = firstHit fieldHere? (run.reverse ++ cs) := by
  have behind : ∀ c ∈ run.reverse, isWord c = true := fun c inside => letters c (List.mem_reverse.mp inside)
  -- The word at hand moves along with the induction: it grows by a letter, or is given up with the text in front of it.
  induction cs generalizing run with
  | nil => rw [emptyField?, List.append_nil, firstHit_letters behind]
  | cons c cs ih =>
    rw [emptyField?]
    cases letter : isWord c with
    | true =>
      have longer : ∀ d ∈ c :: run, isWord d = true := List.forall_mem_cons.mpr ⟨letter, letters⟩
      rw [if_pos rfl, ih (c :: run) longer fun d inside => longer d (List.mem_reverse.mp inside), List.reverse_cons,
        List.append_assoc, List.singleton_append]
    | false =>
      have goOn : emptyField? [] cs = firstHit fieldHere? cs :=
        ih [] (fun d inside => absurd inside List.not_mem_nil) (fun d inside => absurd inside List.not_mem_nil)
      rw [if_neg Bool.false_ne_true, goOn]
      cases said : saysEmpty (c :: cs) with
      | false => rw [Bool.and_false, if_neg Bool.false_ne_true, firstHit_word behind letter said, firstHit_stop letter]
      | true =>
        cases run with
        | nil => exact (firstHit_stop letter).symm
        | cons d run =>
          obtain ⟨closing, rest, quote, text⟩ := saysEmpty_iff.mp said
          have word : IsRun (d :: run).reverse := ⟨List.reverse_ne_nil_iff.mpr (List.cons_ne_nil d run), behind⟩
          have here : emptied ((d :: run).reverse ++ c :: cs) (d :: run).reverse :=
            ⟨word, [], closing, rest, Or.inl rfl, quote, by rw [text]; simp⟩
          obtain ⟨e, es, begins, _⟩ := word.exists_cons
          rw [begins, List.cons_append, firstHit, ← List.cons_append, ← begins, (fieldHere?_eq_some_iff _ _).mpr here]
          rfl

theorem emptyField?_start (cs : List Char) : emptyField? [] cs = firstHit fieldHere? cs :=
  emptyField?_eq cs [] fun _ inside => absurd inside List.not_mem_nil

/-- Some details are always told. -/
theorem tells_extract (message : String) : Tells message.toList (extract message) := by
  unfold extract
  dsimp only
  rw [emptyField?_start]
  rcases firstHit_cases (quotedNotFound?_eq_some_iff "relation") message.toList with
    ⟨before, value, found, earliest⟩ | ⟨relation, noRelation⟩
  · rw [found]
    exact .relation earliest
  rcases firstHit_cases (quotedNotFound?_eq_some_iff "type") message.toList with
    ⟨before, value, found, earliest⟩ | ⟨type, noType⟩
  · rw [relation, found]
    exact .type noRelation earliest
  rcases firstHit_cases qualifiedField?_eq_some_iff message.toList with
    ⟨before, field, found, earliest⟩ | ⟨invalid, notQualified⟩
  · rw [relation, type, found]
    exact .qualified noRelation noType earliest
  rcases firstHit_cases fieldHere?_eq_some_iff message.toList with
    ⟨before, field, found, earliest⟩ | ⟨empty, notEmptied⟩
  · rw [relation, type, invalid, found]
    exact .emptied noRelation noType notQualified earliest
  · rw [relation, type, invalid, empty]
    exact .nothing noRelation noType notQualified notEmptied

/-- No other details are told than the ones that are read. -/
theorem extract_eq_of_tells {message : String} {details : Details} (tells : Tells message.toList details) :
    extract message = details := by
  have relation (nowhere : (missing "relation").Nowhere message.toList) :=
    firstHit_of_nowhere (quotedNotFound?_eq_some_iff "relation") nowhere
  have type (nowhere : (missing "type").Nowhere message.toList) :=
    firstHit_of_nowhere (quotedNotFound?_eq_some_iff "type") nowhere
  have invalid (nowhere : qualified.Nowhere message.toList) := firstHit_of_nowhere qualifiedField?_eq_some_iff nowhere
  unfold extract
  dsimp only
  rw [emptyField?_start]
  cases tells with
  | relation earliest => rw [firstHit_of_earliest (quotedNotFound?_eq_some_iff "relation") earliest]
  | type noRelation earliest =>
    rw [relation noRelation, firstHit_of_earliest (quotedNotFound?_eq_some_iff "type") earliest]
  | qualified noRelation noType earliest =>
    rw [relation noRelation, type noType, firstHit_of_earliest qualifiedField?_eq_some_iff earliest]
  | emptied noRelation noType notQualified earliest =>
    rw [relation noRelation, type noType, invalid notQualified, firstHit_of_earliest fieldHere?_eq_some_iff earliest]
  | nothing noRelation noType notQualified notEmptied =>
    rw [relation noRelation, type noType, invalid notQualified, firstHit_of_nowhere fieldHere?_eq_some_iff notEmptied]

/-- The shortest text in front leaves no letter of the word behind. -/
theorem maximal_of_earliest {cs before field : List Char} (earliest : emptied.Earliest cs before field) :
    ∃ opening closing behind, IsQuote opening ∧ IsQuote closing ∧
      cs = before ++ opening ++ field ++ closing ++ " must not be empty".toList ++ behind ∧
      ∀ c, (before ++ opening).getLast? = some c → isWord c = false := by
  obtain ⟨_, rfl, ⟨word, opening, closing, behind, quote, closed, rfl⟩, least⟩ := earliest
  refine ⟨opening, closing, behind, quote, closed, by simp only [List.append_assoc], fun c last => ?_⟩
  rcases quote with rfl | rfl
  · rw [List.append_nil] at last
    obtain ⟨front, rfl⟩ := List.getLast?_eq_some_iff.mp last
    refine Bool.eq_false_iff.mpr fun letter => ?_
    have longer : emptied (c :: field ++ closing ++ " must not be empty".toList ++ behind) (c :: field) :=
      ⟨⟨List.cons_ne_nil c field, List.forall_mem_cons.mpr ⟨letter, word.2⟩⟩, [], closing, behind, Or.inl rfl, closed, rfl⟩
    have shorter := least front _ (c :: field) (by simp) longer
    rw [List.length_append, List.length_singleton] at shorter
    omega
  · rw [List.getLast?_concat] at last
    cases last
    rfl

/-- The metadata of a validation failure are its details, each where it is there. -/
theorem classify_validation (request : Request) {status : Nat} (invalid : status = 400 ∨ status = 422) (headers : Http.Headers)
    (body : List UInt8) : ∃ error details, ApiError.classify request status headers body = some error ∧
      error.reason = (ApiError.readBody body).2 ∧ error.validation? = some details ∧
      details = (error.reason.map extract).getD .none ∧
      error.metadata = ApiError.entry "invalid_field" details.field ++ ApiError.entry "invalid_value" details.value := by
  have kind : ApiError.Kind.ofStatus status = .validation .none := by
    unfold ApiError.Kind.ofStatus
    rw [if_pos invalid]
  have failed : Http.Response.isSuccess status = false := by
    rcases invalid with rfl | rfl <;> rfl
  refine ⟨ApiError.ofResponse request status headers body, _, ?_, rfl, ?_, rfl, ?_⟩
  · rw [ApiError.classify, failed, if_neg Bool.false_ne_true]
  · simp only [ApiError.validation?, ApiError.ofResponse, kind]
  · simp only [ApiError.ofResponse, kind]

/-- A text of metadata is found exactly if there is one. -/
theorem get?_entries (details : Details) :
    Entries.get? "invalid_field" (ApiError.entry "invalid_field" details.field ++
        ApiError.entry "invalid_value" details.value) = details.field ∧
      Entries.get? "invalid_value" (ApiError.entry "invalid_field" details.field ++
        ApiError.entry "invalid_value" details.value) = details.value := by
  obtain ⟨field, value⟩ := details
  cases field <;> cases value <;> exact ⟨rfl, rfl⟩

/-- The details that a message is read as are the ones that its forms tell: of the forms in their order the first that fits
anywhere, with the shortest text in front, and nothing if none fits. With the shortest text in front, a field that
must not be empty is a whole word. What is wrong with a response of status 400 or 422 are the details of its
message, and its metadata are these details, each exactly if it is there. -/
theorem extract_eq_iff_tells (message : String) (details : Details) :
    (extract message = details ↔ Tells message.toList details) ∧
    (∀ before field, emptied.Earliest message.toList before field →
      ∃ opening closing behind, IsQuote opening ∧ IsQuote closing ∧
        message.toList = before ++ opening ++ field ++ closing ++ " must not be empty".toList ++ behind ∧
        ∀ c, (before ++ opening).getLast? = some c → isWord c = false) ∧
    ∀ (request : Request) (status : Nat) (headers : Http.Headers) (body : List UInt8), status = 400 ∨ status = 422 →
      ∃ error found, ApiError.classify request status headers body = some error ∧
        error.reason = (ApiError.readBody body).2 ∧ error.validation? = some found ∧
        (∀ reason, error.reason = some reason → Tells reason.toList found) ∧
        (error.reason = none → found = .none) ∧
        Entries.get? "invalid_field" error.metadata = found.field ∧
        Entries.get? "invalid_value" error.metadata = found.value ∧
        ∀ entry ∈ error.metadata, entry.1 = "invalid_field" ∨ entry.1 = "invalid_value" := by
  refine ⟨⟨fun same => same ▸ tells_extract message, extract_eq_of_tells⟩, fun _ _ => maximal_of_earliest,
    fun request status headers body invalid => ?_⟩
  obtain ⟨error, found, classified, extracted, shown, read, metadata⟩ := classify_validation request invalid headers body
  obtain ⟨field, value⟩ := get?_entries found
  refine ⟨error, found, classified, extracted, shown, fun reason given => ?_, fun missing => ?_, metadata ▸ field,
    metadata ▸ value, ?_⟩
  · rw [given] at read
    exact read ▸ tells_extract reason
  · rw [missing] at read
    exact read
  · intro entry inside
    rw [metadata] at inside
    rcases List.mem_append.mp inside with first | second
    · cases name : found.field with
      | none => rw [name] at first; cases first
      | some field => rw [name] at first; exact Or.inl (congrArg Prod.fst (List.mem_singleton.mp first))
    · cases name : found.value with
      | none => rw [name] at second; cases second
      | some value => rw [name] at second; exact Or.inr (congrArg Prod.fst (List.mem_singleton.mp second))

/-- A call of no server in particular. -/
def writing : Request := .new "write" "POST" ⟨"https", "", none, none, none, .segments ["stores"], none, none⟩

/-- A message of three forms, of which one fits twice when its value is left out of account. -/
def crowded : String := "invalid Key.Object: type 'document' is valid but type 'user' not found"

/-- The type that is missing counts more than the field in front of it, and the type in front of it is not missing. -/
theorem extract_eq_iff_tells_crowded :
    Tells crowded.toList ⟨some "type", some "user"⟩ ∧
      ∃ error, ApiError.classify writing 422 [] (Text.Utf8.encode ("\x7b\"message\":\"" ++ crowded ++ "\"\x7d")) =
          some error ∧
        Entries.get? "invalid_field" error.metadata = some "type" ∧
        Entries.get? "invalid_value" error.metadata = some "user" := by
  have read : extract crowded = ⟨some "type", some "user"⟩ := by decide +kernel
  obtain ⟨told, _, responses⟩ := extract_eq_iff_tells crowded ⟨some "type", some "user"⟩
  obtain ⟨error, found, classified, extracted, _, tells, _, field, value, _⟩ := responses writing 422 []
    (Text.Utf8.encode ("\x7b\"message\":\"" ++ crowded ++ "\"\x7d")) (Or.inr rfl)
  have reason : (ApiError.readBody (Text.Utf8.encode ("\x7b\"message\":\"" ++ crowded ++ "\"\x7d"))).2 =
      some crowded := by decide +kernel
  have given : error.reason = some crowded := extracted.trans reason
  have same : found = ⟨some "type", some "user"⟩ :=
    (((extract_eq_iff_tells crowded found).1.mpr (tells crowded given)).symm).trans read
  rw [same] at field value
  exact ⟨told.mp read, error, classified, field, value⟩

end AuthzClient.Validation
