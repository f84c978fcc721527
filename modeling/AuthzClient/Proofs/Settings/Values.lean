import AuthzClient.Proofs.Settings.Overlay
import AuthzClient.Settings.Environment
import Mathlib.Data.List.TakeWhile

/-!
The values of variables. They are read by their look: what could be a number, a truth value, a quoted text, a list or a
group is one, and everything else is the text itself.
-/

namespace AuthzClient.Settings.Environment

open Json Text

theorem ordered_plainValue (cs : List Char) : (plainValue cs).Ordered ∧ plainValue cs ≠ .null := by
  unfold plainValue
  dsimp only
  split
  · exact ⟨.number _, Json.noConfusion⟩
  · exact ⟨.number _, Json.noConfusion⟩
  · exact ⟨.text _, Json.noConfusion⟩

/-- All that is read of a value is in order, and it is never nothing. -/
theorem ordered_read (fuel : Nat) :
    (∀ cs value rest, readValue fuel cs = some (value, rest) → value.Ordered ∧ value ≠ .null) ∧
    (∀ seen cs value rest, readItems fuel seen cs = some (value, rest) → value.Ordered ∧ value ≠ .null) ∧
    ∀ seen cs value rest, (Json.object seen).Ordered → readMembers fuel seen cs = some (value, rest) →
      value.Ordered ∧ value ≠ .null := by
  induction fuel with
  | zero =>
    refine ⟨fun cs value rest read => ?_, fun seen cs value rest read => ?_, fun seen cs value rest _ read => ?_⟩
    · rw [readValue] at read
      cases read
    · rw [readItems] at read
      cases read
    · rw [readMembers] at read
      cases read
  | succ fuel ih =>
    obtain ⟨values, items, members⟩ := ih
    refine ⟨fun cs value rest read => ?_, fun seen cs value rest read => ?_, fun seen cs value rest ordered read => ?_⟩
    · rw [readValue] at read
      obtain ⟨⟨found, behind⟩, inside, same⟩ := Option.map_eq_some_iff.mp read
      cases same
      split at inside
      · cases inside
        exact ⟨.bool _, Json.noConfusion⟩
      · cases inside
        exact ⟨.bool _, Json.noConfusion⟩
      · split at inside
        · exact members _ _ _ _ (.object .nil nofun) inside
        · exact items _ _ _ _ inside
        · obtain ⟨_, _, same⟩ := Option.map_eq_some_iff.mp inside
          cases same
          exact ⟨.text _, Json.noConfusion⟩
        · cases inside
          exact ⟨.text _, Json.noConfusion⟩
        · cases inside
        · cases inside
          exact ordered_plainValue _
    · rw [readItems.eq_def] at read
      dsimp only at read
      split at read
      · cases read
        exact ⟨.array _, Json.noConfusion⟩
      · split at read
        · exact items _ _ _ _ read
        · cases read
          exact ⟨.array _, Json.noConfusion⟩
        · cases read
    · rw [readMembers.eq_def] at read
      dsimp only at read
      split at read
      · cases read
        exact ⟨ordered, Json.noConfusion⟩
      · split at read
        · cases read
        · split at read
          · split at read
            · rename_i value _ first
              exact members _ _ _ _ (ordered_put ordered (values _ _ _ first).1) read
            · rename_i value _ first
              cases read
              exact ⟨ordered_put ordered (values _ _ _ first).1, Json.noConfusion⟩
            · cases read
          · cases read

theorem ordered_valueOf (s : String) : (valueOf s).Ordered ∧ valueOf s ≠ .null := by
  unfold valueOf
  split
  · rename_i read
    exact (ordered_read _).1 _ _ _ read
  · exact ⟨.text _, Json.noConfusion⟩

section Look

theorem isWhite_of_isSpace {c : Char} (space : isSpace c = true) : isWhite c = true := by
  simp only [isSpace, Bool.or_eq_true, beq_iff_eq] at space
  rcases space with (((rfl | rfl) | rfl) | rfl) | rfl <;> rfl

/-- A text has white space neither in front nor behind. -/
def Unpadded (cs : List Char) : Prop := trimChars cs = cs

instance (cs : List Char) : Decidable (Unpadded cs) := inferInstanceAs (Decidable (trimChars cs = cs))

theorem not_isWhite_head {c : Char} {rest : List Char} (kept : (c :: rest).dropWhile isWhite = c :: rest) :
    isWhite c = false :=
  Bool.eq_false_iff.mpr (List.dropWhile_eq_self_iff.mp kept (Nat.succ_pos _))

theorem Unpadded.dropWhile {cs : List Char} (unpadded : Unpadded cs) :
    cs.dropWhile isWhite = cs ∧ cs.reverse.dropWhile isWhite = cs.reverse := by
  have front : cs.dropWhile isWhite = cs := by
    refine (List.dropWhile_suffix isWhite).eq_of_length (Nat.le_antisymm (List.length_dropWhile_le ..) ?_)
    have shorter := List.length_dropWhile_le isWhite (cs.dropWhile isWhite).reverse
    rw [List.length_reverse] at shorter
    have whole := congrArg List.length unpadded
    rw [trimChars, List.length_reverse] at whole
    omega
  refine ⟨front, ?_⟩
  have whole := congrArg List.reverse unpadded
  rwa [trimChars, List.reverse_reverse, front] at whole

theorem Unpadded.skipSpace {cs : List Char} (unpadded : Unpadded cs) : skipSpace cs = cs := by
  cases cs with
  | nil => rfl
  | cons c rest =>
    have visible := not_isWhite_head unpadded.dropWhile.1
    refine List.dropWhile_cons_of_neg fun space => ?_
    rw [isWhite_of_isSpace space] at visible
    cases visible

/-- What is not all there is has something visible at its end. -/
theorem Unpadded.skipSpace_behind {front rest : List Char} (unpadded : Unpadded (front ++ rest))
    (empty : Environment.skipSpace rest = []) : rest = [] := by
  rcases List.eq_nil_or_concat rest with none | ⟨init, last, rfl⟩
  · exact none
  · have space := List.dropWhile_eq_nil_iff.mp empty last (by simp)
    have kept := unpadded.dropWhile.2
    rw [List.concat_eq_append, ← List.append_assoc, List.reverse_append] at kept
    have visible := not_isWhite_head kept
    rw [isWhite_of_isSpace space] at visible
    cases visible

/-- A text writes a number, a whole one of 64 bits or one with a point. -/
def IsNumber (cs : List Char) : Prop :=
  (whole? cs).isSome = true ∨ '.' ∈ cs ∧ (Decimal.parse? cs).isSome = true

instance (cs : List Char) : Decidable (IsNumber cs) :=
  inferInstanceAs (Decidable ((whole? cs).isSome = true ∨ '.' ∈ cs ∧ (Decimal.parse? cs).isSome = true))

theorem plainValue_eq_text_iff {cs : List Char} {t : String} :
    plainValue cs = .text t ↔ t = String.ofList cs ∧ ¬IsNumber cs := by
  rw [eq_comm (a := t)]
  unfold plainValue IsNumber
  by_cases point : '.' ∈ cs
  · cases Decimal.parse? cs <;> cases whole? cs <;> simp [point]
  · cases whole? cs <;> simp [point]

theorem isPlain_of_isDigit {c : Char} (digit : isDigit c = true) : isPlain c = true := by
  have apart {d : Char} (other : isDigit d = false) : c ≠ d := by
    rintro rfl
    cases digit.symm.trans other
  simp only [isPlain, Bool.not_eq_true', Bool.or_eq_false_iff, beq_eq_false_iff_ne]
  exact ⟨⟨⟨⟨apart rfl, apart rfl⟩, apart rfl⟩, apart rfl⟩, apart rfl⟩

theorem isPlain_of_parseInt? {cs : List Char} {n : Int} (read : parseInt? cs = some n) : ∀ c ∈ cs, isPlain c = true := by
  have digits {ds : List Char} {m : Int}
      (read : (if ds.isEmpty || !ds.all isDigit then none else some (digitsValue ds : Int)) = some m) :
      ∀ c ∈ ds, isPlain c = true := by
    split at read
    · cases read
    · rename_i all
      simp only [Bool.or_eq_true, not_or, Bool.not_eq_true', Bool.not_eq_false] at all
      exact fun c inside => isPlain_of_isDigit (List.all_eq_true.mp all.2 c inside)
  unfold parseInt? at read
  dsimp only at read
  split at read
  · obtain ⟨m, read, _⟩ := Option.map_eq_some_iff.mp read
    exact List.forall_mem_cons.mpr ⟨rfl, digits read⟩
  · exact List.forall_mem_cons.mpr ⟨rfl, digits read⟩
  · exact digits read

/-- What writes a power of ten has no comma and no bracket in it. -/
theorem isPlain_of_power {c : Char} {more : List Char} {f : Int → Decimal.Binary64} {z : Decimal.Binary64}
    (read : (if c == 'e' || c == 'E' then (Decimal.exponent? more).map f else none) = some z) :
    ∀ d ∈ c :: more, isPlain d = true := by
  split at read
  · rename_i letter
    obtain ⟨_, number, _⟩ := Option.map_eq_some_iff.mp read
    simp only [Bool.or_eq_true, beq_iff_eq] at letter
    refine List.forall_mem_cons.mpr ⟨?_, isPlain_of_parseInt? number⟩
    rcases letter with rfl | rfl <;> rfl
  · cases read

theorem isPlain_of_parseUnsigned? {negative : Bool} {cs : List Char} {x : Decimal.Binary64}
    (read : Decimal.parseUnsigned? negative cs = some x) : ∀ c ∈ cs, isPlain c = true := by
  have run (ds : List Char) : ∀ c ∈ ds.takeWhile isDigit, isPlain c = true := fun c inside =>
    isPlain_of_isDigit (List.mem_takeWhile_imp inside)
  have point (more : List Char) (plain : ∀ c ∈ more.dropWhile isDigit, isPlain c = true) :
      ∀ c ∈ '.' :: more, isPlain c = true := by
    rw [← @List.takeWhile_append_dropWhile _ isDigit more]
    exact List.forall_mem_cons.mpr ⟨rfl, List.forall_mem_append.mpr ⟨run more, plain⟩⟩
  unfold Decimal.parseUnsigned? at read
  dsimp only at read
  rw [Option.ite_none_left_eq_some] at read
  replace read := read.2
  rw [← @List.takeWhile_append_dropWhile _ isDigit cs]
  refine List.forall_mem_append.mpr ⟨run cs, ?_⟩
  -- The outer case is what stands behind the point, the inner one whether there is a point.
  split at read
  · rename_i none
    split at none
    · rename_i behind
      rw [behind]
      refine point _ ?_
      rw [show List.dropWhile isDigit _ = [] from none]
      exact List.forall_mem_nil _
    · rw [show List.dropWhile isDigit cs = [] from none]
      exact List.forall_mem_nil _
  · rename_i rest
    split at rest
    · rename_i behind
      rw [behind]
      exact point _ (by rw [show List.dropWhile isDigit _ = _ from rest]; exact isPlain_of_power read)
    · rw [show List.dropWhile isDigit cs = _ from rest]
      exact isPlain_of_power read

theorem isPlain_of_lowerAscii {c : Char} (plain : isPlain (lowerAscii c) = true) : isPlain c = true := by
  unfold lowerAscii at plain
  split at plain
  · rename_i letter
    have apart {d : Char} (other : ('A' ≤ d && d ≤ 'Z') = false) : c ≠ d := by
      rintro rfl
      cases letter.symm.trans other
    simp only [isPlain, Bool.not_eq_true', Bool.or_eq_false_iff, beq_eq_false_iff_ne]
    exact ⟨⟨⟨⟨apart rfl, apart rfl⟩, apart rfl⟩, apart rfl⟩, apart rfl⟩
  · exact plain

theorem isPlain_of_parse? {cs : List Char} {x : Decimal.Binary64} (read : Decimal.parse? cs = some x) :
    ∀ c ∈ cs, isPlain c = true := by
  have word {body : List Char} {w : String} (same : (String.ofList (body.map lowerAscii) == w) = true)
      (plain : w.toList.all isPlain = true) : ∀ c ∈ body, isPlain c = true := by
    intro c inside
    rw [beq_iff_eq] at same
    refine isPlain_of_lowerAscii (List.all_eq_true.mp plain _ ?_)
    rw [← same, String.toList_ofList]
    exact List.mem_map_of_mem inside
  have unsigned {negative : Bool} {body : List Char} {y z : Decimal.Binary64}
      (read : (if String.ofList (body.map lowerAscii) == "inf" || String.ofList (body.map lowerAscii) == "infinity"
        then some y
        else if String.ofList (body.map lowerAscii) == "nan" then some z
        else Decimal.parseUnsigned? negative body) = some x) : ∀ c ∈ body, isPlain c = true := by
    split at read
    · rename_i infinite
      rw [Bool.or_eq_true] at infinite
      rcases infinite with same | same
      · exact word same rfl
      · exact word same rfl
    · split at read
      · rename_i same
        exact word same rfl
      · exact isPlain_of_parseUnsigned? read
  unfold Decimal.parse? at read
  dsimp only at read
  split at read
  · exact List.forall_mem_cons.mpr ⟨rfl, unsigned read⟩
  · exact List.forall_mem_cons.mpr ⟨rfl, unsigned read⟩
  · exact unsigned read

/-- A number has no comma and no bracket in it. -/
theorem isPlain_of_isNumber {cs : List Char} (number : IsNumber cs) : ∀ c ∈ cs, isPlain c = true := by
  rcases number with whole | ⟨_, decimal⟩
  · obtain ⟨n, read⟩ := Option.isSome_iff_exists.mp whole
    exact isPlain_of_parseInt? (Option.filter_eq_some_iff.mp read).1
  · obtain ⟨x, read⟩ := Option.isSome_iff_exists.mp decimal
    exact isPlain_of_parse? read

theorem not_isNumber_of_word {c : Char} (word : c = 't' ∨ c = 'f') (rest : List Char) : ¬IsNumber (c :: rest) := by
  have whole : parseInt? (c :: rest) = none := by
    rcases word with rfl | rfl <;> simp [parseInt?, isDigit]
  have decimal : Decimal.parse? (c :: rest) = none := by
    rcases word with rfl | rfl <;>
      simp [Decimal.parse?, Decimal.parseUnsigned?, lowerAscii, isDigit, String.ext_iff]
  rintro (number | ⟨_, number⟩)
  · rw [whole?, whole] at number
    cases number
  · rw [decimal] at number
    cases number

theorem valueOf_of_read {s : String} {value : Json} {front rest : List Char} (unpadded : Unpadded s.toList)
    (parts : s.toList = front ++ rest)
    (read : readValue (2 * s.length + 2) s.toList = some (value, Environment.skipSpace rest)) :
    valueOf s = if rest = [] then value else .text s := by
  rw [valueOf, read]
  rw [parts] at unpadded
  by_cases whole : rest = []
  · subst whole
    rfl
  · rw [if_neg whole]
    cases behind : Environment.skipSpace rest with
    | nil => exact absurd (unpadded.skipSpace_behind behind) whole
    | cons => rfl

/-- A value that begins with a word for a truth value is that if nothing stands behind the word. -/
theorem valueOf_word {s t word : String} {rest : List Char} (unpadded : Unpadded s.toList)
    (truth : word = "true" ∨ word = "false") (parts : s.toList = word.toList ++ rest)
    (read : readValue (2 * s.length + 2) s.toList = some (.bool (word == "true"), Environment.skipSpace rest)) :
    valueOf s = .text t ↔ t = s ∧ s ≠ "true" ∧ s ≠ "false" ∧ ¬IsNumber s.toList := by
  rw [valueOf_of_read unpadded parts read]
  by_cases whole : rest = []
  · rw [whole, List.append_nil] at parts
    rw [if_pos whole, String.toList_injective parts]
    rcases truth with rfl | rfl <;> simp
  · have apart : s ≠ "true" ∧ s ≠ "false" ∧ ¬IsNumber s.toList := by
      rw [parts]
      refine ⟨?_, ?_, ?_⟩
      · rintro rfl
        rcases truth with rfl | rfl
        · exact whole (List.append_right_eq_self.mp parts.symm)
        · simp at parts
      · rintro rfl
        rcases truth with rfl | rfl
        · simp at parts
        · exact whole (List.append_right_eq_self.mp parts.symm)
      · rcases truth with rfl | rfl
        · exact not_isNumber_of_word (Or.inl rfl) _
        · exact not_isNumber_of_word (Or.inr rfl) _
    rw [if_neg whole]
    exact ⟨fun same => ⟨(Json.text.inj same).symm, apart⟩, fun same => congrArg Json.text same.1.symm⟩

/-- A text begins with no quote and no opening bracket. -/
def Bare (cs : List Char) : Prop := ∀ c ∈ cs.head?, c ≠ '"' ∧ c ≠ '\'' ∧ c ≠ '[' ∧ c ≠ '\x7b'

/-- A bare value is the text itself unless it writes a truth value or a number; then it is no text at all. -/
theorem valueOf_eq_text_iff {s t : String} (unpadded : Unpadded s.toList) (bare : Bare s.toList) :
    valueOf s = .text t ↔ t = s ∧ s ≠ "true" ∧ s ≠ "false" ∧ ¬IsNumber s.toList := by
  have read : readValue (2 * s.length + 2) s.toList = _ := readValue.eq_2 _ _
  rw [unpadded.skipSpace] at read
  dsimp only at read
  cases truth : stripStart? "true".toList s.toList with
  | some rest =>
    rw [truth] at read
    exact valueOf_word unpadded (Or.inl rfl) (eq_append_of_stripStart? truth) read
  | none =>
    cases falsehood : stripStart? "false".toList s.toList with
    | some rest =>
      rw [truth, falsehood] at read
      exact valueOf_word unpadded (Or.inr rfl) (eq_append_of_stripStart? falsehood) read
    | none =>
      rw [truth, falsehood] at read
      dsimp only at read
      have plain : readValue (2 * s.length + 2) s.toList = some (plainValue (trimChars (s.toList.takeWhile isPlain)),
          Environment.skipSpace (s.toList.dropWhile isPlain)) := by
        rw [read]
        split
        · rename_i found
          exact absurd rfl (bare _ (congrArg List.head? found)).2.2.2
        · rename_i found
          exact absurd rfl (bare _ (congrArg List.head? found)).2.2.1
        · rename_i found
          exact absurd rfl (bare _ (congrArg List.head? found)).1
        · rename_i found
          exact absurd rfl (bare _ (congrArg List.head? found)).2.1
        · rename_i found
          exact absurd rfl (bare _ (congrArg List.head? found)).2.1
        · rfl
      have apart : s ≠ "true" ∧ s ≠ "false" := by
        constructor
        · rintro rfl
          cases truth
        · rintro rfl
          cases falsehood
      rw [valueOf_of_read unpadded List.takeWhile_append_dropWhile.symm plain]
      by_cases whole : s.toList.all isPlain = true
      · have all : ∀ c ∈ s.toList, isPlain c = true := List.all_eq_true.mp whole
        rw [if_pos (List.dropWhile_eq_nil_iff.mpr all), List.takeWhile_eq_self_iff.mpr all, unpadded,
          plainValue_eq_text_iff, String.ofList_toList]
        exact ⟨fun other => ⟨other.1, apart.1, apart.2, other.2⟩, fun kept => ⟨kept.1, kept.2.2.2⟩⟩
      · have more : s.toList.dropWhile isPlain ≠ [] := fun none =>
          whole (List.all_eq_true.mpr (List.dropWhile_eq_nil_iff.mp none))
        rw [if_neg more]
        have words : ¬IsNumber s.toList := fun number => whole (List.all_eq_true.mpr (isPlain_of_isNumber number))
        exact ⟨fun same => ⟨(Json.text.inj same).symm, apart.1, apart.2, words⟩,
          fun same => congrArg Json.text same.1.symm⟩

end Look

end AuthzClient.Settings.Environment
