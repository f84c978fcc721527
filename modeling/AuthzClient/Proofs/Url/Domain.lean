import AuthzClient.Proofs.Url.Address
import AuthzClient.Proofs.Url.Punycode

/-!
Names in their ASCII form. A label that is sound is written, and read again from what was written; so the ASCII form of
a name is its own.
-/

namespace AuthzClient

open Text

namespace Unicode

theorem classOf_of_lt {n : Nat} (early : n < firstMark) : classOf n = 0 := if_pos early

theorem decompose_of_lt {n : Nat} (early : n < firstWhole) (fuel : Nat) : decompose fuel n = [n] := by
  have alone : parts? n = none := if_pos early
  have early : n < 0xc0 := early
  cases fuel with
  | zero => rfl
  | succ fuel =>
    rw [decompose, if_neg (by unfold firstSyllable; omega), alone]

theorem settle_of_lt {n : Nat} (early : n < firstMark) (before : List Nat) : settle n before = n :: before := by
  cases before with
  | nil => rfl
  | cons m before => rw [settle, classOf_of_lt early, if_neg (by simp)]

theorem recompose_of_lt {ns : List Nat} (early : ∀ n ∈ ns, n < firstMark) (letter : Nat) :
    recompose letter [] 0 ns = letter :: ns := by
  induction ns generalizing letter with
  | nil => rfl
  | cons n ns ih =>
    have here : n < 0x300 := early n List.mem_cons_self
    have apart : (syllable? letter n <|> whole? letter n) = none := by
      have first : syllable? letter n = none := by
        rw [syllable?, if_neg (by omega), if_neg (by omega)]
      have second : whole? letter n = none := if_pos here
      rw [first, second]
      rfl
    rw [recompose]
    simp only [List.isEmpty_nil, Bool.true_or, if_true, apart, classOf_of_lt here, List.reverse_nil, List.nil_append]
    rw [ih fun m inside => early m (List.mem_cons_of_mem _ inside)]

/-- Text of characters that neither have parts nor are put to others is composed. -/
theorem compose_of_lt {cs : List Char} (early : ∀ c ∈ cs, c.toNat < firstWhole) : compose cs = cs := by
  have below : ∀ n ∈ cs.map Char.toNat, n < firstMark := by
    intro n inside
    obtain ⟨c, here, rfl⟩ := List.mem_map.mp inside
    exact Nat.lt_trans (early c here) (by decide)
  have apart : (cs.flatMap fun c => decompose 4 c.toNat) = cs.map Char.toNat := by
    rw [← List.flatMap_pure_eq_map]
    exact List.flatMap_congr fun c inside => decompose_of_lt (early c inside) 4
  have settled (ns before : List Nat) (low : ∀ n ∈ ns, n < firstMark) :
      ns.foldl (fun before n => settle n before) before = ns.reverse ++ before := by
    induction ns generalizing before with
    | nil => rfl
    | cons n ns ih =>
      rw [List.foldl_cons, settle_of_lt (low n List.mem_cons_self),
        ih _ fun m inside => low m (List.mem_cons_of_mem _ inside), List.reverse_cons, List.append_assoc]
      rfl
  rw [compose, apart, settled _ _ below, List.append_nil, List.reverse_reverse]
  cases cs with
  | nil => rfl
  | cons c cs =>
    have rest : ∀ n ∈ cs.map Char.toNat, n < firstMark := fun n inside => below n (List.mem_cons_of_mem _ inside)
    rw [List.map_cons]
    dsimp only
    rw [recompose_of_lt rest, ← List.map_cons (f := Char.toNat), List.map_map]
    exact (List.map_congr_left fun c _ => Char.ofNat_toNat c).trans (List.map_id _)

end Unicode

namespace Url.Domain

open Unicode

variable {c : Char} {cs label name ascii : List Char}

/-- A character of ASCII forms: none but ASCII, no capital letter and no point. -/
def IsPlainChar (c : Char) : Prop := isAscii c = true ∧ lowerAscii c = c ∧ c ≠ '.'

theorem isPlainChar_of_isDigit (digit : Punycode.IsDigit c) : IsPlainChar c := by
  obtain ⟨n, small, rfl⟩ := digit
  have all : ∀ n, n < 36 →
      isAscii (Punycode.digit n) = true ∧ lowerAscii (Punycode.digit n) = Punycode.digit n ∧ Punycode.digit n ≠ '.' := by
    decide
  exact all n small

theorem prepare?_ascii (low : isAscii c = true) : prepare? c = some [lowerAscii c] :=
  if_pos (of_decide_eq_true low)

theorem isKept_iff_of_isAscii (low : isAscii c = true) : isKept c = true ↔ lowerAscii c = c := by
  simp [isKept, prepare?_ascii low]

theorem prepareAll?_of_isKept (kept : ∀ c ∈ cs, isKept c = true) : prepareAll? cs = some cs := by
  have each : cs.mapM prepare? = some (cs.map fun c => [c]) := by
    induction cs with
    | nil => rfl
    | cons c cs ih =>
      have here : prepare? c = some [c] := beq_iff_eq.mp (kept c List.mem_cons_self)
      rw [List.mapM_cons, here, ih fun d inside => kept d (List.mem_cons_of_mem _ inside)]
      rfl
  rw [prepareAll?, each, Option.map_some, ← List.flatMap_def, List.flatMap_singleton']

/-- A label of a name: it is sound, has no point, and has the mark only if it is not of ASCII characters. -/
structure IsLabel (label : List Char) : Prop where
  sound : isSound label = true
  undotted : '.' ∉ label
  unmarked : label.all isAscii = true → label.take 4 ≠ mark

theorem isKept_of_isSound (sound : isSound label = true) (inside : c ∈ label) : isKept c = true := by
  simp only [isSound, Bool.and_eq_true, List.all_eq_true] at sound
  exact sound.1.1.1 c inside

theorem isLabel_of_readLabel? {part : List Char} (undotted : '.' ∉ part) (read : readLabel? part = some label) :
    IsLabel label := by
  obtain ⟨read, sound⟩ := Option.filter_eq_some_iff.mp read
  split at read
  · unfold readMarked? at read
    split at read
    · obtain ⟨decoded, foreign⟩ := Option.filter_eq_some_iff.mp read
      refine ⟨sound, fun inside => ?_, fun plain => ?_⟩
      · rcases Punycode.mem_of_decode? decoded _ inside with before | high
        · exact undotted (List.mem_of_mem_drop before)
        · exact absurd high (by decide)
      · rw [plain] at foreign
        cases foreign
    · cases read
  · rename_i unmarked
    cases read
    exact ⟨sound, undotted, fun _ => by simpa using unmarked⟩

namespace IsLabel

variable (known : IsLabel label)

include known

theorem isPlainChar_writeLabel (inside : c ∈ writeLabel label) : IsPlainChar c := by
  have own (inside : c ∈ label) (low : isAscii c = true) : IsPlainChar c := by
    refine ⟨low, (isKept_iff_of_isAscii low).mp (isKept_of_isSound known.sound inside), ?_⟩
    rintro rfl
    exact known.undotted inside
  unfold writeLabel at inside
  split at inside
  · rename_i plain
    exact own inside (List.all_eq_true.mp plain c inside)
  · rcases List.mem_append.mp inside with marked | written
    · have all : ∀ c ∈ mark, isAscii c = true ∧ lowerAscii c = c ∧ c ≠ '.' := List.forall_iff_forall_mem.mp (by decide)
      exact all c marked
    · rcases Punycode.mem_encode written with ⟨inside, low⟩ | rfl | digit
      · exact own inside (decide_eq_true low)
      · exact ⟨by decide, by decide, by decide⟩
      · exact isPlainChar_of_isDigit digit

/-- A label is read from what it is written as. -/
theorem readLabel?_writeLabel : readLabel? (writeLabel label) = some label := by
  unfold writeLabel
  split
  · rename_i plain
    rw [readLabel?, if_neg (by simpa using known.unmarked plain)]
    exact Option.filter_some_pos known.sound
  · rename_i foreign
    have low : (Punycode.encode label).all isAscii = true := by
      rw [List.all_eq_true]
      intro c inside
      rcases Punycode.mem_encode inside with ⟨_, low⟩ | rfl | digit
      · exact decide_eq_true low
      · decide
      · exact (isPlainChar_of_isDigit digit).1
    have front : (mark ++ Punycode.encode label).take 4 = mark := List.take_left' rfl
    have behind : (mark ++ Punycode.encode label).drop 4 = Punycode.encode label := List.drop_left' rfl
    rw [readLabel?, front, if_pos (beq_self_eq_true _), behind, readMarked?, if_pos low, Punycode.decode?_encode,
      Option.filter_some_pos (by simpa using foreign), Option.filter_some_pos known.sound]

end IsLabel

theorem convert?_self (converted : convert? name = some ascii) : convert? ascii = some ascii ∧ ascii.map lowerAscii = ascii := by
  obtain ⟨prepared, _, converted⟩ := Option.bind_eq_some_iff.mp converted
  obtain ⟨labels, read, converted⟩ := Option.bind_eq_some_iff.mp converted
  dsimp only at converted
  split at converted
  · cases converted
  · rename_i allowed
    cases converted
    have known : ∀ label ∈ labels, IsLabel label := by
      intro label inside
      obtain ⟨part, here, read⟩ := exists_of_mapM read inside
      exact isLabel_of_readLabel? (fun dot => (mem_splitChars here dot).2 rfl) read
    have present : labels ≠ [] := by
      rintro rfl
      obtain ⟨part, parts, split⟩ := List.exists_cons_of_ne_nil (splitChars_ne_nil '.' (compose prepared))
      rw [split, List.mapM_cons] at read
      obtain ⟨_, _, read⟩ := Option.bind_eq_some_iff.mp read
      obtain ⟨_, _, read⟩ := Option.bind_eq_some_iff.mp read
      cases read
    have plain : ∀ part ∈ labels.map writeLabel, ∀ c ∈ part, IsPlainChar c := by
      intro part inside c here
      obtain ⟨label, below, rfl⟩ := List.mem_map.mp inside
      exact (known label below).isPlainChar_writeLabel here
    have low : ∀ c ∈ ['.'].intercalate (labels.map writeLabel), isAscii c = true ∧ lowerAscii c = c := by
      intro c inside
      rcases mem_intercalate inside with rfl | ⟨part, here, inside⟩
      · decide
      · exact ⟨(plain part here c inside).1, (plain part here c inside).2.1⟩
    have prepared : prepareAll? (['.'].intercalate (labels.map writeLabel)) =
        some (['.'].intercalate (labels.map writeLabel)) :=
      prepareAll?_of_isKept fun c inside => (isKept_iff_of_isAscii (low c inside).1).mpr (low c inside).2
    have composed : compose (['.'].intercalate (labels.map writeLabel)) = ['.'].intercalate (labels.map writeLabel) :=
      compose_of_lt fun c inside => Nat.lt_trans (of_decide_eq_true (low c inside).1) (by decide)
    have parts : splitChars '.' (['.'].intercalate (labels.map writeLabel)) = labels.map writeLabel :=
      splitChars_intercalate (by simpa using present) fun part inside c here => (plain part inside c here).2.2
    have reread : (labels.map writeLabel).mapM readLabel? = some labels :=
      mapM_map_eq_some fun label inside => (known label inside).readLabel?_writeLabel
    constructor
    · rw [convert?, prepared]
      change (splitChars '.' (compose _)).mapM readLabel? >>= _ = _
      rw [composed, parts, reread]
      exact if_neg allowed
    · exact (List.map_congr_left fun c inside => (low c inside).2).trans (List.map_id _)

/-- The ASCII form of a name is its own ASCII form. -/
theorem toAscii?_self (read : toAscii? name = some ascii) : toAscii? ascii = some ascii := by
  have allowed : ascii.any isForbidden = false :=
    List.any_eq_false.mpr fun c inside => by simp [not_isForbidden_of_ascii read inside]
  have lowered : ascii.map lowerAscii = ascii ∧ (isPlain ascii = true ∨ convert? ascii = some ascii) := by
    unfold toAscii? at read
    dsimp only at read
    split at read
    · rename_i plain
      split at read
      · cases read
      · cases read
        refine ⟨?_, Or.inl plain⟩
        rw [List.map_map]
        exact List.map_congr_left fun c _ => lowerAscii_lowerAscii c
    · exact (convert?_self read).symm.imp_right Or.inr
  rw [toAscii?, lowered.1, allowed]
  split
  · rfl
  · rename_i marked
    exact lowered.2.resolve_left marked

end Url.Domain

end AuthzClient
