import AuthzClient.Text.Blank
import Mathlib.Data.List.DropRight

/-!
Trimming a text: what is left of it, and what is taken away.
-/

namespace AuthzClient.Text

/-- Trimming takes white space away at both ends, and nothing else. -/
theorem exists_trimmed (cs : List Char) :
    ∃ front back, cs = front ++ (trimChars cs ++ back) ∧ (∀ c ∈ front, isWhite c = true) ∧
      ∀ c ∈ back, isWhite c = true := by
  have left := List.takeWhile_append_dropWhile (p := isWhite) (l := cs)
  have right := List.takeWhile_append_dropWhile (p := isWhite) (l := (cs.dropWhile isWhite).reverse)
  refine ⟨cs.takeWhile isWhite, ((cs.dropWhile isWhite).reverse.takeWhile isWhite).reverse, ?_, ?_, ?_⟩
  · have inner := congrArg List.reverse right
    rw [List.reverse_append, List.reverse_reverse] at inner
    rw [trimChars, inner, left]
  · exact fun c inside => List.all_eq_true.mp List.all_takeWhile c inside
  · exact fun c inside => List.all_eq_true.mp List.all_takeWhile c (List.mem_reverse.mp inside)

/-- A text that begins and ends with no white space. -/
structure IsTrimmed (cs : List Char) : Prop where
  first : ∀ c ∈ cs.head?, isWhite c = false
  last : ∀ c ∈ cs.getLast?, isWhite c = false

theorem isTrimmed_trimChars (cs : List Char) : IsTrimmed (trimChars cs) where
  first c begins := by
    obtain ⟨rest, whole⟩ : trimChars cs <+: cs.dropWhile isWhite := List.rdropWhile_prefix isWhite _
    have visible := List.head?_dropWhile_not isWhite cs
    rw [← whole, List.eq_cons_of_mem_head? begins] at visible
    exact visible
  last c ends := by
    have present : trimChars cs ≠ [] := fun empty => by simp [empty] at ends
    have visible := List.rdropWhile_last_not isWhite (cs.dropWhile isWhite) present
    rw [List.getLast?_eq_some_getLast present] at ends
    cases ends
    exact Bool.eq_false_iff.mpr visible

/-- Such a text is left as it is. -/
theorem IsTrimmed.trimChars_eq {cs : List Char} (trimmed : IsTrimmed cs) : trimChars cs = cs := by
  have kept {cs : List Char} (visible : ∀ c ∈ cs.head?, isWhite c = false) : cs.dropWhile isWhite = cs := by
    cases cs with
    | nil => rfl
    | cons c cs => exact List.dropWhile_cons_of_neg (by simp [visible c rfl])
  have last : ∀ c ∈ cs.reverse.head?, isWhite c = false := by
    rw [List.head?_reverse]
    exact trimmed.last
  rw [trimChars, kept trimmed.first, kept last, List.reverse_reverse]

theorem isTrimmed_of_forall {cs : List Char} (visible : ∀ c ∈ cs, isWhite c = false) : IsTrimmed cs where
  first c begins := visible c (List.mem_of_mem_head? begins)
  last c ends := visible c (List.mem_of_getLast? ends)

/-- White space of ASCII is not visible. -/
theorem not_isWhite_of_visible {c : Char} (above : 0x20 < c.toNat) (ascii : c.toNat < 0x80) : isWhite c = false := by
  simp only [isWhite, Bool.or_eq_false_iff, Bool.and_eq_false_iff, decide_eq_false_iff_not, beq_eq_false_iff_ne]
  omega

end AuthzClient.Text
