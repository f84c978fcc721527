/-!
What a text begins with.
-/

namespace AuthzClient.Text

/-- What is left of a text behind a given beginning, if it has that. -/
def stripStart? : List Char → List Char → Option (List Char)
  | [], cs => some cs
  | _ :: _, [] => none
  | e :: es, c :: cs => if e == c then stripStart? es cs else none

theorem stripStart?_append (start rest : List Char) : stripStart? start (start ++ rest) = some rest := by
  induction start with
  | nil => rfl
  | cons c start ih => simp [stripStart?, ih]

theorem eq_append_of_stripStart? {start cs rest : List Char} (found : stripStart? start cs = some rest) :
    cs = start ++ rest := by
  induction start generalizing cs with
  | nil => simpa [stripStart?] using found
  | cons e start ih =>
    cases cs with
    | nil => simp [stripStart?] at found
    | cons c cs =>
      simp only [stripStart?, beq_iff_eq] at found
      split at found
      · next same => rw [ih found, same]; rfl
      · simp at found

end AuthzClient.Text
