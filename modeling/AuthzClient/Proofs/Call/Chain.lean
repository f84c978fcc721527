import AuthzClient.Proofs.Call.Rounds

/-!
The way back from the error of a call: behind the failure of the last attempt stand those of all attempts before it, the
latest one first, whether they were responses or broken connections.
-/

namespace AuthzClient

open Http

/-- The error that is met after a number of steps back. -/
def ClientError.back : Nat → ClientError → Option ClientError
  | 0, error => some error
  | k + 1, error => error.previous?.bind (back k)

/-- The error whose causes are given, the latest one first; there is none without a cause. -/
def ClientError.ofCauses? : List Cause → Option ClientError
  | [] => none
  | cause :: earlier => some (.failed cause earlier)

theorem ClientError.back_failed (cause : Cause) (earlier : List Cause) (k : Nat) :
    (failed cause earlier).back k = ofCauses? ((cause :: earlier).drop k) := by
  induction k generalizing cause earlier with
  | zero => rfl
  | succ k ih =>
    cases earlier with
    | nil => rw [List.drop_succ_cons, List.drop_nil]; rfl
    | cons next earlier => exact ih next earlier

namespace Call

namespace Course

variable {course : Course} {target : Target}

/-- The error of an attempt, with the failures of the attempts before it. -/
def error (course : Course) (i : Nat) : ClientError := .failed (course.cause i) (course.causes 0 i)

theorem drop_causes (n k : Nat) : (course.causes 0 n).drop k = course.causes 0 (n - k) := by
  induction k generalizing n with
  | zero => rfl
  | succ k ih =>
    cases n with
    | zero => rw [Nat.zero_sub]; rfl
    | succ n => rw [causes_snoc, List.drop_succ_cons, ih, Nat.succ_sub_succ]

theorem back_error (n k : Nat) (behind : k ≤ n) : (course.error n).back k = some (course.error (n - k)) := by
  rw [error, ClientError.back_failed, ← causes_snoc, drop_causes, Nat.succ_sub behind, causes_snoc]
  rfl

theorem back_error_none (n k : Nat) (beyond : n < k) : (course.error n).back k = none := by
  rw [error, ClientError.back_failed, ← causes_snoc, drop_causes, Nat.sub_eq_zero_of_le beyond]
  rfl

/-- A cause says the same about another attempt as what the attempt met. -/
theorem cause_isRetryable (i : Nat) : (course.cause i).isRetryable = isRetryable (course.outcome i) := by
  rw [cause]
  cases course.outcome i with
  | ok response => rfl
  | error failure => rfl

theorem le_repeated {i n left : Nat} (within : n ≤ left)
    (again : ∀ j, j < n → isRetryable (course.outcome (i + j)) = true) : n ≤ course.repeated i left := by
  induction n generalizing i left with
  | zero => exact Nat.zero_le _
  | succ n ih =>
    obtain ⟨left, rfl⟩ : ∃ more, left = more + 1 := ⟨left - 1, by omega⟩
    have first : isRetryable (course.outcome i) = true := again 0 (Nat.succ_pos n)
    rw [repeated_again first]
    refine Nat.succ_le_succ (ih (Nat.le_of_succ_le_succ within) fun j below => ?_)
    rw [Nat.add_right_comm]
    exact again (j + 1) (Nat.succ_lt_succ below)

/-- Each round sends the message of its attempt behind those that authorize it. -/
theorem messages_before {n : Nat} (built : Target.parse? course.request.url.text = some target)
    (rounds : ∀ i, i < n → ∃ message, course.Round i message) :
    (course.before n).messages =
      course.start.messages ++ (List.range n).flatMap fun i => course.exchanged i ++ [course.message target i] := by
  induction n with
  | zero => exact (List.append_nil _).symm
  | succ n ih =>
    obtain ⟨message, round⟩ := rounds n (Nat.lt_succ_self n)
    have earlier := ih fun i below => rounds i (Nat.lt_succ_of_lt below)
    have sent : (course.before (n + 1)).messages = (course.ready n).messages ++ [message] := by
      rw [Session.messages, round.events, List.filterMap_append, messages_setback]
      rfl
    rw [sent, message_of_written built round.written, messages_ready, earlier, List.range_succ]
    simp

/-- A call that ends with the failure of an attempt after `n` messages of its own keeps the failures of all attempts:
the way back from its error visits the errors of the attempts before the last one, latest first, and ends there. All of
them could be repeated, and the error itself can be only if no retry is left. -/
theorem previous_of_attempts (course : Course) (target : Target) (error : ClientError)
    (built : Target.parse? course.request.url.text = some target)
    (authorized : ∀ i, i ≤ course.last → course.Authorized i)
    (failed : course.result.1 = .error (.failed error)) :
    ∃ n, 0 < n ∧ n ≤ course.plan.maxRetries + 1 ∧
      course.result.2.messages = course.start.messages ++
        (List.range n).flatMap (fun i => course.exchanged i ++ [course.message target i]) ∧
      (∀ k, k < n → error.back k = some (course.error (n - 1 - k))) ∧
      (∀ k, n ≤ k → error.back k = none) ∧
      (∀ k e, 0 < k → error.back k = some e → e.isRetryable = true) ∧
      (error.isRetryable = true → n = course.plan.maxRetries + 1) := by
  obtain ⟨n, within, rounds, added, ends, events⟩ := course.result_rounds
  have again : ∀ i, i < n → isRetryable (course.outcome i) = true := fun i below =>
    (rounds i below).elim fun _ round => round.again
  have reached : n ≤ course.last := le_repeated within fun j below => by
    rw [Nat.zero_add]
    exact again j below
  rw [failed] at ends
  generalize same : course.result.2 = ended at events ⊢
  cases ends with
  | unauthorized denied =>
    obtain ⟨value, granted⟩ := authorized n reached
    cases granted.symm.trans denied
  | unwritten _ unwritten =>
    rw [Request.message?, built] at unwritten
    cases unwritten
  | @exhausted message time _ written _ spent =>
    refine ⟨n + 1, Nat.succ_pos n, Nat.succ_le_succ within, ?_, ?_, ?_, ?_, ?_⟩
    · have sent : ended.messages = (course.ready n).messages ++ [message] := by
        rw [Session.messages, events]
        simp [messages_measured, posted, Event.message?, List.filterMap_map, Function.comp_def, Session.messages]
      rw [sent, message_of_written built written, messages_ready, messages_before built rounds, List.range_succ]
      simp
    · exact fun k below => back_error n k (Nat.le_of_lt_succ below)
    · exact fun k beyond => back_error_none n k beyond
    · intro k e behind met
      rcases Nat.lt_or_ge n k with beyond | reach
      · rw [show ClientError.failed _ _ = course.error n from rfl, back_error_none n k beyond] at met
        cases met
      · rw [show ClientError.failed _ _ = course.error n from rfl, back_error n k reach] at met
        cases met
        exact (cause_isRetryable (n - k)).trans (again (n - k) (by omega))
    · intro retryable
      have temporary : isRetryable (course.outcome n) = true := (cause_isRetryable n).symm.trans retryable
      rw [spent.resolve_right (by simp [temporary])]

/-- A call that meets an error of the server, a lost connection, and at last an error that is not to be repeated. -/
def doomed : Course :=
  { flaky with
    surroundings := { flaky.surroundings with
      replies := fun
        | 0 => ⟨.ok ⟨503, [], [.data [0x7b], .failure "reset"], none⟩, .zero⟩
        | 1 => ⟨.error (.network "reset"), .zero⟩
        | _ => ⟨.ok ⟨404, [], [], none⟩, .zero⟩ } }

theorem previous_of_attempts_doomed :
    Target.parse? doomed.request.url.text = some ⟨some "https", some "a.example", "/x", none⟩ ∧
    (∀ i, i ≤ doomed.last → doomed.Authorized i) ∧
    doomed.result.1 = .error (.failed (doomed.error 2)) ∧
    doomed.result.2.messages.length = 3 ∧
    ((doomed.error 2).back 1 = some (doomed.error 1) ∧ doomed.cause 1 = .transport "check" (.network "reset")) ∧
    ((doomed.error 2).back 2 = some (doomed.error 0) ∧ (doomed.error 0).isRetryable = true) ∧
    (doomed.error 2).back 3 = none := by
  have built : Target.parse? doomed.request.url.text = some ⟨some "https", some "a.example", "/x", none⟩ := by rfl
  have authorized : ∀ i, i ≤ doomed.last → doomed.Authorized i := fun i _ => ⟨_, rfl⟩
  have settled : ¬IsTemporary (doomed.outcome (0 + 2)) := by
    change ¬IsTemporary (.ok ⟨404, [], [], none⟩)
    simp [IsTemporary]
  have temporary : ∀ i, i < 2 → IsTemporary (doomed.outcome (0 + i)) := by
    intro i inside
    rcases i with _ | _ | i
    · exact Or.inr ⟨by decide, by decide, by decide⟩
    · exact Or.inl ⟨"reset", rfl⟩
    · omega
  have last : doomed.repeated 0 5 = 2 := repeated_eq_min settled temporary 5
  have failed : doomed.result.1 = .error (.failed (doomed.error 2)) := by
    have calm : doomed.Undisturbed _ := ⟨rfl, built⟩
    have ended := (rest_result calm 0 5 0 [] fun i _ _ => ⟨_, rfl⟩).1
    rw [last] at ended
    exact ended
  obtain ⟨n, _, _, sent, visited, beyond, retryable, _⟩ := previous_of_attempts doomed _ _ built authorized failed
  have three : n = 3 := by
    rcases Nat.lt_trichotomy n 3 with fewer | same | more
    · cases (beyond 2 (Nat.le_of_lt_succ fewer)).symm.trans (back_error 2 2 (Nat.le_refl 2))
    · exact same
    · cases (visited 3 more).symm.trans (back_error_none 2 3 (by decide))
  subst three
  refine ⟨built, authorized, failed, by rw [sent]; rfl, ⟨visited 1 (by decide), rfl⟩, ⟨visited 2 (by decide), ?_⟩,
    beyond 3 (Nat.le_refl 3)⟩
  exact retryable 2 _ (by decide) (visited 2 (by decide))

end Course

end Call

end AuthzClient
