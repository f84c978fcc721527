import AuthzClient.Http.Body
import AuthzClient.Stream.Entry
import AuthzClient.Stream.Splitter

/-!
Streams of lines, pulled one event at a time. A pull takes frames of the body until a line is there; blank lines are
counted and passed over, and a line that cannot be read does not stop the stream. Only a broken body does.
-/

namespace AuthzClient.Stream

open Http

/-- What was cut out of a body as its line of a given number, nothing if it is blank. -/
def Cut.outcome? {α : Type} (item : Json.Decoder α) (number : Nat) : Cut → Option (Outcome α)
  | .line bytes text => if text.all Text.isWhite then none else some (readEntry item number bytes)
  | .tooLong => some (.error (.tooLong number longestLine))
  | .notUtf8 => some (.error (.notUtf8 number))
  | .nothing => none

/-- A stream between two pulls. -/
structure Reader where
  frames : List Frame
  /-- The bytes that have come and belong to no line yet. -/
  splitter : Splitter
  line : Nat
  ended : Bool
  done : Bool
  deriving Repr

/-- What a pull gives: what a line gives, or the failure of the body. -/
abbrev Event (α : Type) := Except TransportError (Outcome α)

/-- What a look at the bytes that have come leads to. -/
inductive Look (α : Type)
  | line (outcome : Outcome α)
  | blank
  | more
  | finished

namespace Reader

variable {α : Type}

def start (frames : List Frame) : Reader := ⟨frames, .empty, 0, false, false⟩

/-- Cuts the next line out of the bytes that have come. -/
def cut (reader : Reader) : Cut × Splitter := if reader.ended then reader.splitter.cutLast else reader.splitter.cut

def count (splitter : Splitter) (reader : Reader) : Reader :=
  { reader with splitter := splitter, line := reader.line + 1 }

def look (item : Json.Decoder α) (reader : Reader) : Look α × Reader :=
  if reader.done then (.finished, reader)
  else
    match reader.cut with
    | (.nothing, splitter) =>
      if reader.ended then (.finished, { reader with splitter := splitter, done := true })
      else (.more, { reader with splitter := splitter })
    | (found, splitter) =>
      match found.outcome? item (reader.line + 1) with
      | some outcome => (.line outcome, reader.count splitter)
      | none => (.blank, reader.count splitter)

/-- Takes the next data of the body, or the failure that ends the stream. -/
def receive (reader : Reader) : Option TransportError × Reader :=
  match Body.next? reader.frames with
  | some (.ok bytes, rest) => (none, { reader with frames := rest, splitter := reader.splitter.extend bytes })
  | some (.error failure, rest) => (some failure, { reader with frames := rest, done := true })
  | none => (none, { reader with frames := [], ended := true })

/-- Everything that a look can lead to. -/
theorem look_cases (item : Json.Decoder α) (reader : Reader) :
    (reader.done = true ∧ reader.look item = (.finished, reader)) ∨
    (reader.done = false ∧ ∃ splitter, reader.cut = (.nothing, splitter) ∧
      (reader.ended = true ∧ reader.look item = (.finished, { reader with splitter := splitter, done := true }) ∨
        reader.ended = false ∧ reader.look item = (.more, { reader with splitter := splitter }))) ∨
    (reader.done = false ∧ ∃ found splitter, reader.cut = (found, splitter) ∧ found ≠ .nothing ∧
      ((∃ outcome, found.outcome? item (reader.line + 1) = some outcome ∧
          reader.look item = (.line outcome, reader.count splitter)) ∨
        found.outcome? item (reader.line + 1) = none ∧ reader.look item = (.blank, reader.count splitter))) := by
  unfold look
  split
  · rename_i done
    exact Or.inl ⟨done, rfl⟩
  · rename_i going
    have open' := Bool.eq_false_iff.mpr going
    right
    split
    · rename_i splitter value
      left
      refine ⟨open', splitter, value, ?_⟩
      split
      · rename_i ended
        exact Or.inl ⟨ended, rfl⟩
      · rename_i more
        exact Or.inr ⟨Bool.eq_false_iff.mpr more, rfl⟩
    · rename_i found splitter other value
      right
      refine ⟨open', found, splitter, value, other, ?_⟩
      split
      · rename_i outcome same
        exact Or.inl ⟨outcome, same, rfl⟩
      · rename_i blank
        exact Or.inr ⟨blank, rfl⟩

/-- What is left to do with a stream. -/
def weight (reader : Reader) : Nat :=
  2 * Body.size reader.frames + reader.splitter.weight + (!reader.ended).toNat + (!reader.done).toNat

theorem weight_cut (reader : Reader) :
    reader.cut.2.weight ≤ reader.splitter.weight ∧
      (reader.cut.1 ≠ .nothing → reader.cut.2.weight < reader.splitter.weight) := by
  unfold cut
  split
  · exact reader.splitter.weight_cutLast
  · exact reader.splitter.weight_cut

theorem weight_look {item : Json.Decoder α} {reader next : Reader} {found : Look α}
    (looked : reader.look item = (found, next)) :
    match found with
    | .finished => True
    | .more => next.ended = false ∧ next.weight ≤ reader.weight
    | _ => next.weight < reader.weight := by
  have bound := reader.weight_cut
  rcases reader.look_cases item with ⟨_, value⟩ | ⟨_, splitter, cut, ⟨_, value⟩ | ⟨more, value⟩⟩ |
    ⟨_, _, splitter, cut, line, ⟨_, _, value⟩ | ⟨_, value⟩⟩
  all_goals
    rw [looked] at value
    cases value
  · trivial
  · trivial
  · rw [cut] at bound
    have less : splitter.weight ≤ reader.splitter.weight := bound.1
    refine ⟨more, ?_⟩
    simp only [weight]
    omega
  all_goals
    rw [cut] at bound
    have less : splitter.weight < reader.splitter.weight := bound.2 line
    simp only [weight, count]
    omega

theorem weight_receive {reader next : Reader} (going : reader.ended = false)
    (received : reader.receive = (none, next)) : next.weight < reader.weight := by
  unfold receive at received
  split at received
  · rename_i bytes rest arrival
    have less := Body.size_of_next?_ok arrival
    cases received
    simp only [weight, Splitter.weight_extend]
    omega
  · cases received
  · have less : Body.size [] ≤ Body.size reader.frames := Nat.zero_le _
    cases received
    simp only [weight, going, Bool.not_false, Bool.not_true, Bool.toNat_true, Bool.toNat_false]
    omega

/-- Pulls the next event. Nothing is given at the end, after a failure of the body, and from then on. -/
def pull (item : Json.Decoder α) (reader : Reader) : Option (Event α) × Reader :=
  match _looked : reader.look item with
  | (.line outcome, next) => (some (.ok outcome), next)
  | (.finished, next) => (none, next)
  | (.blank, next) => next.pull item
  | (.more, next) =>
    match _received : next.receive with
    | (some failure, next) => (some (.error failure), next)
    | (none, next) => next.pull item
termination_by reader.weight
decreasing_by
  · exact weight_look _looked
  · obtain ⟨going, less⟩ := weight_look _looked
    exact Nat.lt_of_lt_of_le (weight_receive going _received) less

theorem weight_pull {item : Json.Decoder α} {reader next : Reader} {outcome : Outcome α}
    (pulled : reader.pull item = (some (.ok outcome), next)) : next.weight < reader.weight := by
  fun_induction pull item reader with
  | case1 reader outcome last looked =>
    cases pulled
    exact weight_look looked
  | case2 => cases pulled
  | case3 reader last looked ih => exact Nat.lt_trans (ih pulled) (weight_look looked)
  | case4 => cases pulled
  | case5 reader last looked rest received ih =>
    obtain ⟨going, less⟩ := weight_look looked
    exact Nat.lt_of_lt_of_le (Nat.lt_trans (ih pulled) (weight_receive going received)) less

/-- What a given number of pulls before gives the next one. -/
def pulled (item : Json.Decoder α) : Nat → Reader → Option (Event α)
  | 0, reader => (reader.pull item).1
  | n + 1, reader => pulled item n (reader.pull item).2

def describe (reader : Reader) : String :=
  "NdjsonStream \x7b line: " ++ toString reader.line ++ ", buffered: " ++ toString reader.splitter.buffer.length ++
    ", done: " ++ toString reader.done ++ ", .. \x7d"

end Reader

/-- What a stream gave: the outcomes of its lines in order, how the body broke if it did, and what was left. -/
structure Reading (α : Type) where
  outcomes : List (Outcome α)
  failure : Option TransportError
  reader : Reader

variable {α : Type}

/-- Pulls until nothing is given. `found` holds the outcomes so far, last one first. -/
def pullAll (item : Json.Decoder α) (found : List (Outcome α)) (reader : Reader) : Reading α :=
  match _pulled : reader.pull item with
  | (some (.ok outcome), next) => pullAll item (outcome :: found) next
  | (some (.error failure), next) => ⟨found.reverse, some failure, next⟩
  | (none, next) => ⟨found.reverse, none, next⟩
termination_by reader.weight
decreasing_by exact Reader.weight_pull _pulled

def read (item : Json.Decoder α) (frames : List Frame) : Reading α := pullAll item [] (.start frames)

end AuthzClient.Stream
