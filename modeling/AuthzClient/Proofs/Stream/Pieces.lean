import AuthzClient.Stream.Lines

/-!
A body read as a whole: its bytes cut at every line feed, the pieces numbered from one and judged one by one.
-/

namespace AuthzClient.Http.Body

/-- The bytes of a body that come before it ends or breaks. -/
def arriving : List Frame → List UInt8
  | [] => []
  | .data bytes :: rest => bytes ++ arriving rest
  | .trailers :: rest => arriving rest
  | .failure _ :: _ => []

/-- How a body breaks, if it does. -/
def failure? : List Frame → Option TransportError
  | [] => none
  | .failure reason :: _ => some (.network reason)
  | .data _ :: rest | .trailers :: rest => failure? rest

theorem next?_spec (frames : List Frame) :
    match next? frames with
    | some (.ok bytes, rest) => arriving frames = bytes ++ arriving rest ∧ failure? frames = failure? rest
    | some (.error failure, _) => arriving frames = [] ∧ failure? frames = some failure
    | none => arriving frames = [] ∧ failure? frames = none := by
  induction frames with
  | nil => exact ⟨rfl, rfl⟩
  | cons frame frames ih =>
    cases frame with
    | data => exact ⟨rfl, rfl⟩
    | trailers => exact ih
    | failure => exact ⟨rfl, rfl⟩

end AuthzClient.Http.Body

namespace AuthzClient.Stream

open Http

variable {α : Type}

/-- What a piece of a body between two line feeds gives, nothing if it is blank. -/
def pieceOutcome? (item : Json.Decoder α) (number : Nat) (piece : List UInt8) : Option (Outcome α) :=
  if longestLine < piece.length then some (.error (.tooLong number longestLine))
  else
    let line := if piece.getLast? = some carriageReturn then piece.dropLast else piece
    match Text.Utf8.decode? line with
    | none => some (.error (.notUtf8 number))
    | some text => if text.all Text.isWhite then none else some (readEntry item number line)

/-- What the last piece of a body that broke gives: how it would have gone on is not known. -/
def brokenOutcome? (number : Nat) (piece : List UInt8) : Option (Outcome α) :=
  if longestLine < piece.length then some (.error (.tooLong number longestLine)) else none

/-- What the bytes of a body give, with the failure that comes behind them; the pieces are numbered from a given number
on. -/
def wholeEvents (item : Json.Decoder α) (failure : Option TransportError) (number : Nat) (bytes : List UInt8) :
    List (Event α) :=
  let pieces := (bytes.splitOn lineFeed).zipIdx number
  match failure with
  | none => (pieces.filterMap fun piece => pieceOutcome? item piece.2 piece.1).map .ok
  | some failure =>
    (pieces.dropLast.filterMap fun piece => pieceOutcome? item piece.2 piece.1).map .ok ++
      (pieces.getLast?.bind fun piece => brokenOutcome? piece.2 piece.1).toList.map .ok ++ [.error failure]

/-- What a whole body gives. -/
def wholeBody (item : Json.Decoder α) (frames : List Frame) : List (Event α) :=
  wholeEvents item (Body.failure? frames) 1 (Body.arriving frames)

theorem wholeEvents_line (item : Json.Decoder α) (failure : Option TransportError) (number : Nat) {front : List UInt8}
    (unbroken : lineFeed ∉ front) (rest : List UInt8) :
    wholeEvents item failure number (front ++ lineFeed :: rest) =
      (pieceOutcome? item number front).toList.map .ok ++ wholeEvents item failure (number + 1) rest := by
  have more : (rest.splitOn lineFeed).zipIdx (number + 1) ≠ [] := by simp
  simp only [wholeEvents, List.splitOn_append_cons_self_of_not_mem unbroken, List.zipIdx_cons]
  cases failure with
  | none =>
    cases same : pieceOutcome? item number front <;> simp [same]
  | some failure =>
    rw [List.dropLast_cons_of_ne_nil more, List.getLast?_cons_of_ne_nil more]
    cases same : pieceOutcome? item number front <;> simp [same]

theorem wholeEvents_end (item : Json.Decoder α) (number : Nat) {bytes : List UInt8} (unbroken : lineFeed ∉ bytes) :
    wholeEvents item none number bytes = (pieceOutcome? item number bytes).toList.map .ok := by
  simp only [wholeEvents, List.splitOn_eq_singleton unbroken, List.zipIdx_singleton]
  cases same : pieceOutcome? item number bytes <;> simp [same]

theorem wholeEvents_broken (item : Json.Decoder α) (failure : TransportError) (number : Nat) {bytes : List UInt8}
    (unbroken : lineFeed ∉ bytes) :
    wholeEvents item (some failure) number bytes =
      (brokenOutcome? number bytes).toList.map .ok ++ [.error failure] := by
  simp [wholeEvents, List.splitOn_eq_singleton unbroken]

/-- What is given while the rest of a line that was too long is passed over. -/
def skippingEvents (item : Json.Decoder α) (failure : Option TransportError) (number : Nat) (bytes : List UInt8) :
    List (Event α) :=
  match pastEnd? bytes with
  | some rest => wholeEvents item failure number rest
  | none => failure.toList.map .error

/-- A piece that outgrows the limit is reported whatever comes behind it, and its rest gives nothing. -/
theorem wholeEvents_tooLong (item : Json.Decoder α) (failure : Option TransportError) (number : Nat)
    {bytes : List UInt8} (long : longestLine < bytes.length) (unbroken : lineFeed ∉ bytes.take (longestLine + 1)) :
    wholeEvents item failure number bytes =
      .ok (.error (.tooLong number longestLine)) :: skippingEvents item failure (number + 1) bytes := by
  unfold skippingEvents
  split
  · rename_i rest search
    obtain ⟨front, same, clean⟩ := pastEnd?_some search
    have longFront : longestLine < front.length := by
      refine Nat.lt_of_not_le fun short => unbroken ?_
      have within : longestLine + 1 = front.length + ((longestLine - front.length) + 1) := by omega
      rw [same, within, List.take_length_add_append]
      simp
    rw [same, wholeEvents_line item failure number clean, pieceOutcome?, if_pos longFront]
    rfl
  · rename_i search
    have clean := pastEnd?_eq_none_iff.mp search
    cases failure with
    | none =>
      rw [wholeEvents_end item number clean, pieceOutcome?, if_pos long]
      rfl
    | some failure =>
      rw [wholeEvents_broken item failure number clean, brokenOutcome?, if_pos long]
      rfl

theorem Cut.outcome?_ofBytes (item : Json.Decoder α) (number : Nat) {piece : List UInt8}
    (within : piece.length ≤ longestLine) :
    (Cut.ofBytes piece).outcome? item number = pieceOutcome? item number piece := by
  unfold Cut.ofBytes pieceOutcome? withoutReturn
  rw [if_neg (Nat.not_lt.mpr within)]
  generalize (if piece.getLast? = some carriageReturn then piece.dropLast else piece) = line
  dsimp only
  cases Text.Utf8.decode? line <;> rfl

/-- An empty rest and a single carriage return are no lines: as pieces they are blank. -/
theorem pieceOutcome?_of_no_line (item : Json.Decoder α) (number : Nat) {piece : List UInt8}
    (left : piece = [] ∨ piece = [carriageReturn]) : pieceOutcome? item number piece = none := by
  rcases left with rfl | rfl <;> rfl

end AuthzClient.Stream
