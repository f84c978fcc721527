import AuthzClient.Proofs.Stream.Pieces

/-!
A stream gives what one reads from the whole body at once. How the bytes are spread over frames makes no difference.
-/

namespace AuthzClient.Stream

open Http

variable {α : Type}

namespace Splitter

/-- What the bytes of a splitter give, together with those that are still to come. -/
def coming (item : Json.Decoder α) (failure : Option TransportError) (number : Nat) (more : List UInt8)
    (splitter : Splitter) : List (Event α) :=
  if splitter.skipping then skippingEvents item failure number (splitter.buffer ++ more)
  else wholeEvents item failure number (splitter.buffer ++ more)

/-- Nothing can be cut out of a buffer before more bytes come. -/
structure Waiting (splitter : Splitter) : Prop where
  short : splitter.buffer.length ≤ longestLine
  unbroken : lineFeed ∉ splitter.buffer
  skipped : splitter.skipping = true → splitter.buffer = []

theorem coming_extend (item : Json.Decoder α) (failure : Option TransportError) (number : Nat)
    (bytes more : List UInt8) (splitter : Splitter) :
    (splitter.extend bytes).coming item failure number more = splitter.coming item failure number (bytes ++ more) := by
  simp only [coming, extend, List.append_assoc]

theorem coming_cutLine {item : Json.Decoder α} {failure : Option TransportError} {number : Nat}
    {splitter next : Splitter} {found : Cut} (reading : splitter.skipping = false)
    (cut : splitter.cutLine = (found, next)) (more : List UInt8) :
    found = .nothing ∧ next.Waiting ∧
        splitter.coming item failure number more = next.coming item failure number more ∨
      found ≠ .nothing ∧ splitter.coming item failure number more =
        (found.outcome? item number).toList.map .ok ++ next.coming item failure (number + 1) more := by
  simp only [coming, reading, Bool.false_eq_true, if_false]
  rcases splitter.cutLine_cases with ⟨front, rest, same, unbroken, near, value⟩ | ⟨long, unbroken, value⟩ |
    ⟨short, unbroken, rest, value, same, mode⟩
  · cases cut.symm.trans value
    right
    refine ⟨Cut.ofBytes_ne_nothing front, ?_⟩
    rw [same, List.append_assoc, List.cons_append, wholeEvents_line item failure number unbroken,
      Cut.outcome?_ofBytes item number near]
    rfl
  · cases cut.symm.trans value
    right
    refine ⟨nofun, ?_⟩
    have longer : longestLine < (splitter.buffer ++ more).length := by
      rw [List.length_append]
      omega
    have clean : lineFeed ∉ (splitter.buffer ++ more).take (longestLine + 1) := by
      rwa [List.take_append_of_le_length long]
    rw [wholeEvents_tooLong item failure number longer clean]
    rfl
  · cases cut.symm.trans value
    left
    refine ⟨rfl, ⟨by rwa [same], by rwa [same], fun skipping => ?_⟩, ?_⟩
    · rw [mode, reading] at skipping
      cases skipping
    · rw [same, mode, reading]
      rfl

theorem coming_cut {item : Json.Decoder α} {failure : Option TransportError} {number : Nat} {splitter next : Splitter}
    {found : Cut} (cut : splitter.cut = (found, next)) (more : List UInt8) :
    found = .nothing ∧ next.Waiting ∧
        splitter.coming item failure number more = next.coming item failure number more ∨
      found ≠ .nothing ∧ splitter.coming item failure number more =
        (found.outcome? item number).toList.map .ok ++ next.coming item failure (number + 1) more := by
  unfold Splitter.cut at cut
  split at cut
  · rename_i skipping
    split at cut
    · rename_i rest search
      obtain ⟨front, same, unbroken⟩ := pastEnd?_some search
      have passed : splitter.coming item failure number more = (fresh rest false).coming item failure number more := by
        simp only [coming, skipping, same, fresh, skippingEvents, List.append_assoc, List.cons_append, if_true,
          pastEnd?_append_lineFeed unbroken]
        rfl
      rw [passed]
      exact coming_cutLine rfl cut more
    · rename_i search
      cases cut
      have unbroken := pastEnd?_eq_none_iff.mp search
      left
      refine ⟨rfl, ⟨Nat.zero_le _, by simp [fresh], fun _ => rfl⟩, ?_⟩
      simp only [coming, skipping, fresh, if_true, skippingEvents, pastEnd?_append unbroken, List.nil_append]
  · rename_i reading
    exact coming_cutLine (Bool.eq_false_iff.mpr reading) cut more

/-- At the end of a body that did not break nothing is kept back but a single carriage return. -/
theorem coming_cutLast {item : Json.Decoder α} {number : Nat} {splitter next : Splitter} {found : Cut}
    (cut : splitter.cutLast = (found, next)) :
    found = .nothing ∧ splitter.coming item none number [] = [] ∨
      found ≠ .nothing ∧ splitter.coming item none number [] =
        (found.outcome? item number).toList.map .ok ++ next.coming item none (number + 1) [] := by
  unfold cutLast at cut
  split at cut
  · rename_i rest value
    obtain ⟨_, waiting, same⟩ := (coming_cut value []).resolve_right fun line => line.1 rfl
    have left : rest.coming item none number [] =
        if rest.skipping then [] else (pieceOutcome? item number rest.buffer).toList.map .ok := by
      simp only [coming, List.append_nil, skippingEvents, pastEnd?_eq_none_iff.mpr waiting.unbroken,
        wholeEvents_end item number waiting.unbroken]
      rfl
    rw [same, left]
    split at cut
    · rename_i noLine
      cases cut
      left
      rw [pieceOutcome?_of_no_line item number noLine]
      simp
    · rename_i line
      have reading : rest.skipping = false :=
        Bool.eq_false_iff.mpr fun skipping => line (Or.inl (waiting.skipped skipping))
      cases cut
      right
      refine ⟨Cut.ofBytes_ne_nothing _, ?_⟩
      rw [Cut.outcome?_ofBytes item number waiting.short, reading]
      simp [coming, fresh, wholeEvents_end, pieceOutcome?_of_no_line]
  · rename_i other
    rcases coming_cut cut [] with ⟨nothing, _⟩ | line
    · subst nothing
      exact absurd cut (other next)
    · exact Or.inr line

end Splitter

namespace Reader

/-- What a stream will still give. -/
def coming (item : Json.Decoder α) (reader : Reader) : List (Event α) :=
  if reader.done then []
  else if reader.ended then reader.splitter.coming item none (reader.line + 1) []
  else
    reader.splitter.coming item (Body.failure? reader.frames) (reader.line + 1) (Body.arriving reader.frames)

theorem coming_start (item : Json.Decoder α) (frames : List Frame) :
    (start frames).coming item = wholeBody item frames := rfl

theorem coming_done {item : Json.Decoder α} {reader : Reader} (done : reader.done = true) : reader.coming item = [] :=
  if_pos done

theorem coming_cut {item : Json.Decoder α} {reader : Reader} {splitter : Splitter} {found : Cut}
    (going : reader.done = false) (cut : reader.cut = (found, splitter)) :
    found = .nothing ∧ (reader.ended = true → reader.coming item = []) ∧
        (reader.ended = false →
          splitter.Waiting ∧ reader.coming item = { reader with splitter := splitter }.coming item) ∨
      found ≠ .nothing ∧ reader.coming item =
        (found.outcome? item (reader.line + 1)).toList.map .ok ++ (reader.count splitter).coming item := by
  unfold Reader.cut at cut
  simp only [coming, count, going, Bool.false_eq_true, if_false]
  split at cut
  · rename_i ended
    simp only [ended, if_true]
    rcases Splitter.coming_cutLast cut with ⟨nothing, none⟩ | line
    · exact Or.inl ⟨nothing, fun _ => none, fun other => (by cases other)⟩
    · exact Or.inr line
  · rename_i more
    simp only [more]
    rcases Splitter.coming_cut cut (Body.arriving reader.frames) with ⟨nothing, waiting, same⟩ | line
    · exact Or.inl ⟨nothing, fun other => (by cases other), fun _ => ⟨waiting, same⟩⟩
    · exact Or.inr line

theorem coming_look {item : Json.Decoder α} {reader next : Reader} {found : Look α}
    (looked : reader.look item = (found, next)) :
    match found with
    | .line outcome => reader.coming item = .ok outcome :: next.coming item
    | .blank => reader.coming item = next.coming item
    | .more => reader.coming item = next.coming item ∧ next.done = false ∧ next.ended = false ∧ next.splitter.Waiting
    | .finished => reader.coming item = [] ∧ next.done = true := by
  rcases reader.look_cases item with ⟨done, value⟩ | ⟨going, splitter, cut, state⟩ |
    ⟨going, found, splitter, cut, line, state⟩
  · cases looked.symm.trans value
    exact ⟨coming_done done, done⟩
  · obtain ⟨_, last, more⟩ := (coming_cut going cut).resolve_right fun line => line.1 rfl
    rcases state with ⟨ended, value⟩ | ⟨open', value⟩
    · cases looked.symm.trans value
      exact ⟨last ended, rfl⟩
    · cases looked.symm.trans value
      obtain ⟨waiting, same⟩ := more open'
      exact ⟨same, going, open', waiting⟩
  · obtain ⟨_, same⟩ := (coming_cut going cut).resolve_left fun nothing => line nothing.1
    rcases state with ⟨outcome, given, value⟩ | ⟨blank, value⟩
    · cases looked.symm.trans value
      rw [same, given]
      rfl
    · cases looked.symm.trans value
      rw [same, blank]
      rfl

/-- Data that comes was expected, and a failure finds nothing in the buffer that could still give a line. -/
theorem coming_receive {item : Json.Decoder α} {reader next : Reader} {failure : Option TransportError}
    (going : reader.done = false) (more : reader.ended = false) (waiting : reader.splitter.Waiting)
    (received : reader.receive = (failure, next)) :
    match failure with
    | none => reader.coming item = next.coming item
    | some failure => reader.coming item = [.error failure] ∧ next.done = true := by
  have spec := Body.next?_spec reader.frames
  unfold receive at received
  split at received
  · rename_i bytes rest arrival
    rw [arrival] at spec
    cases received
    simp only [coming, going, more, Splitter.coming_extend, spec.1, spec.2, Bool.false_eq_true, if_false]
  · rename_i reason rest arrival
    rw [arrival] at spec
    cases received
    have short : brokenOutcome? (α := α) (reader.line + 1) reader.splitter.buffer = none :=
      if_neg (Nat.not_lt.mpr waiting.short)
    have broken := wholeEvents_broken item reason (reader.line + 1) waiting.unbroken
    rw [short] at broken
    refine ⟨?_, rfl⟩
    simp only [coming, going, more, Splitter.coming, spec.1, spec.2, List.append_nil, broken, skippingEvents,
      pastEnd?_eq_none_iff.mpr waiting.unbroken]
    simp
  · rename_i arrival
    rw [arrival] at spec
    cases received
    simp only [coming, going, more, spec.1, spec.2]
    rfl

/-- A pull gives the first of the events that are still to come. -/
theorem coming_pull (item : Json.Decoder α) (reader : Reader) :
    match reader.pull item with
    | (some (.ok outcome), next) => reader.coming item = .ok outcome :: next.coming item
    | (some (.error failure), next) => reader.coming item = [.error failure] ∧ next.done = true
    | (none, next) => reader.coming item = [] ∧ next.done = true := by
  fun_induction pull item reader with
  | case1 reader outcome next looked => exact coming_look looked
  | case2 reader next looked => exact coming_look looked
  | case3 reader next looked ih =>
    have same : reader.coming item = next.coming item := coming_look looked
    rw [same]
    exact ih
  | case4 reader next looked failure last received =>
    obtain ⟨same, going, more, waiting⟩ := coming_look looked
    rw [same]
    exact coming_receive going more waiting received
  | case5 reader next looked last received ih =>
    obtain ⟨same, going, more, waiting⟩ := coming_look looked
    have received : next.coming item = last.coming item := coming_receive going more waiting received
    rw [same, received]
    exact ih

theorem pulled_eq_coming (item : Json.Decoder α) (n : Nat) (reader : Reader) :
    reader.pulled item n = (reader.coming item)[n]? := by
  induction n generalizing reader with
  | zero =>
    have spec := reader.coming_pull item
    unfold pulled
    split at spec
    · rename_i outcome next value
      rw [spec, value]
      rfl
    · rename_i failure next value
      rw [spec.1, value]
      rfl
    · rename_i next value
      rw [spec.1, value]
      rfl
  | succ n ih =>
    have spec := reader.coming_pull item
    rw [pulled, ih]
    split at spec
    · rename_i outcome next value
      rw [spec, value, List.getElem?_cons_succ]
    · rename_i failure next value
      rw [spec.1, value, coming_done spec.2]
      rfl
    · rename_i next value
      rw [spec.1, value, coming_done spec.2]
      rfl

end Reader

theorem coming_pullAll (item : Json.Decoder α) (found : List (Outcome α)) (reader : Reader) :
    (pullAll item found reader).outcomes.map .ok ++ (pullAll item found reader).failure.toList.map .error =
      found.reverse.map .ok ++ reader.coming item := by
  fun_induction pullAll item found reader with
  | case1 found reader outcome next pulled ih =>
    have spec := reader.coming_pull item
    rw [pulled] at spec
    rw [ih, spec]
    simp
  | case2 found reader failure next pulled =>
    have spec := reader.coming_pull item
    rw [pulled] at spec
    rw [spec.1]
    rfl
  | case3 found reader next pulled =>
    have spec := reader.coming_pull item
    rw [pulled] at spec
    rw [spec.1]
    rfl

/-- Pull by pull a stream gives the events of the whole body in order and then nothing more; so does a reading of it up
to its end. The frames count only by the bytes that come before the end or the failure, and by that failure. -/
theorem pulled_eq_wholeBody (item : Json.Decoder α) (frames : List Frame) :
    (∀ n, (Reader.start frames).pulled item n = (wholeBody item frames)[n]?) ∧
      (read item frames).outcomes.map .ok ++ (read item frames).failure.toList.map .error = wholeBody item frames ∧
      ∀ others, Body.arriving others = Body.arriving frames → Body.failure? others = Body.failure? frames →
        ∀ n, (Reader.start others).pulled item n = (Reader.start frames).pulled item n := by
  refine ⟨fun n => Reader.pulled_eq_coming item n (.start frames), coming_pullAll item [] (.start frames), ?_⟩
  intro others bytes failure n
  rw [Reader.pulled_eq_coming, Reader.pulled_eq_coming, Reader.coming_start, Reader.coming_start, wholeBody, wholeBody,
    bytes, failure]

/-- A body that is cut within a line end and breaks behind a line that is not UTF-8. -/
def scattered : List Frame :=
  [.data [0x20], .data [], .data [0x0d], .trailers, .data [0x0a, 0xff], .data [0x0a, 0x7b], .failure "reset"]

/-- The same bytes in one frame. -/
def gathered : List Frame := [.data [0x20, 0x0d, 0x0a, 0xff, 0x0a, 0x7b], .failure "reset"]

theorem pulled_eq_wholeBody_gathered :
    Body.arriving scattered = Body.arriving gathered ∧ Body.failure? scattered = Body.failure? gathered ∧
      (∀ n, (Reader.start scattered).pulled objectDecoder n = (Reader.start gathered).pulled objectDecoder n) ∧
      (Reader.start scattered).pulled objectDecoder 0 = some (.ok (.error (.notUtf8 2))) ∧
      (Reader.start scattered).pulled objectDecoder 1 = some (.error (.network "reset")) ∧
      (Reader.start scattered).pulled objectDecoder 2 = none := by
  obtain ⟨pulled, -, same⟩ := pulled_eq_wholeBody objectDecoder gathered
  have alike := same scattered rfl rfl
  refine ⟨rfl, rfl, alike, ?_, ?_, ?_⟩
  · rw [alike, pulled]
    rfl
  · rw [alike, pulled]
    rfl
  · rw [alike, pulled]
    rfl

end AuthzClient.Stream
