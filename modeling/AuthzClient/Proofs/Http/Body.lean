import AuthzClient.Proofs.Stream.Delivery
import Mathlib.Data.List.Induction

/-!
What reading a body gives, by the frames alone: all of its data within a limit, or the beginning of it. A body is followed
frame by frame: it is cut in two at any place, and what the frames before the cut gave is all that the rest is added to.
-/

namespace AuthzClient.Http

/-- The data of a frame. -/
def Frame.bytes : Frame → List UInt8
  | .data bytes => bytes
  | .trailers | .failure _ => []

namespace Body

variable {limit : Option Nat} {passed rest frames : List Frame}

/-- The data of all frames, one behind the other. -/
def data (frames : List Frame) : List UInt8 := frames.flatMap Frame.bytes

/-- No frame tells of a failure. -/
def Unbroken (frames : List Frame) : Prop := ∀ reason, Frame.failure reason ∉ frames

theorem unbroken_cons {frame : Frame} :
    Unbroken (frame :: frames) ↔ (∀ reason, frame ≠ .failure reason) ∧ Unbroken frames := by
  simp only [Unbroken, List.mem_cons, not_or, forall_and, ne_eq, eq_comm]

theorem unbroken_append : Unbroken (passed ++ rest) ↔ Unbroken passed ∧ Unbroken rest := by
  simp only [Unbroken, List.mem_append, not_or, forall_and]

theorem fits_iff {size : Nat} : fits limit size = true ↔ ∀ most ∈ limit, size ≤ most := by
  cases limit <;> simp [fits]

theorem fits_of_le {size more : Nat} (less : size ≤ more) (fitting : fits limit more = true) : fits limit size = true :=
  fits_iff.mpr fun most bound => Nat.le_trans less (fits_iff.mp fitting most bound)

/-- Frames that break nothing and overflow nothing are put behind what is held. -/
theorem collect_append (held : List UInt8) (unbroken : Unbroken passed)
    (fitting : fits limit (held.length + (data passed).length) = true) (rest : List Frame) :
    collect limit held.reverse held.length (passed ++ rest) =
      collect limit (held ++ data passed).reverse (held ++ data passed).length rest := by
  induction passed generalizing held with
  | nil => rw [data, List.flatMap_nil, List.append_nil, List.nil_append]
  | cons frame passed ih =>
    obtain ⟨sound, later⟩ := unbroken_cons.mp unbroken
    have cut : data (frame :: passed) = frame.bytes ++ data passed := List.flatMap_cons
    rw [cut, List.length_append] at fitting
    cases frame with
    | failure reason => exact absurd rfl (sound reason)
    | trailers => exact ih held later (by simpa [Frame.bytes] using fitting)
    | data bytes =>
      have now : fits limit (held.length + bytes.length) = true :=
        fits_of_le (by simp only [Frame.bytes]; omega) fitting
      have kept : bytes.reverseAux held.reverse = (held ++ bytes).reverse := by
        rw [List.reverseAux_eq, List.reverse_append]
      rw [List.cons_append, collect, if_pos now, kept, ← List.length_append, ih _ later, List.append_assoc, cut]
      · rfl
      · rwa [List.length_append, Nat.add_assoc]

/-- What is held at a cut is all that the reading keeps of the frames before it. -/
theorem read_append (unbroken : Unbroken passed) (fitting : fits limit (data passed).length = true) (rest : List Frame) :
    read limit (passed ++ rest) = collect limit (data passed).reverse (data passed).length rest := by
  have whole := collect_append [] unbroken (by rwa [List.length_nil, Nat.zero_add]) rest
  rwa [List.nil_append] at whole

theorem read_of_fits (unbroken : Unbroken frames) (fitting : fits limit (data frames).length = true) :
    read limit frames = .ok (data frames) := by
  have whole := read_append unbroken fitting []
  rwa [List.append_nil, collect, List.reverse_reverse] at whole

/-- The reading of a whole body meets a frame that ends it with an error. -/
inductive Fails : Option Nat → List Frame → TransportError → Prop
  | tooLarge {most : Nat} {passed rest : List Frame} {chunk : List UInt8} : Unbroken passed →
      (data passed).length ≤ most → most < (data passed).length + chunk.length →
      Fails (some most) (passed ++ .data chunk :: rest) (.bodyTooLarge most ((data passed).length + chunk.length))
  | broken {limit : Option Nat} {passed rest : List Frame} {reason : String} : Unbroken passed →
      (∀ most ∈ limit, (data passed).length ≤ most) → Fails limit (passed ++ .failure reason :: rest) (.network reason)

variable {error : TransportError}

theorem Fails.append (fails : Fails limit passed error) (rest : List Frame) : Fails limit (passed ++ rest) error := by
  cases fails with
  | tooLarge unbroken within beyond =>
    rw [List.append_assoc]
    exact .tooLarge unbroken within beyond
  | broken unbroken within =>
    rw [List.append_assoc]
    exact .broken unbroken within

theorem Fails.read (fails : Fails limit frames error) : read limit frames = .error error := by
  cases fails with
  | tooLarge unbroken within beyond =>
    have fitting : fits (some _) _ = true := decide_eq_true within
    rw [read_append unbroken fitting, collect, if_neg]
    · rfl
    · simpa [fits] using beyond
  | broken unbroken within =>
    rw [read_append unbroken (fits_iff.mpr within)]
    rfl

/-- A body is read to its end, or it has a first frame that ends the reading. -/
theorem fits_or_fails (limit : Option Nat) (frames : List Frame) :
    (Unbroken frames ∧ fits limit (data frames).length = true) ∨ ∃ error, Fails limit frames error := by
  induction frames using List.reverseRecOn with
  | nil => exact Or.inl ⟨fun _ => List.not_mem_nil, fits_iff.mpr fun most _ => Nat.zero_le most⟩
  | append_singleton passed frame ih =>
    rcases ih with ⟨unbroken, fitting⟩ | ⟨error, fails⟩
    · have sofar : (data (passed ++ [frame])).length = (data passed).length + frame.bytes.length := by
        simp [data]
      cases frame with
      | failure reason => exact Or.inr ⟨_, .broken unbroken (fits_iff.mp fitting)⟩
      | trailers =>
        refine Or.inl ⟨unbroken_append.mpr ⟨unbroken, by simp [Unbroken]⟩, ?_⟩
        rwa [sofar]
      | data chunk =>
        cases now : fits limit ((data passed).length + chunk.length) with
        | true =>
          refine Or.inl ⟨unbroken_append.mpr ⟨unbroken, by simp [Unbroken]⟩, ?_⟩
          rwa [sofar]
        | false =>
          obtain ⟨most, rfl⟩ : ∃ most, limit = some most := by
            cases limit with
            | none => cases now
            | some most => exact ⟨most, rfl⟩
          exact Or.inr ⟨_, .tooLarge unbroken (of_decide_eq_true fitting) (Nat.lt_of_not_le (of_decide_eq_false now))⟩
    · exact Or.inr ⟨error, fails.append _⟩

theorem read_eq_ok_iff {bytes : List UInt8} :
    read limit frames = .ok bytes ↔ Unbroken frames ∧ bytes = data frames ∧ ∀ most ∈ limit, bytes.length ≤ most := by
  constructor
  · intro success
    rcases fits_or_fails limit frames with ⟨unbroken, fitting⟩ | ⟨error, fails⟩
    · cases success.symm.trans (read_of_fits unbroken fitting)
      exact ⟨unbroken, rfl, fits_iff.mp fitting⟩
    · cases success.symm.trans fails.read
  · rintro ⟨unbroken, rfl, within⟩
    exact read_of_fits unbroken (fits_iff.mpr within)

theorem read_eq_error_iff : read limit frames = .error error ↔ Fails limit frames error := by
  refine ⟨fun failure => ?_, Fails.read⟩
  rcases fits_or_fails limit frames with ⟨unbroken, fitting⟩ | ⟨found, fails⟩
  · cases failure.symm.trans (read_of_fits unbroken fitting)
  · cases failure.symm.trans fails.read
    exact fails

/-- At any cut the reading has ended with an error, or it holds no more than the limit and goes on from there. -/
theorem read_cut (limit : Option Nat) (passed rest : List Frame) :
    (∃ held, read limit passed = .ok held ∧ (∀ most ∈ limit, held.length ≤ most) ∧
        read limit (passed ++ rest) = collect limit held.reverse held.length rest) ∨
      ∃ error, read limit passed = .error error ∧ read limit (passed ++ rest) = .error error := by
  rcases fits_or_fails limit passed with ⟨unbroken, fitting⟩ | ⟨error, fails⟩
  · exact Or.inl ⟨data passed, read_of_fits unbroken fitting, fits_iff.mp fitting, read_append unbroken fitting rest⟩
  · exact Or.inr ⟨error, fails.read, (fails.append rest).read⟩

theorem failure?_append (unbroken : Unbroken passed) (rest : List Frame) : failure? (passed ++ rest) = failure? rest := by
  induction passed with
  | nil => rfl
  | cons frame passed ih =>
    obtain ⟨sound, later⟩ := unbroken_cons.mp unbroken
    cases frame with
    | failure reason => exact absurd rfl (sound reason)
    | data | trailers => exact ih later

theorem arriving_append (unbroken : Unbroken passed) (rest : List Frame) :
    arriving (passed ++ rest) = data passed ++ arriving rest := by
  induction passed with
  | nil => rfl
  | cons frame passed ih =>
    obtain ⟨sound, later⟩ := unbroken_cons.mp unbroken
    cases frame with
    | failure reason => exact absurd rfl (sound reason)
    | trailers => exact ih later
    | data bytes =>
      rw [List.cons_append, arriving, ih later, ← List.append_assoc]
      rfl

/-- A body arrives whole, or it has a first failure. -/
theorem unbroken_or_breaks (frames : List Frame) :
    Unbroken frames ∨ ∃ passed reason rest, frames = passed ++ .failure reason :: rest ∧ Unbroken passed := by
  induction frames with
  | nil => exact Or.inl fun _ => List.not_mem_nil
  | cons frame frames ih =>
    cases frame with
    | failure reason => exact Or.inr ⟨[], reason, frames, rfl, fun _ => List.not_mem_nil⟩
    | data | trailers =>
      rcases ih with unbroken | ⟨passed, reason, rest, rfl, unbroken⟩
      · exact Or.inl (unbroken_cons.mpr ⟨nofun, unbroken⟩)
      · exact Or.inr ⟨_ :: passed, reason, rest, rfl, unbroken_cons.mpr ⟨nofun, unbroken⟩⟩

/-- How much of a body is looked at does not depend on how it is cut into frames. -/
theorem preview_eq (most : Nat) (frames : List Frame) :
    preview most frames =
      match failure? frames with
      | some failure => if (arriving frames).length < most then .error failure else .ok ((arriving frames).take most)
      | none => .ok ((arriving frames).take most) :=
  collectUpTo_eq [] most frames

theorem preview_of_unbroken (unbroken : Unbroken frames) (most : Nat) :
    preview most frames = .ok ((data frames).take most) := by
  have sound := failure?_append unbroken []
  have whole := arriving_append unbroken []
  rw [List.append_nil] at sound whole
  rw [preview_eq, sound, whole, arriving, List.append_nil]
  rfl

theorem preview_of_breaks (unbroken : Unbroken passed) (reason : String) (rest : List Frame) (most : Nat) :
    preview most (passed ++ .failure reason :: rest) =
      if (data passed).length < most then .error (.network reason) else .ok ((data passed).take most) := by
  rw [preview_eq, failure?_append unbroken, arriving_append unbroken, arriving, List.append_nil]
  rfl

/-- The beginning of a body fails exactly if the body breaks before that much has arrived. -/
theorem preview_eq_error_iff {most : Nat} :
    preview most frames = .error error ↔ ∃ passed reason rest, frames = passed ++ .failure reason :: rest ∧
      Unbroken passed ∧ (data passed).length < most ∧ error = .network reason := by
  constructor
  · intro failure
    rcases unbroken_or_breaks frames with unbroken | ⟨passed, reason, rest, rfl, unbroken⟩
    · cases failure.symm.trans (preview_of_unbroken unbroken most)
    · rw [preview_of_breaks unbroken] at failure
      split at failure
      · rename_i short
        cases failure
        exact ⟨passed, reason, rest, rfl, unbroken, short, rfl⟩
      · cases failure
  · rintro ⟨passed, reason, rest, rfl, unbroken, short, rfl⟩
    rw [preview_of_breaks unbroken, if_pos short]

/-- What is looked at is the beginning of what arrives. -/
theorem eq_take_of_preview {most : Nat} {bytes : List UInt8} (success : preview most frames = .ok bytes) :
    bytes = (arriving frames).take most := by
  rw [preview_eq] at success
  split at success
  · split at success
    · cases success
    · cases success
      rfl
  · cases success
    rfl

end Body

/-- What the body of a response gives, over all frames and all limits.

Read whole, it is all of the data exactly if no frame breaks it and the data are within the limit; if not, the first frame
that goes beyond the limit or breaks the body is the error. At any cut no more than the limit is held. Looked at up to a
number of bytes, it is that many bytes from the beginning or all there are, however they are spread over the frames, and
an error exactly if the body breaks before them. What can be read whole can be looked at. -/
theorem Response.bytes_of_frames (response : Response) :
    (∀ bytes, response.bytes = .ok bytes ↔ Body.Unbroken response.frames ∧ bytes = Body.data response.frames ∧
      ∀ most ∈ response.limit, bytes.length ≤ most) ∧
    (∀ error, response.bytes = .error error ↔ Body.Fails response.limit response.frames error) ∧
    (∀ passed rest, response.frames = passed ++ rest →
      (∃ held, Body.read response.limit passed = .ok held ∧ (∀ most ∈ response.limit, held.length ≤ most) ∧
          response.bytes = Body.collect response.limit held.reverse held.length rest) ∨
        ∃ error, Body.read response.limit passed = .error error ∧ response.bytes = .error error) ∧
    ∀ most,
      (∀ bytes, Body.preview most response.frames = .ok bytes → bytes = (Body.arriving response.frames).take most) ∧
      (∀ error, Body.preview most response.frames = .error error ↔
        ∃ passed reason rest, response.frames = passed ++ .failure reason :: rest ∧ Body.Unbroken passed ∧
          (Body.data passed).length < most ∧ error = .network reason) ∧
      (∀ others, Body.arriving others = Body.arriving response.frames →
        Body.failure? others = Body.failure? response.frames →
        Body.preview most others = Body.preview most response.frames) ∧
      ∀ bytes, response.bytes = .ok bytes → Body.preview most response.frames = .ok (bytes.take most) := by
  refine ⟨fun bytes => Body.read_eq_ok_iff, fun error => Body.read_eq_error_iff, ?_, fun most =>
    ⟨fun bytes => Body.eq_take_of_preview, fun error => Body.preview_eq_error_iff, ?_, ?_⟩⟩
  · intro passed rest cut
    rw [bytes, cut]
    exact Body.read_cut response.limit passed rest
  · intro others arrived failed
    rw [Body.preview_eq, Body.preview_eq, arrived, failed]
  · intro bytes success
    obtain ⟨unbroken, rfl, -⟩ := Body.read_eq_ok_iff.mp success
    exact Body.preview_of_unbroken unbroken most

/-- A chunk that ends at the limit is kept; a failure behind the bytes that are looked at is not met. -/
example :
    Body.read (some 3) [.data [1, 2], .trailers, .data [], .data [3]] = .ok [1, 2, 3] ∧
      Body.read (some 3) [.data [1, 2, 3], .data [4], .failure "reset"] = .error (.bodyTooLarge 3 4) ∧
      Body.preview 3 [.data [1, 2], .data [3, 4], .failure "reset"] = .ok [1, 2, 3] := by
  decide

end AuthzClient.Http
