import AuthzClient.Proofs.Stream.WholeBody
import AuthzClient.Stream.Delivery

/-!
Delivery and pulling agree: a caller who is handed the lines of a response gets what pulling them one by one gives, and
the failure of the body becomes the failure of the call. Without success no line is read, and the call fails with the
error of the response, judged by the beginning of its body.
-/

namespace AuthzClient

open Http

namespace Http.Body

/-- The first bytes of a body, none of one that breaks before they are there. -/
def beginning (limit : Nat) (frames : List Frame) : List UInt8 :=
  if (failure? frames).isSome ∧ (arriving frames).length < limit then [] else (arriving frames).take limit

/-- Only what comes before the limit is reached counts: a failure behind it is not met. -/
theorem collectUpTo_eq (seen : List UInt8) (room : Nat) (frames : List Frame) :
    collectUpTo seen room frames =
      match failure? frames with
      | some failure =>
        if (arriving frames).length < room then .error failure else .ok (seen.reverse ++ (arriving frames).take room)
      | none => .ok (seen.reverse ++ (arriving frames).take room) := by
  induction frames generalizing seen room with
  | nil => simp [collectUpTo, failure?, arriving]
  | cons frame frames ih =>
    by_cases full : room = 0
    · have whole : collectUpTo seen room (frame :: frames) = .ok seen.reverse := by
        cases frame with
        | data | trailers | failure => exact if_pos full
      rw [whole, full]
      simp only [Nat.not_lt_zero, List.take_zero, List.append_nil, if_false]
      split <;> rfl
    · cases frame with
      | trailers =>
        rw [collectUpTo, if_neg full, ih]
        rfl
      | failure reason =>
        have before : (arriving (.failure reason :: frames)).length < room := Nat.pos_of_ne_zero full
        rw [collectUpTo, if_neg full]
        simp only [failure?, if_pos before]
      | data bytes =>
        have kept : ((bytes.take room).reverseAux seen).reverse ++ (arriving frames).take (room - bytes.length) =
            seen.reverse ++ (arriving (.data bytes :: frames)).take room := by
          rw [List.reverseAux_eq, List.reverse_append, List.reverse_reverse, List.append_assoc, arriving,
            List.take_append]
        have reached : (arriving frames).length < room - bytes.length ↔
            (arriving (.data bytes :: frames)).length < room := by
          rw [arriving, List.length_append]
          omega
        rw [collectUpTo, if_neg full, ih, kept]
        simp only [failure?, reached]

end Http.Body

theorem ApiError.keptBody_eq (response : Response) :
    keptBody response = Body.beginning previewLimit response.frames := by
  unfold keptBody Body.preview Body.beginning
  rw [Body.collectUpTo_eq]
  cases Body.failure? response.frames with
  | none => simp
  | some failure =>
    by_cases short : (Body.arriving response.frames).length < previewLimit
    · simp [short]
    · simp [short]

namespace Stream

variable {α : Type}

/-- How a call ends whose body is read to its end or to its failure. -/
def ending (operation : String) : Option TransportError → Except ClientError Unit
  | some failure => .error (.transport operation failure)
  | none => .ok ()

/-- Handing on is pulling, and telling the failure to the caller of the whole. -/
theorem handOn_eq_pullAll (item : Json.Decoder α) (operation : String) (handed : List (Outcome α)) (reader : Reader) :
    handOn item operation handed reader =
      ⟨(pullAll item handed reader).outcomes, ending operation (pullAll item handed reader).failure⟩ := by
  fun_induction pullAll item handed reader with
  | case1 handed reader outcome next pulled ih =>
    rw [handOn]
    split <;> (rename_i also; cases pulled.symm.trans also)
    exact ih
  | case2 handed reader failure next pulled =>
    rw [handOn]
    split <;> (rename_i also; cases pulled.symm.trans also)
    rfl
  | case3 handed reader next pulled =>
    rw [handOn]
    split <;> (rename_i also; cases pulled.symm.trans also)
    rfl

/-- A reading to the end takes what pull after pull gives. -/
theorem pulled_eq_read (item : Json.Decoder α) (frames : List Frame) (n : Nat) :
    (Reader.start frames).pulled item n =
      ((read item frames).outcomes.map .ok ++ (read item frames).failure.toList.map .error)[n]? := by
  have whole := coming_pullAll item [] (Reader.start frames)
  rw [Reader.pulled_eq_coming]
  exact congrArg (·[n]?) whole.symm

/-- A response with success is delivered line by line as pulling gives it, and the call ends as the body does; any other
response delivers nothing, and the call fails with the error that its status, its headers and the beginning of its body
stand for. -/
theorem deliver_eq_pulled (item : Json.Decoder α) (request : Request) (response : Response) :
    (Response.isSuccess response.status = true →
      ∃ outcomes failure,
        (∀ n, (Reader.start response.frames).pulled item n =
          (outcomes.map .ok ++ failure.toList.map .error)[n]?) ∧
        deliver item request response =
          ⟨outcomes, match failure with
            | some failure => .error (.failed (.transport request.operation failure) [])
            | none => .ok ()⟩) ∧
    (Response.isSuccess response.status = false →
      ∃ error, ApiError.classify request response.status response.headers (Body.beginning 8192 response.frames) =
          some error ∧
        deliver item request response = ⟨[], .error (.failed (.api error) [])⟩) := by
  constructor
  · intro success
    refine ⟨(read item response.frames).outcomes, (read item response.frames).failure, pulled_eq_read item _, ?_⟩
    rw [deliver, if_pos success, handOn_eq_pullAll]
    rfl
  · intro refused
    have unsuccessful : ¬Response.isSuccess response.status = true := by simp [refused]
    have kept : ApiError.keptBody response = Body.beginning 8192 response.frames := ApiError.keptBody_eq response
    refine ⟨_, if_neg unsuccessful, ?_⟩
    rw [deliver, if_neg unsuccessful, kept]

/-- A request whose response is a stream. -/
def streaming : Request :=
  .new "stream" "GET" ⟨"https", "", none, some (.domain "api.fga.example"), none, .segments ["objects"], none, none⟩

/-- A response that breaks in the middle of its third line. -/
def interrupted (status : Nat) : Response := ⟨status, [], scattered, none⟩

theorem deliver_eq_pulled_interrupted :
    Response.isSuccess (interrupted 200).status = true ∧ Response.isSuccess (interrupted 503).status = false ∧
      deliver objectDecoder streaming (interrupted 200) =
        ⟨[.error (.notUtf8 2)], .error (.failed (.transport "stream" (.network "reset")) [])⟩ ∧
      ∃ error, ApiError.classify streaming 503 [] [] = some error ∧
        deliver objectDecoder streaming (interrupted 503) = ⟨[], .error (.failed (.api error) [])⟩ := by
  obtain ⟨outcomes, failure, pulled, delivered⟩ := (deliver_eq_pulled objectDecoder streaming (interrupted 200)).1 rfl
  have events : (outcomes.map .ok ++ failure.toList.map .error : List (Event String)) =
      [.ok (.error (.notUtf8 2)), .error (.network "reset")] := by
    refine List.ext_getElem? fun n => ?_
    rw [← pulled, Reader.pulled_eq_coming]
    rfl
  have told : outcomes = [.error (.notUtf8 2)] ∧ failure = some (.network "reset") := by
    cases failure with
    | none =>
      simp [List.map_eq_cons_iff] at events
    | some failure =>
      have parted : (outcomes.map .ok ++ [.error failure] : List (Event String)) =
          [.ok (.error (.notUtf8 2))] ++ [.error (.network "reset")] := events
      obtain ⟨front, last⟩ := List.append_inj' parted rfl
      obtain ⟨outcome, rfl, same⟩ := List.map_eq_singleton_iff.mp front
      cases same
      cases last
      exact ⟨rfl, rfl⟩
  obtain ⟨rfl, rfl⟩ := told
  exact ⟨rfl, rfl, delivered, (deliver_eq_pulled objectDecoder streaming (interrupted 503)).2 rfl⟩

end Stream

end AuthzClient
