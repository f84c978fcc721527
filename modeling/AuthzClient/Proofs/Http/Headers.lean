import AuthzClient.Proofs.Text.Utf8
import AuthzClient.Request
import Mathlib.Data.List.Basic

/-!
Headers name by name: what is removed, set, filled in and kept, and which headers each attempt of a request carries. The
texts that can be names and values, and what comes of a list of them that is set one after the other. A value is read as text
if it is written in visible characters.
-/

namespace AuthzClient

open Http Text

namespace Http.HeaderName

/-- A text that can stand for the name of a header. -/
def IsName (s : String) : Prop := s ≠ "" ∧ (∀ c ∈ s.toList, isTokenChar c = true) ∧ s.utf8ByteSize ≤ longest

theorem isName_iff {s : String} :
    (!s.isEmpty && s.toList.all isTokenChar && s.utf8ByteSize ≤ longest) = true ↔ IsName s := by
  simp only [IsName, Bool.and_eq_true, Bool.not_eq_true', String.isEmpty_eq_false_iff, List.all_eq_true, decide_eq_true_eq,
    and_assoc, ne_eq]

instance (s : String) : Decidable (IsName s) := decidable_of_iff _ isName_iff

theorem ofString?_eq (s : String) : ofString? s = if IsName s then some ⟨lower s⟩ else none :=
  if_congr isName_iff rfl rfl

end Http.HeaderName

namespace Http.HeaderValue

/-- A text without control characters, the tab excepted; it can stand in a header as it is. -/
def IsText (s : String) : Prop := ∀ b ∈ Utf8.encode s, isLegal b = true

instance (s : String) : Decidable (IsText s) := inferInstanceAs (Decidable (∀ b ∈ Utf8.encode s, isLegal b = true))

theorem ofString?_eq (s : String) : ofString? s = if IsText s then some (.ofText s) else none := by
  rw [ofString?, ofBytes?]
  by_cases legal : IsText s
  · rw [if_pos legal, if_pos (List.all_eq_true.mpr legal)]
    rfl
  · rw [if_neg legal, if_neg fun all => legal (List.all_eq_true.mp all)]

theorem isVisible_ascii {b : UInt8} (visible : isVisible b = true) : b.toNat < 0x80 := by
  have all : ∀ b, isVisible b = true → b.toNat < 0x80 := forall_byte (by decide +kernel)
  exact all b visible

/-- A value is shown as the text whose characters are its bytes, if all of them are visible. -/
theorem text?_eq_some_iff {value : HeaderValue} {text : String} :
    value.text? = some text ↔ value.bytes = Utf8.encode text ∧ ∀ b ∈ value.bytes, isVisible b = true := by
  have written (visible : ∀ b ∈ value.bytes, isVisible b = true) :
      Utf8.encodeChars (value.bytes.map fun b => Char.ofNat b.toNat) = value.bytes := by
    have number : ∀ b ∈ value.bytes, (Char.ofNat b.toNat).toNat = b.toNat := fun b inside =>
      toNat_ofNat (isVisible_ascii (visible b inside))
    rw [Utf8.encodeChars_ascii, List.map_map]
    · refine (List.map_congr_left fun b inside => ?_).trans (List.map_id _)
      rw [Function.comp_apply, number b inside, Nat.toUInt8, UInt8.ofNat_toNat]
      rfl
    · intro c inside
      obtain ⟨b, here, rfl⟩ := List.mem_map.mp inside
      rw [number b here]
      exact isVisible_ascii (visible b here)
  unfold text?
  constructor
  · intro shown
    split at shown
    · rename_i all
      have visible := List.all_eq_true.mp all
      cases shown
      refine ⟨?_, visible⟩
      rw [Utf8.encode, String.toList_ofList, written visible]
    · cases shown
  · rintro ⟨same, visible⟩
    have chars : value.bytes.map (fun b => Char.ofNat b.toNat) = text.toList :=
      Utf8.encodeChars_injective ((written visible).trans same)
    rw [if_pos (List.all_eq_true.mpr visible), chars, String.ofList_toList]

end Http.HeaderValue

namespace Entries

variable {α : Type}

/-- The value under the last key that is a header's name but for the case. -/
def latest? (name : HeaderName) (entries : Entries α) : Option α :=
  ((entries.filter fun entry => lower entry.1 = name.text).getLast?).map (·.2)

theorem latest?_cons (name : HeaderName) (key : String) (value : α) (rest : Entries α) :
    latest? name ((key, value) :: rest) =
      match latest? name rest with
      | some later => some later
      | none => if lower key = name.text then some value else none := by
  by_cases named : lower key = name.text
  · rw [latest?, latest?, List.filter_cons_of_pos (by simpa using named), List.getLast?_cons, if_pos named]
    cases (rest.filter fun entry => lower entry.1 = name.text).getLast? with
    | none => rfl
    | some last => rfl
  · rw [latest?, latest?, List.filter_cons_of_neg (by simpa using named), if_neg named]
    cases (rest.filter fun entry => lower entry.1 = name.text).getLast? with
    | none => rfl
    | some last => rfl

end Entries

namespace Http.Headers

/-- The header that counts is the one whose value comes first among those of its name. -/
theorem first?_eq_head? (name : HeaderName) (headers : Headers) : first? name headers = (values name headers).head? := by
  induction headers with
  | nil => rfl
  | cons header headers ih =>
    by_cases same : header.1 = name
    · simp [first?, values, same]
    · simpa [first?, values, same] using ih

theorem values_append (name : HeaderName) (headers others : Headers) :
    values name (headers ++ others) = values name headers ++ values name others := List.filterMap_append

theorem values_remove_self (name : HeaderName) (headers : Headers) : values name (remove name headers) = [] := by
  simp [values, remove, List.filterMap_eq_nil_iff]

theorem values_remove_of_ne {name other : HeaderName} (different : name ≠ other) (headers : Headers) :
    values name (remove other headers) = values name headers := by
  rw [values, remove, List.filterMap_filter]
  refine List.filterMap_congr fun header _ => ?_
  by_cases same : header.1 = name
  · simp [same, different]
  · simp [same]

theorem values_set_self (name : HeaderName) (value : HeaderValue) (headers : Headers) :
    values name (set name value headers) = [value] := by
  rw [set, append, values_append, values_remove_self]
  simp [values]

theorem values_set_of_ne {name other : HeaderName} (different : name ≠ other) (value : HeaderValue)
    (headers : Headers) : values name (set other value headers) = values name headers := by
  rw [set, append, values_append, values_remove_of_ne different]
  simp [values, different.symm]

theorem values_set_lower (name : HeaderName) (key : String) (value : HeaderValue) (headers : Headers) :
    values name (set ⟨lower key⟩ value headers) = if lower key = name.text then [value] else values name headers := by
  by_cases named : lower key = name.text
  · rw [if_pos named, named]
    exact values_set_self name value headers
  · have different : name ≠ ⟨lower key⟩ := by
      rintro rfl
      exact named rfl
    rw [if_neg named, values_set_of_ne different]

theorem values_fill (name : HeaderName) (defaults headers : Headers) :
    values name (fill defaults headers) =
      match first? name headers with
      | some _ => values name headers
      | none => values name defaults := by
  rw [fill, values_append]
  cases found : first? name headers with
  | some value =>
    obtain ⟨header, first, _⟩ := Option.map_eq_some_iff.mp found
    have mine : header.1 = name := by simpa using List.find?_some first
    have present : has name headers = true :=
      List.any_eq_true.mpr ⟨header, List.mem_of_find?_eq_some first, by simpa using mine⟩
    have none : values name (defaults.filter fun h => !has h.1 headers) = [] := by
      refine List.filterMap_eq_nil_iff.mpr fun other inside => ?_
      have absent := (List.mem_filter.mp inside).2
      have different : other.1 ≠ name := by
        rintro same
        rw [same, present] at absent
        cases absent
      exact if_neg different
    rw [none, List.append_nil]
  | none =>
    have missing : ∀ header ∈ headers, header.1 ≠ name := by
      simpa [first?] using found
    have absent : has name headers = false := by
      simpa [has] using missing
    have nothing : values name headers = [] :=
      List.filterMap_eq_nil_iff.mpr fun header inside => if_neg (missing header inside)
    rw [nothing, List.nil_append, values, values, List.filterMap_filter]
    refine List.filterMap_congr fun other _ => ?_
    by_cases same : other.1 = name
    · simp [same, absent]
    · simp [same]

theorem remove_set_self (name : HeaderName) (value : HeaderValue) (headers : Headers) :
    remove name (set name value headers) = remove name headers := by
  simp [remove, set, append]

theorem remove_comm (name other : HeaderName) (headers : Headers) :
    remove name (remove other headers) = remove other (remove name headers) := by
  simp only [remove, List.filter_filter, Bool.and_comm]

/-- A configured pair that can be a header. -/
def IsLegal (entry : String × String) : Prop := HeaderName.IsName entry.1 ∧ HeaderValue.IsText entry.2

instance (entry : String × String) : Decidable (IsLegal entry) :=
  inferInstanceAs (Decidable (HeaderName.IsName entry.1 ∧ HeaderValue.IsText entry.2))

/-- With a configured header in place of all that have its name. -/
def place (headers : Headers) (entry : String × String) : Headers := set ⟨lower entry.1⟩ (.ofText entry.2) headers

/-- Of several configured headers of one name the last one stays. -/
theorem values_foldl_place (name : HeaderName) (entries : List (String × String)) (headers : Headers) :
    values name (entries.foldl place headers) =
      match Entries.latest? name entries with
      | some value => [.ofText value]
      | none => values name headers := by
  induction entries generalizing headers with
  | nil => rfl
  | cons entry rest ih =>
    obtain ⟨key, value⟩ := entry
    -- A later entry of the name replaces what this one places; `ih` is taken at the headers with this one.
    rw [List.foldl_cons, ih, Entries.latest?_cons, place, values_set_lower]
    cases Entries.latest? name rest with
    | some later => rfl
    | none => by_cases named : lower key = name.text <;> simp [named]

end Http.Headers

namespace Request

open Http.Headers

/-- The headers of a call that an attempt can change. -/
def withoutAttempt (headers : Headers) : Headers := remove .retryAttempt (remove .authorization headers)

theorem remove_authorizedHeaders (authorization : Option HeaderValue) (request : Request) :
    remove .authorization (request.authorizedHeaders authorization) = remove .authorization request.headers := by
  cases authorization with
  | none => rfl
  | some value => exact remove_set_self .authorization value request.headers

/-- An attempt changes the authorization and the number of the retry, and nothing else. -/
theorem withoutAttempt_attemptHeaders (attempt : Nat) (authorization : Option HeaderValue) (request : Request) :
    withoutAttempt (request.attemptHeaders attempt authorization) = withoutAttempt request.headers := by
  unfold withoutAttempt attemptHeaders
  dsimp only
  split
  · rw [remove_comm, remove_set_self, remove_comm, remove_authorizedHeaders]
  · rw [remove_authorizedHeaders]

theorem authorization_attemptHeaders (attempt : Nat) (authorization : Option HeaderValue) (request : Request) :
    values .authorization (request.attemptHeaders attempt authorization) =
      match authorization with
      | some value => [value]
      | none => values .authorization request.headers := by
  have authorized : values .authorization (request.attemptHeaders attempt authorization) =
      values .authorization (request.authorizedHeaders authorization) := by
    unfold attemptHeaders
    dsimp only
    split
    · exact values_set_of_ne (by decide) _ _
    · rfl
  rw [authorized]
  cases authorization with
  | none => rfl
  | some value => exact values_set_self _ value _

/-- The number of the retry is written once from the second attempt on; the first one carries what the call has. -/
theorem retryAttempt_attemptHeaders (attempt : Nat) (authorization : Option HeaderValue) (request : Request) :
    values .retryAttempt (request.attemptHeaders attempt authorization) =
      if attempt = 0 then values .retryAttempt request.headers else [.ofText (toString attempt)] := by
  cases attempt with
  | zero =>
    cases authorization with
    | none => rfl
    | some value => exact values_set_of_ne (by decide) value request.headers
  | succ attempt => exact values_set_self .retryAttempt (attemptValue (attempt + 1)) _

end Request

end AuthzClient
