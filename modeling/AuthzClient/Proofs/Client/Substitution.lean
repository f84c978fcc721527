import AuthzClient.Proofs.Client.Endpoint
import AuthzClient.Proofs.Text.Trimming

/-!
Templates of paths that mix text and placeholders in any way. Names are filled one after the other, over the whole path
each time, and what an earlier name was filled with is looked through as well; but values are written without braces. So
the path comes out as if all placeholders were filled at once.
-/

namespace AuthzClient

namespace Template

def Part.name? : Part → Option String
  | literal _ => none
  | slot name => some name

/-- The names of the placeholders from left to right. -/
def slots (parts : List Part) : List String := parts.filterMap Part.name?

/-- Text without braces, as names are to be. -/
def IsBraceless (name : String) : Prop := '\x7b' ∉ name.toList ∧ '\x7d' ∉ name.toList

instance (name : String) : Decidable (IsBraceless name) :=
  inferInstanceAs (Decidable ('\x7b' ∉ name.toList ∧ '\x7d' ∉ name.toList))

/-- The placeholders without a value are left. -/
theorem slots_resolve (values : String → Option String) (parts : List Part) :
    slots (parts.map (Part.resolve values)) = (slots parts).filter fun name => (values name).isNone := by
  induction parts with
  | nil => rfl
  | cons part parts ih =>
    cases part with
    | literal text => exact ih
    | slot name =>
      have here : slots (.slot name :: parts) = name :: slots parts := rfl
      cases found : values name with
      | none =>
        have left : (Part.slot name).resolve values = .slot name := by rw [Part.resolve, found]
        rw [List.map_cons, left, here, List.filter_cons_of_pos (by simp [found]), ← ih]
        rfl
      | some value =>
        have gone : (Part.slot name).resolve values = .literal (Text.Percent.component value) := by
          rw [Part.resolve, found]
        rw [List.map_cons, gone, here, List.filter_cons_of_neg (by simp [found]), ← ih]
        rfl

theorem openPlaceholder?_append {front : List Char} (absent : '\x7b' ∉ front) (rest : List Char) :
    openPlaceholder? (front ++ rest) = openPlaceholder? rest := by
  have other : ∀ c ∈ front, (c != '\x7b') = true := by
    intro c inside
    refine bne_iff_ne.mpr fun same => ?_
    exact absent (same ▸ inside)
  rw [openPlaceholder?, openPlaceholder?, List.dropWhile_append_of_pos other]

theorem openPlaceholder?_placeholder {name : String} (there : IsBraceless name) (rest : List Char) :
    openPlaceholder? (placeholder name ++ rest) = some name := by
  have whole : placeholder name ++ rest = '\x7b' :: (name.toList ++ '\x7d' :: rest) := by simp [placeholder]
  have opened : ('\x7b' :: (name.toList ++ '\x7d' :: rest)).dropWhile (· != '\x7b') =
      '\x7b' :: (name.toList ++ '\x7d' :: rest) := rfl
  rw [openPlaceholder?, whole, opened]
  simp [takeWhile_closed there.2]

/-- The first placeholder that is left is the one that is found. -/
theorem openPlaceholder?_spelled {parts : List Part} (unbraced : ∀ part ∈ parts, part.IsUnbraced) :
    openPlaceholder? (spelled parts) = (slots parts).head? := by
  induction parts with
  | nil => rfl
  | cons part parts ih =>
    have first := unbraced part List.mem_cons_self
    have rest := ih fun other inside => unbraced other (List.mem_cons_of_mem _ inside)
    rw [spelled_cons]
    cases part with
    | literal text => exact (openPlaceholder?_append first _).trans rest
    | slot name => exact openPlaceholder?_placeholder first _

/-- Text without an opening brace that is cut off at the front takes no placeholder away. -/
theorem exists_spelled_behind {parts : List Part} (unbraced : ∀ part ∈ parts, part.IsUnbraced) {front rest : List Char}
    (absent : '\x7b' ∉ front) (same : spelled parts = front ++ rest) :
    ∃ kept, rest = spelled kept ∧ slots kept = slots parts ∧ ∀ part ∈ kept, part.IsUnbraced := by
  induction parts generalizing front with
  | nil =>
    have nothing : rest = [] := (List.append_eq_nil_iff.mp same.symm).2
    exact ⟨[], nothing, rfl, nofun⟩
  | cons part parts ih =>
    have first := unbraced part List.mem_cons_self
    have others : ∀ part ∈ parts, part.IsUnbraced := fun other inside => unbraced other (List.mem_cons_of_mem _ inside)
    rw [spelled_cons] at same
    cases part with
    | literal text =>
      -- The cut is behind this text, or within it.
      rcases List.append_eq_append_iff.mp same with ⟨more, whole, behind⟩ | ⟨more, whole, behind⟩
      · have further : '\x7b' ∉ more := fun inside => absent (whole ▸ List.mem_append_right _ inside)
        obtain ⟨kept, spelling, names, plain⟩ := ih others further behind
        exact ⟨kept, spelling, names, plain⟩
      · refine ⟨.literal (String.ofList more) :: parts, ?_, rfl, ?_⟩
        · rw [behind, spelled_cons, Part.chars, String.toList_ofList]
        · intro part inside
          rcases List.mem_cons.mp inside with rfl | later
          · intro brace
            rw [String.toList_ofList] at brace
            have here : '\x7b' ∈ text.toList := by
              change '\x7b' ∈ (Part.literal text).chars
              rw [whole]
              exact List.mem_append_right _ brace
            exact first here
          · exact others part later
    | slot name =>
      cases front with
      | nil => exact ⟨.slot name :: parts, same.symm, rfl, unbraced⟩
      | cons c front =>
        obtain ⟨rfl, _⟩ := List.cons.inj same
        exact absurd List.mem_cons_self absent

/-- Nor does text without a closing brace at the end. -/
theorem exists_spelled_before {parts : List Part} (unbraced : ∀ part ∈ parts, part.IsUnbraced) {rest back : List Char}
    (absent : '\x7d' ∉ back) (same : spelled parts = rest ++ back) :
    ∃ kept, rest = spelled kept ∧ slots kept = slots parts ∧ ∀ part ∈ kept, part.IsUnbraced := by
  induction parts using List.reverseRecOn generalizing back with
  | nil =>
    have nothing : rest = [] := (List.append_eq_nil_iff.mp same.symm).1
    exact ⟨[], nothing, rfl, nofun⟩
  | append_singleton parts part ih =>
    have last := unbraced part (List.mem_append_right _ List.mem_cons_self)
    have others : ∀ part ∈ parts, part.IsUnbraced := fun other inside => unbraced other (List.mem_append_left _ inside)
    have whole : spelled (parts ++ [part]) = spelled parts ++ part.chars := by simp [spelled]
    rw [whole] at same
    cases part with
    | literal text =>
      have names : slots (parts ++ [.literal text]) = slots parts := by simp [slots, Part.name?]
      rw [names]
      rcases List.append_eq_append_iff.mp same with ⟨more, before, behind⟩ | ⟨more, before, behind⟩
      · refine ⟨parts ++ [.literal (String.ofList more)], ?_, by simp [slots, Part.name?], ?_⟩
        · simp [spelled, before, Part.chars]
        · intro part inside
          rcases List.mem_append.mp inside with earlier | here
          · exact others part earlier
          · rw [List.mem_singleton.mp here]
            intro brace
            rw [String.toList_ofList] at brace
            have there : '\x7b' ∈ text.toList := by
              change '\x7b' ∈ (Part.literal text).chars
              rw [behind]
              exact List.mem_append_left _ brace
            exact last there
      · have further : '\x7d' ∉ more := fun inside => absent (behind ▸ List.mem_append_left _ inside)
        exact ih others further before
    | slot name =>
      rcases List.eq_nil_or_concat back with rfl | ⟨front, c, rfl⟩
      · refine ⟨parts ++ [.slot name], ?_, rfl, unbraced⟩
        rw [whole, same, List.append_nil]
      · have regrouped : (spelled parts ++ '\x7b' :: name.toList) ++ ['\x7d'] = (rest ++ front) ++ [c] := by
          simpa [Part.chars, placeholder] using same
        obtain ⟨_, ended⟩ := List.append_inj' regrouped rfl
        cases ended
        exact absurd (by simp) absent

/-- Where filling starts, the placeholders are those of the path. -/
theorem exists_spelled_start {path : String} {parts : List Part} (shape : path.toList = spelled parts)
    (unbraced : ∀ part ∈ parts, part.IsUnbraced) :
    ∃ begun, startPath path = spelled begun ∧ slots begun = slots parts ∧ ∀ part ∈ begun, part.IsUnbraced := by
  obtain ⟨front, back, whole, left, right⟩ := Text.exists_trimmed path.toList
  have opening : '\x7b' ∉ front := fun inside => absurd (left _ inside) (by decide)
  have closing : '\x7d' ∉ back := fun inside => absurd (right _ inside) (by decide)
  obtain ⟨behind, cut, names, plain⟩ := exists_spelled_behind unbraced opening (shape.symm.trans whole)
  obtain ⟨kept, trimmed, same, still⟩ := exists_spelled_before plain closing cut.symm
  rw [names] at same
  rw [startPath, trimmed]
  split
  · rename_i rest slashed
    exact ⟨kept, slashed.symm, same, still⟩
  · refine ⟨.literal "/" :: kept, rfl, same, ?_⟩
    intro part inside
    rcases List.mem_cons.mp inside with rfl | later
    · change '\x7b' ∉ "/".toList
      decide
    · exact still part later

/-- The path with all placeholders filled at once, or the first one that has no value. -/
theorem filledPath_spelled {template : Template} {parts begun : List Part} (start : startPath template.path = spelled begun)
    (names : slots begun = slots parts) (unbraced : ∀ part ∈ begun, part.IsUnbraced)
    (given : ∀ parameter ∈ template.pathParameters, IsBraceless parameter.1) (storeId : Option String) :
    template.filledPath storeId =
      match (slots parts).find? fun name => (template.value? storeId name).isNone with
      | some name => .error (.invalidParameter name template.operation)
      | none => .ok (spelled (begun.map (Part.resolve (template.value? storeId)))) := by
  have closed : ∀ parameter ∈ template.pathParameters, '\x7d' ∉ parameter.1.toList := fun parameter inside =>
    (given parameter inside).2
  have resolved := fillsApart_spelled.resolve unbraced closed (by decide) storeId
  have still : ∀ part ∈ begun.map (Part.resolve (template.value? storeId)), part.IsUnbraced := by
    intro part inside
    obtain ⟨before, here, rfl⟩ := List.mem_map.mp inside
    exact (unbraced before here).resolve _
  have left : openPlaceholder? (spelled (begun.map (Part.resolve (template.value? storeId)))) =
      (slots parts).find? fun name => (template.value? storeId name).isNone := by
    rw [openPlaceholder?_spelled still, slots_resolve, names, List.head?_filter]
  rw [filledPath, start, resolved]
  cases found : (slots parts).find? fun name => (template.value? storeId name).isNone with
  | none => simp only [left, found]
  | some name => simp only [left, found]

theorem error_of_setHeaders {operation : String} {request : Request} {headers : List (String × String)}
    {error : ClientError} (failed : setHeaders operation request headers = .error error) :
    error = .invalidParameter "headers" operation := by
  induction headers generalizing request with
  | nil => cases failed
  | cons header headers ih =>
    obtain ⟨name, value⟩ := header
    rw [setHeaders] at failed
    split at failed
    · rename_i other pair
      cases failed
      unfold Configuration.headerPair at pair
      split at pair
      · cases pair
      · cases pair
        rfl
    · exact ih failed

theorem error_of_setBody {operation : String} {request : Request} {body : Body} {error : ClientError}
    (failed : setBody operation request body = .error error) : ∃ fault, error = .encode operation (.json fault) := by
  unfold setBody at failed
  split at failed
  · cases failed
  · cases failed
  · cases failed
    exact ⟨_, rfl⟩
  · cases failed

end Template

namespace Client

open Template

variable {client : Client} {template : Template}

/-- Why a template is not made into a request if its path can be filled. -/
theorem error_of_fillTemplate {path : List Char} (filled : template.filledPath client.config.storeId = .ok path)
    {error : ClientError} (failed : client.fillTemplate template = .error error) :
    Text.isBlank template.path = true ∧ error = .invalidParameter "path" template.operation ∨
      client.join path template.operation = .error error ∨
      error = .invalidParameter "headers" template.operation ∨
      ∃ fault, error = .encode template.operation (.json fault) := by
  rcases Except.bind_eq_error failed with blank | ⟨_, _, failed⟩
  · left
    rw [requirePresent] at blank
    split at blank
    · rename_i empty
      cases blank
      exact ⟨empty, rfl⟩
    · cases blank
  · right
    rcases Except.bind_eq_error failed with unread | ⟨url, _, failed⟩
    · left
      rcases Except.bind_eq_error unread with unfilled | ⟨other, same, unread⟩
      · rw [filled] at unfilled
        cases unfilled
      · rw [filled] at same
        cases same
        rcases Except.bind_eq_error unread with unjoined | ⟨_, _, unread⟩
        · exact unjoined
        · cases unread
    · right
      rcases Except.bind_eq_error failed with headers | ⟨request, _, failed⟩
      · exact Or.inl (error_of_setHeaders headers)
      · exact Or.inr (error_of_setBody failed)

/-- A placeholder is not white space. -/
theorem not_isBlank_of_slot {parts : List Part} (shape : template.path.toList = spelled parts) {name : String}
    (inside : name ∈ slots parts) : Text.isBlank template.path = false := by
  obtain ⟨part, member, named⟩ := List.mem_filterMap.mp inside
  cases part with
  | literal text => cases named
  | slot other =>
    have brace : '\x7b' ∈ template.path.toList := by
      rw [shape]
      exact List.mem_flatMap.mpr ⟨_, member, List.mem_cons_self⟩
    refine Bool.eq_false_iff.mpr fun blank => ?_
    exact absurd (List.all_eq_true.mp blank _ brace) (by decide)

/-- A template is filled as if all its placeholders were replaced at once, each by the encoded value of its name, whatever
the values are. If there are names without a value, that of the leftmost such placeholder is refused. Otherwise the request
goes to the URL of the filled path, or fails for the path as a whole, the headers or the body. -/
theorem fillTemplate_at_once (client : Client) (template : Template) (parts : List Part)
    (shape : template.path.toList = spelled parts) (unbraced : ∀ part ∈ parts, part.IsUnbraced)
    (given : ∀ parameter ∈ template.pathParameters, IsBraceless parameter.1) :
    ∃ begun, startPath template.path = spelled begun ∧ slots begun = slots parts ∧ (∀ part ∈ begun, part.IsUnbraced) ∧
      match (slots parts).find? fun name => (template.value? client.config.storeId name).isNone with
      | some name => client.fillTemplate template = .error (.invalidParameter name template.operation)
      | none =>
        ∃ path, path = spelled (begun.map (Part.resolve (template.value? client.config.storeId))) ∧
          template.filledPath client.config.storeId = .ok path ∧
          (∀ request, client.fillTemplate template = .ok request →
            ∃ url, client.join path template.operation = .ok url ∧ ∃ query, request.url = { url with query := query }) ∧
          ∀ error, client.fillTemplate template = .error error →
            Text.isBlank template.path = true ∧ error = .invalidParameter "path" template.operation ∨
              client.join path template.operation = .error error ∨
              error = .invalidParameter "headers" template.operation ∨
              ∃ fault, error = .encode template.operation (.json fault) := by
  obtain ⟨begun, start, names, plain⟩ := exists_spelled_start shape unbraced
  refine ⟨begun, start, names, plain, ?_⟩
  have filled := filledPath_spelled start names plain given client.config.storeId
  split
  · rename_i name found
    rw [found] at filled
    have solid := not_isBlank_of_slot shape (List.mem_of_find?_eq_some found)
    have present : requirePresent (some template.path) "path" template.operation = .ok () := by
      rw [requirePresent, solid]
      rfl
    have unwritten : client.templateUrl template = .error (.invalidParameter name template.operation) := by
      rw [templateUrl, filled]
      rfl
    rw [fillTemplate, present, unwritten]
    rfl
  · rename_i found
    rw [found] at filled
    refine ⟨_, rfl, filled, ?_, fun error failed => error_of_fillTemplate filled failed⟩
    intro request done
    obtain ⟨path, url, same, joined, query, whole⟩ := join_of_fillTemplate done
    rw [filled] at same
    cases same
    exact ⟨url, joined, query, whole⟩

/-- A client with a configured store. -/
def stocked : Client := { hosted with config := { hosted.config with storeId := some " 0 1 " } }

/-- A template with placeholders side by side, one of them twice, and values that look like placeholders. -/
def tangled : Template :=
  { Template.new "GET" " a\x7bx\x7d\x7by\x7d/b\x7bx\x7d-\x7bstore_id\x7d" with
    pathParameters := [("x", "\x7by\x7d"), ("y", "\x7bx\x7d")] }

def tangledParts : List Part :=
  [.literal " a", .slot "x", .slot "y", .literal "/b", .slot "x", .literal "-", .slot "store_id"]

theorem fillTemplate_at_once_tangled :
    tangled.path.toList = spelled tangledParts ∧ (∀ part ∈ tangledParts, part.IsUnbraced) ∧
    (∀ parameter ∈ tangled.pathParameters, IsBraceless parameter.1) ∧
    (∃ request path url, stocked.fillTemplate tangled = .ok request ∧ tangled.filledPath (some " 0 1 ") = .ok path ∧
      stocked.join path tangled.operation = .ok url ∧ (∃ query, request.url = { url with query := query }) ∧
      request.url.path = .segments ["v1", "a%7By%7D%7Bx%7D", "b%7By%7D-0%201"]) ∧
    stocked.fillTemplate { tangled with pathParameters := [("x", "\x7by\x7d")] } =
      .error (.invalidParameter "y" tangled.operation) := by
  have shape : tangled.path.toList = spelled tangledParts := by decide +kernel
  have unbraced : ∀ part ∈ tangledParts, part.IsUnbraced := by
    intro part inside
    simp only [tangledParts, List.mem_cons, List.not_mem_nil, or_false] at inside
    rcases inside with rfl | rfl | rfl | rfl | rfl | rfl | rfl <;> simp [Part.IsUnbraced]
  have given : ∀ parameter ∈ tangled.pathParameters, IsBraceless parameter.1 := by decide
  obtain ⟨request, made, trail⟩ : ∃ request, stocked.fillTemplate tangled = .ok request ∧
      request.url.path = .segments ["v1", "a%7By%7D%7Bx%7D", "b%7By%7D-0%201"] := by
    have done : (stocked.fillTemplate tangled).toOption.map (·.url.path) =
        some (.segments ["v1", "a%7By%7D%7Bx%7D", "b%7By%7D-0%201"]) := by decide +kernel
    obtain ⟨request, filled, same⟩ := Option.map_eq_some_iff.mp done
    exact ⟨request, Except.eq_ok_of_toOption filled, same⟩
  refine ⟨shape, unbraced, given, ?_, ?_⟩
  · obtain ⟨begun, _, _, _, whole⟩ := fillTemplate_at_once stocked tangled tangledParts shape unbraced given
    have all : (slots tangledParts).find? (fun name => (tangled.value? stocked.config.storeId name).isNone) = none := by
      decide +kernel
    rw [all] at whole
    obtain ⟨path, _, filled, joins, _⟩ := whole
    obtain ⟨url, joined, query⟩ := joins request made
    exact ⟨request, path, url, made, filled, joined, query, trail⟩
  · obtain ⟨begun, _, _, _, whole⟩ := fillTemplate_at_once stocked
      { tangled with pathParameters := [("x", "\x7by\x7d")] } tangledParts shape unbraced (by decide)
    have left : (slots tangledParts).find? (fun name =>
        (Template.value? { tangled with pathParameters := [("x", "\x7by\x7d")] } stocked.config.storeId name).isNone) =
          some "y" := by
      decide +kernel
    rw [left] at whole
    exact whole

end Client

end AuthzClient
