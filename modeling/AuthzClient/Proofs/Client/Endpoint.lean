import AuthzClient.Proofs.Client.Filling
import AuthzClient.Proofs.Client.Joining

/-!
The endpoint that a filled template leads to. Values of parameters are encoded, so that they neither end a segment nor
begin another part of the URL. Points are not encoded, though, and a value of one or two points alone is a dot segment
when the URL is read. All other values stay in their place.
-/

namespace AuthzClient

open Text

section Points

/-- The only texts that are encoded as one or two points. -/
theorem encode_eq_points (s : String) :
    Utf8.encode s = [0x2e] ∨ Utf8.encode s = [0x2e, 0x2e] ↔ s = "." ∨ s = ".." := by
  constructor
  · rintro (one | two)
    · obtain ⟨rest, first, empty⟩ := Utf8.encodeChars_eq_cons one (by decide)
      left
      rw [← String.toList_inj, first, Utf8.encodeChars_eq_nil empty]
      rfl
    · obtain ⟨rest, first, next⟩ := Utf8.encodeChars_eq_cons two (by decide)
      obtain ⟨rest, rfl, empty⟩ := Utf8.encodeChars_eq_cons next (by decide)
      right
      rw [← String.toList_inj, first, Utf8.encodeChars_eq_nil empty]
      rfl
  · rintro (rfl | rfl)
    · exact Or.inl (by decide)
    · exact Or.inr (by decide)

theorem isDots_component (value : String) :
    Url.isDots (Percent.component value).toList = true ↔ value = "." ∨ value = ".." := by
  rw [Url.isDots_iff, ← encode_eq_points]
  change Percent.decode (Utf8.encode (Percent.component value)) = _ ∨
    Percent.decode (Utf8.encode (Percent.component value)) = _ ↔ _
  rw [Percent.decode_component]

end Points

namespace Template

/-- A name that stands for a part: the text of a literal one, and what decodes to the value of a placeholder. -/
inductive Part.Fits (values : String → Option String) : Part → String → Prop
  | literal (text : String) : Fits values (.literal text) text
  | slot {name value segment : String} : values name = some value →
      Percent.decode (Utf8.encode segment) = Utf8.encode value → Fits values (.slot name) segment

/-- A path that has the names of a trunk and behind them one for each part. -/
def Leads (trunk : List String) (values : String → Option String) (parts : List Part) (path : Url.Path) : Prop :=
  ∃ names, path = .segments (trunk ++ names) ∧ List.Forall₂ (Part.Fits values) parts names

/-- A template whose path consists of plain parts. -/
structure IsDivided (template : Template) (parts : List Part) : Prop where
  shape : startPath template.path = pathOf parts
  plain : ∀ part ∈ parts, part.IsPlain
  /-- No parameter has a name that reaches over several parts: one named `a}/{b` would fill two parts with one value, which
  is that of neither. -/
  apart : ∀ name value, (name, value) ∈ template.pathParameters → '/' ∉ name.toList ∨ '\x7d' ∉ name.toList

section Parts

variable {values : String → Option String} {part : Part} {segment : List Char}

theorem component_of_isPlain {text : String} (plain : (Part.literal text).IsPlain) : Percent.component text = text := by
  rw [Percent.component, Percent.encodeChars_allowed, String.ofList_toList]
  intro c inside
  have free := List.all_eq_true.mp plain.1 c inside
  simpa only [Part.isFree, Bool.and_eq_true, decide_eq_true_eq] using free

/-- What is written for a plain part is plain. -/
theorem Part.Becomes.isSegmentChar (becomes : part.Becomes values segment) (plain : part.IsPlain) {c : Char}
    (inside : c ∈ segment) : Url.isSegmentChar c = true := by
  cases becomes with
  | literal text =>
    rw [← component_of_isPlain plain] at inside
    exact Url.isSegmentChar_of_mem_component inside
  | slot => exact Url.isSegmentChar_of_mem_component inside

/-- Only a value of points makes a dot segment. -/
theorem Part.Becomes.isDots (becomes : part.Becomes values segment) (plain : part.IsPlain)
    (dots : Url.isDots segment = true) :
    ∃ name, part = .slot name ∧ (values name = some "." ∨ values name = some "..") := by
  cases becomes with
  | literal text =>
    rw [← component_of_isPlain plain, isDots_component] at dots
    exact absurd dots (not_or.mpr plain.2)
  | slot given => exact ⟨_, rfl, by simpa [given] using (isDots_component _).mp dots⟩

theorem Part.Becomes.fits (becomes : part.Becomes values segment) : part.Fits values (String.ofList segment) := by
  cases becomes with
  | literal text => exact String.ofList_toList ▸ .literal text
  | slot given => exact .slot given (String.ofList_toList ▸ Percent.decode_component _)

/-- What decodes to points is a dot segment. -/
theorem Part.Fits.isDots {name segment : String} (fits : (Part.slot name).Fits values segment)
    (points : values name = some "." ∨ values name = some "..") : Url.isDots segment.toList = true := by
  obtain _ | ⟨given, read⟩ := fits
  rw [given, Option.some.injEq, Option.some.injEq, ← encode_eq_points, ← read] at points
  exact (Url.isDots_iff _).mpr points

end Parts

theorem exists_of_forall₂ {α β : Type} {R : α → β → Prop} {front : List α} {behind : List β}
    (all : List.Forall₂ R front behind) {a : α} (inside : a ∈ front) : ∃ b ∈ behind, R a b := by
  induction all with
  | nil => cases inside
  | cons related _ ih =>
    rcases List.mem_cons.mp inside with rfl | later
    · exact ⟨_, List.mem_cons_self, related⟩
    · obtain ⟨b, here, related⟩ := ih later
      exact ⟨b, List.mem_cons_of_mem _ here, related⟩

variable {values : String → Option String} {parts : List Part} {above segments : List (List Char)}

/-- The parts keep their places behind a trunk unless the value of one of them consists of points. -/
theorem leads_resolve_iff (undotted : ∀ segment ∈ above, Url.isDots segment = false)
    (becomes : List.Forall₂ (Part.Becomes values) parts segments) (present : segments ≠ [])
    (plain : ∀ part ∈ parts, part.IsPlain) :
    Leads (above.map String.ofList) values parts (Url.pathOf (Url.resolve [] (above ++ segments))) ↔
      ∀ name, .slot name ∈ parts → values name ≠ some "." ∧ values name ≠ some ".." := by
  constructor
  · rintro ⟨names, same, fits⟩ name inside
    rw [← not_or]
    intro points
    obtain ⟨last, here, fits⟩ := exists_of_forall₂ fits inside
    have dots := fits.isDots points
    -- No segment of a path that was read is one of points.
    have read : last.toList ∈ Url.resolve [] (above ++ segments) := by
      have names := Url.Path.segments.inj same
      obtain ⟨segment, inside, rfl⟩ := List.mem_map.mp (names ▸ List.mem_append_right _ here)
      rwa [String.toList_ofList]
    rcases Url.mem_resolve read with nowhere | empty | ⟨_, plain⟩
    · cases nowhere
    · rw [empty, Url.isDots_nil] at dots
      cases dots
    · rw [plain] at dots
      cases dots
  · intro apart
    have plain : ∀ segment ∈ above ++ segments, Url.isDots segment = false := by
      intro segment inside
      rcases List.mem_append.mp inside with trunk | below
      · exact undotted segment trunk
      · refine Bool.eq_false_iff.mpr fun dots => ?_
        obtain ⟨part, here, becomes⟩ := exists_of_forall₂ becomes.flip below
        obtain ⟨name, rfl, points⟩ := becomes.isDots (plain part here) dots
        exact not_or.mpr (apart name here) points
    rw [Url.resolve_plain (List.append_ne_nil_of_right_ne_nil _ present) plain]
    refine ⟨segments.map String.ofList, ?_, ?_⟩
    · simp [Url.pathOf]
    · rw [List.forall₂_map_right_iff]
      exact becomes.imp fun _ _ becomes => becomes.fits

end Template

namespace Client

variable {config : Configuration} {client : Client}

theorem url_of_setHeaders {operation : String} {request filled : Request} {headers : List (String × String)}
    (done : Template.setHeaders operation request headers = .ok filled) : filled.url = request.url := by
  induction headers generalizing request with
  | nil =>
    cases done
    rfl
  | cons header headers ih =>
    obtain ⟨name, value⟩ := header
    rw [Template.setHeaders] at done
    split at done
    · cases done
    · exact (ih done).trans rfl

theorem url_of_setBody {operation : String} {request filled : Request} {body : Template.Body}
    (done : Template.setBody operation request body = .ok filled) : filled.url = request.url := by
  unfold Template.setBody at done
  split at done
  · cases done
    rfl
  · cases done
    rfl
  · cases done
  · cases done
    dsimp only [Request.withBody]
    split <;> rfl

theorem templateUrl_of_fillTemplate {template : Template} {request : Request}
    (done : client.fillTemplate template = .ok request) : client.templateUrl template = .ok request.url := by
  obtain ⟨_, _, done⟩ := Except.bind_eq_ok done
  obtain ⟨url, written, done⟩ := Except.bind_eq_ok done
  obtain ⟨headed, headers, done⟩ := Except.bind_eq_ok done
  rw [url_of_setBody done, url_of_setHeaders headers]
  exact written

/-- A template that is filled has its path joined; nothing else but pairs of the query comes to the URL. -/
theorem join_of_fillTemplate {template : Template} {request : Request} (done : client.fillTemplate template = .ok request) :
    ∃ path url, template.filledPath client.config.storeId = .ok path ∧ client.join path template.operation = .ok url ∧
      ∃ query, request.url = { url with query := query } := by
  obtain ⟨path, filled, written⟩ := Except.bind_eq_ok (templateUrl_of_fillTemplate done)
  obtain ⟨url, joined, written⟩ := Except.bind_eq_ok written
  refine ⟨path, url, filled, joined, ?_⟩
  have same : request.url =
      if template.queryParameters.isEmpty then url else url.appendPairs template.queryParameters :=
    (Except.ok.inj written).symm
  rw [same]
  split
  · exact ⟨url.query, rfl⟩
  · exact ⟨_, rfl⟩

theorem join_of_objectsRequest {storeId : String} {body : Except Json.Fault Json} {request : Request}
    (done : client.objectsRequest storeId body = .ok request) :
    client.join (objectsPath storeId) objectsOperation = .ok request.url := by
  obtain ⟨_, _, done⟩ := Except.bind_eq_ok done
  split at done
  · cases done
  · cases done
  · obtain ⟨url, joined, done⟩ := Except.bind_eq_ok done
    cases done
    exact joined

/-- Where the parts of a path lead that are joined to the URL of a server. -/
theorem leads_of_join (made : ofConfiguration config = .ok client) (bare : client.baseUrl.IsBare)
    {values : String → Option String} {parts : List Template.Part} {segments : List (List Char)} (present : parts ≠ [])
    (plain : ∀ part ∈ parts, part.IsPlain) (becomes : List.Forall₂ (Template.Part.Becomes values) parts segments)
    {operation : String} {url : Url} (joined : client.join (Url.written segments) operation = .ok url) :
    client.baseUrl.IsSite url ∧ (Template.Leads client.baseUrl.trunk values parts url.path ↔
      ∀ name, .slot name ∈ parts → values name ≠ some "." ∧ values name ≠ some "..") := by
  obtain ⟨base⟩ := exists_base made
  have named : segments ≠ [] := by
    rintro rfl
    cases becomes
    exact present rfl
  have chars : ∀ segment ∈ segments, ∀ c ∈ segment, Url.isSegmentChar c = true := by
    intro segment inside c here
    obtain ⟨part, below, becomes⟩ := Template.exists_of_forall₂ becomes.flip inside
    exact becomes.isSegmentChar (plain part below) here
  obtain ⟨site, path⟩ := base.join_written bare named chars joined
  refine ⟨site, ?_⟩
  rw [path, base.trunk_eq]
  exact Template.leads_resolve_iff (fun segment inside => (base.isSegment_trunk inside).undotted) becomes named plain

/-- The parts of the path under which the objects of a store are listed. -/
def objectsParts : List Template.Part :=
  [.literal "stores", .slot Template.storeName, .literal "streamed-list-objects"]

theorem isPlain_objectsParts : ∀ part ∈ objectsParts, part.IsPlain := by decide

theorem objectsPath_eq (storeId : String) :
    objectsPath storeId =
      Url.written ["stores".toList, (Percent.component (Text.trim storeId)).toList, "streamed-list-objects".toList] := by
  have front : "/stores/".toList = '/' :: ("stores".toList ++ ['/']) := by decide
  have behind : "/streamed-list-objects".toList = '/' :: ("streamed-list-objects".toList ++ []) := by decide
  unfold objectsPath
  simp only [front, behind, Url.written, List.flatMap_cons, List.flatMap_nil, List.cons_append, List.append_assoc,
    List.nil_append]

/-- A request is sent to the site of the server whatever the values of parameters are, and it goes to the endpoint of
the template exactly if no value consists of one or two points. -/
theorem leads_iff (made : ofConfiguration config = .ok client) (bare : client.baseUrl.IsBare) :
    (∀ template parts request, template.IsDivided parts → client.fillTemplate template = .ok request →
      client.baseUrl.IsSite request.url ∧
        (Template.Leads client.baseUrl.trunk (template.value? client.config.storeId) parts request.url.path ↔
          ∀ name, .slot name ∈ parts → template.value? client.config.storeId name ≠ some "." ∧
            template.value? client.config.storeId name ≠ some "..")) ∧
    ∀ storeId body request, client.objectsRequest storeId body = .ok request →
      client.baseUrl.IsSite request.url ∧
        (Template.Leads client.baseUrl.trunk (fun _ => some (Text.trim storeId)) objectsParts request.url.path ↔
          Text.trim storeId ≠ "." ∧ Text.trim storeId ≠ "..") := by
  constructor
  · intro template parts request divided done
    obtain ⟨path, url, filled, joined, query, same⟩ := join_of_fillTemplate done
    obtain ⟨segments, rfl, becomes⟩ := Template.filledPath_ok divided.shape divided.plain divided.apart filled
    have present : parts ≠ [] := by
      rintro rfl
      have shape := divided.shape
      unfold Template.startPath at shape
      split at shape <;> cases shape
    obtain ⟨⟨site, read, rest⟩, leads⟩ := leads_of_join made bare present divided.plain becomes joined
    rw [same]
    exact ⟨⟨site, read, rest⟩, leads⟩
  · intro storeId body request done
    have joined := join_of_objectsRequest done
    rw [objectsPath_eq] at joined
    have becomes : List.Forall₂ (Template.Part.Becomes fun _ => some (Text.trim storeId)) objectsParts
        ["stores".toList, (Percent.component (Text.trim storeId)).toList, "streamed-list-objects".toList] :=
      .cons (.literal _) (.cons (.slot rfl) (.cons (.literal _) .nil))
    obtain ⟨site, leads⟩ := leads_of_join made bare (List.cons_ne_nil _ _) isPlain_objectsParts becomes joined
    refine ⟨site, leads.trans ?_⟩
    simp

/-- A client of a server that has a path of its own. -/
def hosted : Client where
  config := { Configuration.standard with apiUrl := "https://api.fga.example/v1/" }
  baseUrl := ⟨"https", "", none, some (.domain "api.fga.example"), none, .segments ["v1", ""], none, none⟩
  identity := .none
  authorizer := .none

/-- An object in a store. -/
def objectTemplate (object : String) : Template :=
  { Template.new "GET" "/stores/\x7bstore_id\x7d/objects/\x7bobject\x7d" with
    pathParameters := [("object", object), ("store_id", "01H")] }

def objectParts : List Template.Part := [.literal "stores", .slot "store_id", .literal "objects", .slot "object"]

theorem isDivided_objectTemplate (object : String) : (objectTemplate object).IsDivided objectParts where
  shape := by
    change Template.startPath "/stores/\x7bstore_id\x7d/objects/\x7bobject\x7d" = _
    decide +kernel
  plain := by decide
  apart := by
    intro name value inside
    change (name, value) ∈ [("object", object), ("store_id", "01H")] at inside
    simp only [List.mem_cons, Prod.mk.injEq, List.not_mem_nil, or_false] at inside
    rcases inside with ⟨rfl, _⟩ | ⟨rfl, _⟩
    · decide
    · decide

theorem ofConfiguration_hosted : ofConfiguration hosted.config = .ok hosted :=
  Except.eq_ok_of_toOption (by decide +kernel)

theorem exists_of_path (template : Template) (path : Url.Path)
    (done : (hosted.fillTemplate template).toOption.map (·.url.path) = some path) :
    ∃ request, hosted.fillTemplate template = .ok request ∧ request.url.path = path := by
  obtain ⟨request, filled, same⟩ := Option.map_eq_some_iff.mp done
  exact ⟨request, Except.eq_ok_of_toOption filled, same⟩

theorem leads_iff_hosted :
    ofConfiguration hosted.config = .ok hosted ∧ hosted.baseUrl.IsBare ∧
    (objectTemplate "../a é?").IsDivided objectParts ∧
    ∃ request, hosted.fillTemplate (objectTemplate "../a é?") = .ok request ∧
      request.url.path = .segments ["v1", "stores", "01H", "objects", "..%2Fa%20%C3%A9%3F"] ∧
      hosted.baseUrl.IsSite request.url ∧
      Template.Leads ["v1"] ((objectTemplate "../a é?").value? none) objectParts request.url.path := by
  have bare : hosted.baseUrl.IsBare := ⟨rfl, rfl⟩
  have divided := isDivided_objectTemplate "../a é?"
  obtain ⟨request, filled, path⟩ := exists_of_path (objectTemplate "../a é?")
    (.segments ["v1", "stores", "01H", "objects", "..%2Fa%20%C3%A9%3F"]) (by decide +kernel)
  obtain ⟨site, leads⟩ := (leads_iff ofConfiguration_hosted bare).1 _ _ request divided filled
  refine ⟨ofConfiguration_hosted, bare, divided, request, filled, path, site, leads.mpr fun name inside => ?_⟩
  have names : ∀ part ∈ objectParts, ∀ name, part = .slot name → name ∈ ["store_id", "object"] := by
    simp [objectParts]
  have apart : ∀ name ∈ ["store_id", "object"], (objectTemplate "../a é?").value? none name ≠ some "." ∧
      (objectTemplate "../a é?").value? none name ≠ some ".." := by decide
  exact apart name (names _ inside name rfl)

/-- With two points for the object the request goes to the store. -/
theorem not_leads_hosted :
    (objectTemplate "..").IsDivided objectParts ∧
    ∃ request, hosted.fillTemplate (objectTemplate "..") = .ok request ∧
      request.url.path = .segments ["v1", "stores", "01H", ""] ∧
      ¬Template.Leads hosted.baseUrl.trunk ((objectTemplate "..").value? none) objectParts request.url.path := by
  obtain ⟨request, filled, path⟩ := exists_of_path (objectTemplate "..")
    (.segments ["v1", "stores", "01H", ""]) (by decide +kernel)
  refine ⟨isDivided_objectTemplate "..", request, filled, path, ?_⟩
  rintro ⟨names, same, fits⟩
  have trunk : hosted.baseUrl.trunk = ["v1"] := by decide
  have length := congrArg List.length (Url.Path.segments.inj (path.symm.trans same))
  rw [trunk, List.length_append, ← fits.length_eq] at length
  exact absurd length (by decide)

end Client

end AuthzClient
