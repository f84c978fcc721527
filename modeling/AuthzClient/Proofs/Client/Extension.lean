import AuthzClient.Proofs.Client.Origin
import AuthzClient.Proofs.Text.Trimming

/-!
Plain paths behind the URL of a server. They come behind the server's own path if its URL ends there. If it has a query
or a fragment they come behind that, because the URL is extended as text.
-/

namespace AuthzClient

open Text

namespace Url

section Extended

/-- A text without slashes at its end, and names behind it. -/
def followed (text : String) (names : List String) : String :=
  String.ofList (text.toList.rdropWhile (· == '/') ++ (Path.segments names).chars)

/-- Names behind the last part that a URL writes. -/
def extended (url : Url) (names : List String) : Url :=
  match url.fragment, url.query with
  | some fragment, _ => { url with fragment := some (followed fragment names) }
  | none, some query => { url with query := some (followed query names) }
  | none, none => { url with path := .segments (url.trunk ++ names) }

/-- Names of unreserved characters that lead to no other place. -/
def ArePlain (names : List String) : Prop := ∀ name ∈ names, name ≠ "" ∧ (Template.Part.literal name).IsPlain

instance (names : List String) : Decidable (ArePlain names) :=
  inferInstanceAs (Decidable (∀ name ∈ names, name ≠ "" ∧ (Template.Part.literal name).IsPlain))

variable {url : Url} {names : List String}

theorem isEncoded_followed {allowed : UInt8 → Bool} (slash : allowed 0x2f = true)
    (free : ∀ b, Percent.isUnreserved b = true → allowed b = true) (plain : ArePlain names) {text : String}
    (encoded : Percent.IsEncoded allowed text.toList) : Percent.IsEncoded allowed (followed text names).toList := by
  intro c inside
  rw [followed, String.toList_ofList] at inside
  rcases List.mem_append.mp inside with front | behind
  · exact encoded c ((List.rdropWhile_prefix _ _).subset front)
  · obtain ⟨name, here, inside⟩ := List.mem_flatMap.mp behind
    rcases List.mem_cons.mp inside with rfl | inside
    · exact ⟨by decide, slash⟩
    · have known := List.all_eq_true.mp (plain name here).2.1 c inside
      simp only [Template.Part.isFree, Bool.and_eq_true, decide_eq_true_eq] at known
      exact ⟨known.1, free _ known.2⟩

theorem isSettled_extended (settled : url.IsSettled) (plain : ArePlain names) : (url.extended names).IsSettled := by
  have query : ∀ b, Percent.isUnreserved b = true → isQueryByte true b = true := forall_byte (by decide +kernel)
  have fragment : ∀ b, Percent.isUnreserved b = true → isFragmentByte b = true := forall_byte (by decide +kernel)
  unfold extended
  split
  · rename_i text marked
    refine ⟨settled.query, ?_⟩
    rintro _ ⟨⟩
    exact isEncoded_followed rfl fragment plain (settled.fragment text marked)
  · rename_i text unmarked asked
    refine ⟨?_, fun text read => settled.fragment text read⟩
    rintro _ ⟨⟩
    exact isEncoded_followed rfl query plain (settled.query text asked)
  · exact ⟨settled.query, settled.fragment⟩

/-- If a query or a fragment is written behind the path, names that are put behind the text come behind that. -/
theorem tailChars_extended (tailed : ¬url.IsBare) (path : List Char) :
    (path ++ url.tailChars).rdropWhile (· == '/') ++ (Path.segments names).chars =
      path ++ (url.extended names).tailChars := by
  have solid (c : Char) (other : c ≠ '/') (front : List Char) :
      (front ++ [c]).rdropWhile (· == '/') = front ++ [c] :=
    List.rdropWhile_concat_neg _ _ _ (by simpa using other)
  have behind (front text : List Char) {c : Char} (other : c ≠ '/') :
      (front ++ c :: text).rdropWhile (· == '/') = front ++ c :: text.rdropWhile (· == '/') := by
    have apart := rdropWhile_append (solid c other front) text
    simpa using apart
  cases marked : url.fragment with
  | some fragment =>
    have extended : (url.extended names).tailChars = queryChars url.query ++ '#' :: (followed fragment names).toList := by
      simp only [Url.extended, marked]
      rfl
    rw [extended, tailChars_eq, marked, fragmentChars, ← List.append_assoc, behind _ _ (by decide), followed,
      String.toList_ofList]
    simp
  | none =>
    cases asked : url.query with
    | some query =>
      have extended : (url.extended names).tailChars = '?' :: (followed query names).toList := by
        simp only [Url.extended, marked, asked, tailChars_eq]
        simp [queryChars, fragmentChars]
      rw [extended, tailChars_eq, marked, asked, fragmentChars, List.append_nil, queryChars, behind _ _ (by decide),
        followed, String.toList_ofList]
      simp
    | none => exact absurd ⟨asked, marked⟩ tailed

/-- Nothing else changes then. -/
theorem extended_eq (tailed : ¬url.IsBare) (names : List String) :
    { url with query := (url.extended names).query, fragment := (url.extended names).fragment } = url.extended names := by
  unfold extended
  split
  · rfl
  · rfl
  · rename_i unmarked unasked
    exact absurd ⟨unasked, unmarked⟩ tailed

/-- No path consists of its own names and more plain ones. -/
theorem path_ne_trunk_append (present : names ≠ []) (plain : ArePlain names) :
    url.path ≠ .segments (url.trunk ++ names) := by
  intro same
  have trunk : url.trunk = (url.trunk ++ names).rdropWhile String.isEmpty := by
    conv_lhs => rw [Url.trunk, same]
  have whole : (url.trunk ++ names).rdropWhile String.isEmpty = url.trunk ++ names := by
    refine List.rdropWhile_eq_self_iff.mpr fun _ => ?_
    rw [List.getLast_append_of_ne_nil _ present]
    simpa using (plain _ (List.getLast_mem present)).1
  have length := congrArg List.length (trunk.trans whole)
  rw [List.length_append] at length
  exact present (List.eq_nil_of_length_eq_zero (by omega))

end Extended

/-- A URL with pairs at the end of its query. -/
def withPairs (pairs : Entries String) (url : Url) : Url := if pairs.isEmpty then url else url.appendPairs pairs

theorem path_withPairs (pairs : Entries String) (url : Url) : (url.withPairs pairs).path = url.path := by
  unfold withPairs
  split <;> rfl

end Url

namespace Template

/-- A template whose path is written from plain names, with or without a slash in front. -/
structure Spells (template : Template) (names : List String) : Prop where
  shape : template.path.toList = (Url.Path.segments names).chars ∨
    '/' :: template.path.toList = (Url.Path.segments names).chars
  present : names ≠ []
  plain : Url.ArePlain names

variable {template : Template} {names : List String}

theorem fill_absent {path : List Char} (absent : '\x7b' ∉ path) (name value : String) : fill path name value = path := by
  have whole : fill (path ++ []) name value = path ++ fill [] name value := Text.replaceAll_absent_append absent []
  rwa [List.append_nil, show fill [] name value = [] from rfl, List.append_nil] at whole

theorem fillAll_absent {path : List Char} (absent : '\x7b' ∉ path) (parameters : Entries String) :
    Template.fillAll path parameters = path := by
  induction parameters with
  | nil => rfl
  | cons first parameters ih =>
    rw [Template.fillAll, List.foldl_cons]
    dsimp only
    rw [fill_absent absent]
    exact ih

theorem fillStore_absent {path : List Char} (absent : '\x7b' ∉ path) (storeId : Option String) :
    Template.fillStore path storeId = path := by
  unfold Template.fillStore
  split
  · split
    · rfl
    · exact fill_absent absent _ _
  · rfl

theorem isWhite_of_isFree {c : Char} (free : Part.isFree c = true) : isWhite c = false ∧ c ≠ '\x7b' ∧ c ≠ '/' := by
  have all : ∀ c : Char, c.toNat < 0x80 → Part.isFree c = true → isWhite c = false ∧ c ≠ '\x7b' ∧ c ≠ '/' :=
    forall_ascii (by decide +kernel)
  have ascii : c.toNat < 0x80 := by
    simp only [Part.isFree, Bool.and_eq_true, decide_eq_true_eq] at free
    exact free.1
  exact all c ascii free

theorem mem_chars_of_arePlain (plain : Url.ArePlain names) {c : Char} (inside : c ∈ (Url.Path.segments names).chars) :
    c = '/' ∨ Part.isFree c = true := by
  obtain ⟨name, here, inside⟩ := List.mem_flatMap.mp inside
  exact (List.mem_cons.mp inside).imp_right (List.all_eq_true.mp (plain name here).2.1 c)

theorem Spells.mem_path (spells : template.Spells names) {c : Char} (inside : c ∈ template.path.toList) :
    isWhite c = false := by
  have written : c ∈ (Url.Path.segments names).chars := by
    rcases spells.shape with same | same
    · rwa [← same]
    · rw [← same]
      exact List.mem_cons_of_mem _ inside
  rcases mem_chars_of_arePlain spells.plain written with rfl | free
  · rfl
  · exact (isWhite_of_isFree free).1

theorem Spells.startPath (spells : template.Spells names) : startPath template.path = (Url.Path.segments names).chars := by
  rw [Template.startPath, (isTrimmed_of_forall fun _ => spells.mem_path).trimChars_eq]
  obtain ⟨first, rest, rfl⟩ := List.exists_cons_of_ne_nil spells.present
  obtain ⟨solid, plain, _⟩ := spells.plain first List.mem_cons_self
  obtain ⟨c, more, start⟩ := List.exists_cons_of_ne_nil (String.toList_eq_nil_iff.not.mpr solid)
  have other : c ≠ '/' := (isWhite_of_isFree (List.all_eq_true.mp plain c (start ▸ List.mem_cons_self))).2.2
  rcases spells.shape with same | same
  · rw [same]
    rfl
  · have bare : template.path.toList = c :: (more ++ (Url.Path.segments rest).chars) := by
      have whole : (Url.Path.segments (first :: rest)).chars = '/' :: (first.toList ++ (Url.Path.segments rest).chars) := rfl
      rw [whole, start] at same
      exact (List.cons.inj same).2
    rw [← same, bare]
    split
    · rename_i slashed
      exact absurd (List.cons.inj slashed).1 other
    · rfl

/-- A path of plain names is taken as it is. -/
theorem Spells.filledPath (spells : template.Spells names) (storeId : Option String) :
    template.filledPath storeId = .ok (Url.Path.segments names).chars := by
  have absent : '\x7b' ∉ (Url.Path.segments names).chars := by
    intro inside
    rcases mem_chars_of_arePlain spells.plain inside with slash | free
    · cases slash
    · exact (isWhite_of_isFree free).2.1 rfl
  have closed : (Url.Path.segments names).chars.dropWhile (· != '\x7b') = [] := by
    refine List.dropWhile_eq_nil_iff.mpr fun c inside => bne_iff_ne.mpr ?_
    rintro rfl
    exact absent inside
  rw [Template.filledPath, spells.startPath, fillAll_absent absent, fillStore_absent absent, openPlaceholder?, closed]

end Template

namespace Client

variable {config : Configuration} {client : Client}

theorem isSettled_baseUrl (made : ofConfiguration config = .ok client) : client.baseUrl.IsSettled := by
  obtain ⟨text, read, http, visible⟩ := baseUrl_of_ofConfiguration made
  exact Url.isSettled_of_ofChars? read http

theorem isSegment_of_arePlain {names : List String} (plain : Url.ArePlain names) {name : String} (inside : name ∈ names) :
    Url.IsSegment name.toList := by
  obtain ⟨_, free⟩ := plain name inside
  have becomes : Template.Part.Becomes (fun _ => none) (.literal name) name.toList := .literal name
  refine ⟨fun c here => becomes.isSegmentChar free here, Bool.eq_false_iff.mpr fun dots => ?_⟩
  rw [← Template.component_of_isPlain free, isDots_component] at dots
  exact not_or.mpr free.2 dots

namespace Base

variable (base : client.Base) {names : List String} (plain : Url.ArePlain names) (operation : String)

include base plain

/-- Behind a URL without query and fragment, plain names come behind the path. -/
theorem join_extended_bare (bare : client.baseUrl.IsBare) (present : names ≠ []) :
    client.join (Url.Path.segments names).chars operation = .ok (client.baseUrl.extended names) := by
  have segment : ∀ name ∈ names.map String.toList, Url.IsSegment name := by
    intro text inside
    obtain ⟨name, here, rfl⟩ := List.mem_map.mp inside
    exact isSegment_of_arePlain plain here
  have chars : (Url.Path.segments names).chars = Url.written (names.map String.toList) := by
    rw [Url.written, List.flatMap_map]
    rfl
  have named : names.map String.toList ≠ [] := by simpa using present
  have undotted : ∀ name ∈ base.trunk ++ names.map String.toList, Url.isDots name = false := by
    intro name inside
    rcases List.mem_append.mp inside with above | below
    · exact (base.isSegment_trunk above).undotted
    · exact (segment name below).undotted
  have extended : client.baseUrl.extended names =
      { client.baseUrl with path := .segments (client.baseUrl.trunk ++ names) } := by
    simp only [Url.extended, bare.query, bare.fragment]
  have again : names.map (String.ofList ∘ String.toList) = names :=
    (List.map_congr_left fun name _ => String.ofList_toList).trans (List.map_id _)
  rw [chars, base.join_bare bare named (fun name inside => (segment name inside).plain),
    Url.resolve_plain (List.append_ne_nil_of_right_ne_nil _ named) undotted, extended, base.trunk_eq]
  simp only [List.reverse_nil, List.nil_append, Url.pathOf, List.map_append, List.map_map, again]

/-- Behind any other URL they come behind the fragment, or else behind the query. -/
theorem join_extended_tailed (tailed : ¬client.baseUrl.IsBare) (settled : client.baseUrl.IsSettled) :
    client.join (Url.Path.segments names).chars operation = .ok (client.baseUrl.extended names) := by
  have written {c : Char} (inside : c ∈ Url.written base.segments) : c = '/' ∨ Url.isSegmentChar c = true :=
    Url.written_plain (fun segment here => (base.read segment here).plain) inside
  have endless : Url.IsEndless (Url.written base.segments) := fun c inside => Url.not_endsPath (written inside)
  have settled' := Url.isSettled_extended settled plain
  have text : client.basePart ++ (Url.Path.segments names).chars = base.scheme ++ ':' :: '/' :: '/' ::
      (base.authority ++ (Url.written base.segments ++ (client.baseUrl.extended names).tailChars)) := by
    rw [base.basePart_eq, ← Url.tailChars_extended tailed]
    simp
  have visible : ∀ c ∈ Url.written base.segments ++ (client.baseUrl.extended names).tailChars, 0x20 < c.toNat := by
    intro c inside
    rcases List.mem_append.mp inside with above | behind
    · exact Url.above_of_written (written above)
    · exact (Url.visible_tailChars settled' behind).1
  rw [base.join_visible operation text (base.beginsPath_segments _) visible, Url.readPath_tailChars endless,
    Url.readTail_tailChars endless settled', base.readPath_segments_eq]
  exact congrArg Except.ok (Url.extended_eq tailed names)

/-- Plain names are joined behind the last part that the URL of the server writes. -/
theorem join_extended (settled : client.baseUrl.IsSettled) (present : names ≠ []) :
    client.join (Url.Path.segments names).chars operation = .ok (client.baseUrl.extended names) := by
  by_cases bare : client.baseUrl.IsBare
  · exact base.join_extended_bare plain operation bare present
  · exact base.join_extended_tailed plain operation bare settled

end Base

/-- Plain names come behind the path of the server exactly if its URL has neither a query nor a fragment. -/
theorem path_eq_iff_isBare (valid : config.validate = .ok ()) :
    ∃ client, ofConfiguration config = .ok client ∧ config.parsedApiUrl = .ok client.baseUrl ∧
      ∀ template names, template.Spells names → ∃ url, client.templateUrl template = .ok url ∧
        (∀ request, client.fillTemplate template = .ok request → request.url = url) ∧
        url = (client.baseUrl.extended names).withPairs template.queryParameters ∧
        (url.path = .segments (client.baseUrl.trunk ++ names) ↔ client.baseUrl.IsBare) := by
  obtain ⟨client, made, url⟩ := exists_ofConfiguration valid
  obtain ⟨base⟩ := exists_base made
  refine ⟨client, made, url, fun template names spells => ?_⟩
  have joined := base.join_extended spells.plain template.operation (isSettled_baseUrl made) spells.present
  have whole : client.templateUrl template =
      .ok ((client.baseUrl.extended names).withPairs template.queryParameters) := by
    simp only [templateUrl, spells.filledPath, bind, Except.bind, joined]
    rfl
  refine ⟨_, whole, fun request done => ?_, rfl, ?_⟩
  · exact Except.ok.inj ((templateUrl_of_fillTemplate done).symm.trans whole)
  · rw [Url.path_withPairs]
    constructor
    · intro same
      by_contra tailed
      rw [← Url.extended_eq tailed] at same
      exact Url.path_ne_trunk_append spells.present spells.plain same
    · intro bare
      simp only [Url.extended, bare.query, bare.fragment]

/-- A client of a server with a path of its own that ends in slashes. -/
def prefixed : Client where
  config := { Configuration.standard with apiUrl := "http://ada@[::1]:8080/a//" }
  baseUrl := ⟨"http", "ada", none, some (.ipv6 [0, 0, 0, 0, 0, 0, 0, 1]), some 8080, .segments ["a", "", ""], none, none⟩
  identity := .none
  authorizer := .none

theorem path_eq_iff_isBare_prefixed :
    prefixed.config.validate = .ok () ∧ (Template.new "GET" "stores/01H").Spells ["stores", "01H"] ∧
      ∃ url, prefixed.templateUrl (.new "GET" "stores/01H") = .ok url ∧ url.path = .segments ["a", "stores", "01H"] := by
  have valid : prefixed.config.validate = .ok () := Except.eq_ok_of_toOption (by decide +kernel)
  have known : ofConfiguration prefixed.config = .ok prefixed := Except.eq_ok_of_toOption (by decide +kernel)
  have spells : (Template.new "GET" "stores/01H").Spells ["stores", "01H"] := ⟨Or.inr (by decide), nofun, by decide⟩
  obtain ⟨client, made, _, all⟩ := path_eq_iff_isBare valid
  cases known.symm.trans made
  obtain ⟨url, written, _, _, path⟩ := all _ _ spells
  exact ⟨valid, spells, url, written, path.mpr ⟨rfl, rfl⟩⟩

/-- A client of a server whose URL has a query. -/
def queried : Client where
  config := { Configuration.standard with apiUrl := "https://api.fga.example/v1?tenant=a" }
  baseUrl := ⟨"https", "", none, some (.domain "api.fga.example"), none, .segments ["v1"], some "tenant=a", none⟩
  identity := .none
  authorizer := .none

/-- Behind such a URL the path of a template becomes a part of the query. -/
theorem not_path_eq_queried :
    queried.config.validate = .ok () ∧ ofConfiguration queried.config = .ok queried ∧
      (Template.new "GET" "/stores").Spells ["stores"] ∧
      ∃ request, queried.fillTemplate (.new "GET" "/stores") = .ok request ∧
        request.url.path = .segments ["v1"] ∧ request.url.query = some "tenant=a/stores" ∧
        request.url.path ≠ .segments (queried.baseUrl.trunk ++ ["stores"]) := by
  have valid : queried.config.validate = .ok () := Except.eq_ok_of_toOption (by decide +kernel)
  have made : ofConfiguration queried.config = .ok queried := Except.eq_ok_of_toOption (by decide +kernel)
  have spells : (Template.new "GET" "/stores").Spells ["stores"] := ⟨Or.inl (by decide), nofun, by decide⟩
  have parts : (queried.fillTemplate (.new "GET" "/stores")).toOption.map (fun request => (request.url.path, request.url.query)) =
      some (.segments ["v1"], some "tenant=a/stores") := by decide +kernel
  obtain ⟨request, filled, same⟩ := Option.map_eq_some_iff.mp parts
  obtain ⟨path, query⟩ := Prod.mk.inj same
  refine ⟨valid, made, spells, request, Except.eq_ok_of_toOption filled, path, query, ?_⟩
  rw [path]
  decide

end Client

end AuthzClient
