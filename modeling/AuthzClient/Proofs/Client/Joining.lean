import AuthzClient.Client.Template
import AuthzClient.Proofs.Session.Actions
import AuthzClient.Proofs.Url.Written

/-!
Paths behind the URL of a server. If that URL has neither query nor fragment, a path of plain segments that is put behind
it is read as such: the site stays that of the server, and the segments follow those of the server's own path, with dot
segments resolved.
-/

namespace AuthzClient

namespace Url

/-- What is written in front of the path. -/
def siteChars (url : Url) : List Char := url.scheme.toList ++ ':' :: url.authorityChars

/-- A URL of the same site: the one that is read from the text in front of the path, but for path and query. -/
def IsSite (base url : Url) : Prop :=
  ∃ site, ofChars? base.siteChars = some site ∧ { url with path := site.path, query := site.query } = site

/-- The names of the path without empty ones at its end. -/
def trunk (url : Url) : List String :=
  match url.path with
  | .segments names => names.rdropWhile String.isEmpty
  | .plain _ => []

/-- A URL of the web that shows nothing behind its path. -/
structure IsBare (url : Url) : Prop where
  query : url.query = none
  fragment : url.fragment = none

section Trunk

variable {segments : List (List Char)}

theorem rdropWhile_written (unslashed : ∀ segment ∈ segments, '/' ∉ segment) :
    (written segments).rdropWhile (· == '/') = written (segments.rdropWhile List.isEmpty) := by
  induction segments using List.reverseRecOn with
  | nil => rfl
  | append_singleton segments last ih =>
    have before := ih fun segment inside => unslashed segment (List.mem_append_left _ inside)
    have apart := unslashed last (List.mem_append_right _ List.mem_cons_self)
    rw [written_append]
    rcases List.eq_nil_or_concat last with rfl | ⟨start, c, rfl⟩
    · rw [List.rdropWhile_concat_pos _ _ _ rfl, ← before]
      exact List.rdropWhile_concat_pos _ _ _ rfl
    · have other : c ≠ '/' := by
        rintro rfl
        exact apart (by simp)
      rw [List.rdropWhile_concat_neg List.isEmpty _ _ (by simp), written_append]
      have same : written segments ++ written [start.concat c] = (written segments ++ '/' :: start) ++ [c] := by
        simp [written]
      rw [same]
      exact List.rdropWhile_concat_neg _ _ _ (by simpa using other)

theorem rdropWhile_authority {authority : List Char} (present : authority ≠ [])
    (inner : ∀ c ∈ authority, isInner c = true) (front : List Char) :
    (front ++ authority).rdropWhile (· == '/') = front ++ authority := by
  rcases List.eq_nil_or_concat authority with rfl | ⟨start, c, rfl⟩
  · exact absurd rfl present
  · have on := not_endsAuthority_of_isInner (inner c (by simp))
    rw [List.concat_eq_append, ← List.append_assoc]
    refine List.rdropWhile_concat_neg _ _ _ fun slash => ?_
    rw [eq_of_beq slash] at on
    cases on

theorem trunk_pathOf {url : Url} (path : url.path = pathOf segments) :
    url.trunk = (segments.rdropWhile List.isEmpty).map String.ofList := by
  have same : String.isEmpty ∘ String.ofList = List.isEmpty := by
    funext cs
    cases cs <;> simp [String.isEmpty_iff]
  rw [trunk, path]
  change (segments.map String.ofList).rdropWhile String.isEmpty = _
  rw [List.rdropWhile, ← List.map_reverse, List.dropWhile_map, same, ← List.map_reverse, List.rdropWhile]

end Trunk

end Url

namespace Client

open Url

variable {config : Configuration} {client : Client}

/-- The URL of the server was read, belongs to the web and names a host. -/
theorem baseUrl_of_ofConfiguration (made : ofConfiguration config = .ok client) :
    ∃ text, Url.parse? text = some client.baseUrl ∧
      (client.baseUrl.scheme = "http" ∨ client.baseUrl.scheme = "https") ∧ client.baseUrl.hostText?.isSome = true := by
  obtain ⟨_, _, made⟩ := Except.bind_eq_ok made
  obtain ⟨url, base, made⟩ := Except.bind_eq_ok made
  obtain ⟨_, _, made⟩ := Except.bind_eq_ok made
  obtain ⟨_, _, made⟩ := Except.bind_eq_ok made
  cases made
  unfold Configuration.parsedApiUrl at base
  split at base
  · cases base
  · rename_i read
    split at base
    · cases base
    · rename_i http
      split at base
      · cases base
      · rename_i visible
        cases base
        refine ⟨_, read, ?_, ?_⟩
        · simpa only [Endpoint.isHttp, Bool.not_eq_true', Bool.not_eq_false, Bool.or_eq_true, beq_iff_eq] using http
        · simpa only [Option.isNone_iff_eq_none, ← Option.isSome_iff_ne_none] using visible

/-- How the URL of a server is written. -/
structure Base (client : Client) where
  scheme : List Char
  authority : List Char
  segments : List (List Char)
  http : scheme = "http".toList ∨ scheme = "https".toList
  named : authority ≠ []
  inner : ∀ c ∈ authority, isInner c = true
  site : client.baseUrl.siteChars = scheme ++ ':' :: '/' :: '/' :: authority
  behind : ∀ rest, BeginsPath rest → readAuthority? scheme (Kind.ofScheme scheme) (authority ++ rest) =
    some { client.baseUrl with
      path := readPath true rest, query := (readTail true rest).1, fragment := (readTail true rest).2 }
  path : client.baseUrl.path = Url.pathOf segments
  present : segments ≠ []
  read : ∀ segment ∈ segments, IsSegment segment
  pathChars : client.baseUrl.pathChars = written segments

theorem exists_base (made : ofConfiguration config = .ok client) : Nonempty client.Base := by
  obtain ⟨text, read, http, visible⟩ := baseUrl_of_ofConfiguration made
  obtain ⟨authority, site, named, inner, behind⟩ := exists_site read http visible
  obtain ⟨segments, path, present, plain⟩ := exists_segments read http
  refine ⟨⟨_, authority, segments, ?_, named, inner, ?_, behind, path, present, plain, pathChars_pathOf visible path⟩⟩
  · exact http.imp (congrArg String.toList) (congrArg String.toList)
  · rw [siteChars, site]

namespace Base

variable (base : client.Base)

/-- The segments that what is joined comes behind. -/
def trunk : List (List Char) := base.segments.rdropWhile List.isEmpty

theorem trunk_eq : client.baseUrl.trunk = base.trunk.map String.ofList := trunk_pathOf base.path

theorem isSegment_trunk {segment : List Char} (inside : segment ∈ base.trunk) : IsSegment segment :=
  base.read segment ((List.rdropWhile_prefix _ _).subset inside)

/-- The parts of the server's path begin with a slash, whatever comes behind them. -/
theorem beginsPath_segments (rest : List Char) : BeginsPath (written base.segments ++ rest) := by
  obtain ⟨first, segments, whole⟩ := List.exists_cons_of_ne_nil base.present
  rw [whole, written_cons, List.cons_append]
  exact beginsPath_cons _

theorem readPath_segments_eq : readPath true (written base.segments) = client.baseUrl.path := by
  rw [base.path, readPath_pathOf base.present base.read]

/-- The URL of the server as text: slashes are dropped at the end of what is behind the authority. -/
theorem basePart_eq : client.basePart = base.scheme ++ ':' :: '/' :: '/' ::
    (base.authority ++ (written base.segments ++ client.baseUrl.tailChars).rdropWhile (· == '/')) := by
  have parts : client.baseUrl.chars =
      client.baseUrl.siteChars ++ (client.baseUrl.pathChars ++ client.baseUrl.tailChars) := by
    rw [chars, siteChars, List.append_assoc, List.cons_append]
  have front : client.baseUrl.chars =
      (base.scheme ++ [':', '/', '/'] ++ base.authority) ++ (written base.segments ++ client.baseUrl.tailChars) := by
    rw [parts, base.site, base.pathChars]
    simp
  have solid := rdropWhile_authority base.named base.inner (base.scheme ++ [':', '/', '/'])
  change client.baseUrl.chars.rdropWhile (· == '/') = _
  rw [front, rdropWhile_append solid]
  simp

/-- What is joined is read as a path, a query and a fragment behind the authority of the server. -/
theorem join_eq {path rest : List Char} (operation : String)
    (counts : relevant (client.basePart ++ path) = base.scheme ++ ':' :: '/' :: '/' :: (base.authority ++ rest))
    (slashed : BeginsPath rest) :
    client.join path operation = .ok { client.baseUrl with
      path := readPath true rest, query := (readTail true rest).1, fragment := (readTail true rest).2 } := by
  rw [join, ofChars?_relevant base.http base.named base.inner counts, base.behind rest slashed]

/-- Visible text counts as a whole. -/
theorem join_visible {path rest : List Char} (operation : String)
    (text : client.basePart ++ path = base.scheme ++ ':' :: '/' :: '/' :: (base.authority ++ rest))
    (slashed : BeginsPath rest) (visible : ∀ c ∈ rest, 0x20 < c.toNat) :
    client.join path operation = .ok { client.baseUrl with
      path := readPath true rest, query := (readTail true rest).1, fragment := (readTail true rest).2 } := by
  refine base.join_eq operation ?_ slashed
  rw [text]
  exact relevant_eq (visible_written base.http base.inner visible)

/-- Plain segments behind the URL of a server are read behind its own. -/
theorem join_bare (bare : client.baseUrl.IsBare) {segments : List (List Char)} (present : segments ≠ [])
    (plain : ∀ segment ∈ segments, ∀ c ∈ segment, isSegmentChar c = true) (operation : String) :
    client.join (written segments) operation =
      .ok { client.baseUrl with path := Url.pathOf (resolve [] (base.trunk ++ segments)) } := by
  obtain ⟨first, rest, whole⟩ : ∃ first rest, base.trunk ++ segments = first :: rest :=
    List.exists_cons_of_ne_nil (List.append_ne_nil_of_right_ne_nil _ present)
  have plain : ∀ segment ∈ first :: rest, ∀ c ∈ segment, isSegmentChar c = true := by
    intro segment inside
    rw [← whole] at inside
    rcases List.mem_append.mp inside with above | below
    · exact (base.isSegment_trunk above).plain
    · exact plain segment below
  have tail : client.baseUrl.tailChars = [] := by
    rw [tailChars, bare.query, bare.fragment]
    rfl
  have unslashed : ∀ segment ∈ base.segments, '/' ∉ segment := fun segment inside slash =>
    ne_of_isSegmentChar ((base.read segment inside).plain '/' slash) (by decide) rfl
  have text : client.basePart ++ written segments =
      base.scheme ++ ':' :: '/' :: '/' :: (base.authority ++ written (first :: rest)) := by
    rw [base.basePart_eq, tail, List.append_nil, rdropWhile_written unslashed, ← whole, written_append]
    simp [trunk]
  have visible : ∀ c ∈ written (first :: rest), 0x20 < c.toNat := fun c inside =>
    above_of_written (written_plain plain inside)
  rw [base.join_visible operation text (beginsPath_cons _) visible, readPath_written plain, readTail_written plain, whole]
  simp only [bare.query, bare.fragment]

/-- Plain segments behind the URL of a server are read behind its own, at its site. -/
theorem join_written (bare : client.baseUrl.IsBare) {segments : List (List Char)} (present : segments ≠ [])
    (plain : ∀ segment ∈ segments, ∀ c ∈ segment, isSegmentChar c = true) {operation : String} {url : Url}
    (joined : client.join (written segments) operation = .ok url) :
    client.baseUrl.IsSite url ∧ url.path = Url.pathOf (resolve [] (base.trunk ++ segments)) := by
  rw [base.join_bare bare present plain] at joined
  cases joined
  have origin := ofChars?_relevant base.http base.named base.inner
    (relevant_eq (visible_written base.http base.inner (List.forall_mem_nil _)))
  rw [List.append_nil, ← base.site] at origin
  have alone := base.behind [] nofun
  rw [List.append_nil] at alone
  refine ⟨⟨_, origin.trans alone, ?_⟩, rfl⟩
  rw [bare.fragment]
  rfl

end Base

end Client

end AuthzClient
