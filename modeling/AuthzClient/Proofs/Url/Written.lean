import AuthzClient.Proofs.Text.Trimming
import AuthzClient.Proofs.Url.Site
import AuthzClient.Proofs.Url.Tail

/-!
URLs of the web as texts. A URL that was read from some text is read from its own text again, also if it is given another
path. This text ends visibly.
-/

namespace AuthzClient.Url

open Text

variable {cs : List Char} {url : Url} {segments : List (List Char)}

/-- What a URL of the web has behind its authority was read from one text. -/
theorem exists_rest (read : ofChars? cs = some url) (http : url.scheme = "http" ∨ url.scheme = "https") :
    ∃ rest, url.path = readPath true rest ∧ url.query = (readTail true rest).1 ∧
      url.fragment = (readTail true rest).2 := by
  obtain ⟨scheme, port, behind, _, read⟩ := exists_readAuthority read http
  obtain ⟨_, _, _, _, _, rest, _, _, _, rfl⟩ := readAuthority?_eq_some_iff.mp read
  exact ⟨rest, rfl, rfl, rfl⟩

theorem isSettled_of_ofChars? (read : ofChars? cs = some url) (http : url.scheme = "http" ∨ url.scheme = "https") :
    url.IsSettled := by
  obtain ⟨rest, _, query, fragment⟩ := exists_rest read http
  exact isSettled_of_readTail query fragment

theorem exists_segments (read : ofChars? cs = some url) (http : url.scheme = "http" ∨ url.scheme = "https") :
    ∃ segments, url.path = pathOf segments ∧ segments ≠ [] ∧ ∀ segment ∈ segments, IsSegment segment := by
  obtain ⟨rest, path, _, _⟩ := exists_rest read http
  rw [path]
  exact readPath_segments rest

/-- Path, query and fragment are written in visible characters of ASCII. -/
theorem visible_behind (settled : url.IsSettled) (plain : ∀ segment ∈ segments, IsSegment segment) {c : Char}
    (inside : c ∈ written segments ++ url.tailChars) : 0x20 < c.toNat ∧ c.toNat < 0x80 := by
  rcases List.mem_append.mp inside with path | tail
  · have known := written_plain (fun segment here => (plain segment here).plain) path
    refine ⟨above_of_written known, ?_⟩
    rcases known with rfl | free
    · decide
    · exact ascii_of_isSegmentChar free
  · exact visible_tailChars settled tail

/-- The authority of a URL of the web, and how it is read in front of any path. -/
theorem exists_site (read : ofChars? cs = some url) (http : url.scheme = "http" ∨ url.scheme = "https")
    (visible : url.hostText?.isSome = true) :
    ∃ authority, url.authorityChars = '/' :: '/' :: authority ∧ authority ≠ [] ∧ (∀ c ∈ authority, isInner c = true) ∧
      ∀ rest, BeginsPath rest → readAuthority? url.scheme.toList (Kind.ofScheme url.scheme.toList) (authority ++ rest) =
        some { url with path := readPath true rest, query := (readTail true rest).1, fragment := (readTail true rest).2 } := by
  obtain ⟨scheme, port, behind, kind, read⟩ := exists_readAuthority read http
  obtain ⟨authority, written, named, inner⟩ := exists_authority read visible
  obtain ⟨_, _, _, _, _, _, _, _, _, same⟩ := readAuthority?_eq_some_iff.mp read
  have start : url.scheme.toList = scheme := by
    rw [← same]
    exact String.toList_ofList
  rw [start, kind]
  exact ⟨authority, written, named, inner, fun rest => readAuthority?_written read written inner visible⟩

theorem isSome_host (visible : url.hostText?.isSome = true) : url.host.isSome = true := by
  cases host : url.host with
  | none => simp [hostText?, host] at visible
  | some host => rfl

theorem pathChars_pathOf (visible : url.hostText?.isSome = true) (path : url.path = pathOf segments) :
    url.pathChars = written segments := by
  obtain ⟨host, hosted⟩ := Option.isSome_iff_exists.mp (isSome_host visible)
  rw [← chars_pathOf, ← path, pathChars, hosted]

/-- How a URL of the web with a host is written if it is given a path of segments. -/
theorem exists_chars (read : ofChars? cs = some url) (http : url.scheme = "http" ∨ url.scheme = "https")
    (visible : url.hostText?.isSome = true) (segments : List (List Char)) :
    ∃ authority, { url with path := pathOf segments }.chars =
        url.scheme.toList ++ ':' :: '/' :: '/' :: (authority ++ (written segments ++ url.tailChars)) ∧
      authority ≠ [] ∧ (∀ c ∈ authority, isInner c = true) ∧
      ∀ rest, BeginsPath rest → readAuthority? url.scheme.toList (Kind.ofScheme url.scheme.toList) (authority ++ rest) =
        some { url with path := readPath true rest, query := (readTail true rest).1, fragment := (readTail true rest).2 } := by
  obtain ⟨authority, site, parts⟩ := exists_site read http visible
  have front : { url with path := pathOf segments }.authorityChars = '/' :: '/' :: authority := site
  have path : { url with path := pathOf segments }.pathChars = written segments := pathChars_pathOf visible rfl
  refine ⟨authority, ?_, parts⟩
  rw [chars, front, path]
  rfl

/-- A URL of the web with a host is read from its text, whatever path of segments it is given. -/
theorem ofChars?_chars (read : ofChars? cs = some url) (http : url.scheme = "http" ∨ url.scheme = "https")
    (visible : url.hostText?.isSome = true) (present : segments ≠ []) (plain : ∀ segment ∈ segments, IsSegment segment) :
    ofChars? { url with path := pathOf segments }.chars = some { url with path := pathOf segments } := by
  obtain ⟨authority, text, named, inner, behind⟩ := exists_chars read http visible segments
  have settled := isSettled_of_ofChars? read http
  have scheme : url.scheme.toList = "http".toList ∨ url.scheme.toList = "https".toList :=
    http.imp (congrArg String.toList) (congrArg String.toList)
  have counts := relevant_eq (visible_written scheme inner fun c inside => (visible_behind settled plain inside).1)
  have begins : BeginsPath (written segments ++ url.tailChars) := by
    obtain ⟨first, rest, rfl⟩ := List.exists_cons_of_ne_nil present
    exact beginsPath_cons _
  have endless : IsEndless (written segments) := fun c inside =>
    not_endsPath (written_plain (fun segment here => (plain segment here).plain) inside)
  rw [text, ofChars?_relevant scheme named inner counts, behind _ begins, readPath_tailChars endless,
    readTail_tailChars endless settled, readPath_pathOf present plain]

/-- There is no white space around this text. -/
theorem isTrimmed_chars (read : ofChars? cs = some url) (http : url.scheme = "http" ∨ url.scheme = "https")
    (visible : url.hostText?.isSome = true) (present : segments ≠ []) (plain : ∀ segment ∈ segments, IsSegment segment) :
    IsTrimmed { url with path := pathOf segments }.chars := by
  obtain ⟨authority, text, _⟩ := exists_chars read http visible segments
  have settled := isSettled_of_ofChars? read http
  have shown : written segments ++ url.tailChars ≠ [] := by
    obtain ⟨first, rest, rfl⟩ := List.exists_cons_of_ne_nil present
    exact List.cons_ne_nil _ _
  rw [text]
  constructor
  · rcases http with same | same
    · rw [same]
      rintro c ⟨⟩
      rfl
    · rw [same]
      rintro c ⟨⟩
      rfl
  · intro c ends
    rw [← List.cons_append, ← List.cons_append, ← List.cons_append, ← List.append_assoc,
      List.getLast?_append_of_ne_nil _ shown] at ends
    obtain ⟨above, ascii⟩ := visible_behind settled plain (List.mem_of_getLast? ends)
    exact not_isWhite_of_visible above ascii

end AuthzClient.Url
