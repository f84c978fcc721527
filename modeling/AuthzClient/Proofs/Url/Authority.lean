import AuthzClient.Proofs.Text.Number
import AuthzClient.Proofs.Url.Segments
import Mathlib.Data.List.DropRight

/-!
Authorities of the web. One that a URL writes out holds nothing that ends it, so text behind a slash can be put behind
it without any effect on what the authority is read as.
-/

namespace AuthzClient.Url

open Text

/-- A character that neither ends an authority nor is cut off at the ends of a text. -/
def isInner (c : Char) : Bool := 0x20 < c.toNat && !endsAuthority true c

section Inner

variable {c : Char}

theorem above_of_isInner (inner : isInner c = true) : 0x20 < c.toNat := by
  simp only [isInner, Bool.and_eq_true, decide_eq_true_eq] at inner
  exact inner.1

theorem not_endsAuthority_of_isInner (inner : isInner c = true) : endsAuthority true c = false := by
  simp only [isInner, Bool.and_eq_true, Bool.not_eq_true'] at inner
  exact inner.2

theorem isInner_digitChar (n : Nat) : isInner (Nat.digitChar n) = true := by
  by_cases small : n < 16
  · have all : ∀ n : Fin 16, isInner (Nat.digitChar n) = true := by decide
    exact all ⟨n, small⟩
  · have star : Nat.digitChar n = '*' := by
      unfold Nat.digitChar
      repeat rw [if_neg (by omega)]
    rw [star]
    decide

theorem isInner_of_mem_toDigits {base n : Nat} (inside : c ∈ Nat.toDigits base n) : isInner c = true := by
  obtain ⟨digit, rfl⟩ := exists_digit inside
  exact isInner_digitChar digit

theorem mem_intercalate {separator : Char} {parts : List (List Char)} (inside : c ∈ [separator].intercalate parts) :
    c = separator ∨ ∃ part ∈ parts, c ∈ part := by
  induction parts with
  | nil => cases inside
  | cons part parts ih =>
    cases parts with
    | nil =>
      rw [List.intercalate_singleton] at inside
      exact Or.inr ⟨part, List.mem_cons_self, inside⟩
    | cons next parts =>
      rw [List.intercalate_cons_cons, List.append_assoc] at inside
      rcases List.mem_append.mp inside with here | behind
      · exact Or.inr ⟨part, List.mem_cons_self, here⟩
      · rcases List.mem_append.mp behind with between | later
        · exact Or.inl (List.mem_singleton.mp between)
        · rcases ih later with rfl | ⟨other, below, here⟩
          · exact Or.inl rfl
          · exact Or.inr ⟨other, List.mem_cons_of_mem _ below, here⟩

theorem isInner_of_mem_numbers {base : Nat} {separator : Char} (apart : isInner separator = true) {numbers : List Nat}
    (inside : c ∈ [separator].intercalate (numbers.map (Nat.toDigits base))) : isInner c = true := by
  rcases mem_intercalate inside with rfl | ⟨part, here, inside⟩
  · exact apart
  · obtain ⟨n, _, rfl⟩ := List.mem_map.mp here
    exact isInner_of_mem_toDigits inside

theorem isStable_isUserByte : Percent.IsStable isUserByte where
  ascii := forall_byte (by decide +kernel)
  percent := by decide
  digit := by decide

theorem isInner_of_mem_user {cs : List Char} (inside : c ∈ Percent.encodeChars isUserByte cs) : isInner c = true := by
  obtain ⟨ascii, free⟩ := isStable_isUserByte.isEncoded cs c inside
  have all : ∀ c : Char, c.toNat < 0x80 → isUserByte c.toNat.toUInt8 = true → isInner c = true :=
    forall_ascii (by decide +kernel)
  exact all c ascii free

/-- An address of eight pieces is written in digits and colons. -/
theorem mem_ipv6Chars {pieces : List Nat} (inside : c ∈ ipv6Chars pieces) :
    c = ':' ∨ ∃ digit, c = Nat.digitChar digit := by
  have side {pieces : List Nat} (inside : c ∈ pieceChars pieces) : c = ':' ∨ ∃ digit, c = Nat.digitChar digit := by
    rcases mem_intercalate inside with rfl | ⟨part, here, inside⟩
    · exact Or.inl rfl
    · obtain ⟨n, _, rfl⟩ := List.mem_map.mp here
      exact Or.inr (exists_digit inside)
  unfold ipv6Chars at inside
  dsimp only at inside
  split at inside
  · exact side inside
  · rcases List.mem_append.mp inside with before | behind
    · exact side before
    · simp only [List.mem_cons] at behind
      rcases behind with rfl | rfl | behind
      · exact Or.inl rfl
      · exact Or.inl rfl
      · exact side behind

theorem isInner_of_mem_ipv6 {pieces : List Nat} (inside : c ∈ ipv6Chars pieces) : isInner c = true := by
  rcases mem_ipv6Chars inside with rfl | ⟨digit, rfl⟩
  · rfl
  · exact isInner_digitChar digit

/-- A name in its ASCII form has no character that is forbidden in names. -/
theorem not_isForbidden_of_ascii {name ascii : List Char} (read : Domain.toAscii? name = some ascii)
    (inside : c ∈ ascii) : Domain.isForbidden c = false := by
  unfold Domain.toAscii? at read
  dsimp only at read
  split at read
  · split at read
    · cases read
    · rename_i allowed
      cases read
      simp only [List.any_eq_true, not_exists, not_and, Bool.not_eq_true] at allowed
      exact allowed c inside
  · unfold Domain.convert? at read
    obtain ⟨prepared, _, read⟩ := Option.bind_eq_some_iff.mp read
    obtain ⟨labels, _, read⟩ := Option.bind_eq_some_iff.mp read
    dsimp only at read
    split at read
    · cases read
    · rename_i allowed
      cases read
      simp only [Bool.or_eq_true, not_or, List.any_eq_true, not_exists, not_and, Bool.not_eq_true] at allowed
      exact allowed.1 c inside

theorem isInner_of_allowed (allowed : Domain.isForbidden c = false) : isInner c = true := by
  simp only [Domain.isForbidden, Bool.or_eq_false_iff, decide_eq_false_iff_not] at allowed
  obtain ⟨⟨low, _⟩, apart⟩ := allowed
  have other (d : Char) (listed : "%#/:<>?@[\\]^|".toList.contains d = true) : c ≠ d := by
    rintro rfl
    rw [listed] at apart
    cases apart
  have slash := other '/' (by decide)
  have back := other '\\' (by decide)
  have question := other '?' (by decide)
  have hash := other '#' (by decide)
  simp only [isInner, endsAuthority, isSlash, Bool.and_eq_true, decide_eq_true_eq]
  exact ⟨by omega, by simp [slash, back, question, hash]⟩

theorem isInner_of_mem_host {cs : List Char} {host : Host} (read : webHost? cs = some host) (inside : c ∈ host.chars) :
    isInner c = true := by
  have bracketed {cs : List Char} (read : bracketed? cs = some host) : isInner c = true := by
    unfold bracketed? at read
    split at read
    · obtain ⟨pieces, _, rfl⟩ := Option.map_eq_some_iff.mp read
      rcases List.mem_append.mp inside with front | last
      · rcases List.mem_cons.mp front with rfl | inner
        · decide
        · exact isInner_of_mem_ipv6 inner
      · rw [List.mem_singleton.mp last]
        decide
    · cases read
  unfold webHost? at read
  split at read
  · exact bracketed read
  · unfold namedHost? at read
    obtain ⟨decoded, _, read⟩ := Option.bind_eq_some_iff.mp read
    obtain ⟨name, ascii, read⟩ := Option.bind_eq_some_iff.mp read
    split at read
    · cases read
    · split at read
      · obtain ⟨address, _, rfl⟩ := Option.map_eq_some_iff.mp read
        exact isInner_of_mem_numbers (by decide) inside
      · cases read
        rw [Host.chars, String.toList_ofList] at inside
        exact isInner_of_allowed (not_isForbidden_of_ascii ascii inside)

end Inner

/-- The host that the text between user name and port is, if it may stand there. -/
def hostOf? (special anonymous : Bool) (text behind : List Char) : Option Host :=
  if text.isEmpty then
    if special || behind.head? == some ':' || !anonymous then none else some (.domain "")
  else if special then webHost? text
  else otherHost? text

/-- The port behind a host and what is behind it. -/
def portPart? (kind : Kind) : List Char → Option (Option Nat × List Char)
  | ':' :: rest => readPort? (match kind with
    | .web port => some port
    | _ => none) rest
  | rest => some (none, rest)

/-- The URL of an authority whose parts were read. -/
def ofParts (special : Bool) (scheme username : List Char) (password : Option (List Char)) (host : Host)
    (port : Option Nat) (rest : List Char) : Url where
  scheme := String.ofList scheme
  username := String.ofList username
  password := password.map String.ofList
  host := some host
  port := port
  path := readPath special rest
  query := (readTail special rest).1
  fragment := (readTail special rest).2

theorem portPart?_bind {β : Type} (kind : Kind) (cs : List Char) (next : Option Nat × List Char → Option β) :
    (match cs with
      | ':' :: rest => (readPort? (match kind with
        | .web port => some port
        | _ => none) rest).bind next
      | rest => (some (none, rest)).bind next) = (portPart? kind cs).bind next := by
  unfold portPart?
  split <;> rfl

/-- An authority is read part by part. -/
theorem readAuthority?_eq (scheme : List Char) (kind : Kind) (cs : List Char) :
    readAuthority? scheme kind cs = (readUserinfo? kind.isSpecial cs).bind fun (username, password, behind) =>
      (hostOf? kind.isSpecial (username.isEmpty && password.isNone) (readHostText kind.isSpecial false behind).1
        (readHostText kind.isSpecial false behind).2).bind fun host =>
        (portPart? kind (readHostText kind.isSpecial false behind).2).bind fun (port, rest) =>
          some (ofParts kind.isSpecial scheme username password host port rest) := by
  unfold readAuthority?
  dsimp only [Option.bind_eq_bind]
  congr 1
  funext ⟨username, password, behind⟩
  dsimp only
  unfold hostOf?
  split
  · split
    · rename_i refused
      rw [if_pos (by simpa [Bool.or_assoc] using refused)]
      rfl
    · rename_i allowed
      rw [if_neg (by simpa [Bool.or_assoc] using allowed)]
      exact portPart?_bind kind _ _
  · split
    · congr 1
      funext host
      exact portPart?_bind kind _ _
    · congr 1
      funext host
      exact portPart?_bind kind _ _

theorem readAuthority?_eq_some_iff {scheme cs : List Char} {kind : Kind} {url : Url} :
    readAuthority? scheme kind cs = some url ↔
      ∃ username password behind host port rest, readUserinfo? kind.isSpecial cs = some (username, password, behind) ∧
        hostOf? kind.isSpecial (username.isEmpty && password.isNone) (readHostText kind.isSpecial false behind).1
          (readHostText kind.isSpecial false behind).2 = some host ∧
        portPart? kind (readHostText kind.isSpecial false behind).2 = some (port, rest) ∧
        ofParts kind.isSpecial scheme username password host port rest = url := by
  rw [readAuthority?_eq]
  simp only [Option.bind_eq_some_iff, Option.some.injEq, Prod.exists]
  constructor
  · rintro ⟨username, password, behind, user, host, hosted, port, rest, found, same⟩
    exact ⟨username, password, behind, host, port, rest, user, hosted, found, same⟩
  · rintro ⟨username, password, behind, host, port, rest, user, hosted, found, same⟩
    exact ⟨username, password, behind, user, host, hosted, port, rest, found, same⟩

/-- In schemes of the web there has to be a host. -/
theorem hostOf?_eq_some_iff {anonymous : Bool} {text behind : List Char} {host : Host} :
    hostOf? true anonymous text behind = some host ↔ text ≠ [] ∧ webHost? text = some host := by
  unfold hostOf?
  split
  · rename_i unnamed
    simp [List.isEmpty_iff.mp unnamed]
  · rename_i named
    simp [List.isEmpty_iff.not.mp named]

section Behind

variable {authority path : List Char} (inner : ∀ c ∈ authority, isInner c = true)

include inner

theorem unended : ∀ c ∈ authority, (!endsAuthority true c) = true := by
  intro c inside
  rw [not_endsAuthority_of_isInner (inner c inside), Bool.not_false]

theorem takeWhile_authority (path : List Char) :
    (authority ++ '/' :: path).takeWhile (!endsAuthority true ·) = authority ∧
      (authority ++ '/' :: path).dropWhile (!endsAuthority true ·) = '/' :: path := by
  rw [List.takeWhile_append_of_pos (unended inner), List.dropWhile_append_of_pos (unended inner)]
  exact ⟨List.append_nil _, rfl⟩

end Behind

section Read

variable {url : Url}

theorem isInner_of_readUserinfo? {special : Bool} {cs username rest : List Char} {password : Option (List Char)}
    (read : readUserinfo? special cs = some (username, password, rest)) :
    (∀ c ∈ username, isInner c = true) ∧ ∀ secret, password = some secret → ∀ c ∈ secret, isInner c = true := by
  unfold readUserinfo? at read
  dsimp only at read
  split at read
  · cases read
    exact ⟨List.forall_mem_nil _, nofun⟩
  · split at read
    · cases read
    · cases read
      refine ⟨fun c inside => isInner_of_mem_user inside, fun secret same c inside => ?_⟩
      split at same
      · cases same
      · cases same
        exact isInner_of_mem_user inside

theorem isInner_of_mem_userinfo {special : Bool} {scheme username rest : List Char} {password : Option (List Char)}
    {host : Host} {port : Option Nat} (free : ∀ c ∈ username, isInner c = true)
    (secret : ∀ secret, password = some secret → ∀ c ∈ secret, isInner c = true) {c : Char}
    (inside : c ∈ (ofParts special scheme username password host port rest).userinfoChars) : isInner c = true := by
  cases password with
  | none =>
    simp only [userinfoChars, ofParts, Option.map_none, String.toList_ofList] at inside
    split at inside
    · cases inside
    · rcases List.mem_append.mp inside with name | last
      · exact free c name
      · rw [List.mem_singleton.mp last]
        decide
  | some password =>
    simp only [userinfoChars, ofParts, Option.map_some, String.toList_ofList] at inside
    rcases List.mem_append.mp inside with front | last
    · rcases List.mem_append.mp front with name | behind
      · exact free c name
      · rcases List.mem_cons.mp behind with rfl | hidden
        · decide
        · exact secret password rfl c hidden
    · rw [List.mem_singleton.mp last]
      decide

/-- The authority of a URL of the web, as the URL writes it. -/
theorem exists_authority {scheme cs : List Char} {port : Nat} (read : readAuthority? scheme (.web port) cs = some url)
    (visible : url.hostText?.isSome = true) :
    ∃ authority, url.authorityChars = '/' :: '/' :: authority ∧ authority ≠ [] ∧ ∀ c ∈ authority, isInner c = true := by
  obtain ⟨username, password, behind, host, port, rest, user, hosted, _, rfl⟩ := readAuthority?_eq_some_iff.mp read
  obtain ⟨free, secret⟩ := isInner_of_readUserinfo? user
  have named : host.chars ≠ [] := by
    intro none
    simp [hostText?, ofParts, none] at visible
  refine ⟨_, rfl, ?_, fun c inside => ?_⟩
  · intro none
    exact named (List.append_eq_nil_iff.mp (List.append_eq_nil_iff.mp none).1).2
  · rcases List.mem_append.mp inside with front | number
    · rcases List.mem_append.mp front with user | name
      · exact isInner_of_mem_userinfo free secret user
      · exact isInner_of_mem_host (hostOf?_eq_some_iff.mp hosted).2 name
    · cases port with
      | none => cases number
      | some port =>
        rcases List.mem_cons.mp number with rfl | digit
        · decide
        · exact isInner_of_mem_toDigits digit

theorem scheme_of_readFile? {cs : List Char} (read : readFile? cs = some url) : url.scheme = "file" := by
  unfold readFile? at read
  dsimp only [Option.bind_eq_bind] at read
  split at read
  · split at read
    · split at read
      · cases read
        rfl
      · obtain ⟨host, _, read⟩ := Option.bind_eq_some_iff.mp read
        cases read
        rfl
    · cases read
      rfl
  · cases read
    rfl

/-- A URL of the web was read from its scheme and an authority. -/
theorem exists_readAuthority {cs : List Char} (read : ofChars? cs = some url)
    (http : url.scheme = "http" ∨ url.scheme = "https") :
    ∃ scheme port behind, Kind.ofScheme scheme = .web port ∧ readAuthority? scheme (.web port) behind = some url := by
  obtain ⟨⟨scheme, rest⟩, _, read⟩ := Option.bind_eq_some_iff.mp read
  have other (same : url.scheme = String.ofList scheme) : Kind.ofScheme scheme ≠ .other := by
    rw [same] at http
    rcases http with http | http
    · rw [show scheme = "http".toList by rw [← http, String.toList_ofList]]
      decide
    · rw [show scheme = "https".toList by rw [← http, String.toList_ofList]]
      decide
  dsimp only at read
  split at read
  · rename_i port kind
    exact ⟨scheme, port, _, kind, read⟩
  · rw [scheme_of_readFile? read] at http
    rcases http with same | same
    · exact absurd same (by decide)
    · exact absurd same (by decide)
  · rename_i kind
    split at read
    · obtain ⟨_, _, _, _, _, _, _, _, _, rfl⟩ := readAuthority?_eq_some_iff.mp read
      exact absurd kind (other rfl)
    · cases read
      exact absurd kind (other rfl)

/-- What is dropped at the end of a text whose front ends in something else is dropped behind the front. -/
theorem rdropWhile_append {α : Type} {p : α → Bool} {front : List α} (solid : front.rdropWhile p = front) (rest : List α) :
    (front ++ rest).rdropWhile p = front ++ rest.rdropWhile p := by
  induction rest using List.reverseRecOn with
  | nil => simpa using solid
  | append_singleton rest last ih =>
    rw [← List.append_assoc, List.rdropWhile_concat, List.rdropWhile_concat]
    split
    · exact ih
    · exact List.append_assoc ..

/-- Text that begins visibly counts up to its last visible character, and its visible front counts as a whole. -/
theorem relevant_append {front : List Char} (present : front ≠ []) (visible : ∀ c ∈ front, 0x20 < c.toNat)
    (cs : List Char) :
    relevant (front ++ cs) =
      front ++ (cs.rdropWhile fun c => decide (c.toNat ≤ 0x20)).filter fun c => c != '\t' && c != '\n' && c != '\r' := by
  have solid : front.rdropWhile (fun c => decide (c.toNat ≤ 0x20)) = front := by
    refine List.rdropWhile_eq_self_iff.mpr fun present => ?_
    have above := visible _ (List.getLast_mem present)
    simpa using above
  have kept : (front.filter fun c => c != '\t' && c != '\n' && c != '\r') = front := by
    refine List.filter_eq_self.mpr fun c inside => ?_
    have apart (d : Char) (low : d.toNat ≤ 0x20) : c ≠ d := by
      rintro rfl
      exact absurd (visible c inside) (Nat.not_lt.mpr low)
    simp [apart '\t' (by decide), apart '\n' (by decide), apart '\r' (by decide)]
  have whole : (front ++ cs).dropWhile (fun c => decide (c.toNat ≤ 0x20)) = front ++ cs := by
    obtain ⟨c, more, rfl⟩ := List.exists_cons_of_ne_nil present
    have above := visible c List.mem_cons_self
    exact List.dropWhile_cons_of_neg (by simpa using above)
  unfold relevant
  dsimp only
  rw [whole]
  change ((front ++ cs).rdropWhile _).filter _ = _
  rw [rdropWhile_append solid, List.filter_append, kept]

/-- What counts of a text is from the text. -/
theorem mem_of_mem_relevant {cs : List Char} {c : Char} (inside : c ∈ relevant cs) : c ∈ cs := by
  have trimmed := List.mem_reverse.mp (List.mem_of_mem_filter inside)
  exact (List.dropWhile_suffix _).subset (List.mem_reverse.mp ((List.dropWhile_suffix _).subset trimmed))

theorem relevant_eq {cs : List Char} (visible : ∀ c ∈ cs, 0x20 < c.toNat) : relevant cs = cs := by
  by_cases present : cs = []
  · rw [present]
    rfl
  · have whole := relevant_append present visible []
    simpa using whole

/-- A text of which a scheme of the web, an authority and a path count is read in these parts. -/
theorem ofChars?_relevant {cs scheme authority path : List Char}
    (http : scheme = "http".toList ∨ scheme = "https".toList) (present : authority ≠ [])
    (inner : ∀ c ∈ authority, isInner c = true)
    (counts : relevant cs = scheme ++ ':' :: '/' :: '/' :: (authority ++ path)) :
    ofChars? cs = readAuthority? scheme (Kind.ofScheme scheme) (authority ++ path) := by
  have unslashed : ('/' :: '/' :: (authority ++ path)).dropWhile (isSlash true) = authority ++ path := by
    cases authority with
    | nil => exact absurd rfl present
    | cons c authority =>
      have on := not_endsAuthority_of_isInner (inner c List.mem_cons_self)
      simp only [endsAuthority, Bool.or_eq_false_iff] at on
      rw [List.dropWhile_cons_of_pos rfl, List.dropWhile_cons_of_pos rfl]
      exact List.dropWhile_cons_of_neg (by simp [on.1.1])
  rw [ofChars?, counts]
  rcases http with rfl | rfl
  · have named : readScheme? ("http".toList ++ ':' :: '/' :: '/' :: (authority ++ path)) =
        some ("http".toList, '/' :: '/' :: (authority ++ path)) := rfl
    rw [named]
    exact congrArg (readAuthority? _ (.web 80)) unslashed
  · have named : readScheme? ("https".toList ++ ':' :: '/' :: '/' :: (authority ++ path)) =
        some ("https".toList, '/' :: '/' :: (authority ++ path)) := rfl
    rw [named]
    exact congrArg (readAuthority? _ (.web 443)) unslashed

/-- A scheme of the web and an authority are visible. -/
theorem visible_written {scheme authority path : List Char} (http : scheme = "http".toList ∨ scheme = "https".toList)
    (inner : ∀ c ∈ authority, isInner c = true) (visible : ∀ c ∈ path, 0x20 < c.toNat) :
    ∀ c ∈ scheme ++ ':' :: '/' :: '/' :: (authority ++ path), 0x20 < c.toNat := by
  have letters : scheme.all (fun c => 0x20 < c.toNat) = true := by rcases http with rfl | rfl <;> decide
  intro c inside
  simp only [List.mem_append, List.mem_cons] at inside
  rcases inside with name | rfl | rfl | rfl | front | behind
  · exact of_decide_eq_true (List.all_eq_true.mp letters c name)
  · decide
  · decide
  · decide
  · exact above_of_isInner (inner c front)
  · exact visible c behind

end Read

end AuthzClient.Url
