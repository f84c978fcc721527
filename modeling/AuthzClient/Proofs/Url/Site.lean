import AuthzClient.Proofs.Url.Host

/-!
Sites of the web. An authority as it is written has the user name, the password, the host and the port of the URL that
writes it, whatever text that URL was read from and whatever path is behind the authority.
-/

namespace AuthzClient.Url

open Text

section Users

variable {cs : List Char} {c : Char}

/-- A user name or a password as it is written. -/
abbrev IsUser (text : List Char) : Prop := Percent.IsEncoded isUserByte text

theorem apart_of_isUser (user : IsUser cs) (inside : c ∈ cs) : c ≠ ':' ∧ c ≠ '@' := by
  constructor
  · rintro rfl
    exact absurd (user ':' inside).2 (by decide)
  · rintro rfl
    exact absurd (user '@' inside).2 (by decide)

/-- User names and passwords that were read are written without a colon and without an `@`; a password is not empty. -/
theorem isUser_of_readUserinfo? {special : Bool} {username rest : List Char} {password : Option (List Char)}
    (read : readUserinfo? special cs = some (username, password, rest)) :
    IsUser username ∧ ∀ secret, password = some secret → IsUser secret ∧ secret ≠ [] := by
  unfold readUserinfo? at read
  dsimp only at read
  split at read
  · cases read
    exact ⟨List.forall_mem_nil _, nofun⟩
  · split at read
    · cases read
    · cases read
      refine ⟨isStable_isUserByte.isEncoded _, fun secret same => ?_⟩
      split at same
      · cases same
      · rename_i present
        cases same
        exact ⟨isStable_isUserByte.isEncoded _, by simpa using present⟩

end Users

section Behind

variable {before behind : List Char}

theorem splitLastAt_none (absent : '@' ∉ behind) : splitLastAt behind = none := by
  refine if_neg ?_
  simpa using absent

/-- What is behind the last `@` has none. -/
theorem splitLastAt_append (absent : '@' ∉ behind) : splitLastAt (before ++ '@' :: behind) = some (before, behind) := by
  have kept : ∀ c ∈ behind.reverse, (c != '@') = true := by
    intro c inside
    rw [bne_iff_ne]
    rintro rfl
    exact absent (List.mem_reverse.mp inside)
  have last : ((before ++ '@' :: behind).reverse.takeWhile (· != '@')).reverse = behind := by
    rw [List.reverse_append, List.reverse_cons, List.append_assoc, List.singleton_append,
      List.takeWhile_append_of_pos kept, List.takeWhile_cons_of_neg (by decide), List.append_nil, List.reverse_reverse]
  rw [splitLastAt, if_pos (by simp)]
  dsimp only
  rw [last]
  have front : (before ++ '@' :: behind).length - behind.length - 1 = before.length := by
    simp only [List.length_append, List.length_cons]
    omega
  rw [front, List.take_left]

end Behind

/-- Text that can stand behind an authority: none, or a path. -/
def BeginsPath (rest : List Char) : Prop := ∀ c ∈ rest.head?, c = '/'

theorem beginsPath_cons (path : List Char) : BeginsPath ('/' :: path) := by
  rintro c ⟨⟩
  rfl

theorem BeginsPath.append {rest : List Char} (begins : BeginsPath rest) (path : List Char) :
    ∃ more, rest ++ '/' :: path = '/' :: more := by
  cases rest with
  | nil => exact ⟨path, rfl⟩
  | cons c rest =>
    obtain rfl := begins c rfl
    exact ⟨_, rfl⟩

theorem BeginsPath.of_prefix {rest path : List Char} (begins : BeginsPath path) (front : rest <+: path) :
    BeginsPath rest := by
  cases rest with
  | nil => nofun
  | cons c rest =>
    obtain ⟨_, rfl⟩ := front
    exact begins

/-- An authority reaches up to the path. -/
theorem reach_authority {authority rest : List Char} (inner : ∀ c ∈ authority, isInner c = true) (path : BeginsPath rest) :
    (authority ++ rest).takeWhile (!endsAuthority true ·) = authority ∧
      (authority ++ rest).dropWhile (!endsAuthority true ·) = rest := by
  cases rest with
  | nil =>
    rw [List.append_nil]
    exact ⟨List.takeWhile_eq_self_iff.mpr (unended inner), List.dropWhile_eq_nil_iff.mpr (unended inner)⟩
  | cons c rest =>
    obtain rfl := path c rfl
    exact takeWhile_authority inner rest

section Parts

variable {username behind rest : List Char} {password : Option (List Char)} {host : Host}

/-- User name and password as they are written in front of a host. -/
def userText (username : List Char) : Option (List Char) → List Char
  | some password => username ++ ':' :: password ++ ['@']
  | none => if username.isEmpty then [] else username ++ ['@']

/-- User name and password are read as they are written. -/
theorem readUserinfo?_written (name : IsUser username)
    (secret : ∀ secret, password = some secret → IsUser secret ∧ secret ≠ [])
    (inner : ∀ c ∈ userText username password ++ behind, isInner c = true) (absent : '@' ∉ behind)
    (present : behind ≠ []) (path : BeginsPath rest) :
    readUserinfo? true (userText username password ++ behind ++ rest) = some (username, password, behind ++ rest) := by
  have unparted : ∀ c ∈ username, (c != ':') = true := fun c inside => bne_iff_ne.mpr (apart_of_isUser name inside).1
  unfold readUserinfo?
  dsimp only
  rw [(reach_authority inner path).1, (reach_authority inner path).2]
  cases password with
  | some secret' =>
    obtain ⟨hidden, shown⟩ := secret secret' rfl
    have text : userText username (some secret') ++ behind = (username ++ ':' :: secret') ++ '@' :: behind := by
      simp [userText]
    have front : (username ++ ':' :: secret').takeWhile (· != ':') = username := by
      rw [List.takeWhile_append_of_pos unparted, List.takeWhile_cons_of_neg (by decide), List.append_nil]
    have back : (username ++ ':' :: secret').dropWhile (· != ':') = ':' :: secret' := by
      rw [List.dropWhile_append_of_pos unparted, List.dropWhile_cons_of_neg (by decide)]
    rw [text, splitLastAt_append absent]
    dsimp only
    rw [if_neg (by simp), front, back, List.drop_one, List.tail_cons, Percent.encodeChars_allowed name,
      Percent.encodeChars_allowed hidden, if_neg (by simpa using shown)]
  | none =>
    by_cases unnamed : username = []
    · have text : userText username none ++ behind = behind := by rw [unnamed]; rfl
      rw [text, splitLastAt_none absent, unnamed]
    · have text : userText username none ++ behind = username ++ '@' :: behind := by
        simp [userText, unnamed]
      rw [text, splitLastAt_append absent]
      dsimp only
      rw [if_neg (by simp [present]), List.takeWhile_eq_self_iff.mpr unparted, List.dropWhile_eq_nil_iff.mpr unparted,
        Percent.encodeChars_allowed name]
      rfl

/-- A character that can stand within brackets. -/
def isBracketed (c : Char) : Bool := isInner c && c != '[' && c != ']' && c != '@'

theorem isBracketed_of_mem_ipv6 {pieces : List Nat} {c : Char} (inside : c ∈ ipv6Chars pieces) : isBracketed c = true := by
  rcases mem_ipv6Chars inside with rfl | ⟨digit, rfl⟩
  · rfl
  · have opening : Nat.digitChar digit ≠ '[' := Nat.digitChar_ne '[' (by decide)
    have closing : Nat.digitChar digit ≠ ']' := Nat.digitChar_ne ']' (by decide)
    have mark : Nat.digitChar digit ≠ '@' := Nat.digitChar_ne '@' (by decide)
    simp [isBracketed, isInner_digitChar, opening, closing, mark]

/-- A host is written without characters that are forbidden in names, or in brackets. -/
theorem host_shape {cs : List Char} (read : webHost? cs = some host) :
    (∀ c ∈ host.chars, Domain.isForbidden c = false) ∨
      ∃ text, host.chars = '[' :: (text ++ [']']) ∧ ∀ c ∈ text, isBracketed c = true := by
  have bracketed {cs : List Char} (read : bracketed? cs = some host) :
      ∃ text, host.chars = '[' :: (text ++ [']']) ∧ ∀ c ∈ text, isBracketed c = true := by
    unfold bracketed? at read
    split at read
    · obtain ⟨pieces, _, rfl⟩ := Option.map_eq_some_iff.mp read
      exact ⟨ipv6Chars pieces, rfl, fun c => isBracketed_of_mem_ipv6⟩
    · cases read
  unfold webHost? at read
  split at read
  · exact Or.inr (bracketed read)
  · left
    obtain ⟨decoded, _, read⟩ := Option.bind_eq_some_iff.mp read
    obtain ⟨name, ascii, read⟩ := Option.bind_eq_some_iff.mp read
    intro c inside
    split at read
    · cases read
    · split at read
      · obtain ⟨address, _, rfl⟩ := Option.map_eq_some_iff.mp read
        exact (isNumeric_spec (isNumeric_of_mem_ipv4 inside)).2.2.1
      · cases read
        rw [Host.chars, String.toList_ofList] at inside
        exact not_isForbidden_of_ascii ascii inside

theorem userinfoChars_ofParts (special : Bool) (scheme username : List Char) (password : Option (List Char)) (host : Host)
    (port : Option Nat) (rest : List Char) :
    (ofParts special scheme username password host port rest).userinfoChars = userText username password := by
  have empty : (String.ofList username).isEmpty = username.isEmpty := by
    cases username <;> simp [String.isEmpty_iff]
  cases password with
  | none => simp [userinfoChars, ofParts, userText, empty]
  | some secret => simp [userinfoChars, ofParts, userText]

theorem not_mem_host {cs : List Char} (read : webHost? cs = some host) : '@' ∉ host.chars := by
  intro inside
  rcases host_shape read with allowed | ⟨text, written, bracketed⟩
  · cases allowed '@' inside
  · rw [written] at inside
    have within : '@' ∈ text := by simpa using inside
    cases bracketed '@' within

/-- Text without anything that ends the host is part of it. -/
theorem readHostText_through {inBrackets : Bool} {text : List Char} (inner : ∀ c ∈ text, isInner c = true)
    (unbracketed : ∀ c ∈ text, c ≠ '[' ∧ c ≠ ']') (colon : inBrackets = false → ':' ∉ text) (rest : List Char) :
    readHostText true inBrackets (text ++ rest) =
      (text ++ (readHostText true inBrackets rest).1, (readHostText true inBrackets rest).2) := by
  induction text with
  | nil => rfl
  | cons c text ih =>
    have on := not_endsAuthority_of_isInner (inner c List.mem_cons_self)
    obtain ⟨opening, closing⟩ := unbracketed c List.mem_cons_self
    have through : (c == ':' && !inBrackets) = false := by
      cases inBrackets with
      | true => rw [Bool.not_true, Bool.and_false]
      | false =>
        have other : c ≠ ':' := fun same => colon rfl (same ▸ List.mem_cons_self)
        simp [other]
    rw [List.cons_append, readHostText, on, through, Bool.or_false, if_neg Bool.false_ne_true,
      if_neg (by simpa using opening), if_neg (by simpa using closing),
      ih (fun d inside => inner d (List.mem_cons_of_mem _ inside))
        (fun d inside => unbracketed d (List.mem_cons_of_mem _ inside))
        (fun free inside => colon free (List.mem_cons_of_mem _ inside))]
    rfl

/-- The host ends where a port or the path begins. -/
theorem readHostText_written {cs : List Char} (read : webHost? cs = some host)
    (ends : ∀ c ∈ rest.head?, c = ':' ∨ c = '/') :
    readHostText true false (host.chars ++ rest) = (host.chars, rest) := by
  have reached : readHostText true false rest = ([], rest) := by
    cases rest with
    | nil => rfl
    | cons c rest =>
      rcases ends c rfl with rfl | rfl
      · rfl
      · rfl
  rcases host_shape read with allowed | ⟨text, written, bracketed⟩
  · have inner : ∀ c ∈ host.chars, isInner c = true := fun c inside => isInner_of_allowed (allowed c inside)
    have unbracketed : ∀ c ∈ host.chars, c ≠ '[' ∧ c ≠ ']' := by
      intro c inside
      constructor
      · rintro rfl
        cases allowed '[' inside
      · rintro rfl
        cases allowed ']' inside
    have unparted : ':' ∉ host.chars := fun inside => Bool.noConfusion (allowed ':' inside)
    rw [readHostText_through inner unbracketed (fun _ => unparted), reached, List.append_nil]
  · have within : ∀ c ∈ text, isInner c = true ∧ c ≠ '[' ∧ c ≠ ']' := by
      intro c inside
      have shape := bracketed c inside
      simp only [isBracketed, Bool.and_eq_true, bne_iff_ne] at shape
      exact ⟨shape.1.1.1, shape.1.1.2, shape.1.2⟩
    have inside : readHostText true true (text ++ ']' :: rest) =
        (text ++ (readHostText true true (']' :: rest)).1, (readHostText true true (']' :: rest)).2) :=
      readHostText_through (fun c here => (within c here).1) (fun c here => (within c here).2)
        (fun (outside : true = false) => nomatch outside) _
    have opened : readHostText true false ('[' :: (text ++ ']' :: rest)) =
        ('[' :: (readHostText true true (text ++ ']' :: rest)).1, (readHostText true true (text ++ ']' :: rest)).2) := rfl
    have closed : readHostText true true (']' :: rest) =
        (']' :: (readHostText true false rest).1, (readHostText true false rest).2) := rfl
    rw [written, List.cons_append, List.append_assoc, List.singleton_append, opened, inside, closed, reached]

end Parts

section Ports

variable {defaultPort : Option Nat} {cs rest : List Char} {port : Nat}

/-- A port that was read is in range, and it is not the one that goes without saying. -/
theorem bounds_of_readPort? (read : readPort? defaultPort cs = some (some port, rest)) :
    port ≤ largestPort ∧ some port ≠ defaultPort := by
  have known {digits : List Char} {n : Nat} (given : readPort?.given defaultPort digits n = some port) :
      n = port ∧ some port ≠ defaultPort := by
    unfold readPort?.given at given
    split at given
    · cases given
    · rename_i apart
      cases given
      exact ⟨rfl, fun same => apart (Or.inr same)⟩
  unfold readPort? at read
  dsimp only at read
  split at read
  · cases read
  · rename_i small
    have bound := Nat.le_of_not_lt small
    split at read
    · split at read
      · obtain ⟨given, _⟩ := Prod.mk.inj (Option.some.inj read)
        obtain ⟨rfl, apart⟩ := known given
        exact ⟨bound, apart⟩
      · cases read
    · obtain ⟨given, _⟩ := Prod.mk.inj (Option.some.inj read)
      obtain ⟨rfl, apart⟩ := known given
      exact ⟨bound, apart⟩

/-- Such a port is read from its digits, up to the path. -/
theorem readPort?_toDigits (small : port ≤ largestPort) (apart : some port ≠ defaultPort) (path : BeginsPath rest) :
    readPort? defaultPort (Nat.toDigits 10 port ++ rest) = some (some port, rest) := by
  have digits : ∀ c ∈ Nat.toDigits 10 port, isDigit c = true := fun c => isDigit_of_mem_toDigits
  have given : readPort?.given defaultPort (Nat.toDigits 10 port) port = some port := by
    rw [readPort?.given, if_neg (by simp [apart])]
  unfold readPort?
  dsimp only
  rw [List.takeWhile_append_of_pos digits, List.dropWhile_append_of_pos digits]
  cases rest with
  | nil =>
    rw [List.takeWhile_nil, List.dropWhile_nil, List.append_nil, digitsValue_toDigits, if_neg (Nat.not_lt.mpr small), given]
  | cons c rest =>
    obtain rfl := path c rfl
    rw [List.takeWhile_cons_of_neg (by decide), List.dropWhile_cons_of_neg (by decide), List.append_nil,
      digitsValue_toDigits, if_neg (Nat.not_lt.mpr small), given]
    rfl

/-- The port as it is written behind a host. -/
def portText : Option Nat → List Char
  | some port => ':' :: Nat.toDigits 10 port
  | none => []

theorem portPart?_written {kind : Kind} {given : Option Nat} {more : List Char}
    (read : portPart? kind cs = some (given, more)) (path : BeginsPath rest) :
    portPart? kind (portText given ++ rest) = some (given, rest) := by
  cases given with
  | none =>
    cases rest with
    | nil => rfl
    | cons c rest =>
      obtain rfl := path c rfl
      rfl
  | some port =>
    unfold portPart? at read
    split at read
    · obtain ⟨small, apart⟩ := bounds_of_readPort? read
      exact readPort?_toDigits small apart path
    · cases read

theorem not_mem_portText (given : Option Nat) : '@' ∉ portText given := by
  cases given with
  | none => exact List.not_mem_nil
  | some port =>
    intro inside
    rcases List.mem_cons.mp inside with mark | digit
    · cases mark
    · cases isDigit_of_mem_toDigits digit

end Ports

/-- What a URL of the web writes as its authority is read as its user name, its password, its host and its port. -/
theorem readAuthority?_written {scheme cs authority rest : List Char} {port : Nat} {url : Url}
    (read : readAuthority? scheme (.web port) cs = some url) (written : url.authorityChars = '/' :: '/' :: authority)
    (inner : ∀ c ∈ authority, isInner c = true) (visible : url.hostText?.isSome = true) (path : BeginsPath rest) :
    readAuthority? scheme (.web port) (authority ++ rest) =
      some { url with path := readPath true rest, query := (readTail true rest).1, fragment := (readTail true rest).2 } := by
  obtain ⟨username, password, behind, host, given, _, user, hosted, found, rfl⟩ := readAuthority?_eq_some_iff.mp read
  obtain ⟨name, secret⟩ := isUser_of_readUserinfo? user
  obtain ⟨_, hosted⟩ := hostOf?_eq_some_iff.mp hosted
  have named : host.chars ≠ [] := by
    intro none
    simp [hostText?, ofParts, none] at visible
  have text : authority = userText username password ++ (host.chars ++ portText given) := by
    have whole : authority = userinfoChars (ofParts true scheme username password host given _) ++ host.chars ++
        portText given := (List.cons.inj (List.cons.inj written.symm).2).2
    rw [whole, userinfoChars_ofParts, List.append_assoc]
  subst text
  have absent : '@' ∉ host.chars ++ portText given := by
    intro inside
    exact (List.mem_append.mp inside).elim (not_mem_host hosted) (not_mem_portText given)
  have present : host.chars ++ portText given ≠ [] := List.append_ne_nil_of_left_ne_nil named _
  have ends : ∀ c ∈ (portText given ++ rest).head?, c = ':' ∨ c = '/' := by
    cases given with
    | none => exact fun c first => Or.inr (path c first)
    | some port =>
      rintro c ⟨⟩
      exact Or.inl rfl
  have apart : readHostText true false (host.chars ++ portText given ++ rest) = (host.chars, portText given ++ rest) := by
    rw [List.append_assoc]
    exact readHostText_written hosted ends
  refine readAuthority?_eq_some_iff.mpr ⟨username, password, _, host, given, rest,
    readUserinfo?_written name secret inner absent present path, ?_, ?_, rfl⟩
  · simp only [Kind.isSpecial, apart]
    exact hostOf?_eq_some_iff.mpr ⟨named, webHost?_chars hosted⟩
  · simp only [Kind.isSpecial, apart]
    exact portPart?_written found path

end AuthzClient.Url
