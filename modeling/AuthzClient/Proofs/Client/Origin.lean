import AuthzClient.Proofs.Client.Endpoint
import AuthzClient.Proofs.Token.Endpoint

/-!
The site of requests. The URL of the server is written and read again with a path behind it, and whatever that path holds,
the scheme, the user name, the password, the host and the port are those of the server.
-/

namespace AuthzClient

namespace Url

/-- A URL that differs from another one at most in what stands behind the authority. -/
structure StaysAt (url site : Url) : Prop where
  scheme : url.scheme = site.scheme
  username : url.username = site.username
  password : url.password = site.password
  host : url.host = site.host
  port : url.port = site.port

end Url

namespace Template

theorem exists_fill (path : List Char) (name value : String) : ∃ rest, fill ('/' :: path) name value = '/' :: rest := by
  have begins : ¬(placeholder name).isPrefixOf ('/' :: path) = true := by
    rw [placeholder, List.cons_append, List.isPrefixOf_cons_cons]
    simp
  exact ⟨_, (Text.replaceAll_cons ..).trans (if_neg begins)⟩

/-- A path begins with a slash, and no filling takes it away. -/
theorem exists_filledPath {template : Template} {storeId : Option String} {path : List Char}
    (filled : template.filledPath storeId = .ok path) : ∃ rest, path = '/' :: rest := by
  have start : ∃ rest, startPath template.path = '/' :: rest := by
    unfold startPath
    split
    · exact ⟨_, rfl⟩
    · exact ⟨_, rfl⟩
  have all (parameters : Entries String) {path : List Char} (slashed : ∃ rest, path = '/' :: rest) :
      ∃ rest, Template.fillAll path parameters = '/' :: rest := by
    induction parameters generalizing path with
    | nil => exact slashed
    | cons first parameters ih =>
      obtain ⟨rest, rfl⟩ := slashed
      exact ih (exists_fill rest first.1 first.2)
  have store {path : List Char} (slashed : ∃ rest, path = '/' :: rest) :
      ∃ rest, Template.fillStore path storeId = '/' :: rest := by
    unfold Template.fillStore
    split
    · split
      · exact slashed
      · obtain ⟨rest, rfl⟩ := slashed
        exact exists_fill rest _ _
    · exact slashed
  unfold filledPath at filled
  dsimp only at filled
  split at filled
  · cases filled
  · cases filled
    exact store (all _ start)

end Template

/-- What a configuration was checked for. -/
theorem Configuration.of_validate {config : Configuration} (valid : config.validate = .ok ()) :
    ∃ url headers, config.parsedApiUrl = .ok url ∧ config.maxRetries ≤ Retry.retriesLimit ∧
      gatherHeaders [] config.defaultHeaders = .ok headers ∧ config.credentials.validate = .ok () := by
  unfold Configuration.validate at valid
  split at valid
  · cases valid
  · rename_i url parsed
    split at valid
    · cases valid
    · rename_i few
      split at valid
      · cases valid
      · rename_i headers legal
        exact ⟨url, headers, parsed, Nat.not_lt.mp few, legal, valid⟩

theorem Configuration.retryPlan_none {config : Configuration} (few : config.maxRetries ≤ Retry.retriesLimit) :
    config.retryPlan .none = .ok ⟨config.maxRetries, config.minimumDelay⟩ := if_neg (Nat.not_lt.mpr few)

namespace Client

variable {config : Configuration} {client : Client}

namespace Base

variable (base : client.Base)

include base

/-- Whatever is joined behind a slash, a part of the whole text is read behind the authority of the server. -/
theorem exists_tail_of_join {path : List Char} {operation : String} {url : Url}
    (joined : client.join ('/' :: path) operation = .ok url) :
    ∃ tail, Url.relevant (client.basePart ++ '/' :: path) =
        base.scheme ++ ':' :: '/' :: '/' :: (base.authority ++ '/' :: tail) ∧
      url = { client.baseUrl with
        path := Url.readPath true ('/' :: tail), query := (Url.readTail true ('/' :: tail)).1,
        fragment := (Url.readTail true ('/' :: tail)).2 } := by
  have whole := base.beginsPath_segments client.baseUrl.tailChars
  obtain ⟨more, behind⟩ := (whole.of_prefix (List.rdropWhile_prefix (· == '/') _)).append path
  have text : client.basePart ++ '/' :: path =
      (base.scheme ++ ':' :: '/' :: '/' :: (base.authority ++ ['/'])) ++ more := by
    rw [base.basePart_eq, List.append_assoc, List.cons_append, List.cons_append, List.cons_append, List.append_assoc,
      behind]
    simp
  have visible := Url.visible_written base.http base.inner (List.forall_mem_singleton.mpr (by decide : 0x20 < '/'.toNat))
  have present : base.scheme ++ ':' :: '/' :: '/' :: (base.authority ++ ['/']) ≠ [] := by simp
  obtain ⟨tail, whole⟩ : ∃ tail, Url.relevant (client.basePart ++ '/' :: path) =
      (base.scheme ++ ':' :: '/' :: '/' :: (base.authority ++ ['/'])) ++ tail :=
    ⟨_, text ▸ Url.relevant_append present visible more⟩
  have counts : Url.relevant (client.basePart ++ '/' :: path) =
      base.scheme ++ ':' :: '/' :: '/' :: (base.authority ++ '/' :: tail) := by
    rw [whole]
    simp
  rw [base.join_eq operation counts (Url.beginsPath_cons tail)] at joined
  exact ⟨tail, counts, (Except.ok.inj joined).symm⟩

theorem staysAt_of_join {path : List Char} {operation : String} {url : Url}
    (joined : client.join ('/' :: path) operation = .ok url) : url.StaysAt client.baseUrl := by
  obtain ⟨tail, _, rfl⟩ := base.exists_tail_of_join joined
  exact ⟨rfl, rfl, rfl, rfl, rfl⟩

theorem staysAt_of_fillTemplate {template : Template} {request : Request}
    (done : client.fillTemplate template = .ok request) : request.url.StaysAt client.baseUrl := by
  obtain ⟨path, joinedUrl, filled, joined, query, same⟩ := join_of_fillTemplate done
  obtain ⟨rest, rfl⟩ := Template.exists_filledPath filled
  have stays := base.staysAt_of_join joined
  rw [same]
  exact ⟨stays.scheme, stays.username, stays.password, stays.host, stays.port⟩

theorem staysAt_of_objectsRequest {storeId : String} {body : Except Json.Fault Json} {request : Request}
    (done : client.objectsRequest storeId body = .ok request) : request.url.StaysAt client.baseUrl := by
  have joined := join_of_objectsRequest done
  rw [objectsPath_eq, Url.written_cons] at joined
  exact base.staysAt_of_join joined

end Base

theorem exists_authorizer {credentials : Credentials} (valid : credentials.validate = .ok ()) (plan : RetryPlan) :
    ∃ authorizer, Authorizer.ofCredentials credentials plan = .ok authorizer := by
  cases credentials with
  | none => exact ⟨_, Authorizer.ofCredentials_eq_ok_iff.mpr ⟨valid, .none⟩⟩
  | apiToken token => exact ⟨_, Authorizer.ofCredentials_eq_ok_iff.mpr ⟨valid, .apiToken token⟩⟩
  | client credentials =>
    obtain ⟨endpoint, resolved, _⟩ := ClientCredentials.exists_endpoint valid
    exact ⟨_, Authorizer.ofCredentials_eq_ok_iff.mpr ⟨valid, .issued resolved⟩⟩

/-- A configuration that was checked makes a client. -/
theorem exists_ofConfiguration (valid : config.validate = .ok ()) :
    ∃ client, ofConfiguration config = .ok client ∧ config.parsedApiUrl = .ok client.baseUrl := by
  obtain ⟨url, _, parsed, few, _, credentials⟩ := Configuration.of_validate valid
  obtain ⟨authorizer, authorized⟩ := exists_authorizer credentials ⟨config.maxRetries, config.minimumDelay⟩
  refine ⟨⟨config, url, config.credentials.identity, authorizer⟩, ?_, parsed⟩
  rw [ofConfiguration, valid, parsed, Configuration.retryPlan_none few]
  change (Authorizer.ofCredentials config.credentials _).bind _ = _
  rw [authorized]
  rfl

/-- No template, no parameter and no store leads away from the site of the server. -/
theorem staysAt_of_valid (valid : config.validate = .ok ()) :
    ∃ client, ofConfiguration config = .ok client ∧ config.parsedApiUrl = .ok client.baseUrl ∧
      (∀ template request, client.fillTemplate template = .ok request → request.url.StaysAt client.baseUrl) ∧
      ∀ storeId body request, client.objectsRequest storeId body = .ok request → request.url.StaysAt client.baseUrl := by
  obtain ⟨client, made, url⟩ := exists_ofConfiguration valid
  obtain ⟨base⟩ := exists_base made
  exact ⟨client, made, url, fun template request => base.staysAt_of_fillTemplate,
    fun storeId body request => base.staysAt_of_objectsRequest⟩

/-- A client of a server behind a password, at a port of its own. -/
def guarded : Client where
  config := { Configuration.standard with apiUrl := " https://ada:p@ss@API.fga.example:8443 " }
  baseUrl := ⟨"https", "ada", some "p%40ss", some (.domain "api.fga.example"), some 8443, .segments [""], none, none⟩
  identity := .none
  authorizer := .none

/-- A template that would like to lead away. -/
def luring : Template :=
  { Template.new "GET" "\t\\\\x\n:y@evil.example:1/\x7bto\x7d#@z" with pathParameters := [("to", "//evil.example")] }

theorem staysAt_of_valid_guarded :
    guarded.config.validate = .ok () ∧
      ∃ request, guarded.fillTemplate luring = .ok request ∧ request.url.StaysAt guarded.baseUrl := by
  have valid : guarded.config.validate = .ok () := Except.eq_ok_of_toOption (by decide +kernel)
  have known : ofConfiguration guarded.config = .ok guarded := Except.eq_ok_of_toOption (by decide +kernel)
  obtain ⟨client, made, _, stays, _⟩ := staysAt_of_valid valid
  cases known.symm.trans made
  have fills : (guarded.fillTemplate luring).toOption.isSome = true := by decide +kernel
  obtain ⟨request, filled⟩ := Option.isSome_iff_exists.mp fills
  have filled := Except.eq_ok_of_toOption filled
  exact ⟨valid, request, filled, stays luring request filled⟩

end Client

end AuthzClient
