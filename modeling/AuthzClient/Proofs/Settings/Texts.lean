import AuthzClient.Proofs.Settings.Reading
import AuthzClient.Proofs.Settings.Shown

/-!
The settings that are texts. Each has its path and its place in a configuration, and what is read into that place is the
text at the end of that path. Where only that text is another one, a configuration is read as well, and it has the other
text there.
-/

namespace AuthzClient

/-- The settings that are texts. -/
inductive TextSetting
  | apiUrl | storeId | userAgent | apiToken | clientId | clientSecret | issuer | audience | scopes
  deriving DecidableEq, Repr

namespace TextSetting

def path : TextSetting → List String
  | apiUrl => ["api_url"]
  | storeId => ["store_id"]
  | userAgent => ["user_agent"]
  | apiToken => ["credentials", "api_token"]
  | clientId => ["credentials", "client_id"]
  | clientSecret => ["credentials", "client_secret"]
  | issuer => ["credentials", "api_token_issuer"]
  | audience => ["credentials", "api_audience"]
  | scopes => ["credentials", "scopes"]

/-- The text that a configuration has for a setting, if it has one. -/
def get (config : Configuration) : TextSetting → Option String
  | apiUrl => some config.apiUrl
  | storeId => config.storeId
  | userAgent => some config.userAgent
  | apiToken =>
    match config.credentials with
    | .apiToken token => some token.exposed
    | _ => none
  | clientId => config.credentials.client?.map (·.clientId)
  | clientSecret => config.credentials.client?.map (·.clientSecret.exposed)
  | issuer => config.credentials.client?.map (·.issuer)
  | audience => config.credentials.client?.bind (·.audience)
  | scopes => config.credentials.client?.bind (·.scopes)

/-- Credentials have the settings of their method only. -/
def Applies (config : Configuration) : TextSetting → Prop
  | apiUrl | storeId | userAgent => True
  | apiToken => ∃ token, config.credentials = .apiToken token
  | clientId | clientSecret | issuer | audience | scopes => ∃ issued, config.credentials = .client issued

/-- With other credentials of the same kind, if tokens are issued for them. -/
def onClient (change : ClientCredentials → ClientCredentials) : Credentials → Credentials
  | .client issued => .client (change issued)
  | other => other

/-- A configuration with a text for a setting. -/
def put (s : String) (config : Configuration) : TextSetting → Configuration
  | apiUrl => { config with apiUrl := s }
  | storeId => { config with storeId := some s }
  | userAgent => { config with userAgent := s }
  | apiToken =>
    match config.credentials with
    | .apiToken _ => { config with credentials := .apiToken ⟨s⟩ }
    | _ => config
  | clientId => { config with credentials := onClient ({ · with clientId := s }) config.credentials }
  | clientSecret => { config with credentials := onClient ({ · with clientSecret := ⟨s⟩ }) config.credentials }
  | issuer => { config with credentials := onClient ({ · with issuer := s }) config.credentials }
  | audience => { config with credentials := onClient ({ · with audience := some s }) config.credentials }
  | scopes => { config with credentials := onClient ({ · with scopes := some s }) config.credentials }

theorem get_put {config : Configuration} {t : TextSetting} (applies : t.Applies config) (s : String) :
    t.get (t.put s config) = some s := by
  cases t with
  | apiUrl | storeId | userAgent => rfl
  | apiToken =>
    obtain ⟨token, kind⟩ := applies
    simp only [put, kind, get]
  | clientId | clientSecret | issuer | audience | scopes =>
    obtain ⟨issued, kind⟩ := applies
    simp only [put, kind, get, onClient, Credentials.client?, Option.map_some, Option.bind_some]

end TextSetting

namespace Settings

variable {members : Entries Json} {config : Configuration} {name : String}

theorem text?_of_text {value : Json} {s : String} (read : text value = .ok s) : text? value = .ok (some s) := by
  rw [text_eq_ok_iff] at read
  subst read
  rfl

/-- A value that may be left out is read as nothing where it is. -/
theorem readMember_text? : readMember members name text? none = text? ((Entries.get? name members).getD .null) := by
  rw [readMember]
  cases Entries.get? name members <;> rfl

theorem text?_getD_of_readMember {standard s : String} (read : readMember members name text standard = .ok s) :
    text? ((Entries.get? name members).getD (.text standard)) = .ok (some s) := by
  rw [readMember] at read
  cases found : Entries.get? name members with
  | none =>
    rw [found] at read
    cases read
    rfl
  | some value =>
    rw [found] at read
    exact text?_of_text read

/-- What stands at a path, or else what is standard there. -/
def orStandard (settings : Json) (path : List String) : Json :=
  (settings.at? path).getD ((Configuration.standard.toSettings.at? path).getD .null)

/-- What is standard at the end of a path: credentials of no method have no text in them. -/
theorem at?_standard_text (t : TextSetting) : (Configuration.standard.toSettings.at? t.path).getD .null =
    match t with
    | .apiUrl => .text Configuration.standard.apiUrl
    | .userAgent => .text Configuration.standard.userAgent
    | _ => .null := by
  rw [toSettings_eq]
  cases t <;> rfl

/-- Credentials that are there are read off a group, unless they are a list. -/
theorem credentials_group (ordered : (Json.object members).Ordered) (reads : Reads members config)
    {value : Json} (found : Entries.get? "credentials" members = some value) (grouped : ∀ items, value ≠ .array items) :
    ∃ group method, value = .object group ∧
      (∃ chosen, Entries.get? "method" group = some chosen ∧ Settings.method chosen = .ok method) ∧
      ReadsParts group method config.credentials := by
  have read := reads.credentials
  rw [readMember, found] at read
  cases value with
  | array items => exact absurd rfl (grouped items)
  | null | bool | number | text => cases read
  | object group =>
    have fine : (Json.object group).Ordered := ordered.member found
    obtain ⟨chosen, method, inside, named, parts⟩ := (credentials_eq_ok_iff fine.ascending _).mp read
    exact ⟨group, method, rfl, ⟨chosen, inside, named⟩, parts⟩

/-- Where credentials are used they are there; so they are a group if they are no list. -/
theorem exists_group (ordered : (Json.object members).Ordered) (reads : Reads members config) {t : TextSetting}
    (applies : t.Applies config) (nested : 1 < t.path.length)
    (grouped : ∀ items, Entries.get? "credentials" members ≠ some (.array items)) :
    ∃ group method, Entries.get? "credentials" members = some (.object group) ∧
      ReadsParts group method config.credentials := by
  have used : config.credentials ≠ .none := by
    cases t with
    | apiUrl | storeId | userAgent => exact absurd nested (Nat.lt_irrefl 1)
    | apiToken | clientId | clientSecret | issuer | audience | scopes =>
      obtain ⟨_, kind⟩ := applies
      simp [kind]
  cases found : Entries.get? "credentials" members with
  | none =>
    have absent := reads.credentials
    rw [readMember, found] at absent
    exact absurd (Except.ok.inj absent).symm used
  | some value =>
    obtain ⟨group, method, rfl, _, parts⟩ :=
      credentials_group ordered reads found fun items same => grouped items (same ▸ found)
    exact ⟨group, method, rfl, parts⟩

/-- The text of a setting is the one at the end of its path, or the standard one, if credentials that it is part of are
no list. -/
theorem text?_orStandard (ordered : (Json.object members).Ordered) (reads : Reads members config)
    {t : TextSetting} (applies : t.Applies config)
    (grouped : 1 < t.path.length → ∀ items, Entries.get? "credentials" members ≠ some (.array items)) :
    text? (orStandard (.object members) t.path) = .ok (t.get config) := by
  have parts (nested : 1 < t.path.length) := exists_group ordered reads applies nested (grouped nested)
  rw [orStandard, at?_standard_text]
  cases t with
  | apiUrl =>
    rw [TextSetting.path, at?_singleton]
    exact text?_getD_of_readMember reads.apiUrl
  | storeId =>
    rw [TextSetting.path, at?_singleton]
    exact readMember_text?.symm.trans reads.storeId
  | userAgent =>
    rw [TextSetting.path, at?_singleton]
    exact text?_getD_of_readMember reads.userAgent
  | apiToken =>
    obtain ⟨token, kind⟩ := applies
    obtain ⟨group, method, found, parts⟩ := parts (by decide)
    rw [TextSetting.path, at?_pair members found]
    simp only [TextSetting.get, kind]
    rw [kind] at parts
    cases parts with
    | apiToken given => rw [Json.member?, given]; rfl
  | clientId | clientSecret | issuer =>
    obtain ⟨issued, kind⟩ := applies
    obtain ⟨group, method, found, parts⟩ := parts (by decide)
    rw [TextSetting.path, at?_pair members found]
    simp only [TextSetting.get, kind, Credentials.client?, Option.map_some]
    rw [kind] at parts
    cases parts with
    | client id secret issuer _ _ =>
      simp only [Json.member?, id, secret, issuer]
      rfl
  | audience | scopes =>
    obtain ⟨issued, kind⟩ := applies
    obtain ⟨group, method, found, parts⟩ := parts (by decide)
    rw [TextSetting.path, at?_pair members found]
    simp only [TextSetting.get, kind, Credentials.client?, Option.bind_some]
    rw [kind] at parts
    cases parts with
    | client _ _ _ audience scopes =>
      rw [readMember_text?] at audience scopes
      assumption

section Replacing

variable {others : Entries Json} {s : String}

/-- The text of one member is another one, and the other members are the same. -/
structure Replaces (members others : Entries Json) (name s : String) : Prop where
  here : Entries.get? name others = some (.text s)
  elsewhere : ∀ other, other ≠ name → Entries.get? other others = Entries.get? other members

namespace Replaces

theorem text (replaces : Replaces members others name s) {other t : String}
    (found : Entries.get? other members = some (.text t)) :
    Entries.get? other others = some (.text (if other = name then s else t)) := by
  by_cases same : other = name
  · rw [if_pos same, same, replaces.here]
  · rw [if_neg same, replaces.elsewhere other same, found]

theorem text? (replaces : Replaces members others name s) {other : String} {t : Option String}
    (read : readMember members other text? none = .ok t) :
    readMember others other Settings.text? none = .ok (if other = name then some s else t) := by
  by_cases same : other = name
  · rw [if_pos same, same, readMember, replaces.here]
    rfl
  · rwa [if_neg same, readMember, replaces.elsewhere other same]

end Replaces

/-- Credentials with another text among their members. -/
theorem credentials_replaced {part : String} (first : (Json.object members).Ordered)
    (second : (Json.object others).Ordered) {t : TextSetting} (nested : t.path = ["credentials", part])
    (applies : t.Applies config) (replaces : Replaces members others part s)
    (read : credentials (.object members) = .ok config.credentials) :
    credentials (.object others) = .ok (t.put s config).credentials := by
  obtain ⟨value, chosen, inside, named, parts⟩ := (credentials_eq_ok_iff first.ascending _).mp read
  have other : "method" ≠ part := by
    rintro rfl
    cases t <;> simp [TextSetting.path] at nested
  refine (credentials_eq_ok_iff second.ascending _).mpr
    ⟨value, chosen, (replaces.elsewhere _ other).trans inside, named, ?_⟩
  cases t with
  | apiUrl | storeId | userAgent => simp [TextSetting.path] at nested
  | apiToken =>
    obtain ⟨token, kind⟩ := applies
    obtain rfl : "api_token" = part := by simpa [TextSetting.path] using nested
    simp only [TextSetting.put, kind]
    rw [kind] at parts
    cases parts
    exact .apiToken replaces.here
  | clientId | clientSecret | issuer | audience | scopes =>
    obtain ⟨issued, kind⟩ := applies
    rw [kind] at parts
    cases parts with
    | client id secret issuer audience scopes =>
      have client : ReadsParts others .clientCredentials (.client
          ⟨if "client_id" = part then s else issued.clientId,
            ⟨if "client_secret" = part then s else issued.clientSecret.exposed⟩,
            if "api_token_issuer" = part then s else issued.issuer,
            if "api_audience" = part then some s else issued.audience,
            if "scopes" = part then some s else issued.scopes⟩) :=
        .client (replaces.text id) (replaces.text secret) (replaces.text issuer) (replaces.text? audience)
          (replaces.text? scopes)
      simp only [TextSetting.path, List.cons.injEq, and_true, true_and] at nested
      subst nested
      simpa [TextSetting.put, kind, TextSetting.onClient] using client

/-- Other credentials are read where all other members are the same. -/
theorem Reads.withCredentials (reads : Reads members config) {given : Credentials} {value : Json}
    (found : Entries.get? "credentials" others = some value) (read : Settings.credentials value = .ok given)
    (same : ∀ other, other ≠ "credentials" → Entries.get? other others = Entries.get? other members) :
    Reads others { config with credentials := given } := by
  have kept {α : Type} {name : String} {reader : Json → Reading α} {otherwise a : α} (differs : name ≠ "credentials")
      (taken : readMember members name reader otherwise = .ok a) : readMember others name reader otherwise = .ok a := by
    rwa [readMember, same name differs]
  refine ⟨kept (by decide) reads.apiUrl, kept (by decide) reads.connectTimeout, ?_, kept (by decide) reads.defaultHeaders,
    kept (by decide) reads.maxRetries, kept (by decide) reads.minimumDelay, kept (by decide) reads.requestTimeout,
    kept (by decide) reads.storeId, kept (by decide) reads.userAgent⟩
  rw [readMember, found]
  exact read

/-- Another text is read where all other members are the same. -/
theorem Reads.put (reads : Reads members config) {t : TextSetting} {name : String} (top : t.path = [name])
    (replaces : Replaces members others name s) : Reads others (t.put s config) := by
  have kept {α : Type} {other : String} {reader : Json → Reading α} {otherwise a : α} (differs : other ≠ name)
      (taken : readMember members other reader otherwise = .ok a) : readMember others other reader otherwise = .ok a := by
    rwa [readMember, replaces.elsewhere other differs]
  have here {α : Type} (reader : Json → Reading α) (otherwise : α) :
      readMember others name reader otherwise = reader (.text s) := by
    rw [readMember, replaces.here]
  cases t with
  | apiUrl =>
    obtain rfl : "api_url" = name := by simpa [TextSetting.path] using top
    exact ⟨here _ _, kept (by decide) reads.connectTimeout, kept (by decide) reads.credentials,
      kept (by decide) reads.defaultHeaders, kept (by decide) reads.maxRetries, kept (by decide) reads.minimumDelay,
      kept (by decide) reads.requestTimeout, kept (by decide) reads.storeId, kept (by decide) reads.userAgent⟩
  | storeId =>
    obtain rfl : "store_id" = name := by simpa [TextSetting.path] using top
    exact ⟨kept (by decide) reads.apiUrl, kept (by decide) reads.connectTimeout, kept (by decide) reads.credentials,
      kept (by decide) reads.defaultHeaders, kept (by decide) reads.maxRetries, kept (by decide) reads.minimumDelay,
      kept (by decide) reads.requestTimeout, here _ _, kept (by decide) reads.userAgent⟩
  | userAgent =>
    obtain rfl : "user_agent" = name := by simpa [TextSetting.path] using top
    exact ⟨kept (by decide) reads.apiUrl, kept (by decide) reads.connectTimeout, kept (by decide) reads.credentials,
      kept (by decide) reads.defaultHeaders, kept (by decide) reads.maxRetries, kept (by decide) reads.minimumDelay,
      kept (by decide) reads.requestTimeout, kept (by decide) reads.storeId, here _ _⟩
  | apiToken | clientId | clientSecret | issuer | audience | scopes => simp [TextSetting.path] at top

/-- A text is at the top, or among the credentials. -/
theorem path_cases (t : TextSetting) : (∃ name, t.path = [name]) ∨ ∃ part, t.path = ["credentials", part] := by
  cases t with
  | apiUrl | storeId | userAgent => exact Or.inl ⟨_, rfl⟩
  | apiToken | clientId | clientSecret | issuer | audience | scopes => exact Or.inr ⟨_, rfl⟩

theorem path_cons (t : TextSetting) : ∃ head rest, t.path = head :: rest := by
  cases t <;> exact ⟨_, _, rfl⟩

theorem put_nested {t : TextSetting} {part : String} (nested : t.path = ["credentials", part]) :
    t.put s config = { config with credentials := (t.put s config).credentials } := by
  cases t with
  | apiUrl | storeId | userAgent => simp [TextSetting.path] at nested
  | apiToken =>
    rw [TextSetting.put]
    split <;> rfl
  | clientId | clientSecret | issuer | audience | scopes => rfl

theorem replaces_of_beside (beside : Beside s [name] (some (.object members)) (.object others)) :
    Replaces members others name s := by
  cases beside with
  | inside same held within =>
    cases within
    exact ⟨held, same⟩
  | alone single => exact absurd rfl (single members)

/-- Settings that have another text at the path of a setting are read as well, unless that is a part of a list. -/
theorem Reads.beside (first : (Json.object members).Ordered) (second : (Json.object others).Ordered)
    {t : TextSetting} (beside : Beside s t.path (some (.object members)) (.object others)) (reads : Reads members config)
    (applies : t.Applies config)
    (grouped : 1 < t.path.length → ∀ items, Entries.get? "credentials" members ≠ some (.array items)) :
    Reads others (t.put s config) := by
  rcases path_cases t with ⟨name, top⟩ | ⟨part, nested⟩
  · rw [top] at beside
    exact reads.put top (replaces_of_beside beside)
  · have deep : 1 < t.path.length := nested ▸ Nat.lt_succ_self 1
    obtain ⟨group, method, found, _⟩ := exists_group first reads applies deep (grouped deep)
    rw [nested] at beside
    cases beside with
    | alone single => exact absurd rfl (single members)
    | inside same held within =>
      rw [found] at within
      have given := reads.credentials
      rw [readMember, found] at given
      cases within with
      | alone single => exact absurd rfl (single group)
      | @inside _ _ _ changed _ alike there within =>
        rw [put_nested nested]
        refine reads.withCredentials held ?_ same
        exact credentials_replaced (first.member found) (second.member held) nested applies
          (replaces_of_beside (.inside alike there within)) given

end Replacing

end Settings

end AuthzClient
