import AuthzClient.Proofs.Session.Actions
import AuthzClient.Proofs.Settings.Overlay
import AuthzClient.Settings.Reading

/-!
What a configuration is read from. Members that are taken one after the other, in ascending order, are each taken on their
own: a configuration is read off a group if and only if each of its settings is read off the member of its name, or is
the standard one where there is no such member.
-/

namespace AuthzClient

theorem Except.bind_eq_ok_iff {ε α β : Type} {x : Except ε α} {f : α → Except ε β} {b : β} :
    (x >>= f) = .ok b ↔ ∃ a, x = .ok a ∧ f a = .ok b := by
  refine ⟨Except.bind_eq_ok, ?_⟩
  rintro ⟨a, rfl, done⟩
  exact done

namespace Settings

section Taking

variable {σ : Type} {f : σ → String → Json → Reading σ}

/-- Takes the member of a name, if there is one. -/
def takeNamed (f : σ → String → Json → Reading σ) (members : Entries Json) (state : σ) (name : String) : Reading σ :=
  match Entries.get? name members with
  | some value => f state name value
  | none => .ok state

theorem takeNamed_cons {key : String} {value : Json} {rest : Entries Json} {name : String} (differs : name ≠ key)
    (state : σ) : takeNamed f ((key, value) :: rest) state name = takeNamed f rest state name := by
  rw [takeNamed, Entries.get?, if_neg differs]
  rfl

theorem foldlM_takeNamed_cons {key : String} {value : Json} {rest : Entries Json} {names : List String}
    (differ : ∀ name ∈ names, name ≠ key) (state : σ) :
    names.foldlM (takeNamed f ((key, value) :: rest)) state = names.foldlM (takeNamed f rest) state := by
  induction names generalizing state with
  | nil => rfl
  | cons name names ih =>
    rw [List.foldlM_cons, List.foldlM_cons, takeNamed_cons (differ name List.mem_cons_self)]
    exact bind_congr fun next => ih (fun other inside => differ other (List.mem_cons_of_mem _ inside)) next

theorem foldlM_takeNamed_absent {members : Entries Json} {names : List String}
    (absent : ∀ name ∈ names, Entries.get? name members = none) (state : σ) :
    names.foldlM (takeNamed f members) state = .ok state := by
  induction names with
  | nil => rfl
  | cons name names ih =>
    have skipped : takeNamed f members state name = .ok state := by rw [takeNamed, absent name List.mem_cons_self]
    rw [List.foldlM_cons, skipped]
    exact ih fun other inside => absent other (List.mem_cons_of_mem _ inside)

/-- Members in ascending order are taken as those of the names that count are, in ascending order. -/
theorem foldlM_eq_takeNamed {members : Entries Json} (ascending : members.Ascending) {names : List String}
    (sorted : names.Pairwise (· < ·)) (others : ∀ state name value, name ∉ names → f state name value = .ok state)
    (state : σ) :
    members.foldlM (fun state (name, value) => f state name value) state = names.foldlM (takeNamed f members) state := by
  induction members generalizing state with
  | nil => exact (foldlM_takeNamed_absent (fun _ _ => rfl) state).symm
  | cons head rest ih =>
    obtain ⟨key, value⟩ := head
    obtain ⟨above, tail⟩ := List.pairwise_cons.mp ascending
    rw [List.foldlM_cons]
    dsimp only
    by_cases counts : key ∈ names
    · obtain ⟨front, behind, rfl⟩ := List.append_of_mem counts
      obtain ⟨_, upper, less⟩ := List.pairwise_append.mp sorted
      have lower : ∀ name ∈ front, name < key := fun name inside => less name inside key List.mem_cons_self
      have greater := (List.pairwise_cons.mp upper).1
      -- The key is met once, and no name in front of it is met.
      have later (next : σ) : (front ++ key :: behind).foldlM (takeNamed f rest) next =
          behind.foldlM (takeNamed f rest) next := by
        rw [List.append_cons, List.foldlM_append, foldlM_takeNamed_absent fun name inside => ?_]
        · rfl
        · refine Entries.get?_of_forall_lt fun entry member => ?_
          rcases List.mem_append.mp inside with earlier | here
          · exact String.lt_trans (lower name earlier) (above entry member)
          · rw [List.mem_singleton.mp here]
            exact above entry member
      have here : takeNamed f ((key, value) :: rest) state key = f state key value := by
        rw [takeNamed, Entries.get?, if_pos rfl]
      rw [List.foldlM_append, foldlM_takeNamed_absent fun name inside => ?_]
      · change _ = ((key :: behind).foldlM (takeNamed f ((key, value) :: rest)) state)
        rw [List.foldlM_cons, here]
        refine bind_congr fun next => ?_
        rw [ih tail, later, foldlM_takeNamed_cons]
        rintro _ inside rfl
        exact String.lt_irrefl _ (greater _ inside)
      · refine Entries.get?_of_forall_lt fun entry member => ?_
        rcases List.mem_cons.mp member with rfl | inRest
        · exact lower name inside
        · exact String.lt_trans (lower name inside) (above entry inRest)
    · rw [others state key value counts, foldlM_takeNamed_cons]
      · exact ih tail state
      · rintro _ inside rfl
        exact counts inside

end Taking

/-- What is read off the member of a name, or holds where there is none. -/
def readMember {α : Type} (members : Entries Json) (name : String) (reader : Json → Reading α) (otherwise : α) :
    Reading α :=
  match Entries.get? name members with
  | some value => reader value
  | none => .ok otherwise

theorem map_eq_ok_iff {α β : Type} {x : Reading α} {f : α → β} {b : β} : x.map f = .ok b ↔ ∃ a, x = .ok a ∧ b = f a := by
  cases x with
  | error fault =>
    refine iff_of_false nofun ?_
    rintro ⟨_, ⟨⟩, _⟩
  | ok a => exact ⟨fun done => ⟨a, rfl, (Except.ok.inj done).symm⟩, fun ⟨_, same, done⟩ => by cases same; rw [done]; rfl⟩

theorem under_eq_ok_iff {α : Type} {name : String} {x : Reading α} {a : α} :
    Reading.under name x = .ok a ↔ x = .ok a := by
  cases x with
  | error fault => exact iff_of_false nofun nofun
  | ok b => exact Iff.rfl

theorem atWhole_eq_ok_iff {α : Type} {x : Reading α} {a : α} : Reading.atWhole x = .ok a ↔ x = .ok a := by
  cases x with
  | error fault => exact iff_of_false nofun nofun
  | ok b => exact Iff.rfl

theorem takeNamed_eq_ok_iff {σ α : Type} {f : σ → String → Json → Reading σ} {members : Entries Json} {name : String}
    {reader : Json → Reading α} {set : α → σ} {otherwise : α} {state next : σ}
    (reads : ∀ value, f state name value = .ok next ↔ ∃ found, reader value = .ok found ∧ next = set found)
    (same : set otherwise = state) :
    takeNamed f members state name = .ok next ↔
      ∃ found, readMember members name reader otherwise = .ok found ∧ next = set found := by
  rw [takeNamed, readMember]
  cases Entries.get? name members with
  | none =>
    dsimp only
    rw [← same]
    refine ⟨fun taken => ⟨otherwise, rfl, (Except.ok.inj taken).symm⟩, ?_⟩
    rintro ⟨_, ⟨⟩, rfl⟩
    rfl
  | some value => exact reads value

/-- The names of all settings, in ascending order. -/
def settingNames : List String :=
  ["api_url", "connect_timeout", "credentials", "default_headers", "max_retries", "minimum_retry_delay",
    "request_timeout", "store_id", "user_agent"]

/-- Each setting of a configuration is read off its member, or is the standard one. -/
structure Reads (members : Entries Json) (config : Configuration) : Prop where
  apiUrl : readMember members "api_url" text Configuration.standard.apiUrl = .ok config.apiUrl
  connectTimeout : readMember members "connect_timeout" span Configuration.standard.connectTimeout =
    .ok config.connectTimeout
  credentials : readMember members "credentials" credentials Configuration.standard.credentials = .ok config.credentials
  defaultHeaders : readMember members "default_headers" headers Configuration.standard.defaultHeaders =
    .ok config.defaultHeaders
  maxRetries : readMember members "max_retries" count Configuration.standard.maxRetries = .ok config.maxRetries
  minimumDelay : readMember members "minimum_retry_delay" span Configuration.standard.minimumDelay =
    .ok config.minimumDelay
  requestTimeout : readMember members "request_timeout" span Configuration.standard.requestTimeout =
    .ok config.requestTimeout
  storeId : readMember members "store_id" text? Configuration.standard.storeId = .ok config.storeId
  userAgent : readMember members "user_agent" text Configuration.standard.userAgent = .ok config.userAgent

theorem take_of_not_mem (config : Configuration) (name : String) (value : Json) (other : name ∉ settingNames) :
    take config name value = .ok config := by
  simp only [settingNames, List.mem_cons, List.not_mem_nil, or_false, not_or] at other
  unfold take
  split <;> simp_all [Reading.under]

/-- A configuration is read off a group if and only if each of its settings is. -/
theorem configuration_eq_ok_iff {members : Entries Json} (ascending : members.Ascending) (config : Configuration) :
    configuration (.object members) = .ok config ↔ Reads members config := by
  have apiUrl (c next : Configuration) : takeNamed take members c "api_url" = .ok next ↔
      ∃ a, readMember members "api_url" text c.apiUrl = .ok a ∧ next = { c with apiUrl := a } :=
    takeNamed_eq_ok_iff (fun _ => under_eq_ok_iff.trans map_eq_ok_iff) rfl
  have connectTimeout (c next : Configuration) : takeNamed take members c "connect_timeout" = .ok next ↔
      ∃ a, readMember members "connect_timeout" span c.connectTimeout = .ok a ∧ next = { c with connectTimeout := a } :=
    takeNamed_eq_ok_iff (fun _ => under_eq_ok_iff.trans map_eq_ok_iff) rfl
  have credentials (c next : Configuration) : takeNamed take members c "credentials" = .ok next ↔
      ∃ a, readMember members "credentials" Settings.credentials c.credentials = .ok a ∧
        next = { c with credentials := a } :=
    takeNamed_eq_ok_iff (fun _ => under_eq_ok_iff.trans map_eq_ok_iff) rfl
  have defaultHeaders (c next : Configuration) : takeNamed take members c "default_headers" = .ok next ↔
      ∃ a, readMember members "default_headers" headers c.defaultHeaders = .ok a ∧ next = { c with defaultHeaders := a } :=
    takeNamed_eq_ok_iff (fun _ => under_eq_ok_iff.trans map_eq_ok_iff) rfl
  have maxRetries (c next : Configuration) : takeNamed take members c "max_retries" = .ok next ↔
      ∃ a, readMember members "max_retries" count c.maxRetries = .ok a ∧ next = { c with maxRetries := a } :=
    takeNamed_eq_ok_iff (fun _ => under_eq_ok_iff.trans map_eq_ok_iff) rfl
  have minimumDelay (c next : Configuration) : takeNamed take members c "minimum_retry_delay" = .ok next ↔
      ∃ a, readMember members "minimum_retry_delay" span c.minimumDelay = .ok a ∧ next = { c with minimumDelay := a } :=
    takeNamed_eq_ok_iff (fun _ => under_eq_ok_iff.trans map_eq_ok_iff) rfl
  have requestTimeout (c next : Configuration) : takeNamed take members c "request_timeout" = .ok next ↔
      ∃ a, readMember members "request_timeout" span c.requestTimeout = .ok a ∧ next = { c with requestTimeout := a } :=
    takeNamed_eq_ok_iff (fun _ => under_eq_ok_iff.trans map_eq_ok_iff) rfl
  have storeId (c next : Configuration) : takeNamed take members c "store_id" = .ok next ↔
      ∃ a, readMember members "store_id" text? c.storeId = .ok a ∧ next = { c with storeId := a } :=
    takeNamed_eq_ok_iff (fun _ => under_eq_ok_iff.trans map_eq_ok_iff) rfl
  have userAgent (c next : Configuration) : takeNamed take members c "user_agent" = .ok next ↔
      ∃ a, readMember members "user_agent" text c.userAgent = .ok a ∧ next = { c with userAgent := a } :=
    takeNamed_eq_ok_iff (fun _ => under_eq_ok_iff.trans map_eq_ok_iff) rfl
  rw [configuration, foldlM_eq_takeNamed ascending (by decide : settingNames.Pairwise (· < ·)) take_of_not_mem]
  simp only [settingNames, List.foldlM_cons, List.foldlM_nil, Except.bind_eq_ok_iff, apiUrl, connectTimeout, credentials,
    defaultHeaders, maxRetries, minimumDelay, requestTimeout, storeId, userAgent]
  constructor
  · rintro ⟨_, ⟨_, one, rfl⟩, _, ⟨_, two, rfl⟩, _, ⟨_, three, rfl⟩, _, ⟨_, four, rfl⟩, _, ⟨_, five, rfl⟩, _, ⟨_, six, rfl⟩,
      _, ⟨_, seven, rfl⟩, _, ⟨_, eight, rfl⟩, _, ⟨_, nine, rfl⟩, done⟩
    cases done
    exact ⟨one, two, three, four, five, six, seven, eight, nine⟩
  · rintro ⟨one, two, three, four, five, six, seven, eight, nine⟩
    exact ⟨_, ⟨_, one, rfl⟩, _, ⟨_, two, rfl⟩, _, ⟨_, three, rfl⟩, _, ⟨_, four, rfl⟩, _, ⟨_, five, rfl⟩, _, ⟨_, six, rfl⟩,
      _, ⟨_, seven, rfl⟩, _, ⟨_, eight, rfl⟩, _, ⟨_, nine, rfl⟩, rfl⟩

/-- The names of the parts that credentials of a method have, in ascending order. -/
def partNames : Method → List String
  | .none => []
  | .apiToken => ["api_token"]
  | .clientCredentials => ["api_audience", "api_token_issuer", "client_id", "client_secret", "scopes"]

theorem takePart_of_not_mem (method : Method) (parts : Parts) (name : String) (value : Json)
    (other : name ∉ partNames method) : takePart method parts name value = .ok parts := by
  unfold takePart
  split <;> simp_all [partNames]

/-- The members that credentials are read off. -/
inductive ReadsCredentials (members : Entries Json) : Credentials → Prop
  | none {value : Json} : Entries.get? "method" members = some value → method value = .ok .none →
      ReadsCredentials members .none
  | apiToken {value : Json} {token : String} : Entries.get? "method" members = some value →
      method value = .ok .apiToken → Entries.get? "api_token" members = some (.text token) →
      ReadsCredentials members (.apiToken ⟨token⟩)
  | client {value : Json} {credentials : ClientCredentials} : Entries.get? "method" members = some value →
      method value = .ok .clientCredentials →
      Entries.get? "client_id" members = some (.text credentials.clientId) →
      Entries.get? "client_secret" members = some (.text credentials.clientSecret.exposed) →
      Entries.get? "api_token_issuer" members = some (.text credentials.issuer) →
      readMember members "api_audience" text? .none = .ok credentials.audience →
      readMember members "scopes" text? .none = .ok credentials.scopes → ReadsCredentials members (.client credentials)

theorem text_eq_ok_iff {value : Json} {s : String} : text value = .ok s ↔ value = .text s := by
  cases value with
  | text t => simp [text]
  | null | bool | number | array | object => simp [text, blame]

section Parts

variable {members : Entries Json} {name : String}

/-- A part that is needed is a text. -/
theorem needed_readMember_iff {s : String} :
    (∃ found, readMember members name (fun value => (text value).map some) none = .ok found ∧ needed name found = .ok s) ↔
      Entries.get? name members = some (.text s) := by
  rw [readMember]
  cases Entries.get? name members with
  | none =>
    refine iff_of_false ?_ nofun
    rintro ⟨_, ⟨⟩, ⟨⟩⟩
  | some value =>
    simp only [map_eq_ok_iff, text_eq_ok_iff, Option.some.injEq]
    constructor
    · rintro ⟨_, ⟨t, rfl, rfl⟩, same⟩
      cases same
      rfl
    · rintro rfl
      exact ⟨_, ⟨s, rfl, rfl⟩, rfl⟩

/-- A part that can be left out is a text, or nothing. -/
theorem getD_readMember_iff {s : Option String} :
    (∃ found, readMember members name (fun value => (text? value).map some) none = .ok found ∧ found.getD none = s) ↔
      readMember members name text? none = .ok s := by
  rw [readMember, readMember]
  cases Entries.get? name members with
  | none =>
    simp only [Except.ok.injEq]
    constructor
    · rintro ⟨_, rfl, rfl⟩
      rfl
    · rintro rfl
      exact ⟨none, rfl, rfl⟩
  | some value =>
    simp only [map_eq_ok_iff]
    constructor
    · rintro ⟨_, ⟨t, found, rfl⟩, rfl⟩
      exact found
    · intro found
      exact ⟨_, ⟨s, found, rfl⟩, rfl⟩

/-- A part is set to what is read. -/
theorem map_some_eq_ok_iff {α σ : Type} {x : Reading α} {next : σ} (set : Option α → σ) :
    (x.map fun a => set (some a)) = .ok next ↔ ∃ found, x.map some = .ok found ∧ next = set found := by
  simp only [map_eq_ok_iff]
  constructor
  · rintro ⟨a, done, rfl⟩
    exact ⟨some a, ⟨a, done, rfl⟩, rfl⟩
  · rintro ⟨_, ⟨a, done, rfl⟩, rfl⟩
    exact ⟨a, done, rfl⟩

/-- The members that credentials of a method are read off. -/
inductive ReadsParts (members : Entries Json) : Method → Credentials → Prop
  | none : ReadsParts members .none .none
  | apiToken {token : String} : Entries.get? "api_token" members = some (.text token) →
      ReadsParts members .apiToken (.apiToken ⟨token⟩)
  | client {issued : ClientCredentials} : Entries.get? "client_id" members = some (.text issued.clientId) →
      Entries.get? "client_secret" members = some (.text issued.clientSecret.exposed) →
      Entries.get? "api_token_issuer" members = some (.text issued.issuer) →
      readMember members "api_audience" text? .none = .ok issued.audience →
      readMember members "scopes" text? .none = .ok issued.scopes → ReadsParts members .clientCredentials (.client issued)

/-- The one part of a token. -/
theorem assemble_apiToken_iff {credentials : Credentials} :
    (∃ parts, takeNamed (takePart .apiToken) members noParts "api_token" = .ok parts ∧
        assemble .apiToken parts = .ok credentials) ↔ ReadsParts members .apiToken credentials := by
  have token (next : Parts) : takeNamed (takePart .apiToken) members noParts "api_token" = .ok next ↔
      ∃ a, readMember members "api_token" (fun value => (text value).map some) none = .ok a ∧
        next = ⟨a, none, none, none, none, none⟩ :=
    takeNamed_eq_ok_iff (fun _ => map_some_eq_ok_iff fun a => Parts.mk a none none none none none) rfl
  simp only [token, assemble, map_eq_ok_iff]
  constructor
  · rintro ⟨_, ⟨found, read, rfl⟩, token, given, rfl⟩
    exact .apiToken (needed_readMember_iff.mp ⟨found, read, given⟩)
  · rintro ⟨⟩
    rename_i token given
    obtain ⟨found, read, given⟩ := needed_readMember_iff.mpr given
    exact ⟨_, ⟨found, read, rfl⟩, token, given, rfl⟩

/-- The members that the parts of client credentials are read off. -/
structure ReadsClient (members : Entries Json) (parts : Parts) : Prop where
  audience : readMember members "api_audience" (fun value => (text? value).map some) none = .ok parts.audience
  issuer : readMember members "api_token_issuer" (fun value => (text value).map some) none = .ok parts.issuer
  clientId : readMember members "client_id" (fun value => (text value).map some) none = .ok parts.clientId
  clientSecret : readMember members "client_secret" (fun value => (text value).map some) none = .ok parts.clientSecret
  scopes : readMember members "scopes" (fun value => (text? value).map some) none = .ok parts.scopes
  token : parts.token = none

theorem foldlM_takeNamed_client_iff {parts : Parts} :
    (partNames .clientCredentials).foldlM (takeNamed (takePart .clientCredentials) members) noParts = .ok parts ↔
      ReadsClient members parts := by
  have audience (next : Parts) : takeNamed (takePart .clientCredentials) members noParts "api_audience" = .ok next ↔
      ∃ a, readMember members "api_audience" (fun value => (text? value).map some) none = .ok a ∧
        next = ⟨none, none, none, none, a, none⟩ :=
    takeNamed_eq_ok_iff (fun _ => map_some_eq_ok_iff fun a => Parts.mk none none none none a none) rfl
  have issuer (a : Option (Option String)) (next : Parts) :
      takeNamed (takePart .clientCredentials) members ⟨none, none, none, none, a, none⟩ "api_token_issuer" = .ok next ↔
        ∃ b, readMember members "api_token_issuer" (fun value => (text value).map some) none = .ok b ∧
          next = ⟨none, none, none, b, a, none⟩ :=
    takeNamed_eq_ok_iff (fun _ => map_some_eq_ok_iff fun b => Parts.mk none none none b a none) rfl
  have clientId (a : Option (Option String)) (b : Option String) (next : Parts) :
      takeNamed (takePart .clientCredentials) members ⟨none, none, none, b, a, none⟩ "client_id" = .ok next ↔
        ∃ c, readMember members "client_id" (fun value => (text value).map some) none = .ok c ∧
          next = ⟨none, c, none, b, a, none⟩ :=
    takeNamed_eq_ok_iff (fun _ => map_some_eq_ok_iff fun c => Parts.mk none c none b a none) rfl
  have clientSecret (a : Option (Option String)) (b c : Option String) (next : Parts) :
      takeNamed (takePart .clientCredentials) members ⟨none, c, none, b, a, none⟩ "client_secret" = .ok next ↔
        ∃ d, readMember members "client_secret" (fun value => (text value).map some) none = .ok d ∧
          next = ⟨none, c, d, b, a, none⟩ :=
    takeNamed_eq_ok_iff (fun _ => map_some_eq_ok_iff fun d => Parts.mk none c d b a none) rfl
  have scopes (a : Option (Option String)) (b c d : Option String) (next : Parts) :
      takeNamed (takePart .clientCredentials) members ⟨none, c, d, b, a, none⟩ "scopes" = .ok next ↔
        ∃ e, readMember members "scopes" (fun value => (text? value).map some) none = .ok e ∧
          next = ⟨none, c, d, b, a, e⟩ :=
    takeNamed_eq_ok_iff (fun _ => map_some_eq_ok_iff fun e => Parts.mk none c d b a e) rfl
  simp only [partNames, List.foldlM_cons, List.foldlM_nil, Except.bind_eq_ok_iff]
  constructor
  · rintro ⟨_, first, _, second, _, third, _, fourth, _, fifth, done⟩
    obtain ⟨a, one, rfl⟩ := (audience _).mp first
    obtain ⟨b, two, rfl⟩ := (issuer a _).mp second
    obtain ⟨c, three, rfl⟩ := (clientId a b _).mp third
    obtain ⟨d, four, rfl⟩ := (clientSecret a b c _).mp fourth
    obtain ⟨e, five, rfl⟩ := (scopes a b c d _).mp fifth
    cases done
    exact ⟨one, two, three, four, five, rfl⟩
  · obtain ⟨token, c, d, b, a, e⟩ := parts
    rintro ⟨one, two, three, four, five, unset⟩
    cases unset
    exact ⟨_, (audience _).mpr ⟨a, one, rfl⟩, _, (issuer a _).mpr ⟨b, two, rfl⟩, _, (clientId a b _).mpr ⟨c, three, rfl⟩,
      _, (clientSecret a b c _).mpr ⟨d, four, rfl⟩, _, (scopes a b c d _).mpr ⟨e, five, rfl⟩, rfl⟩

/-- The parts of client credentials: three that are needed and two that can be left out. -/
theorem assemble_client_iff {credentials : Credentials} :
    (∃ parts, (partNames .clientCredentials).foldlM (takeNamed (takePart .clientCredentials) members) noParts = .ok parts ∧
        assemble .clientCredentials parts = .ok credentials) ↔ ReadsParts members .clientCredentials credentials := by
  simp only [foldlM_takeNamed_client_iff, assemble, Except.bind_eq_ok_iff]
  constructor
  · rintro ⟨parts, reads, _, id, _, secret, _, issuer, done⟩
    cases done
    exact .client (needed_readMember_iff.mp ⟨_, reads.clientId, id⟩)
      (needed_readMember_iff.mp ⟨_, reads.clientSecret, secret⟩) (needed_readMember_iff.mp ⟨_, reads.issuer, issuer⟩)
      (getD_readMember_iff.mp ⟨_, reads.audience, rfl⟩) (getD_readMember_iff.mp ⟨_, reads.scopes, rfl⟩)
  · rintro ⟨⟩
    rename_i issued id secret issuer audience scopes
    obtain ⟨a, one, audience⟩ := getD_readMember_iff.mpr audience
    obtain ⟨b, two, issuer⟩ := needed_readMember_iff.mpr issuer
    obtain ⟨c, three, id⟩ := needed_readMember_iff.mpr id
    obtain ⟨d, four, secret⟩ := needed_readMember_iff.mpr secret
    obtain ⟨e, five, scopes⟩ := getD_readMember_iff.mpr scopes
    refine ⟨⟨none, c, d, b, a, e⟩, ⟨one, two, three, four, five, rfl⟩, _, id, _, secret, _, issuer, ?_⟩
    rw [audience, scopes]
    rfl

end Parts

/-- What members in ascending order with a method among them are read as. -/
theorem credentials_eq_ok_iff {members : Entries Json} (ascending : members.Ascending) (found : Credentials) :
    credentials (.object members) = .ok found ↔
      ∃ value chosen, Entries.get? "method" members = some value ∧ method value = .ok chosen ∧
        ReadsParts members chosen found := by
  have parts (chosen : Method) :
      (members.foldlM (fun parts (name, value) => takePart chosen parts name value) noParts >>= assemble chosen) =
        .ok found ↔ ReadsParts members chosen found := by
    have sorted : (partNames chosen).Pairwise (· < ·) := by cases chosen <;> decide
    rw [foldlM_eq_takeNamed ascending sorted (takePart_of_not_mem chosen), Except.bind_eq_ok_iff]
    cases chosen with
    | none =>
      constructor
      · rintro ⟨_, _, ⟨⟩⟩
        exact .none
      · rintro ⟨⟩
        exact ⟨noParts, rfl, rfl⟩
    | apiToken => simpa [partNames] using assemble_apiToken_iff
    | clientCredentials => exact assemble_client_iff
  rw [credentials]
  cases Entries.get? "method" members with
  | none =>
    refine iff_of_false nofun ?_
    rintro ⟨_, _, ⟨⟩, _⟩
  | some value =>
    simp only [Except.bind_eq_ok_iff, under_eq_ok_iff, atWhole_eq_ok_iff, ← parts, Option.some.injEq]
    constructor
    · rintro ⟨chosen, read, assembled⟩
      exact ⟨value, chosen, rfl, read, assembled⟩
    · rintro ⟨_, chosen, rfl, read, assembled⟩
      exact ⟨chosen, read, assembled⟩

end Settings

end AuthzClient
