import AuthzClient.Proofs.Time.SpanText
import AuthzClient.Settings.Reading

/-!
A configuration that is shown as settings is read back from them. All that it loses are its secrets, which are not
shown.
-/

namespace AuthzClient

/-- With the text in place of every secret that is shown instead. -/
def Credentials.redacted : Credentials → Credentials
  | none => none
  | apiToken _ => apiToken ⟨Secret.shown⟩
  | client credentials => client { credentials with clientSecret := ⟨Secret.shown⟩ }

def Configuration.redacted (config : Configuration) : Configuration :=
  { config with credentials := config.credentials.redacted }

namespace Settings

theorem text?_ofText? (s : Option String) : text? (Json.ofText? s) = .ok s := by
  cases s <;> rfl

theorem count_ofNat {n : Nat} (few : n < 0x1_0000_0000) : count (Json.ofNat n) = .ok n := by
  have small : isHuge n = false := by
    simp only [isHuge, Bool.or_eq_false_iff, decide_eq_false_iff_not]
    omega
  have range : 0 ≤ (n : Int) ∧ (n : Int) < 0x1_0000_0000 := by omega
  simp only [Json.ofNat, count, small, Bool.false_eq_true, if_false, if_pos range, Int.toNat_natCast]

theorem span_write (length : Span) : span (.text (SpanText.write length)) = .ok length := by
  rw [span, SpanText.read_write]

theorem texts_map (entries : Entries String) :
    texts (entries.map fun (name, value) => (name, .text value)) = .ok entries := by
  induction entries with
  | nil => rfl
  | cons entry entries ih =>
    rw [List.map_cons, texts, ih]
    rfl

/-- The parts of credentials with which tokens are issued, in ascending order of their names. -/
theorem toSettings_client (credentials : ClientCredentials) : (Credentials.client credentials).toSettings = .object
    [("api_audience", Json.ofText? credentials.audience), ("api_token_issuer", .text credentials.issuer),
      ("client_id", .text credentials.clientId), ("client_secret", .text Secret.shown),
      ("method", .text "client_credentials"), ("scopes", Json.ofText? credentials.scopes)] := by
  simp only [Credentials.toSettings, Json.ofMembers, Entries.ofPairs, List.foldl_cons, List.foldl_nil, Entries.put,
    String.reduceEq, String.reduceLT, if_true, if_false]

theorem credentials_toSettings (credentials : Credentials) :
    Settings.credentials credentials.toSettings = .ok credentials.redacted := by
  cases credentials with
  | none => rfl
  | apiToken token => rfl
  | client credentials =>
    rw [toSettings_client, Settings.credentials]
    simp only [Entries.get?, String.reduceEq, if_false, if_true, method, Reading.under, List.foldlM_cons,
      List.foldlM_nil, takePart, text, text?_ofText?]
    rfl

/-- The settings of a configuration in ascending order of their names. -/
theorem toSettings_eq (config : Configuration) : config.toSettings = .object
    [("api_url", .text config.apiUrl), ("connect_timeout", .text (SpanText.write config.connectTimeout)),
      ("credentials", config.credentials.toSettings),
      ("default_headers", .object (config.defaultHeaders.map fun (name, value) => (name, .text value))),
      ("max_retries", Json.ofNat config.maxRetries),
      ("minimum_retry_delay", .text (SpanText.write config.minimumDelay)),
      ("request_timeout", .text (SpanText.write config.requestTimeout)), ("store_id", Json.ofText? config.storeId),
      ("user_agent", .text config.userAgent)] := by
  simp only [Configuration.toSettings, Json.ofMembers, Entries.ofPairs, List.foldl_cons, List.foldl_nil, Entries.put,
    String.reduceEq, String.reduceLT, if_true, if_false]

/-- A configuration that is shown can be read, and every field is the same again except for the secrets. -/
theorem read_toSettings (config : Configuration) (few : config.maxRetries < 0x1_0000_0000) :
    read config.toSettings = .ok config.redacted := by
  rw [toSettings_eq, read, configuration]
  simp only [List.foldlM_cons, List.foldlM_nil, take, text, headers, span_write, count_ofNat few, text?_ofText?,
    texts_map, credentials_toSettings]
  rfl

/-- With a secret, an audience without scopes, spans of different precision, and headers whose names differ in case. -/
def guarded : Configuration :=
  { Configuration.standard with
    apiUrl := " "
    credentials := .client ⟨"reader", ⟨"hush"⟩, "https://issuer.example/token", some "https://api.example", none⟩
    requestTimeout := ⟨Span.longest, by decide⟩
    connectTimeout := ⟨1500000001, by decide⟩
    maxRetries := 0xffff_ffff
    minimumDelay := .zero
    defaultHeaders := [("X-Trace", "on"), ("x-trace", "")] }

theorem read_toSettings_guarded : guarded.maxRetries < 0x1_0000_0000 ∧
    read guarded.toSettings = .ok { guarded with
      credentials :=
        .client ⟨"reader", ⟨"[REDACTED]"⟩, "https://issuer.example/token", some "https://api.example", none⟩ } :=
  ⟨by decide, read_toSettings guarded (by decide)⟩

end Settings

end AuthzClient
