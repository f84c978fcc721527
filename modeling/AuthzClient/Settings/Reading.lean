import AuthzClient.Settings.Configuration

/-!
Reading settings. Each setting has its form; the first one that is not of its form, in ascending order of the names, is
blamed by its path.
-/

namespace AuthzClient.Settings

/-- What reading gives: a value, or the path of a setting and what is wrong with it. -/
abbrev Reading (α : Type) := Except (List String × SettingFault) α

namespace Reading

/-- Blames what is wrong on a setting below a name. -/
def under {α : Type} (name : String) : Reading α → Reading α
  | .ok a => .ok a
  | .error (path, fault) => .error (name :: path, fault)

/-- Blames what is wrong on the whole setting, whatever part of it was at fault. -/
def atWhole {α : Type} : Reading α → Reading α
  | .ok a => .ok a
  | .error (_, fault) => .error ([], fault)

end Reading

def blame {α : Type} (fault : SettingFault) : Reading α := .error ([], fault)

def text : Json → Reading String
  | .text s => .ok s
  | _ => blame .type

def text? : Json → Reading (Option String)
  | .null => .ok none
  | value => (text value).map some

/-- Whether a whole number has more than 64 bits; no setting takes one of those. -/
def isHuge (n : Int) : Bool := n < -(0x8000_0000_0000_0000 : Int) || (0x1_0000_0000_0000_0000 : Int) ≤ n

/-- A number of 32 bits. -/
def count : Json → Reading Nat
  | .number (.whole n) =>
    if isHuge n then blame .type else if 0 ≤ n ∧ n < 0x1_0000_0000 then .ok n.toNat else blame .value
  | _ => blame .type

/-- A span: a text with units, or a number of milliseconds. -/
def span : Json → Reading Span
  | .text s =>
    match SpanText.read s with
    | .ok span => .ok span
    | .error fault => blame (.span s fault.message)
  | .number (.whole n) =>
    if isHuge n then blame .type else if n < 0 then blame .value else .ok (Span.ofMillis n.toNat)
  | _ => blame .type

def span? : Json → Reading (Option Span)
  | .null => .ok none
  | value => (span value).map some

def texts : List (String × Json) → Reading (Entries String)
  | [] => .ok []
  | (name, value) :: rest => do
    let value ← Reading.under name (text value)
    let rest ← texts rest
    return (name, value) :: rest

def headers : Json → Reading (Entries String)
  | .object members => texts members
  | _ => blame .type

inductive Method
  | none | apiToken | clientCredentials
  deriving DecidableEq, Repr

/-- The method that a setting names, or counts from zero. -/
def method : Json → Reading Method
  | .text "none" => .ok .none
  | .text "api_token" => .ok .apiToken
  | .text "client_credentials" => .ok .clientCredentials
  | .text _ => blame .variant
  | .number (.whole 0) => .ok .none
  | .number (.whole 1) => .ok .apiToken
  | .number (.whole 2) => .ok .clientCredentials
  | .number (.whole n) => if n < 0 || isHuge n then blame .type else blame .value
  | _ => blame .type

structure Parts where
  token : Option String
  clientId : Option String
  clientSecret : Option String
  issuer : Option String
  audience : Option (Option String)
  scopes : Option (Option String)

def noParts : Parts := ⟨.none, .none, .none, .none, .none, .none⟩

/-- Takes a member of credentials; other members than the ones of the method do not count. -/
def takePart (method : Method) (parts : Parts) (name : String) (value : Json) : Reading Parts :=
  match method, name with
  | .apiToken, "api_token" => (text value).map fun s => { parts with token := some s }
  | .clientCredentials, "client_id" => (text value).map fun s => { parts with clientId := some s }
  | .clientCredentials, "client_secret" => (text value).map fun s => { parts with clientSecret := some s }
  | .clientCredentials, "api_token_issuer" => (text value).map fun s => { parts with issuer := some s }
  | .clientCredentials, "api_audience" => (text? value).map fun s => { parts with audience := some s }
  | .clientCredentials, "scopes" => (text? value).map fun s => { parts with scopes := some s }
  | _, _ => .ok parts

def needed (name : String) : Option String → Reading String
  | some s => .ok s
  | none => blame (.missing name)

def assemble (method : Method) (parts : Parts) : Reading Credentials :=
  match method with
  | .none => .ok .none
  | .apiToken => (needed "api_token" parts.token).map fun token => .apiToken ⟨token⟩
  | .clientCredentials => do
    let clientId ← needed "client_id" parts.clientId
    let clientSecret ← needed "client_secret" parts.clientSecret
    let issuer ← needed "api_token_issuer" parts.issuer
    return .client ⟨clientId, ⟨clientSecret⟩, issuer, parts.audience.getD .none, parts.scopes.getD .none⟩

/-- The members of a method in the order in which a list gives them. -/
def Method.order : Method → List String
  | .none => []
  | .apiToken => ["api_token"]
  | .clientCredentials => ["client_id", "client_secret", "api_token_issuer", "api_audience", "scopes"]

/-- Credentials: members with a method among them, or a list with the method first and the parts behind it. -/
def credentials : Json → Reading Credentials
  | .object members =>
    match Entries.get? "method" members with
    | none => blame (.missing "method")
    | some value => do
      let method ← Reading.under "method" (method value)
      Reading.atWhole (do
        let parts ← members.foldlM (fun parts (name, value) => takePart method parts name value) noParts
        assemble method parts)
  | .array [] => blame (.missing "method")
  | .array (first :: values) => do
    let method ← Reading.under "0" (method first)
    Reading.atWhole (do
      let parts ← (method.order.zip values).foldlM (fun parts (name, value) => takePart method parts name value) noParts
      let found ← match method, parts with
        | .none, _ => .ok Credentials.none
        | method, parts => assemble method parts
      if values.length > method.order.length then blame .other else return found)
  | _ => blame .type

/-- Takes one setting; settings of other names do not count. -/
def take (config : Configuration) (name : String) (value : Json) : Reading Configuration :=
  Reading.under name <|
    match name with
    | "api_url" => (text value).map fun s => { config with apiUrl := s }
    | "store_id" => (text? value).map fun s => { config with storeId := s }
    | "credentials" => (credentials value).map fun c => { config with credentials := c }
    | "user_agent" => (text value).map fun s => { config with userAgent := s }
    | "request_timeout" => (span value).map fun s => { config with requestTimeout := s }
    | "connect_timeout" => (span value).map fun s => { config with connectTimeout := s }
    | "max_retries" => (count value).map fun n => { config with maxRetries := n }
    | "minimum_retry_delay" => (span value).map fun s => { config with minimumDelay := s }
    | "default_headers" => (headers value).map fun h => { config with defaultHeaders := h }
    | _ => .ok config

def configuration : Json → Reading Configuration
  | .object members => members.foldlM (fun config (name, value) => take config name value) .standard
  | _ => blame .type

def keyOf (path : List String) : String := Text.lower (".".intercalate path)

/-- The configuration of settings, or the setting that is to blame. -/
def read (settings : Json) : Except ClientError Configuration :=
  match configuration settings with
  | .ok config => .ok config
  | .error (path, fault) => .error (.settings (keyOf path) fault)

end AuthzClient.Settings
