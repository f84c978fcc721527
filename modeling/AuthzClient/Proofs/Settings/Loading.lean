import AuthzClient.Proofs.Settings.Layers
import AuthzClient.Proofs.Settings.Variables

/-!
Loading settings from a file and from variables. What a variable says goes over everything else, but it is read by its
look: a text setting takes it only if it reads as a text, and then the text that is loaded is what it reads as.
-/

namespace AuthzClient.Settings

open Json

/-- The method that credentials have. -/
def methodOf : Credentials → Method
  | .none => .none
  | .apiToken _ => .apiToken
  | .client _ => .clientCredentials

theorem ReadsParts.method {members : Entries Json} {chosen : Method} {credentials : Credentials}
    (reads : ReadsParts members chosen credentials) : chosen = methodOf credentials := by
  cases reads <;> rfl

/-- Settings of which variables do not speak are those that a file holds, or else the standard ones. Credentials that a
file holds as a list have no parts with names; they are kept as a whole. -/
structure Kept (settings : Json) (pairs : List (String × String)) (config : Configuration) : Prop where
  text : ∀ t : TextSetting, Environment.Spares pairs t.path → t.Applies config →
    (1 < t.path.length → ∀ items, settings.at? ["credentials"] ≠ some (.array items)) →
    text? (orStandard settings t.path) = .ok (t.get config)
  method : Environment.Spares pairs ["credentials", "method"] →
    (∀ items, settings.at? ["credentials"] ≠ some (.array items)) →
    Settings.method (orStandard settings ["credentials", "method"]) = .ok (methodOf config.credentials)
  header : ∀ name, Environment.Spares pairs ["default_headers", name] →
    settings.at? ["default_headers", name] = (Entries.get? name config.defaultHeaders).map .text
  whole : ∀ name ∈ settingNames, Environment.Spares pairs [name] →
    (name = "credentials" → ∀ group, settings.at? [name] ≠ some (.object group)) →
    take config name (orStandard settings [name]) = .ok config

theorem take_of_reads {members : Entries Json} {config : Configuration} (reads : Reads members config) {name : String}
    {value : Json} (top : name ∈ settingNames) (found : Entries.get? name members = some value) :
    take config name value = .ok config := by
  have kept {α : Type} {reader : Json → Reading α} {otherwise a : α} (set : α → Configuration)
      (read : readMember members name reader otherwise = .ok a) :
      Reading.under name ((reader value).map set) = .ok (set a) := by
    rw [readMember, found] at read
    rw [show reader value = .ok a from read]
    rfl
  simp only [settingNames, List.mem_cons, List.not_mem_nil, or_false] at top
  rcases top with rfl | rfl | rfl | rfl | rfl | rfl | rfl | rfl | rfl
  · exact kept (fun s => { config with apiUrl := s }) reads.apiUrl
  · exact kept (fun s => { config with connectTimeout := s }) reads.connectTimeout
  · exact kept (fun c => { config with credentials := c }) reads.credentials
  · exact kept (fun h => { config with defaultHeaders := h }) reads.defaultHeaders
  · exact kept (fun n => { config with maxRetries := n }) reads.maxRetries
  · exact kept (fun s => { config with minimumDelay := s }) reads.minimumDelay
  · exact kept (fun s => { config with requestTimeout := s }) reads.requestTimeout
  · exact kept (fun s => { config with storeId := s }) reads.storeId
  · exact kept (fun s => { config with userAgent := s }) reads.userAgent

theorem get?_texts {members : Entries Json} {entries : Entries String} (read : texts members = .ok entries)
    (name : String) : Entries.get? name members = (Entries.get? name entries).map .text := by
  induction members generalizing entries with
  | nil =>
    cases read
    rfl
  | cons entry rest ih =>
    obtain ⟨key, value⟩ := entry
    rw [texts] at read
    obtain ⟨s, here, read⟩ := Except.bind_eq_ok read
    obtain ⟨others, behind, done⟩ := Except.bind_eq_ok read
    cases done
    rw [under_eq_ok_iff, text_eq_ok_iff] at here
    rw [Entries.get?, Entries.get?, here, ih behind]
    split <;> rfl

/-- The method of credentials is the one at its path, or the standard one, if they are no list. -/
theorem method_orStandard {members : Entries Json} {config : Configuration} (ordered : (Json.object members).Ordered)
    (reads : Reads members config) (grouped : ∀ items, Entries.get? "credentials" members ≠ some (.array items)) :
    method (orStandard (.object members) ["credentials", "method"]) = .ok (methodOf config.credentials) := by
  rw [orStandard]
  cases found : Entries.get? "credentials" members with
  | none =>
    have absent := reads.credentials
    rw [readMember, found] at absent
    rw [Json.at?, Json.member?, found, ← Except.ok.inj absent, toSettings_eq]
    rfl
  | some value =>
    obtain ⟨group, chosen, rfl, ⟨_, inside, named⟩, parts⟩ :=
      credentials_group ordered reads found fun items same => grouped items (same ▸ found)
    rw [at?_pair members found, Json.member?, inside, ← parts.method]
    exact named

theorem at?_header {members : Entries Json} {config : Configuration} (reads : Reads members config) (name : String) :
    (Json.object members).at? ["default_headers", name] = (Entries.get? name config.defaultHeaders).map .text := by
  have read := reads.defaultHeaders
  rw [readMember] at read
  cases found : Entries.get? "default_headers" members with
  | none =>
    rw [found] at read
    rw [Json.at?, Json.member?, found, ← Except.ok.inj read]
    rfl
  | some value =>
    rw [found] at read
    cases value with
    | null | bool | number | text | array => cases read
    | object group =>
      rw [at?_pair members found]
      exact get?_texts read name

section Layered

variable {settings : Json} {pairs : List (String × String)} {config : Configuration}

theorem ordered_layered (ordered : settings.Ordered) (pairs : List (String × String)) : (layered settings pairs).Ordered :=
  ordered_overlay (ordered_overlay ordered_standard ordered) (Environment.ordered_settings pairs)

theorem layered_at? {head : String} {rest : List String} (spared : Environment.Spares pairs (head :: rest))
    (settings : Json) :
    (layered settings pairs).at? (head :: rest) = (overlay Configuration.standard.toSettings settings).at? (head :: rest) :=
  at?_overlay_of_silent (Environment.ordered_settings pairs) (Environment.silent_settings spared)

/-- Credentials that are no list in a file are none when variables have spoken of their parts. -/
theorem layered_ne_array {members : Entries Json} (ordered : (Json.object members).Ordered) {part : String}
    (spared : Environment.Spares pairs ["credentials", part])
    (grouped : ∀ items, (Json.object members).at? ["credentials"] ≠ some (.array items)) (items : List Json) :
    (layered (.object members) pairs).member? "credentials" ≠ some (.array items) := by
  have silent := Environment.silent_settings spared
  have above := Environment.ordered_settings pairs
  have below (items : List Json) : Entries.get? "credentials" members ≠ some (.array items) := by
    have none := grouped items
    rwa [at?_singleton] at none
  rw [layered, toSettings_eq, overlay]
  cases said : Environment.settings pairs with
  | null | bool | number | text | array =>
    rw [said] at silent
    cases silent
  | object upper =>
    rw [said] at silent above
    rw [overlay]
    refine overlay_ne_array above.ascending (overlay_ne_array ordered.ascending ?_ below) silent.ne_array items
    exact fun items list => Json.noConfusion (Option.some.inj list)

/-- What stands at a path that variables spare is what a file has there, or else what is standard there; it is laid over
something at most. -/
theorem orStandard_layered (ordered : settings.Ordered) {head : String} {rest : List String}
    (spared : Environment.Spares pairs (head :: rest)) :
    orStandard (layered settings pairs) (head :: rest) = orStandard settings (head :: rest) ∨
      ∃ under, orStandard (layered settings pairs) (head :: rest) = overlay under (orStandard settings (head :: rest)) := by
  have same := layered_at? spared settings
  rw [orStandard, same]
  exact orStandard_overlay ordered (head :: rest)

theorem object_of_configuration (read : configuration settings = .ok config) : ∃ members, settings = .object members := by
  cases settings with
  | null | bool | number | text | array => cases read
  | object members => exact ⟨members, rfl⟩

/-- Settings of which variables do not speak are kept. -/
theorem kept_of_configuration {members : Entries Json} (ordered : (Json.object members).Ordered)
    (read : configuration (layered (.object members) pairs) = .ok config) : Kept (.object members) pairs config := by
  have laid := ordered_layered ordered pairs
  obtain ⟨found, root⟩ := object_of_configuration read
  rw [root] at read laid
  have reads := (configuration_eq_ok_iff laid.ascending config).mp read
  have single {part : String} (spared : Environment.Spares pairs ["credentials", part])
      (grouped : ∀ items, (Json.object members).at? ["credentials"] ≠ some (.array items)) (items : List Json) :
      Entries.get? "credentials" found ≠ some (.array items) := by
    have none := layered_ne_array ordered spared grouped items
    rwa [root] at none
  constructor
  case text =>
    intro t spared applies grouped
    have taken : text? (orStandard (layered (.object members) pairs) t.path) = .ok (t.get config) := by
      rw [root]
      refine text?_orStandard laid reads applies fun nested => ?_
      rcases path_cases t with ⟨name, top⟩ | ⟨part, inner⟩
      · rw [top] at nested
        exact absurd nested (Nat.lt_irrefl 1)
      · exact single (inner ▸ spared) (grouped nested)
    obtain ⟨head, rest, path⟩ := path_cons t
    rw [path] at spared taken ⊢
    rcases orStandard_layered ordered spared with same | ⟨under, same⟩
    · rwa [same] at taken
    · rwa [same, text?_overlay] at taken
  case method =>
    intro spared grouped
    have taken : method (orStandard (layered (.object members) pairs) ["credentials", "method"]) =
        .ok (methodOf config.credentials) := by
      rw [root]
      exact method_orStandard laid reads (single spared grouped)
    rcases orStandard_layered ordered spared with same | ⟨under, same⟩
    · rwa [same] at taken
    · rwa [same, method_overlay] at taken
  case header =>
    intro name spared
    have standing := at?_overlay_standard ordered (show "default_headers" ∈ settingNames by decide) nofun
    have same := layered_at? spared (.object members)
    rw [root, at?_header reads, Json.at?, ← at?_singleton, standing, Option.bind_some, at?_singleton] at same
    rw [same, orStandard, Json.at?, ← at?_singleton]
    cases (Json.object members).at? ["default_headers"] with
    | none => rw [toSettings_eq]; rfl
    | some value => exact at?_singleton value name
  case whole =>
    intro name top spared whole
    have standing := at?_overlay_standard ordered top fun credentials group found =>
      whole credentials group ((at?_singleton (.object members) name).trans found)
    rw [← layered_at? spared, root, at?_singleton] at standing
    exact take_of_reads reads top standing

/-- What is found at the path of a variable reads as the same text as what the variable says, or is none either. -/
theorem at?_layered {name : String} {path : List String} {behind : List (String × String)}
    (before : List (String × String)) (named : Environment.path? name = some path)
    (spared : Environment.Spares behind path) (settings : Json) (v : String) :
    ∃ value, (layered settings (before ++ (name, v) :: behind)).at? path = some value ∧
      text? value = text? (Environment.valueOf v) := by
  have above := Environment.ordered_settings (before ++ (name, v) :: behind)
  obtain ⟨said, inside, same⟩ : ∃ said, (Environment.settings (before ++ (name, v) :: behind)).at? path = some said ∧
      text? said = text? (Environment.valueOf v) := by
    rcases Environment.at?_settings before named spared v with inside | ⟨under, inside⟩
    · exact ⟨_, inside, rfl⟩
    · exact ⟨_, inside, text?_overlay under _⟩
  rcases at?_overlay_of_some (overlay Configuration.standard.toSettings settings) above inside with
    found | ⟨under, found⟩
  · exact ⟨said, found, same⟩
  · exact ⟨_, found, (text?_overlay under said).trans same⟩

end Layered

section Variables

variable {file : Option File} {name v : String} {before behind : List (String × String)} {config : Configuration}

/-- Nothing is found at the path of a part of a list. -/
theorem at?_ne_array {value found : Json} {t : TextSetting} (inside : value.at? t.path = some found)
    (nested : 1 < t.path.length) (items : List Json) : value.at? ["credentials"] ≠ some (.array items) := by
  rcases path_cases t with ⟨name, top⟩ | ⟨part, inner⟩
  · rw [top] at nested
    exact absurd nested (Nat.lt_irrefl 1)
  · intro list
    rw [inner, Json.at?, ← at?_singleton, list] at inside
    cases inside

/-- A text setting for which there is a variable has the text that the variable reads as. -/
theorem text_of_layered {settings : Json} (ordered : settings.Ordered) {t : TextSetting}
    (named : Environment.path? name = some t.path) (spared : Environment.Spares behind t.path)
    (read : configuration (layered settings (before ++ (name, v) :: behind)) = .ok config) (applies : t.Applies config) :
    ∃ s, Environment.valueOf v = .text s ∧ t.get config = some s := by
  obtain ⟨value, found, same⟩ := at?_layered before named spared settings v
  have laid := ordered_layered ordered (before ++ (name, v) :: behind)
  obtain ⟨members, root⟩ := object_of_configuration read
  rw [root] at read laid found
  have taken := text?_orStandard laid ((configuration_eq_ok_iff laid.ascending config).mp read) applies
    fun nested items list => at?_ne_array found nested items ((at?_singleton _ _).trans list)
  rw [orStandard, found, Option.getD_some, same] at taken
  have something := (Environment.ordered_valueOf v).2
  cases said : Environment.valueOf v with
  | text s =>
    rw [said] at taken
    exact ⟨s, rfl, (Except.ok.inj taken).symm⟩
  | null => exact absurd said something
  | bool | number | array | object =>
    rw [said] at taken
    cases taken

/-- Where settings of variables have a text more, what is loaded has it too, and nothing else changes. -/
theorem put_of_beside {settings : Json} {one two : List (String × String)} {s : String} (ordered : settings.Ordered)
    {t : TextSetting} (beside : Beside s t.path (some (Environment.settings one)) (Environment.settings two))
    (read : configuration (layered settings one) = .ok config) (applies : t.Applies config)
    (grouped : 1 < t.path.length → ∀ items, (layered settings one).at? ["credentials"] ≠ some (.array items)) :
    configuration (layered settings two) = .ok (t.put s config) := by
  have first := ordered_layered ordered one
  have second := ordered_layered ordered two
  obtain ⟨members, root⟩ := object_of_configuration read
  rw [at?_singleton] at grouped
  rw [root] at read first grouped
  have reads := (configuration_eq_ok_iff first.ascending config).mp read
  have through : Through t.path (layered settings one) := by
    rw [root]
    rcases path_cases t with ⟨name, top⟩ | ⟨part, nested⟩
    · rw [top]
      exact ⟨⟨members, rfl⟩, fun _ _ => trivial⟩
    · have deep : 1 < t.path.length := nested ▸ Nat.lt_succ_self 1
      obtain ⟨group, _, found, _⟩ := exists_group first reads applies deep (grouped deep)
      rw [nested]
      refine ⟨⟨members, rfl⟩, fun inner held => ?_⟩
      cases found.symm.trans held
      exact ⟨⟨group, rfl⟩, fun _ _ => trivial⟩
  have laid : Beside s t.path (some (layered settings one)) (layered settings two) :=
    beside.above (Environment.ordered_settings one) (Environment.ordered_settings two) _ through
  rw [root] at laid
  obtain ⟨others, changed⟩ : ∃ others, layered settings two = .object others := by
    obtain ⟨head, rest, path⟩ := path_cons t
    rw [path] at laid
    exact laid.object
  rw [changed] at laid second ⊢
  exact (configuration_eq_ok_iff second.ascending _).mpr (Reads.beside first second laid reads applies grouped)

/-- Credentials are given as a list. -/
def Listed (file : Option File) (pairs : List (String × String)) : Prop :=
  ∃ settings items, held file = .ok settings ∧ (layered settings pairs).at? ["credentials"] = some (.array items)

/-- What a variable for a text setting says goes over the file and what is standard, provided that it reads as a text, and
of all settings of which variables do not speak those of the file are kept, or else the standard ones. Any text can be
loaded: in place of one that can, and in addition to variables that can be loaded, unless it is for a part of a list. A bare
value reads as itself but for truth values and numbers, and those do not read as texts. -/
theorem load_of_variable (t : TextSetting) (named : Environment.path? name = some t.path)
    (spared : Environment.Spares behind t.path) (file : Option File) :
    (∀ v config, load file (before ++ (name, v) :: behind) = .ok config →
      (t.Applies config → (∃ s, Environment.valueOf v = .text s ∧ t.get config = some s) ∧
        ∀ w s, Environment.valueOf w = .text s → load file (before ++ (name, w) :: behind) = .ok (t.put s config)) ∧
      ∃ settings, held file = .ok settings ∧ Kept settings (before ++ (name, v) :: behind) config) ∧
    (∀ config, load file (before ++ behind) = .ok config → t.Applies config →
      (1 < t.path.length → ¬Listed file (before ++ behind)) →
      ∀ w s, Environment.valueOf w = .text s →
        load file (before ++ (name, w) :: behind) = .ok (t.put s config) ∧ t.get (t.put s config) = some s) ∧
    ∀ w, Environment.Unpadded w.toList → Environment.Bare w.toList →
      ∀ s, Environment.valueOf w = .text s ↔ s = w ∧ w ≠ "true" ∧ w ≠ "false" ∧ ¬Environment.IsNumber w.toList := by
  refine ⟨fun v config loaded => ?_, fun config loaded applies single w s reads => ?_,
    fun w unpadded bare s => Environment.valueOf_eq_text_iff unpadded bare⟩
  · obtain ⟨settings, inFile, read⟩ := load_eq_ok_iff.mp loaded
    obtain ⟨ordered, members, rfl⟩ := ordered_held inFile
    refine ⟨fun applies => ?_, _, inFile, kept_of_configuration ordered read⟩
    obtain ⟨old, said, given⟩ := text_of_layered ordered named spared read applies
    refine ⟨⟨old, said, given⟩, fun w s reads => load_eq_ok_iff.mpr ⟨_, inFile, ?_⟩⟩
    obtain ⟨value, found, _⟩ := at?_layered before named spared (.object members) v
    exact put_of_beside ordered (Environment.beside_settings named spared said reads) read applies fun nested =>
      at?_ne_array found nested
  · obtain ⟨settings, inFile, read⟩ := load_eq_ok_iff.mp loaded
    obtain ⟨ordered, members, rfl⟩ := ordered_held inFile
    refine ⟨load_eq_ok_iff.mpr ⟨_, inFile, ?_⟩, TextSetting.get_put applies s⟩
    exact put_of_beside ordered (Environment.beside_settings_insert named spared reads) read applies
      fun nested items list => single nested ⟨_, items, inFile, list⟩

/-- A file with credentials as a group, of which variables change one part. -/
def credentialsFile : Option File :=
  some (some ("store_id: one\ncredentials:\n  method: client_credentials\n  client_id: reader\n  client_secret: hush\n" ++
    "  api_token_issuer: issuer.example\n").toUTF8.toList)

/-- What the file gives with a secret from a variable. -/
def withSecret (secret : String) : Configuration :=
  { Configuration.standard with
    storeId := some "one"
    credentials := .client ⟨"reader", ⟨secret⟩, "issuer.example", none, none⟩
    userAgent := "probe" }

theorem load_of_variable_secret :
    load credentialsFile [("FGA_USER_AGENT", "probe")] = .ok (withSecret "hush") ∧
      load credentialsFile [("FGA_CREDENTIALS__CLIENT_SECRET", "12e3"), ("FGA_USER_AGENT", "probe")] =
        .ok (withSecret "12e3") ∧
      ∃ settings, held credentialsFile = .ok settings ∧
        Kept settings [("FGA_CREDENTIALS__CLIENT_SECRET", "12e3"), ("FGA_USER_AGENT", "probe")] (withSecret "12e3") := by
  have named : Environment.path? "FGA_CREDENTIALS__CLIENT_SECRET" = some TextSetting.clientSecret.path := by decide
  have spared : Environment.Spares [("FGA_USER_AGENT", "probe")] TextSetting.clientSecret.path := by
    intro other inside place speaks
    rw [List.mem_singleton.mp inside, show Environment.path? "FGA_USER_AGENT" = some ["user_agent"] by decide] at speaks
    cases speaks
    exact ⟨by decide, by decide⟩
  have loaded : load credentialsFile ([] ++ [("FGA_USER_AGENT", "probe")]) = .ok (withSecret "hush") :=
    Except.eq_ok_of_toOption (by decide +kernel)
  obtain ⟨overridden, added, look⟩ := load_of_variable .clientSecret named spared credentialsFile
  have bare : Environment.Bare "12e3".toList := by
    rintro _ ⟨⟩
    decide
  have reads : Environment.valueOf "12e3" = .text "12e3" :=
    (look "12e3" (by decide) bare "12e3").mpr ⟨rfl, by decide, by decide, by decide⟩
  have single : ¬Listed credentialsFile ([] ++ [("FGA_USER_AGENT", "probe")]) := by
    have there : (held credentialsFile).toOption.map (fun settings =>
        ((layered settings ([] ++ [("FGA_USER_AGENT", "probe")])).at? TextSetting.clientId.path).isSome) = some true := by
      decide +kernel
    rintro ⟨settings, items, inFile, list⟩
    rw [inFile] at there
    obtain ⟨value, found⟩ := Option.isSome_iff_exists.mp (Option.some.inj there)
    exact at?_ne_array found (by decide) items list
  have given := (added _ loaded ⟨_, rfl⟩ (fun _ => single) _ _ reads).1
  exact ⟨loaded, given, (overridden _ _ given).2⟩

/-- A store that is named by a number cannot be loaded from its variable, and one in quotes loses them. -/
theorem load_number : Environment.path? "FGA_STORE_ID" = some TextSetting.storeId.path ∧
    Environment.Unpadded "123".toList ∧ (∃ config, load none [("FGA_STORE_ID", "x123")] = .ok config) ∧
    (∀ config, load none [("FGA_STORE_ID", "123")] ≠ .ok config) ∧
    load none [("FGA_STORE_ID", "\"123\"")] = .ok { Configuration.standard with storeId := some "123" } := by
  have failed : (load none [("FGA_STORE_ID", "123")]).toOption = none := by decide +kernel
  refine ⟨by decide, by decide, ⟨{ Configuration.standard with storeId := some "x123" }, ?_⟩, fun config loaded => ?_, ?_⟩
  · exact Except.eq_ok_of_toOption (by decide +kernel)
  · rw [loaded] at failed
    cases failed
  · exact Except.eq_ok_of_toOption (by decide +kernel)

end Variables

end AuthzClient.Settings
