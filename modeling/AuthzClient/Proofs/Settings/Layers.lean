import AuthzClient.Proofs.Settings.Texts
import AuthzClient.Settings.Loading

/-!
The layers of settings. The lowest one is standard and has something everywhere at the top; over it lies the group that a
file holds, with its members in order. Where the upper layers say nothing the settings of the file are found, or else the
standard ones.
-/

namespace AuthzClient.Settings

open Json

section Files

open Yaml Yaml.Node

theorem ordered_tagged? {tag : String} {cs : List Char} {value : Json} (read : Scalar.tagged? tag cs = some value) :
    value.Ordered := by
  unfold Scalar.tagged? at read
  dsimp only at read
  split at read
  · obtain ⟨b, _, rfl⟩ := Option.map_eq_some_iff.mp read
    exact .bool b
  split at read
  · obtain ⟨n, _, rfl⟩ := Option.map_eq_some_iff.mp read
    exact .number _
  split at read
  · obtain ⟨x, _, rfl⟩ := Option.map_eq_some_iff.mp read
    exact .number _
  split at read
  · split at read <;> cases read
    exact .null
  split at read <;> cases read
  exact .text _

theorem ordered_resolve (cs : List Char) : (Scalar.resolve cs).Ordered := by
  unfold Scalar.resolve
  dsimp only
  generalize (if Scalar.isPaddedNumber cs = true then none else Scalar.real? cs) = real
  split
  · exact .null
  split
  · exact .bool _
  · exact .number _
  cases real with
  | some x => exact .number _
  | none => exact .text _

theorem ordered_scalarValue? {cs : List Char} {plain : Bool} {tag : Option String} {value : Json}
    (read : scalarValue? cs plain tag = some value) : value.Ordered := by
  unfold scalarValue? at read
  split at read
  · exact ordered_tagged? read
  · split at read <;> cases read
    · exact ordered_resolve cs
    · exact .text _

/-- The values of pairs are put in order if each of them is. -/
theorem ordered_memberValues? {room : Nat} (each : ∀ node value, value? room node = some value → value.Ordered)
    (pairs : List (Node × Node)) {found members : Entries Json} (ordered : (Json.object found).Ordered)
    (read : memberValues? room found pairs = some members) : (Json.object members).Ordered := by
  induction pairs generalizing found with
  | nil =>
    rw [memberValues?] at read
    cases read
    exact ordered
  | cons pair rest ih =>
    obtain ⟨name, node⟩ := pair
    cases name with
    | list | group => simp [memberValues?] at read
    | scalar text plain tag =>
      rw [memberValues?] at read
      obtain ⟨value, inside, read⟩ := Option.bind_eq_some_iff.mp read
      exact ih (ordered_put ordered (each node value inside)) read

theorem ordered_value? (room : Nat) : ∀ node value, value? room node = some value → value.Ordered := by
  induction room with
  | zero =>
    intro node value read
    cases node with
    | scalar text plain tag => exact ordered_scalarValue? (by rwa [value?] at read)
    | list | group => simp [value?] at read
  | succ room ih =>
    intro node value read
    cases node with
    | scalar text plain tag => exact ordered_scalarValue? (by rwa [value?] at read)
    | list items tag =>
      rw [value?] at read
      split at read
      · cases read
      · obtain ⟨values, _, rfl⟩ := Option.map_eq_some_iff.mp read
        exact .array values
    | group pairs tag =>
      rw [value?] at read
      split at read
      · cases read
      · obtain ⟨members, inside, rfl⟩ := Option.map_eq_some_iff.mp read
        exact ordered_memberValues? ih pairs (.object .nil nofun) inside

/-- A document holds a group whose members are in order. -/
theorem ordered_toSettings {node : Node} {settings : Json} (read : node.toSettings = .ok settings) :
    settings.Ordered ∧ ∃ members, settings = .object members := by
  unfold Node.toSettings at read
  split at read
  · cases read
    exact ⟨.object .nil nofun, [], rfl⟩
  · split at read
    · cases read
    · split at read
      · rename_i inside
        cases read
        exact ⟨ordered_memberValues? (ordered_value? _) _ (.object .nil nofun) inside, _, rfl⟩
      · cases read
  · cases read

theorem exists_node {bytes : List UInt8} {settings : Json} (read : Yaml.settings bytes = .ok settings) :
    ∃ node : Node, node.toSettings = .ok settings := by
  unfold Yaml.settings at read
  split at read
  · cases read
  -- With or without a mark in front, what is left is one document of legal characters.
  dsimp only at read
  split at read
  all_goals
    split at read
    · cases read
    · split at read
      · exact ⟨_, read⟩
      · cases read

/-- The settings that a file holds; none if no file is named. -/
def held : Option File → Except SettingFault Json
  | some file => ofFile file
  | none => .ok (.object [])

theorem ordered_held {file : Option File} {settings : Json} (read : held file = .ok settings) :
    settings.Ordered ∧ ∃ members, settings = .object members := by
  cases file with
  | none =>
    cases read
    exact ⟨.object .nil nofun, [], rfl⟩
  | some file =>
    cases file with
    | none => cases read
    | some bytes =>
      obtain ⟨node, read⟩ := exists_node read
      exact ordered_toSettings read

end Files

/-- The settings of a file over the standard ones, and those of variables over both. -/
def layered (settings : Json) (pairs : List (String × String)) : Json :=
  overlay (overlay Configuration.standard.toSettings settings) (Environment.settings pairs)

theorem load_eq_ok_iff {file : Option File} {pairs : List (String × String)} {config : Configuration} :
    load file pairs = .ok config ↔
      ∃ settings, held file = .ok settings ∧ configuration (layered settings pairs) = .ok config := by
  have read (settings : Json) : read settings = .ok config ↔ configuration settings = .ok config := by
    unfold read
    cases configuration settings <;> simp
  unfold load layered
  cases file with
  | none =>
    have same : overlay Configuration.standard.toSettings (.object []) = Configuration.standard.toSettings := by
      rw [toSettings_eq]
      rfl
    simp [held, read, same]
  | some file =>
    cases found : ofFile file <;> simp [held, found, read]

/-- What is standard: texts, nothing, a number, and two groups. -/
theorem ordered_standard : Configuration.standard.toSettings.Ordered := by
  rw [toSettings_eq]
  have ascending : settingNames.Pairwise (· < ·) := by decide
  refine .object (List.pairwise_map.mp ascending) fun entry inside => ?_
  simp only [List.mem_cons, List.not_mem_nil, or_false] at inside
  rcases inside with rfl | rfl | rfl | rfl | rfl | rfl | rfl | rfl | rfl
  · exact .text _
  · exact .text _
  · refine .object (List.pairwise_singleton _ _) fun entry inside => ?_
    rw [List.mem_singleton.mp inside]
    exact .text _
  · exact .object .nil nofun
  · exact .number _
  · exact .text _
  · exact .text _
  · exact .null
  · exact .text _

section Laying

variable {lower upper value : Json} {path : List String} {name : String}

theorem overlay_of_not_object (other : ∀ members, value ≠ .object members) (lower : Json) : overlay lower value = value :=
  overlay.eq_2 lower value fun _ members _ => other members

/-- Where upper settings have no value, the lower one is found or none at all. -/
theorem at?_overlay_of_none (lower : Json) (ordered : upper.Ordered) (absent : upper.at? path = none) :
    (overlay lower upper).at? path = lower.at? path ∨ (overlay lower upper).at? path = none := by
  induction path generalizing lower upper with
  | nil => cases absent
  | cons name names ih =>
    cases ordered with
    | null | bool | number | text | array =>
      right
      rwa [overlay_of_not_object (by nofun)]
    | @object members ascending each =>
      cases lower with
      | null | bool | number | text | array =>
        right
        rwa [overlay.eq_2 _ _ (by simp)]
      | object base =>
        rw [overlay, Json.at?, Json.at?, Json.member?, Json.member?, get?_overlayMembers base ascending]
        rw [Json.at?, Json.member?, Option.bind_eq_none_iff] at absent
        cases found : Entries.get? name members with
        | none => exact Or.inl rfl
        | some value =>
          have inner := absent value found
          cases Entries.get? name base with
          | none => exact Or.inr inner
          | some under => exact ih under (each _ (Entries.mem_of_get? found)) inner

/-- The settings of a file are found over the standard ones, and they are the standard ones where it has none. -/
theorem orStandard_overlay (ordered : value.Ordered) (path : List String) :
    orStandard (overlay Configuration.standard.toSettings value) path = orStandard value path ∨
      ∃ under,
        orStandard (overlay Configuration.standard.toSettings value) path = overlay under (orStandard value path) := by
  cases found : value.at? path with
  | none =>
    left
    rcases at?_overlay_of_none Configuration.standard.toSettings ordered found with same | none
    · rw [orStandard, orStandard, same, found]
      cases Configuration.standard.toSettings.at? path <;> rfl
    · rw [orStandard, orStandard, none, found]
  | some inner =>
    rcases at?_overlay_of_some Configuration.standard.toSettings ordered found with same | ⟨under, same⟩
    · left
      rw [orStandard, orStandard, same, found]
    · right
      refine ⟨under, ?_⟩
      rw [orStandard, orStandard, same, found, Option.getD_some, Option.getD_some]

/-- What is laid over something stays as it is, unless it is a group. -/
theorem overlay_cases (lower value : Json) :
    overlay lower value = value ∨ ∃ members changed, value = .object members ∧ overlay lower value = .object changed := by
  cases value with
  | null | bool | number | text | array => exact Or.inl (overlay_of_not_object (by nofun) lower)
  | object members =>
    cases lower with
    | null | bool | number | text | array => exact Or.inl (overlay.eq_2 _ _ (by simp))
    | object base => exact Or.inr ⟨members, _, rfl, by rw [overlay]⟩

theorem text?_overlay (lower value : Json) : text? (overlay lower value) = text? value := by
  rcases overlay_cases lower value with same | ⟨_, _, rfl, same⟩
  · rw [same]
  · rw [same]
    rfl

theorem method_overlay (lower value : Json) : method (overlay lower value) = method value := by
  rcases overlay_cases lower value with same | ⟨_, _, rfl, same⟩
  · rw [same]
  · rw [same]
    rfl

theorem overlayMembers_append {base members : Entries Json} (ascending : (base ++ members).Pairwise fun a b => a.1 < b.1) :
    overlayMembers base members = base ++ members := by
  induction members generalizing base with
  | nil => rw [overlayMembers, List.append_nil]
  | cons entry rest ih =>
    obtain ⟨key, value⟩ := entry
    have below : ∀ entry ∈ base, entry.1 < key := fun entry inside =>
      (List.pairwise_append.mp ascending).2.2 entry inside _ List.mem_cons_self
    have absent : Entries.get? key base = none := by
      cases found : Entries.get? key base with
      | none => rfl
      | some value => exact absurd (below _ (Entries.mem_of_get? found)) (String.lt_irrefl key)
    have last : Entries.put key value base = base ++ [(key, value)] := by
      clear ascending absent ih
      induction base with
      | nil => rfl
      | cons head base ih =>
        have before := below head List.mem_cons_self
        rw [Entries.put, if_neg (fun same => String.lt_irrefl _ (same ▸ before)),
          if_neg (fun after => String.lt_irrefl _ (String.lt_trans before after)),
          ih fun entry inside => below entry (List.mem_cons_of_mem _ inside), List.cons_append]
    rw [overlayMembers, absent, last, ih (by rwa [List.append_assoc])]
    exact (List.append_cons base _ rest).symm

/-- Over nothing at all everything stays as it is. -/
theorem overlay_empty (ordered : value.Ordered) : overlay (.object []) value = value := by
  cases ordered with
  | null | bool | number | text | array => exact overlay_of_not_object (by nofun) _
  | object ascending _ => rw [overlay, overlayMembers_append (by exact ascending), List.nil_append]

/-- Something is standard for every setting, and only credentials have something to be laid over. -/
theorem standard_top (top : name ∈ settingNames) : ∃ under, Configuration.standard.toSettings.member? name = some under ∧
    (name ≠ "credentials" → ∀ value : Json, value.Ordered → overlay under value = value) := by
  have single {under : Json} (other : ∀ base, under ≠ .object base) (value : Json) : overlay under value = value :=
    overlay.eq_2 under value fun base _ same _ => other base same
  rw [toSettings_eq]
  simp only [settingNames, List.mem_cons, List.not_mem_nil, or_false] at top
  rcases top with rfl | rfl | rfl | rfl | rfl | rfl | rfl | rfl | rfl
  · exact ⟨_, rfl, fun _ value _ => single (fun _ => Json.noConfusion) value⟩
  · exact ⟨_, rfl, fun _ value _ => single (fun _ => Json.noConfusion) value⟩
  · exact ⟨_, rfl, fun differs => absurd rfl differs⟩
  · exact ⟨_, rfl, fun _ _ ordered => overlay_empty ordered⟩
  · exact ⟨_, rfl, fun _ value _ => single (fun _ => Json.noConfusion) value⟩
  · exact ⟨_, rfl, fun _ value _ => single (fun _ => Json.noConfusion) value⟩
  · exact ⟨_, rfl, fun _ value _ => single (fun _ => Json.noConfusion) value⟩
  · exact ⟨_, rfl, fun _ value _ => single (fun _ => Json.noConfusion) value⟩
  · exact ⟨_, rfl, fun _ value _ => single (fun _ => Json.noConfusion) value⟩

/-- A setting at the top is the one of the file, or else the standard one, but for a group of credentials, which is laid
over the standard one. -/
theorem at?_overlay_standard {members : Entries Json} (ordered : (Json.object members).Ordered) (top : name ∈ settingNames)
    (whole : name = "credentials" → ∀ group, Entries.get? name members ≠ some (.object group)) :
    (overlay Configuration.standard.toSettings (.object members)).at? [name] =
      some (orStandard (.object members) [name]) := by
  obtain ⟨under, standard, alone⟩ := standard_top top
  rw [orStandard, at?_singleton, at?_singleton, at?_singleton, standard]
  rw [toSettings_eq, Json.member?] at standard
  rw [toSettings_eq, overlay, Json.member?, Json.member?, get?_overlayMembers _ ordered.ascending, standard]
  cases found : Entries.get? name members with
  | none => rfl
  | some value =>
    refine congrArg some ?_
    by_cases credentials : name = "credentials"
    · exact overlay_of_not_object (fun group same => whole credentials group (same ▸ found)) under
    · exact alone credentials value (ordered.member found)

/-- Where neither layer has a list there is none. -/
theorem overlay_ne_array {base members : Entries Json} (ascending : members.Ascending)
    (below : ∀ items, Entries.get? name base ≠ some (.array items))
    (above : ∀ items, Entries.get? name members ≠ some (.array items)) (items : List Json) :
    Entries.get? name (overlayMembers base members) ≠ some (.array items) := by
  rw [get?_overlayMembers base ascending]
  cases found : Entries.get? name members with
  | none => exact below items
  | some value =>
    have single : value ≠ .array items := fun same => above items (same ▸ found)
    cases Entries.get? name base with
    | none => simpa using single
    | some under =>
      rcases overlay_cases under value with same | ⟨_, _, _, same⟩
      · simpa [same] using single
      · simp [same]

/-- What says nothing of a part of something is a group there, if anything. -/
theorem Silent.ne_array {members : Entries Json} {part : String} (silent : Silent [name, part] (.object members))
    (items : List Json) : Entries.get? name members ≠ some (.array items) :=
  fun found => silent (.array items) found

end Laying

end AuthzClient.Settings
