import AuthzClient.Proofs.Entries
import AuthzClient.Settings.Source

/-!
What is found in settings that are laid over others. A value of the upper ones is found where they have it; where they say
nothing, neither there nor above, what was found below is found again.
-/

namespace AuthzClient

/-- The value at the end of a path of names. -/
def Json.at? : List String → Json → Option Json
  | [], value => some value
  | name :: names, value => (value.member? name).bind (at? names)

/-- Groups have their members in ascending order, down to the lists. -/
inductive Json.Ordered : Json → Prop
  | null : Ordered .null
  | bool (b : Bool) : Ordered (.bool b)
  | number (n : Json.Number) : Ordered (.number n)
  | text (s : String) : Ordered (.text s)
  | array (items : List Json) : Ordered (.array items)
  | object {members : Entries Json} : members.Ascending → (∀ entry ∈ members, Ordered entry.2) → Ordered (.object members)

namespace Json.Ordered

theorem ascending {members : Entries Json} (ordered : (Json.object members).Ordered) : members.Ascending := by
  cases ordered with
  | object ascending _ => exact ascending

theorem member {value found : Json} {name : String} (ordered : value.Ordered) (inside : value.member? name = some found) :
    found.Ordered := by
  cases ordered with
  | object _ each => exact each _ (Entries.mem_of_get? inside)
  | null | bool | number | text | array => cases inside

end Json.Ordered

namespace Settings

open Json

variable {lower upper value : Json} {name : String} {path : List String}

theorem at?_singleton (value : Json) (name : String) : value.at? [name] = value.member? name := by
  rw [Json.at?]
  cases value.member? name <;> rfl

theorem at?_pair (members : Entries Json) {name : String} {value : Json} (found : Entries.get? name members = some value)
    (part : String) : (Json.object members).at? [name, part] = value.member? part := by
  rw [Json.at?, Json.member?, found]
  exact at?_singleton value part

theorem ordered_put {members : Entries Json} (ordered : (Json.object members).Ordered) (fine : value.Ordered) :
    (Json.object (Entries.put name value members)).Ordered := by
  cases ordered with
  | object ascending each =>
    refine .object (Entries.ascending_put name value ascending) fun entry inside => ?_
    rcases Entries.mem_of_mem_put inside with rfl | before
    · exact fine
    · exact each entry before

theorem ordered_overlay (below : lower.Ordered) (above : upper.Ordered) : (overlay lower upper).Ordered := by
  refine overlay.induct (fun lower upper => lower.Ordered → upper.Ordered → (overlay lower upper).Ordered)
    (fun base members => (Json.object base).Ordered → (∀ entry ∈ members, entry.2.Ordered) →
      (Json.object (overlayMembers base members)).Ordered) ?_ ?_ ?_ ?_ lower upper below above
  · intro base members ih below above
    cases above with
    | object _ each =>
      rw [overlay]
      exact ih below each
  · intro lower upper apart _ above
    rwa [overlay.eq_2 lower upper apart]
  · intro base below _
    exact below
  · intro base name value rest merged each ih below above
    rw [overlayMembers]
    have fine := above _ List.mem_cons_self
    refine ih (ordered_put below ?_) fun entry inside => above entry (List.mem_cons_of_mem _ inside)
    dsimp only [merged]
    cases found : Entries.get? name base with
    | none => exact fine
    | some under => exact each under (below.member found) fine

/-- A member of upper settings is laid over the one of its name below. -/
theorem get?_overlayMembers (base : Entries Json) {members : Entries Json} (ascending : members.Ascending)
    (name : String) :
    Entries.get? name (overlayMembers base members) =
      match Entries.get? name members with
      | some value => some ((Entries.get? name base).elim value fun under => overlay under value)
      | none => Entries.get? name base := by
  induction members generalizing base with
  | nil => rw [overlayMembers, Entries.get?]
  | cons head rest ih =>
    obtain ⟨key, value⟩ := head
    obtain ⟨above, tail⟩ := List.pairwise_cons.mp ascending
    rw [overlayMembers, ih _ tail, Entries.get?]
    by_cases same : name = key
    · subst same
      rw [if_pos rfl, Entries.get?_of_forall_lt above, Entries.get?_put_self]
      cases Entries.get? name base with
      | none => rfl
      | some under => rfl
    · rw [if_neg same, Entries.get?_put_other _ _ same]

/-- Upper settings say nothing about a path, neither at its end nor on the way. -/
def Silent : List String → Json → Prop
  | [], _ => False
  | name :: names, .object members => ∀ value, Entries.get? name members = some value → Silent names value
  | _ :: _, _ => False

theorem Silent.at?_eq_none (silent : Silent path upper) : upper.at? path = none := by
  induction path generalizing upper with
  | nil => cases silent
  | cons name names ih =>
    cases upper with
    | object members =>
      rw [Json.at?, Json.member?, Option.bind_eq_none_iff]
      exact fun value found => ih (silent value found)
    | null | bool | number | text | array => cases silent

/-- Where upper settings say nothing the lower ones are found. -/
theorem at?_overlay_of_silent (ordered : upper.Ordered) (silent : Silent path upper) :
    (overlay lower upper).at? path = lower.at? path := by
  induction path generalizing lower upper with
  | nil => cases silent
  | cons name names ih =>
    cases ordered with
    | null | bool | number | text | array => cases silent
    | @object members ascending each =>
      cases lower with
      | object base =>
        rw [overlay, Json.at?, Json.at?, Json.member?, Json.member?, get?_overlayMembers base ascending]
        cases found : Entries.get? name members with
        | none => rfl
        | some value =>
          have quiet := silent value found
          cases Entries.get? name base with
          | none => exact quiet.at?_eq_none
          | some under => exact ih (each _ (Entries.mem_of_get? found)) quiet
      | null | bool | number | text | array => exact silent.at?_eq_none

/-- What upper settings have is found, laid over something at most. -/
theorem at?_overlay_of_some (lower : Json) (ordered : upper.Ordered) (found : upper.at? path = some value) :
    (overlay lower upper).at? path = some value ∨
      ∃ under, (overlay lower upper).at? path = some (overlay under value) := by
  induction path generalizing lower upper with
  | nil =>
    cases found
    exact Or.inr ⟨lower, rfl⟩
  | cons name names ih =>
    rw [Json.at?] at found
    obtain ⟨member, inside, behind⟩ := Option.bind_eq_some_iff.mp found
    cases ordered with
    | null | bool | number | text | array => cases inside
    | @object members ascending each =>
      have inside : Entries.get? name members = some member := inside
      have fine := each _ (Entries.mem_of_get? inside)
      cases lower with
      | object base =>
        rw [overlay, Json.at?, Json.member?, get?_overlayMembers base ascending, inside]
        cases Entries.get? name base with
        | none => exact Or.inl behind
        | some under => exact ih under fine behind
      | null | bool | number | text | array =>
        left
        rw [overlay.eq_2 _ _ (by simp), Json.at?, Json.member?, inside]
        exact behind

theorem silent_overlay (ordered : upper.Ordered) (below : Silent path lower) (above : Silent path upper) :
    Silent path (overlay lower upper) := by
  induction path generalizing lower upper with
  | nil => cases below
  | cons name names ih =>
    cases ordered with
    | null | bool | number | text | array => cases above
    | @object members ascending each =>
      cases lower with
      | null | bool | number | text | array => cases below
      | object base =>
        rw [overlay]
        intro value found
        rw [get?_overlayMembers base ascending] at found
        cases inside : Entries.get? name members with
        | none =>
          rw [inside] at found
          exact below value found
        | some value' =>
          have quiet := above value' inside
          rw [inside] at found
          cases under : Entries.get? name base with
          | none =>
            rw [under] at found
            cases found
            exact quiet
          | some under' =>
            rw [under] at found
            cases found
            exact ih (each _ (Entries.mem_of_get? inside)) (below under' under) quiet

/-- Settings that are the same as others but for a text at the end of a path, where the others may have something else, or
nothing, or be no groups on the way. -/
inductive Beside (s : String) : List String → Option Json → Json → Prop
  | here (one : Option Json) : Beside s [] one (.text s)
  | inside {name : String} {names : List String} {members others : Entries Json} {two : Json} :
    (∀ other, other ≠ name → Entries.get? other others = Entries.get? other members) →
    Entries.get? name others = some two → Beside s names (Entries.get? name members) two →
    Beside s (name :: names) (some (.object members)) (.object others)
  | alone {name : String} {names : List String} {one : Option Json} : (∀ members, one ≠ some (.object members)) →
    Beside s (name :: names) one (nest (name :: names) (.text s))

section Beside

variable {s t : String} {two : Json}

theorem get?_single_self (name : String) (value : Json) : Entries.get? name [(name, value)] = some value := if_pos rfl

theorem get?_single_other {other : String} (differs : other ≠ name) (value : Json) :
    Entries.get? other [(name, value)] = none := if_neg differs

theorem ascending_single (name : String) (value : Json) : Entries.Ascending [(name, value)] := List.pairwise_singleton _ _

theorem beside_none (path : List String) : Beside s path none (nest path (.text s)) := by
  cases path with
  | nil => exact .here none
  | cons name names => exact .alone (by simp)

theorem Beside.eq_nest (beside : Beside s path none two) : two = nest path (.text s) := by
  cases beside <;> rfl

theorem Beside.object {members : Entries Json} (beside : Beside s (name :: path) (some (.object members)) two) :
    ∃ others, two = .object others := by
  cases beside with
  | inside => exact ⟨_, rfl⟩
  | alone single => exact absurd rfl (single members)

/-- A text that is laid over settings stands beside them. -/
theorem beside_overlay (path : List String) (one : Json) :
    Beside s path (some one) (overlay one (nest path (.text s))) := by
  induction path generalizing one with
  | nil =>
    rw [nest, overlay.eq_2 _ _ (by simp)]
    exact .here _
  | cons name names ih =>
    cases one with
    | object base =>
      rw [nest, overlay]
      have found := get?_overlayMembers base (ascending_single name (nest names (.text s)))
      refine .inside (fun other differs => ?_) ((found name).trans (by rw [get?_single_self])) ?_
      · rw [found other, get?_single_other differs]
      · cases Entries.get? name base with
        | none => exact beside_none names
        | some under => exact ih under
    | null | bool | number | text | array =>
      rw [overlay.eq_2 _ _ (by simp)]
      exact .alone (by simp)

theorem beside_nest (path : List String) : Beside s path (some (nest path (.text t))) (nest path (.text s)) := by
  induction path with
  | nil => exact .here _
  | cons name names ih =>
    refine .inside (fun other differs => ?_) (get?_single_self name _) ?_
    · rw [get?_single_other differs, get?_single_other differs]
    · rw [get?_single_self]
      exact ih

/-- Two texts that are laid over the same settings stand beside one another. -/
theorem beside_change (path : List String) (lower : Json) :
    Beside s path (some (overlay lower (nest path (.text t)))) (overlay lower (nest path (.text s))) := by
  induction path generalizing lower with
  | nil =>
    rw [nest, nest, overlay.eq_2 _ (.text s) (by simp)]
    exact .here _
  | cons name names ih =>
    cases lower with
    | null | bool | number | text | array =>
      rw [overlay.eq_2 _ _ (by simp), overlay.eq_2 _ _ (by simp)]
      exact beside_nest (name :: names)
    | object base =>
      rw [nest, nest, overlay, overlay]
      have first := get?_overlayMembers base (ascending_single name (nest names (.text t)))
      have second := get?_overlayMembers base (ascending_single name (nest names (.text s)))
      refine .inside (fun other differs => ?_) ((second name).trans (by rw [get?_single_self])) ?_
      · rw [first other, second other, get?_single_other differs, get?_single_other differs]
      · rw [first name, get?_single_self]
        cases Entries.get? name base with
        | none => exact beside_nest names
        | some under => exact ih under

/-- A text stands beside settings that are laid over it and say nothing about it. -/
theorem beside_silent (ordered : upper.Ordered) (silent : Silent path upper) :
    Beside s path (some upper) (overlay (nest path (.text s)) upper) := by
  induction path generalizing upper with
  | nil => cases silent
  | cons name names ih =>
    cases ordered with
    | null | bool | number | text | array => cases silent
    | @object members ascending each =>
      rw [nest, overlay]
      have found := get?_overlayMembers [(name, nest names (.text s))] ascending
      have same (other : String) (differs : other ≠ name) :
          Entries.get? other (overlayMembers [(name, nest names (.text s))] members) = Entries.get? other members := by
        rw [found other, get?_single_other differs]
        cases Entries.get? other members <;> rfl
      cases said : Entries.get? name members with
      | none =>
        refine .inside same ((found name).trans (by rw [said, get?_single_self])) ?_
        rw [said]
        exact beside_none names
      | some value =>
        refine .inside same ((found name).trans (by rw [said, get?_single_self])) ?_
        rw [said]
        exact ih (each _ (Entries.mem_of_get? said)) (silent value said)

/-- What stands beside settings still does under others that say nothing about it. -/
theorem Beside.under {one : Option Json} (beside : Beside s path one two) (ordered : upper.Ordered)
    (silent : Silent path upper) : Beside s path (some (one.elim upper (overlay · upper))) (overlay two upper) := by
  induction beside generalizing upper with
  | here => cases silent
  | @inside name names members others two same held within ih =>
    cases ordered with
    | null | bool | number | text | array => cases silent
    | @object more ascending each =>
      rw [Option.elim_some, overlay, overlay]
      have first := get?_overlayMembers members ascending
      have second := get?_overlayMembers others ascending
      have apart (other : String) (differs : other ≠ name) :
          Entries.get? other (overlayMembers others more) = Entries.get? other (overlayMembers members more) := by
        rw [first, second, same other differs]
      cases said : Entries.get? name more with
      | none =>
        refine .inside apart ((second name).trans (by rw [said, held])) ?_
        rw [first name, said]
        exact within
      | some value =>
        refine .inside apart ((second name).trans (by rw [said, held])) ?_
        rw [first name, said]
        exact ih (each _ (Entries.mem_of_get? said)) (silent value said)
  | @alone name names one single =>
    have same : one.elim upper (overlay · upper) = upper := by
      cases one with
      | none => rfl
      | some value => exact overlay.eq_2 _ _ fun base _ object _ => single base (congrArg some object)
    rw [same]
    exact beside_silent ordered silent

/-- All that settings have on the way to the end of a path are groups. -/
def Through : List String → Json → Prop
  | [], _ => True
  | name :: names, value =>
    (∃ members, value = .object members) ∧ ∀ inner, value.member? name = some inner → Through names inner

/-- What stands beside settings still does over others, if what is found on the way are groups. -/
theorem Beside.above {one : Json} (beside : Beside s path (some one) two) (first : one.Ordered) (second : two.Ordered)
    (lower : Json) (through : Through path (overlay lower one)) :
    Beside s path (some (overlay lower one)) (overlay lower two) := by
  induction path generalizing one two lower with
  | nil =>
    cases beside
    rw [overlay.eq_2 lower (.text s) (by simp)]
    exact .here _
  | cons name names ih =>
    cases beside with
    | @inside _ _ members others two same held within =>
      cases lower with
      | null | bool | number | text | array =>
        rw [overlay.eq_2 _ _ (by simp), overlay.eq_2 _ _ (by simp)]
        exact .inside same held within
      | object base =>
        rw [overlay] at through ⊢
        rw [overlay]
        have below := get?_overlayMembers base first.ascending
        have above := get?_overlayMembers base second.ascending
        have inner := through.2
        rw [Json.member?, below name] at inner
        refine .inside (fun other differs => ?_) ((above name).trans (by rw [held])) ?_
        · rw [below, above, same other differs]
        · rw [below name]
          cases said : Entries.get? name members with
          | none =>
            rw [said] at within
            rw [within.eq_nest]
            cases Entries.get? name base with
            | none => exact beside_none names
            | some under => exact beside_overlay names under
          | some value =>
            rw [said] at within inner
            have fine : value.Ordered := first.member said
            cases given : Entries.get? name base with
            | none => exact within
            | some under =>
              rw [given] at inner
              exact ih within fine (second.member held) under (inner _ rfl)
    | alone single =>
      obtain ⟨members, object⟩ := through.1
      have same : overlay lower one = one := overlay.eq_2 _ _ fun _ group _ object => single group (congrArg some object)
      exact absurd (congrArg some (same.symm.trans object)) (single members)

end Beside

/-- Paths of which neither leads through the other. -/
def Apart (path other : List String) : Prop := ¬path <+: other ∧ ¬other <+: path

theorem at?_nest (path : List String) (value : Json) : (nest path value).at? path = some value := by
  induction path with
  | nil => rfl
  | cons name names ih =>
    rw [nest, Json.at?, Json.member?, Entries.get?, if_pos rfl]
    exact ih

theorem ordered_nest (path : List String) (fine : value.Ordered) : (nest path value).Ordered := by
  induction path with
  | nil => exact fine
  | cons name names ih =>
    refine .object (List.pairwise_singleton _ _) fun entry inside => ?_
    rw [List.mem_singleton.mp inside]
    exact ih

theorem silent_nest {other : List String} (apart : Apart path other) (value : Json) : Silent other (nest path value) := by
  induction path generalizing other with
  | nil => exact absurd (List.nil_prefix) apart.1
  | cons name names ih =>
    cases other with
    | nil => exact absurd (List.nil_prefix) apart.2
    | cons head others =>
      intro member found
      rw [Entries.get?] at found
      split at found
      · rename_i same
        subst same
        cases found
        exact ih ⟨fun before => apart.1 ((List.prefix_cons_inj head).mpr before),
          fun before => apart.2 ((List.prefix_cons_inj head).mpr before)⟩
      · cases found

end Settings

end AuthzClient
