import AuthzClient.Proofs.Json.Layout

/-!
The grammar of records of two fields. Such a record stands at the front of a text as an object or as an array; each field
says what it reads, and what becomes of it when it is left out.
-/

namespace AuthzClient.Json.Decoder

/-- What may stand at the front of a text: a value of the form asked for, and the text behind it. -/
abbrev Reading (β : Type) := List UInt8 → β → List UInt8 → Prop

def reading {β : Type} (d : Decoder β) (fuel room : Nat) : Reading β := fun start b behind =>
  d fuel room start = .ok (b, behind)

/-- No more is left behind a value than there was before it. -/
def Reading.Shrinks {β : Type} (reads : Reading β) : Prop :=
  ∀ ⦃start : List UInt8⦄ ⦃b : β⦄ ⦃behind : List UInt8⦄, reads start b behind → behind.length ≤ start.length

theorem IsConsuming.reading {β : Type} {d : Decoder β} (consuming : d.IsConsuming) {fuel room : Nat} :
    (reading d fuel room).Shrinks := fun _ _ _ read => consuming read

/-- What is `null` or a value. -/
inductive Maybe {β : Type} (reads : Reading β) : Reading (Option β)
  | null {start behind : List UInt8} : skipSpace start = 0x6e :: (nullTail ++ behind) → Maybe reads start none behind
  | given {first : UInt8} {start more behind : List UInt8} {b : β} : skipSpace start = first :: more → first ≠ 0x6e →
      reads (first :: more) b behind → Maybe reads start (some b) behind

/-- The item of an array where the array does not end. -/
inductive Item {β : Type} (reads : Reading β) : Reading β
  | intro {first : UInt8} {start more behind : List UInt8} {b : β} : skipSpace start = first :: more → first ≠ 0x5d →
      reads (first :: more) b behind → Item reads start b behind

section Maybes

variable {β : Type} {reads other : Reading β} {start behind : List UInt8} {x : Option β}

theorem reading_nullable_iff {d : Decoder β} {fuel room : Nat} :
    reading (nullable d) fuel room start x behind ↔ Maybe (reading d fuel room) start x behind := by
  constructor
  · intro read
    unfold reading nullable at read
    split at read
    · rename_i first more opened
      split at read
      · rename_i letter
        split at read
        · cases read
        · rename_i tail
          cases read
          exact .null (eq_of_beq letter ▸ expect_eq_ok_iff.mp tail ▸ opened)
      · rename_i letter
        split at read
        · cases read
        · rename_i value
          cases read
          exact .given opened (by simpa using letter) value
    · cases read
  · rintro (opened | ⟨opened, letter, value⟩)
    · simp [reading, nullable, opened, expect_eq_ok_iff.mpr rfl]
    · unfold reading at value
      simp [reading, nullable, opened, letter, value]

theorem Maybe.mono (maybe : Maybe reads start x behind)
    (weaker : ∀ ⦃left b⦄, left.length ≤ start.length → reads left b behind → other left b behind) :
    Maybe other start x behind := by
  cases maybe with
  | null opened => exact .null opened
  | given opened letter value => exact .given opened letter (weaker (opened ▸ length_skipSpace_le start) value)

theorem Maybe.shrinks (shrinks : reads.Shrinks) : (Maybe reads).Shrinks := by
  intro start x behind maybe
  cases maybe with
  | null opened =>
    have word := length_of_skipSpace opened
    rw [List.length_append] at word
    omega
  | given opened _ value => exact Nat.le_trans (shrinks value) (opened ▸ length_skipSpace_le start)

end Maybes

section Items

variable {β : Type} {reads : Reading β} {first : UInt8} {start more behind : List UInt8} {b : β}

theorem not_item (nothing : skipSpace start = []) : ¬ Item reads start b behind := by
  rintro ⟨opened, _⟩
  cases nothing.symm.trans opened

theorem item_iff (opened : skipSpace start = first :: more) :
    Item reads start b behind ↔ first ≠ 0x5d ∧ reads (first :: more) b behind := by
  constructor
  · rintro ⟨same, inside, value⟩
    cases opened.symm.trans same
    exact ⟨inside, value⟩
  · rintro ⟨inside, value⟩
    exact .intro opened inside value

theorem Item.shrinks (item : Item reads start b behind) (shrinks : reads.Shrinks) : behind.length ≤ start.length := by
  obtain ⟨opened, _, value⟩ := item
  exact Nat.le_trans (shrinks value) (opened ▸ length_skipSpace_le start)

/-- The item stands behind white space at most. -/
theorem Item.mono {other : Reading β} (item : Item reads start b behind)
    (weaker : ∀ ⦃left⦄, left.length ≤ start.length → reads left b behind → other left b behind) :
    Item other start b behind := by
  obtain ⟨opened, inside, value⟩ := item
  exact .intro opened inside (weaker (opened ▸ length_skipSpace_le start) value)

end Items

/-- What the members of an object say for a name: what the one of this name says, or what is left if there is none. -/
def Given {β : Type} (reads : Reading β) (name : String) (left : Option β) (ms : List Member) (b : β) : Prop :=
  match ms.filter (·.name == name) with
  | [] => left = some b
  | [m] => reads m.start b m.behind
  | _ => False

/-- One field of a record: what it reads, what is left when it is absent from an object or from the end of an array,
and where its value is kept. -/
structure Slot (σ β : Type) where
  name : String
  read : Decoder β
  left : β → Option β
  ends : β → Option β
  get : σ → β
  set : β → σ → σ

def Slot.field {σ β : Type} (slot : Slot σ β) : Field σ where
  name := slot.name
  take gathered fuel room bs := (slot.read fuel room bs).map fun (b, rest) => (slot.set b gathered, rest)
  absent gathered := (slot.left (slot.get gathered)).map (slot.set · gathered)
  short gathered := (slot.ends (slot.get gathered)).map (slot.set · gathered)

/-- Two fields that make up a record and do not touch each other's value. -/
structure Slot.Apart {σ β γ : Type} (one : Slot σ β) (two : Slot σ γ) : Prop where
  names : one.name ≠ two.name
  get_one : ∀ b gathered, one.get (one.set b gathered) = b
  get_two : ∀ c gathered, two.get (two.set c gathered) = c
  one_of_two : ∀ c gathered, one.get (two.set c gathered) = one.get gathered
  two_of_one : ∀ b gathered, two.get (one.set b gathered) = two.get gathered
  ext : ∀ {found other}, one.get found = one.get other → two.get found = two.get other → found = other

section Names

variable {β : Type} {reads other : Reading β} {name : String} {left : Option β} {m : Member} {ms : List Member} {b : β}

theorem given_cons_of_ne (differs : m.name ≠ name) : Given reads name left (m :: ms) b ↔ Given reads name left ms b := by
  unfold Given
  rw [List.filter_cons_of_neg (by simpa using differs)]

theorem given_cons_of_eq (same : m.name = name) :
    Given reads name left (m :: ms) b ↔ reads m.start b m.behind ∧ ∀ other ∈ ms, other.name ≠ name := by
  have none : ms.filter (·.name == name) = [] ↔ ∀ other ∈ ms, other.name ≠ name := by
    simp [List.filter_eq_nil_iff]
  unfold Given
  rw [List.filter_cons_of_pos (by simpa using same), ← none]
  cases ms.filter (·.name == name) with
  | nil => simp
  | cons => simp

/-- What the members say for a name stands behind the name of one of them. -/
theorem Given.mono (given : Given reads name left ms b)
    (weaker : ∀ m ∈ ms, m.name = name → reads m.start b m.behind → other m.start b m.behind) :
    Given other name left ms b := by
  induction ms with
  | nil => exact given
  | cons m ms ih =>
    by_cases same : m.name = name
    · obtain ⟨value, once⟩ := (given_cons_of_eq same).mp given
      exact (given_cons_of_eq same).mpr ⟨weaker m List.mem_cons_self same value, once⟩
    · refine (given_cons_of_ne same).mpr (ih ((given_cons_of_ne same).mp given) fun member inside => ?_)
      exact weaker member (List.mem_cons_of_mem _ inside)

/-- Each member of a name that is given reads what is given. -/
theorem Given.read_of_mem (given : Given reads name left ms b) (inside : m ∈ ms) (same : m.name = name) :
    reads m.start b m.behind := by
  induction ms with
  | nil => cases inside
  | cons first ms ih =>
    by_cases named : first.name = name
    · obtain ⟨value, once⟩ := (given_cons_of_eq named).mp given
      rcases List.mem_cons.mp inside with rfl | later
      · exact value
      · exact absurd same (once m later)
    · rcases List.mem_cons.mp inside with rfl | later
      · exact absurd same named
      · exact ih ((given_cons_of_ne named).mp given) later

theorem lengths_of_given {γ : Type} {second : Reading γ} {another : String} {missing : Option γ} {c : γ}
    (shrinks : reads.Shrinks) (contracts : second.Shrinks) (given : Given reads name left ms b)
    (gives : Given second another missing ms c)
    (others : ∀ m ∈ ms, m.name ≠ name → m.name ≠ another → Stands m.start m.behind) :
    ∀ m ∈ ms, m.behind.length ≤ m.start.length := by
  intro m member
  by_cases named : m.name = name
  · exact shrinks (given.read_of_mem member named)
  · by_cases same : m.name = another
    · exact contracts (gives.read_of_mem member same)
    · exact Nat.le_of_lt (others m member named same).length_lt

end Names

/-- The items of an array for two fields, up to the closing bracket; items may be missing at the end. -/
inductive Row {σ β γ : Type} (one : Slot σ β) (two : Slot σ γ) (single : Reading β) (double : Reading γ) (empty : σ) :
    Reading σ
  | none {start rest : List UInt8} {found : σ} : skipSpace start = 0x5d :: rest →
      one.ends (one.get empty) = some (one.get found) → two.ends (two.get empty) = some (two.get found) →
      Row one two single double empty start found rest
  | first {start behind rest : List UInt8} {found : σ} : Item single start (one.get found) behind →
      skipSpace behind = 0x5d :: rest → two.ends (two.get empty) = some (two.get found) →
      Row one two single double empty start found rest
  | both {start behind more left rest : List UInt8} {found : σ} : Item single start (one.get found) behind →
      skipSpace behind = 0x2c :: more → Item double more (two.get found) left → skipSpace left = 0x5d :: rest →
      Row one two single double empty start found rest

/-- A record of two fields, as an object whose other members are values of any form, or as an array. -/
inductive Written {σ β γ : Type} (one : Slot σ β) (two : Slot σ γ) (single : Reading β) (double : Reading γ)
    (empty : σ) : Reading σ
  | object {bs text rest : List UInt8} {ms : List Member} {found : σ} : skipSpace bs = 0x7b :: text →
      Holds text ms rest → Given single one.name (one.left (one.get empty)) ms (one.get found) →
      Given double two.name (two.left (two.get empty)) ms (two.get found) →
      (∀ m ∈ ms, m.name ≠ one.name → m.name ≠ two.name → Stands m.start m.behind) →
      Written one two single double empty bs found rest
  | array {bs text rest : List UInt8} {found : σ} : skipSpace bs = 0x5b :: text →
      Row one two single double empty text found rest → Written one two single double empty bs found rest

section Bounds

variable {σ β γ : Type} {one : Slot σ β} {two : Slot σ γ} {single other : Reading β} {double another : Reading γ}
variable {empty found : σ} {bs rest : List UInt8}

theorem Written.mono (written : Written one two single double empty bs found rest)
    (first : ∀ ⦃start b behind⦄, single start b behind → other start b behind)
    (second : ∀ ⦃start c behind⦄, double start c behind → another start c behind) :
    Written one two other another empty bs found rest := by
  cases written with
  | object opened holds head tail others =>
    exact .object opened holds (head.mono fun _ _ _ value => first value) (tail.mono fun _ _ _ value => second value) others
  | array opened row =>
    refine .array opened ?_
    cases row with
    | none closed head tail => exact .none closed head tail
    | first head closed tail => exact .first (head.mono fun _ _ value => first value) closed tail
    | both head comma tail closed =>
      exact .both (head.mono fun _ _ value => first value) comma (tail.mono fun _ _ value => second value) closed

/-- All values of a record stand within its text. -/
theorem Written.within (written : Written one two single double empty bs found rest) (first : single.Shrinks)
    (second : double.Shrinks) :
    Written one two (fun start b behind => start.length < bs.length ∧ single start b behind)
      (fun start c behind => start.length < bs.length ∧ double start c behind) empty bs found rest := by
  cases written with
  | @object _ text _ ms _ opened holds head tail others =>
    have begun := length_of_skipSpace opened
    have starts (m : Member) (member : m ∈ ms) : m.start.length < bs.length := by
      cases holds with
      | empty => cases member
      | listed lists =>
        have blank := length_skipSpace_le text
        have start := (lists.lengths (lengths_of_given first second head tail others)).2 m member
        omega
    exact .object opened holds (head.mono fun m member _ value => ⟨starts m member, value⟩)
      (tail.mono fun m member _ value => ⟨starts m member, value⟩) others
  | @array _ text _ _ opened row =>
    have begun := length_of_skipSpace opened
    refine .array opened ?_
    cases row with
    | none closed head tail => exact .none closed head tail
    | first head closed tail => exact .first (head.mono fun _ short value => ⟨by omega, value⟩) closed tail
    | both head comma tail closed =>
      have passed := head.shrinks first
      have next := length_of_skipSpace comma
      exact .both (head.mono fun _ short value => ⟨by omega, value⟩) comma
        (tail.mono fun _ short value => ⟨by omega, value⟩) closed

end Bounds

section Rows

variable {σ β : Type} {slot : Slot σ β} {fields : List (Field σ)} {fuel room : Nat} {gathered found : σ}
variable {bs rest : List UInt8}

theorem skipSpace_bracket (left : List UInt8) : skipSpace (0x5d :: left) = 0x5d :: left := rfl

theorem positional_nil_iff {first : Bool} : positional fuel room [] first gathered bs = .ok (found, rest) ↔
    found = gathered ∧ skipSpace bs = 0x5d :: rest := by
  unfold positional
  cases skipSpace bs with
  | nil => simp
  | cons c left =>
    by_cases closed : c = 0x5d
    · simp [closed, eq_comm]
    · simp [closed]

/-- An array either ends before an item, or the item is its first one. -/
theorem positional_first_iff :
    positional fuel room (slot.field :: fields) true gathered bs = .ok (found, rest) ↔
      (∃ left, skipSpace bs = 0x5d :: left ∧ ∃ b, slot.ends (slot.get gathered) = some b ∧
        positional fuel room fields true (slot.set b gathered) (0x5d :: left) = .ok (found, rest)) ∨
      ∃ b behind, Item (reading slot.read fuel room) bs b behind ∧
        positional fuel room fields false (slot.set b gathered) behind = .ok (found, rest) := by
  rw [positional]
  cases opened : skipSpace bs with
  | nil => simp [not_item opened]
  | cons c left =>
    by_cases closed : c = 0x5d
    · subst closed
      cases short : slot.ends (slot.get gathered) <;> simp [item_iff opened, Slot.field, short]
    · cases value : slot.read fuel room (c :: left) <;>
        simp [item_iff opened, closed, reading, Slot.field, value, Except.map, Prod.ext_iff, and_assoc]

/-- Behind an item an array either ends, or goes on with a comma and the next item. -/
theorem positional_next_iff :
    positional fuel room (slot.field :: fields) false gathered bs = .ok (found, rest) ↔
      (∃ left, skipSpace bs = 0x5d :: left ∧ ∃ b, slot.ends (slot.get gathered) = some b ∧
        positional fuel room fields false (slot.set b gathered) (0x5d :: left) = .ok (found, rest)) ∨
      ∃ more, skipSpace bs = 0x2c :: more ∧ ∃ b behind, Item (reading slot.read fuel room) more b behind ∧
        positional fuel room fields false (slot.set b gathered) behind = .ok (found, rest) := by
  rw [positional]
  cases skipSpace bs with
  | nil => simp
  | cons c left =>
    by_cases closed : c = 0x5d
    · subst closed
      cases short : slot.ends (slot.get gathered) <;> simp [Slot.field, short]
    · by_cases comma : c = 0x2c
      · subst comma
        cases opened : skipSpace left with
        | nil => simp [opened, not_item opened]
        | cons d more =>
          by_cases ended : d = 0x5d
          · simp [opened, ended, item_iff opened]
          · cases value : slot.read fuel room (d :: more) <;>
              simp [item_iff opened, opened, ended, reading, Slot.field, value, Except.map, Prod.ext_iff, and_assoc]
      · simp [closed, comma]

end Rows

section Pairs

variable {σ β γ : Type} {one : Slot σ β} {two : Slot σ γ} {fuel room : Nat}

/-- What is still to come for a field: nothing more if it was seen, otherwise what the members say. -/
def Slot.Awaits (slot : Slot σ β) (fuel room : Nat) (ms : List Member) (seen : List String) (now after : β) : Prop :=
  if slot.name ∈ seen then after = now ∧ ∀ m ∈ ms, m.name ≠ slot.name
  else Given (reading slot.read fuel room) slot.name (slot.left now) ms after

section Steps

variable {slot : Slot σ β} {m : Member} {ms : List Member} {seen : List String} {now final : β}

theorem Slot.awaits_cons_of_ne (differs : m.name ≠ slot.name) :
    slot.Awaits fuel room (m :: ms) seen now final ↔ slot.Awaits fuel room ms seen now final := by
  unfold Slot.Awaits
  rw [given_cons_of_ne differs, List.forall_mem_cons]
  simp only [differs, ne_eq, not_false_eq_true, true_and]

theorem Slot.awaits_cons_of_eq (same : m.name = slot.name) :
    slot.Awaits fuel room (m :: ms) seen now final ↔
      slot.name ∉ seen ∧ ∃ b, reading slot.read fuel room m.start b m.behind ∧
        slot.Awaits fuel room ms (m.name :: seen) b final := by
  unfold Slot.Awaits
  rw [given_cons_of_eq same, List.forall_mem_cons, same]
  by_cases again : slot.name ∈ seen
  · simp [again]
  · simp only [again, if_false, not_false_eq_true, true_and, List.mem_cons_self, if_true]
    constructor
    · exact fun ⟨value, once⟩ => ⟨final, value, rfl, once⟩
    · rintro ⟨b, value, rfl, once⟩
      exact ⟨value, once⟩

theorem Slot.awaits_seen_of_ne {name : String} (differs : name ≠ slot.name) :
    slot.Awaits fuel room ms (name :: seen) now final ↔ slot.Awaits fuel room ms seen now final := by
  unfold Slot.Awaits
  simp only [List.mem_cons, differs.symm, false_or]

end Steps

theorem takes_iff_of_known {fields : List (Field σ)} {m : Member} {seen : List String} {gathered : σ}
    {later : List String × σ} (known : fields.find? (·.name == m.name) = some one.field) :
    Takes fields fuel room m (seen, gathered) later ↔
      m.name ∉ seen ∧ ∃ b, reading one.read fuel room m.start b m.behind ∧
        later = (m.name :: seen, one.set b gathered) := by
  constructor
  · intro takes
    cases takes with
    | known found first value =>
      cases known.symm.trans found
      obtain ⟨⟨b, behind⟩, read, same⟩ := map_eq_ok value
      cases same
      exact ⟨first, b, read, rfl⟩
    | other unknown => cases known.symm.trans unknown
  · rintro ⟨first, b, read, rfl⟩
    refine .known known first ?_
    unfold reading at read
    simp only [Slot.field, read, Except.map]

theorem takes_iff_of_unknown {fields : List (Field σ)} {m : Member} {state later : List String × σ}
    (unknown : fields.find? (·.name == m.name) = none) :
    Takes fields fuel room m state later ↔ Stands m.start m.behind ∧ later = state := by
  constructor
  · intro takes
    cases takes with
    | known found => cases unknown.symm.trans found
    | other _ stands => exact ⟨stands, rfl⟩
  · rintro ⟨stands, rfl⟩
    exact .other unknown stands

theorem gathers_nil_iff {fields : List (Field σ)} {state final : List String × σ} :
    Gathers fields fuel room [] state final ↔ final = state := by
  constructor
  · intro gathers
    cases gathers
    rfl
  · rintro rfl
    exact .done

theorem gathers_cons_iff {fields : List (Field σ)} {m : Member} {ms : List Member} {state final : List String × σ} :
    Gathers fields fuel room (m :: ms) state final ↔
      ∃ later, Takes fields fuel room m state later ∧ Gathers fields fuel room ms later final := by
  constructor
  · intro gathers
    cases gathers with
    | more takes gathers => exact ⟨_, takes, gathers⟩
  · rintro ⟨later, takes, gathers⟩
    exact .more takes gathers

/-- What becomes of the value of a field that was seen, or that is absent. -/
def Slot.settled (slot : Slot σ β) (seen : List String) (now : β) : Option β :=
  if slot.name ∈ seen then some now else slot.left now

theorem Slot.awaits_nil {seen : List String} {now final : β} :
    one.Awaits fuel room [] seen now final ↔ one.settled seen now = some final := by
  unfold Slot.Awaits Slot.settled
  split
  · simp [eq_comm]
  · rfl

theorem Slot.Apart.symm (apart : one.Apart two) : two.Apart one where
  names := apart.names.symm
  get_one := apart.get_two
  get_two := apart.get_one
  one_of_two := apart.two_of_one
  two_of_one := apart.one_of_two
  ext same equal := apart.ext equal same

/-- Storing a value again changes nothing. -/
theorem Slot.Apart.set_get (apart : one.Apart two) (gathered : σ) : one.set (one.get gathered) gathered = gathered :=
  apart.ext (apart.get_one _ _) (apart.two_of_one _ _)

variable (apart : one.Apart two) {seen : List String} {gathered found : σ}

include apart

theorem settle_cons (fields : List (Field σ)) : settle (one.field :: fields) seen gathered =
    (one.settled seen (one.get gathered)).bind fun b => settle fields seen (one.set b gathered) := by
  rw [settle]
  unfold Slot.settled
  by_cases named : one.name ∈ seen
  · simp [Slot.field, named, apart.set_get]
  · simp only [Slot.field, List.contains_iff_mem, named, if_false, Option.bind_map]
    rfl

theorem settle_pair_iff : settle [one.field, two.field] seen gathered = some found ↔
    one.settled seen (one.get gathered) = some (one.get found) ∧
      two.settled seen (two.get gathered) = some (two.get found) := by
  have whole (taken : σ) : settle ([] : List (Field σ)) seen taken = some taken := rfl
  simp only [settle_cons apart, settle_cons apart.symm, whole, apart.two_of_one, Option.bind_eq_some_iff]
  constructor
  · rintro ⟨b, first, c, second, same⟩
    cases same
    rw [apart.one_of_two, apart.get_one, apart.get_two]
    exact ⟨first, second⟩
  · rintro ⟨first, second⟩
    refine ⟨_, first, _, second, congrArg some (apart.ext ?_ (apart.get_two _ _))⟩
    rw [apart.one_of_two, apart.get_one]

/-- A member that is named like one of two fields says what is still to come for it, and nothing about the other. -/
theorem gathers_cons_of_known {fields : List (Field σ)} {m : Member} {ms : List Member} {rest : Prop}
    (known : fields.find? (·.name == m.name) = some one.field) (same : m.name = one.name)
    (later : ∀ {seen : List String} {gathered : σ},
      (∃ state, Gathers fields fuel room ms (seen, gathered) state ∧ settle fields state.1 state.2 = some found) ↔
        one.Awaits fuel room ms seen (one.get gathered) (one.get found) ∧
          two.Awaits fuel room ms seen (two.get gathered) (two.get found) ∧ rest) :
    (∃ state, Gathers fields fuel room (m :: ms) (seen, gathered) state ∧ settle fields state.1 state.2 = some found) ↔
      one.Awaits fuel room (m :: ms) seen (one.get gathered) (one.get found) ∧
        two.Awaits fuel room (m :: ms) seen (two.get gathered) (two.get found) ∧ rest := by
  have differs : m.name ≠ two.name := same ▸ apart.names
  have taken (b : β) : (∃ state, Gathers fields fuel room ms (m.name :: seen, one.set b gathered) state ∧
      settle fields state.1 state.2 = some found) ↔
      one.Awaits fuel room ms (m.name :: seen) b (one.get found) ∧
        two.Awaits fuel room ms seen (two.get gathered) (two.get found) ∧ rest := by
    rw [later, apart.get_one, apart.two_of_one, Slot.awaits_seen_of_ne differs]
  simp only [gathers_cons_iff, takes_iff_of_known known, Slot.awaits_cons_of_eq same, Slot.awaits_cons_of_ne differs]
  constructor
  · rintro ⟨state, ⟨_, ⟨new, b, value, rfl⟩, gathers⟩, settled⟩
    obtain ⟨first, second, others⟩ := (taken b).mp ⟨state, gathers, settled⟩
    exact ⟨⟨same ▸ new, b, value, first⟩, second, others⟩
  · rintro ⟨⟨new, b, value, first⟩, second, others⟩
    obtain ⟨state, gathers, settled⟩ := (taken b).mpr ⟨first, second, others⟩
    exact ⟨state, ⟨_, ⟨same ▸ new, b, value, rfl⟩, gathers⟩, settled⟩

/-- An object is read into a record exactly if its members say the values of both fields, and all others are values. -/
theorem gathers_pair_iff {ms : List Member} :
    (∃ state, Gathers [one.field, two.field] fuel room ms (seen, gathered) state ∧
      settle [one.field, two.field] state.1 state.2 = some found) ↔
    one.Awaits fuel room ms seen (one.get gathered) (one.get found) ∧
      two.Awaits fuel room ms seen (two.get gathered) (two.get found) ∧
      ∀ m ∈ ms, m.name ≠ one.name → m.name ≠ two.name → Stands m.start m.behind := by
  induction ms generalizing seen gathered with
  | nil =>
    simp only [gathers_nil_iff, exists_eq_left, settle_pair_iff apart, Slot.awaits_nil, List.not_mem_nil, false_imp_iff,
      implies_true, and_true]
  | cons m ms ih =>
    by_cases first : m.name = one.name
    · have known : [one.field, two.field].find? (·.name == m.name) = some one.field := by simp [Slot.field, first]
      rw [gathers_cons_of_known apart known first ih]
      simp [first]
    · by_cases second : m.name = two.name
      · have known : [one.field, two.field].find? (·.name == m.name) = some two.field := by
          simp [Slot.field, second, apart.names]
        rw [gathers_cons_of_known apart.symm known second (ih.trans and_left_comm)]
        simp [second, and_left_comm]
      · have unknown : [one.field, two.field].find? (·.name == m.name) = none := by
          simp [Slot.field, Ne.symm first, Ne.symm second]
        simp only [gathers_cons_iff, takes_iff_of_unknown unknown, Slot.awaits_cons_of_ne first,
          Slot.awaits_cons_of_ne second, List.forall_mem_cons, first, second, ne_eq, not_false_eq_true, true_imp_iff]
        constructor
        · rintro ⟨state, ⟨_, ⟨stands, rfl⟩, gathers⟩, settled⟩
          obtain ⟨head, tail, others⟩ := ih.mp ⟨state, gathers, settled⟩
          exact ⟨head, tail, stands, others⟩
        · rintro ⟨head, tail, stands, others⟩
          obtain ⟨state, gathers, settled⟩ := ih.mpr ⟨head, tail, others⟩
          exact ⟨state, ⟨_, ⟨stands, rfl⟩, gathers⟩, settled⟩

/-- An array is read into a record exactly if its items are the values of the fields. -/
theorem positional_pair_iff {start rest : List UInt8} :
    positional fuel room [one.field, two.field] true gathered start = .ok (found, rest) ↔
      Row one two (reading one.read fuel room) (reading two.read fuel room) gathered start found rest := by
  have first (b : β) (c : γ) : one.get (two.set c (one.set b gathered)) = b := by rw [apart.one_of_two, apart.get_one]
  have second (b : β) (c : γ) : two.get (two.set c (one.set b gathered)) = c := apart.get_two _ _
  have both : found = two.set (two.get found) (one.set (one.get found) gathered) :=
    apart.ext (first _ _).symm (second _ _).symm
  rw [positional_first_iff]
  constructor
  · rintro (⟨left, closed, b, head, read⟩ | ⟨b, behind, head, read⟩)
    · rcases positional_first_iff.mp read with ⟨_, again, c, tail, read⟩ | ⟨_, _, tail, _⟩
      · cases (skipSpace_bracket left).symm.trans again
        obtain ⟨rfl, same⟩ := positional_nil_iff.mp read
        cases (skipSpace_bracket left).symm.trans same
        rw [apart.two_of_one] at tail
        exact .none closed ((first b c).symm ▸ head) ((second b c).symm ▸ tail)
      · exact absurd rfl ((item_iff (skipSpace_bracket left)).mp tail).1
    · rcases positional_next_iff.mp read with ⟨left, closed, c, tail, read⟩ | ⟨more, comma, c, left, tail, read⟩
      · obtain ⟨rfl, same⟩ := positional_nil_iff.mp read
        cases (skipSpace_bracket left).symm.trans same
        rw [apart.two_of_one] at tail
        exact .first ((first b c).symm ▸ head) closed ((second b c).symm ▸ tail)
      · obtain ⟨rfl, closed⟩ := positional_nil_iff.mp read
        exact .both ((first b c).symm ▸ head) comma ((second b c).symm ▸ tail) closed
  · rintro (⟨closed, head, tail⟩ | ⟨head, closed, tail⟩ | ⟨head, comma, tail, closed⟩)
    · rw [← apart.two_of_one (one.get found)] at tail
      refine .inl ⟨_, closed, _, head, positional_first_iff.mpr (.inl ⟨_, skipSpace_bracket _, _, tail, ?_⟩)⟩
      exact positional_nil_iff.mpr ⟨both, skipSpace_bracket _⟩
    · rw [← apart.two_of_one (one.get found)] at tail
      refine .inr ⟨_, _, head, positional_next_iff.mpr (.inl ⟨_, closed, _, tail, ?_⟩)⟩
      exact positional_nil_iff.mpr ⟨both, skipSpace_bracket _⟩
    · refine .inr ⟨_, _, head, positional_next_iff.mpr (.inr ⟨_, comma, _, _, tail, ?_⟩)⟩
      exact positional_nil_iff.mpr ⟨both, closed⟩

/-- Before the first member nothing was seen. -/
theorem gathers_object_iff {ms : List Member} {empty : σ} :
    (∃ state, Gathers [one.field, two.field] fuel room ms ([], empty) state ∧
      settle [one.field, two.field] state.1 state.2 = some found) ↔
    Given (reading one.read fuel room) one.name (one.left (one.get empty)) ms (one.get found) ∧
      Given (reading two.read fuel room) two.name (two.left (two.get empty)) ms (two.get found) ∧
      ∀ m ∈ ms, m.name ≠ one.name → m.name ≠ two.name → Stands m.start m.behind := by
  rw [gathers_pair_iff apart]
  simp only [Slot.Awaits, List.not_mem_nil, if_false]

/-- What is read as a record is written as one. -/
theorem written_of_record {empty : σ} {bs rest : List UInt8}
    (read : record [one.field, two.field] empty fuel (room + 2) bs = .ok (found, rest)) :
    Written one two (reading one.read fuel (room + 1)) (reading two.read fuel (room + 1)) empty bs found rest := by
  have object {text rest : List UInt8} {ms : List Member} {state : List String × σ}
      (opened : skipSpace bs = 0x7b :: text) (holds : Holds text ms rest)
      (gathers : Gathers [one.field, two.field] fuel (room + 1) ms ([], empty) state)
      (settled : settle [one.field, two.field] state.1 state.2 = some found) :
      Written one two (reading one.read fuel (room + 1)) (reading two.read fuel (room + 1)) empty bs found rest := by
    obtain ⟨first, second, others⟩ := (gathers_object_iff apart).mp ⟨state, gathers, settled⟩
    exact .object opened holds first second others
  unfold record at read
  split at read
  · cases read
  · rename_i b text opened
    split at read
    · rename_i brace
      have opened : skipSpace bs = 0x7b :: text := eq_of_beq brace ▸ opened
      split at read
      · cases read
      · cases read
      · rename_i deeper
        cases deeper
        dsimp only at read
        split at read
        · cases read
        · rename_i c more begun
          split at read
          · rename_i closed
            split at read
            · rename_i settled
              cases read
              exact object opened (.empty (eq_of_beq closed ▸ begun)) .done settled
            · cases read
          · split at read
            · cases read
            · rename_i gathered
              obtain ⟨ms, lists, gathers⟩ := gathers_of_members gathered
              split at read
              · rename_i settled
                cases read
                exact object opened (.listed (begun ▸ lists)) gathers settled
              · cases read
    · split at read
      · rename_i bracket
        split at read
        · cases read
        · cases read
        · rename_i deeper
          cases deeper
          exact .array (eq_of_beq bracket ▸ opened) ((positional_pair_iff apart).mp read)
      · exact absurd read (reject_ne_ok _ _)

/-- A record that is written is read, as soon as there is more fuel than bytes. -/
theorem record_of_written (single : one.read.IsConsuming) (double : two.read.IsConsuming) {empty : σ}
    {bs rest : List UInt8} (enough : bs.length ≤ fuel)
    (written : Written one two (reading one.read fuel (room + 1)) (reading two.read fuel (room + 1)) empty bs found rest) :
    record [one.field, two.field] empty fuel (room + 2) bs = .ok (found, rest) := by
  cases written with
  | @object _ text _ ms _ opened holds first second others =>
    have begun := length_of_skipSpace opened
    obtain ⟨state, gathers, settled⟩ := (gathers_object_iff apart).mpr ⟨first, second, others⟩
    cases holds with
    | empty closed =>
      cases gathers
      simp [record, opened, closed, settled]
    | listed lists =>
      have blank := length_skipSpace_le text
      obtain ⟨fewer, starts⟩ := lists.lengths (lengths_of_given single.reading double.reading first second others)
      have read : members (recordStep [one.field, two.field] fuel (room + 1)) fuel ([], empty) (skipSpace text) =
          .ok (state, rest) :=
        members_of_gathers lists gathers (fun m member => Nat.lt_of_lt_of_le (starts m member) (by omega)) (by omega)
      obtain ⟨label, quote⟩ := lists.begins
      rw [quote] at read
      simp [record, opened, quote, read, settled]
  | array opened row =>
    have read := (positional_pair_iff apart).mpr row
    simp [record, opened, read]

end Pairs

end AuthzClient.Json.Decoder
