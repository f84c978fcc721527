import AuthzClient.Proofs.Json.Standing

/-!
How records lie in a text. An object lists members, each a name, a colon and a value; a record takes the values of the
names that it knows, each at most once, and passes over all others. A record of two fields is read from every object and
every array that is laid out like this, and from nothing else.
-/

namespace AuthzClient.Json.Decoder

/-- A member of an object: its name, the text from its value on, and the text behind its value. -/
structure Member where
  name : String
  start : List UInt8
  behind : List UInt8

/-- The members that are listed from a name on up to the closing brace; the last text is behind the brace. -/
inductive Lists : List UInt8 → List Member → List UInt8 → Prop
  | last {m : Member} {label after rest : List UInt8} : readText label = .ok (m.name, after) →
      skipSpace after = 0x3a :: m.start → skipSpace m.behind = 0x7d :: rest → Lists (0x22 :: label) [m] rest
  | next {m : Member} {label after more rest : List UInt8} {others : List Member} :
      readText label = .ok (m.name, after) → skipSpace after = 0x3a :: m.start → skipSpace m.behind = 0x2c :: more →
      Lists (skipSpace more) others rest → Lists (0x22 :: label) (m :: others) rest

/-- The members of an object behind its opening brace. -/
inductive Holds : List UInt8 → List Member → List UInt8 → Prop
  | empty {text rest : List UInt8} : skipSpace text = 0x7d :: rest → Holds text [] rest
  | listed {text rest : List UInt8} {ms : List Member} : Lists (skipSpace text) ms rest → Holds text ms rest

theorem Lists.begins {text rest : List UInt8} {ms : List Member} (lists : Lists text ms rest) :
    ∃ label, text = 0x22 :: label := by
  cases lists with
  | last | next => exact ⟨_, rfl⟩

theorem Lists.lengths {text rest : List UInt8} {ms : List Member} (lists : Lists text ms rest)
    (inside : ∀ m ∈ ms, m.behind.length ≤ m.start.length) :
    ms.length ≤ text.length ∧ ∀ m ∈ ms, m.start.length < text.length := by
  induction lists with
  | @last m label after rest named pointed =>
    have name := length_of_readText named
    have value := length_of_skipSpace pointed
    simp only [List.length_cons, List.length_nil, List.mem_singleton, forall_eq]
    omega
  | @next m label after more rest others named pointed comma _ ih =>
    have name := length_of_readText named
    have value := length_of_skipSpace pointed
    have passed := inside m List.mem_cons_self
    have next := length_of_skipSpace comma
    have blank := length_skipSpace_le more
    obtain ⟨fewer, starts⟩ := ih fun other member => inside other (List.mem_cons_of_mem _ member)
    simp only [List.length_cons, List.forall_mem_cons]
    refine ⟨by omega, by omega, fun other member => ?_⟩
    have start := starts other member
    omega

section Members

variable {σ : Type} {fields : List (Field σ)} {fuel room : Nat}

/-- What a member makes of the names that were seen and of what was gathered before it. -/
inductive Takes (fields : List (Field σ)) (fuel room : Nat) (m : Member) : List String × σ → List String × σ → Prop
  | known {field : Field σ} {seen : List String} {gathered taken : σ} :
      fields.find? (·.name == m.name) = some field → m.name ∉ seen →
      field.take gathered fuel room m.start = .ok (taken, m.behind) →
      Takes fields fuel room m (seen, gathered) (m.name :: seen, taken)
  | other {state : List String × σ} : fields.find? (·.name == m.name) = none → Stands m.start m.behind →
      Takes fields fuel room m state state

/-- What the members of an object make of it one after the other. -/
inductive Gathers (fields : List (Field σ)) (fuel room : Nat) :
    List Member → List String × σ → List String × σ → Prop
  | done {state : List String × σ} : Gathers fields fuel room [] state state
  | more {m : Member} {others : List Member} {state later final : List String × σ} :
      Takes fields fuel room m state later → Gathers fields fuel room others later final →
      Gathers fields fuel room (m :: others) state final

theorem colon_eq_ok_iff {bs rest : List UInt8} : colon bs = .ok rest ↔ skipSpace bs = 0x3a :: rest := by
  unfold colon
  cases skipSpace bs with
  | nil => exact ⟨fun none => (nomatch none), fun none => (nomatch none)⟩
  | cons c left =>
    by_cases same : c = 0x3a
    · simp [same]
    · simp [same]

theorem memberName_eq_ok_iff {bs rest : List UInt8} {name : String} : memberName bs = .ok (name, rest) ↔
    ∃ label, bs = 0x22 :: label ∧ readText label = .ok (name, rest) := by
  unfold memberName
  cases bs with
  | nil => simp
  | cons b label =>
    by_cases quote : b = 0x22
    · subst quote
      cases text : readText label with
      | error fault => simp [text]
      | ok read =>
        obtain ⟨given, left⟩ := read
        simp [text]
    · simp [quote]

/-- One step of a record takes or passes over the value of one member. -/
theorem takes_of_recordStep {name : String} {bs rest : List UInt8} {state later : List String × σ}
    (stepped : recordStep fields fuel room name state bs = .ok (later, rest)) :
    ∃ start, skipSpace bs = 0x3a :: start ∧ Takes fields fuel room ⟨name, start, rest⟩ state later := by
  obtain ⟨seen, gathered⟩ := state
  unfold recordStep at stepped
  dsimp only at stepped
  split at stepped
  · rename_i unknown
    split at stepped
    · cases stepped
    · rename_i start pointed
      obtain ⟨left, passed, same⟩ := map_eq_ok stepped
      cases same
      exact ⟨start, colon_eq_ok_iff.mp pointed, .other unknown (stands_of_skipped passed)⟩
  · rename_i field known
    split at stepped
    · cases stepped
    · rename_i first
      split at stepped
      · cases stepped
      · rename_i start pointed
        obtain ⟨⟨taken, left⟩, value, same⟩ := map_eq_ok stepped
        cases same
        exact ⟨start, colon_eq_ok_iff.mp pointed, .known known (by simpa using first) value⟩

theorem Takes.stepped {m : Member} {state later : List String × σ} {after : List UInt8}
    (takes : Takes fields fuel room m state later) (pointed : skipSpace after = 0x3a :: m.start)
    (enough : m.start.length < fuel) :
    recordStep fields fuel room m.name state after = .ok (later, m.behind) := by
  have colon := colon_eq_ok_iff.mpr pointed
  cases takes with
  | known known first value => simp [recordStep, known, first, colon, value, Except.map]
  | other unknown stands =>
    simp [recordStep, unknown, colon, (skipValue_eq_ok_iff enough).mpr stands, Except.map]

/-- What an object is read into is gathered from members that it lists. -/
theorem gathers_of_members {n : Nat} {text rest : List UInt8} {state final : List String × σ}
    (read : members (recordStep fields fuel room) n state text = .ok (final, rest)) :
    ∃ ms, Lists text ms rest ∧ Gathers fields fuel room ms state final := by
  induction n generalizing text state with
  | zero => cases read
  | succ n ih =>
    unfold members at read
    split at read
    · cases read
    · rename_i name after named
      obtain ⟨label, rfl, text⟩ := memberName_eq_ok_iff.mp named
      split at read
      · cases read
      · rename_i later behind stepped
        obtain ⟨start, pointed, takes⟩ := takes_of_recordStep stepped
        split at read
        · cases read
        · rename_i c more opened
          split at read
          · rename_i closed
            cases read
            exact ⟨[⟨name, start, behind⟩], .last text pointed (eq_of_beq closed ▸ opened), .more takes .done⟩
          · split at read
            · cases read
            · rename_i comma
              obtain rfl : c = 0x2c := by simpa using comma
              split at read
              · cases read
              · rename_i next
                obtain ⟨others, lists, gathers⟩ := ih read
                exact ⟨⟨name, start, behind⟩ :: others, .next text pointed opened (next ▸ lists), .more takes gathers⟩

/-- Members that are listed are all read, as soon as there is fuel for each of them and for each of their values. -/
theorem members_of_gathers {n : Nat} {text rest : List UInt8} {ms : List Member} {state final : List String × σ}
    (lists : Lists text ms rest) (gathers : Gathers fields fuel room ms state final)
    (enough : ∀ m ∈ ms, m.start.length < fuel) (some : ms.length ≤ n) :
    members (recordStep fields fuel room) n state text = .ok (final, rest) := by
  induction lists generalizing n state with
  | @last m label after rest named pointed closed =>
    obtain ⟨n, rfl⟩ := Nat.exists_eq_add_one_of_ne_zero (Nat.ne_zero_of_lt some)
    cases gathers with
    | more takes gathers =>
      cases gathers
      have step := takes.stepped pointed (enough m List.mem_cons_self)
      simp [members, memberName, named, step, closed]
  | @next m label after more rest others named pointed comma lists ih =>
    obtain ⟨n, rfl⟩ := Nat.exists_eq_add_one_of_ne_zero (Nat.ne_zero_of_lt some)
    cases gathers with
    | more takes gathers =>
      have step := takes.stepped pointed (enough m List.mem_cons_self)
      have read := ih gathers (fun other member => enough other (List.mem_cons_of_mem _ member))
        (Nat.le_of_succ_le_succ some)
      obtain ⟨left, begun⟩ := lists.begins
      rw [begun] at read
      simp [members, memberName, named, step, comma, begun, read]

end Members

end AuthzClient.Json.Decoder
