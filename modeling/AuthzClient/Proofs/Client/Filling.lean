import AuthzClient.Client.Template
import AuthzClient.Proofs.Url.Segments
import Mathlib.Data.List.Forall2

/-!
Templates of paths that are made of whole segments: literal ones and placeholders. Filling such a template replaces each
placeholder by the encoded form of its value and touches nothing else, whatever the values are.
-/

namespace AuthzClient

namespace Text

variable {pattern filling : List Char}

/-- An occurrence that begins in front of a character that the pattern does not have ends there as well. -/
theorem prefix_of_apart {separator : Char} (apart : separator ∉ pattern) (front : List Char) {rest : List Char}
    (begins : pattern <+: front ++ separator :: rest) : pattern <+: front := by
  rcases Nat.lt_or_ge front.length pattern.length with longer | within
  · have begun : front ++ [separator] <+: pattern := by
      refine List.prefix_of_prefix_length_le ⟨rest, ?_⟩ begins ?_
      · rw [List.append_assoc, List.singleton_append]
      · rwa [List.length_append, List.length_singleton]
    exact absurd (begun.subset (List.mem_append_right _ List.mem_cons_self)) apart
  · exact List.prefix_of_prefix_length_le begins (List.prefix_append _ _) within

theorem replaceAll_cons (pattern filling : List Char) (c : Char) (cs : List Char) :
    replaceAll pattern filling 0 (c :: cs) =
      if pattern.isPrefixOf (c :: cs) then filling ++ replaceAll pattern filling (pattern.length - 1) cs
      else c :: replaceAll pattern filling 0 cs := rfl

/-- Text in front of such a character and text behind it are filled apart from each other. -/
theorem replaceAll_append {separator : Char} (apart : separator ∉ pattern) (present : pattern ≠ []) {skip : Nat}
    {front : List Char} (within : skip ≤ front.length) (rest : List Char) :
    replaceAll pattern filling skip (front ++ separator :: rest) =
      replaceAll pattern filling skip front ++ separator :: replaceAll pattern filling 0 rest := by
  induction front generalizing skip with
  | nil =>
    obtain rfl : skip = 0 := Nat.le_zero.mp within
    have other : ¬pattern.isPrefixOf (separator :: rest) = true := fun begins =>
      present (List.prefix_nil.mp (prefix_of_apart apart [] (List.isPrefixOf_iff_prefix.mp begins)))
    rw [List.nil_append, replaceAll_cons, if_neg other]
    rfl
  | cons c front ih =>
    cases skip with
    | succ skip => exact ih (Nat.le_of_succ_le_succ within)
    | zero =>
      rw [List.cons_append, replaceAll_cons, replaceAll_cons]
      by_cases begins : pattern.isPrefixOf (c :: front) = true
      · have further : pattern.isPrefixOf (c :: (front ++ separator :: rest)) = true :=
          List.isPrefixOf_iff_prefix.mpr ((List.isPrefixOf_iff_prefix.mp begins).trans (List.prefix_append _ _))
        have inside : pattern.length - 1 ≤ front.length := by
          have length := (List.isPrefixOf_iff_prefix.mp begins).length_le
          rw [List.length_cons] at length
          omega
        rw [if_pos begins, if_pos further, ih inside, List.append_assoc]
      · have nowhere : ¬pattern.isPrefixOf (c :: (front ++ separator :: rest)) = true := fun further =>
          begins (List.isPrefixOf_iff_prefix.mpr
            (prefix_of_apart apart (c :: front) (List.isPrefixOf_iff_prefix.mp further)))
        rw [if_neg begins, if_neg nowhere, ih (Nat.zero_le _), List.cons_append]

theorem replaceAll_written (apart : '/' ∉ pattern) (present : pattern ≠ []) (segments : List (List Char)) :
    replaceAll pattern filling 0 (Url.written segments) =
      Url.written (segments.map (replaceAll pattern filling 0)) := by
  have behind (first : List Char) (segments : List (List Char)) :
      replaceAll pattern filling 0 (first ++ Url.written segments) =
        replaceAll pattern filling 0 first ++ Url.written (segments.map (replaceAll pattern filling 0)) := by
    induction segments generalizing first with
    | nil => simp [Url.written]
    | cons next segments ih =>
      rw [Url.written_cons, replaceAll_append apart present (Nat.zero_le _), ih]
      rfl
  exact behind [] segments

/-- In text without the first character of the pattern nothing is replaced, whatever stands behind it. -/
theorem replaceAll_absent_append {c : Char} {front : List Char} (absent : c ∉ front) (rest : List Char) :
    replaceAll (c :: pattern) filling 0 (front ++ rest) = front ++ replaceAll (c :: pattern) filling 0 rest := by
  induction front with
  | nil => rfl
  | cons d front ih =>
    have other : c ≠ d := by
      rintro rfl
      exact absent List.mem_cons_self
    have nowhere : ¬(c :: pattern).isPrefixOf (d :: (front ++ rest)) = true := by
      simp [List.isPrefixOf, other]
    have later : c ∉ front := fun inside => absent (List.mem_cons_of_mem d inside)
    rw [List.cons_append, replaceAll_cons, if_neg nowhere, ih later, List.cons_append]

theorem replaceAll_skipped_append (front rest : List Char) :
    replaceAll pattern filling front.length (front ++ rest) = replaceAll pattern filling 0 rest := by
  induction front with
  | nil => rfl
  | cons d front ih => exact ih

theorem replaceAll_self_append {c : Char} (rest : List Char) :
    replaceAll (c :: pattern) filling 0 (c :: pattern ++ rest) =
      filling ++ replaceAll (c :: pattern) filling 0 rest := by
  have begins : (c :: pattern).isPrefixOf (c :: (pattern ++ rest)) = true :=
    List.isPrefixOf_iff_prefix.mpr (List.prefix_append (c :: pattern) rest)
  rw [List.cons_append, replaceAll_cons, if_pos begins, List.length_cons, Nat.add_sub_cancel,
    replaceAll_skipped_append]

end Text

namespace Template

/-- A part of a path: text as it stands, or the placeholder of a name. -/
inductive Part
  | literal (text : String)
  | slot (name : String)
  deriving DecidableEq, Repr

namespace Part

def chars : Part → List Char
  | literal text => text.toList
  | slot name => placeholder name

/-- An ASCII character that never needs encoding. -/
def isFree (c : Char) : Bool := c.toNat < 0x80 && Text.Percent.isUnreserved c.toNat.toUInt8

/-- Literal text is of unreserved characters and leads nowhere, and a placeholder has one pair of braces. -/
def IsPlain : Part → Prop
  | literal text => text.toList.all isFree = true ∧ text ≠ "." ∧ text ≠ ".."
  | slot name => '\x7b' ∉ name.toList ∧ '\x7d' ∉ name.toList

instance (part : Part) : Decidable part.IsPlain :=
  match part with
  | literal text => inferInstanceAs (Decidable (text.toList.all isFree = true ∧ text ≠ "." ∧ text ≠ ".."))
  | slot name => inferInstanceAs (Decidable ('\x7b' ∉ name.toList ∧ '\x7d' ∉ name.toList))

/-- No brace but those of a placeholder. -/
def IsUnbraced : Part → Prop
  | literal text => '\x7b' ∉ text.toList
  | slot name => '\x7b' ∉ name.toList ∧ '\x7d' ∉ name.toList

theorem IsPlain.isUnbraced {part : Part} (plain : part.IsPlain) : part.IsUnbraced := by
  cases part with
  | literal text =>
    intro inside
    exact absurd (List.all_eq_true.mp plain.1 _ inside) (by decide)
  | slot name => exact plain

/-- What filling the placeholder of a name makes of a part. -/
def fill (name value : String) : Part → Part
  | literal text => literal text
  | slot other => if other = name then literal (Text.Percent.component value) else slot other

theorem not_mem_component (value : String) : '\x7b' ∉ (Text.Percent.component value).toList := fun inside =>
  absurd (Url.isSegmentChar_of_mem_component inside) (by decide)

theorem IsUnbraced.fill {part : Part} (unbraced : part.IsUnbraced) (name value : String) :
    (part.fill name value).IsUnbraced := by
  cases part with
  | literal text => exact unbraced
  | slot other =>
    simp only [Part.fill]
    split
    · exact not_mem_component value
    · exact unbraced

/-- Two placeholders of which one begins the other are the same. -/
theorem eq_of_begins {name other : String} (closed : '\x7d' ∉ other.toList)
    (begins : placeholder name <+: placeholder other) : name = other := by
  obtain ⟨rest, same⟩ := begins
  have inner : name.toList ++ '\x7d' :: rest = other.toList ++ ['\x7d'] := by
    simpa [placeholder] using same
  rcases List.append_eq_append_iff.mp inner with ⟨more, whole, behind⟩ | ⟨more, whole, behind⟩
  · cases more with
    | nil => rw [← String.toList_inj, whole, List.append_nil]
    | cons c more =>
      cases behind
      exact absurd (whole ▸ List.mem_append_right _ List.mem_cons_self) closed
  · cases more with
    | nil => rw [← String.toList_inj, whole, List.append_nil]
    | cons c more =>
      have length := congrArg List.length behind
      simp at length

/-- The part at the front is filled as if nothing stood behind it, unless the placeholder is found where it does not
belong. -/
theorem replaceAll_chars_append {part : Part} (unbraced : part.IsUnbraced) {name : String} {rest : List Char}
    (apart : ∀ other, part = slot other → placeholder name <+: placeholder other ++ rest → name = other)
    (value : String) :
    Text.replaceAll (placeholder name) (Text.Percent.component value).toList 0 (part.chars ++ rest) =
      (part.fill name value).chars ++
        Text.replaceAll (placeholder name) (Text.Percent.component value).toList 0 rest := by
  cases part with
  | literal text => exact Text.replaceAll_absent_append unbraced rest
  | slot other =>
    rw [Part.fill]
    by_cases same : other = name
    · rw [if_pos same, same]
      exact Text.replaceAll_self_append rest
    · rw [if_neg same]
      have nowhere : ¬(placeholder name).isPrefixOf (placeholder other ++ rest) = true := fun begins =>
        same (apart other rfl (List.isPrefixOf_iff_prefix.mp begins)).symm
      have inner : '\x7b' ∉ other.toList ++ ['\x7d'] := by
        rw [List.mem_append, not_or]
        exact ⟨unbraced.1, by decide⟩
      have behind : Text.replaceAll (placeholder name) (Text.Percent.component value).toList 0
          ((other.toList ++ ['\x7d']) ++ rest) = (other.toList ++ ['\x7d']) ++
            Text.replaceAll (placeholder name) (Text.Percent.component value).toList 0 rest :=
        Text.replaceAll_absent_append inner rest
      change Text.replaceAll _ _ 0 ('\x7b' :: ((other.toList ++ ['\x7d']) ++ rest)) = _
      rw [Text.replaceAll_cons]
      exact (if_neg nowhere).trans (congrArg _ behind)

theorem replaceAll_chars {part : Part} (unbraced : part.IsUnbraced) (name value : String) :
    Text.replaceAll (placeholder name) (Text.Percent.component value).toList 0 part.chars =
      (part.fill name value).chars := by
  have apart : ∀ other, part = slot other → placeholder name <+: placeholder other ++ [] → name = other := by
    rintro other rfl begins
    rw [List.append_nil] at begins
    exact eq_of_begins unbraced.2 begins
  have whole := replaceAll_chars_append unbraced apart value
  rwa [List.append_nil, Text.replaceAll, List.append_nil] at whole

end Part

/-- The text of a path of parts, each behind a slash. -/
def pathOf (parts : List Part) : List Char := Url.written (parts.map Part.chars)

/-- What filling the placeholders of several names makes of a part. -/
def Part.fillAll (parameters : Entries String) (part : Part) : Part :=
  parameters.foldl (fun part (name, value) => part.fill name value) part

theorem Part.fillAll_cons (name value : String) (parameters : Entries String) (part : Part) :
    part.fillAll ((name, value) :: parameters) = (part.fill name value).fillAll parameters := rfl

theorem Part.IsUnbraced.fillAll {part : Part} (unbraced : part.IsUnbraced) (parameters : Entries String) :
    (part.fillAll parameters).IsUnbraced := by
  induction parameters generalizing part with
  | nil => exact unbraced
  | cons first parameters ih => exact ih (unbraced.fill first.1 first.2)

theorem Part.fillAll_literal (parameters : Entries String) (text : String) :
    (literal text).fillAll parameters = literal text := by
  induction parameters with
  | nil => rfl
  | cons first parameters ih => exact ih

theorem Part.fillAll_slot (parameters : Entries String) (name : String) :
    (slot name).fillAll parameters = match Entries.get? name parameters with
      | some value => literal (Text.Percent.component value)
      | none => slot name := by
  induction parameters with
  | nil => rfl
  | cons first parameters ih =>
    obtain ⟨other, value⟩ := first
    rw [fillAll_cons, fill, Entries.get?]
    split
    · exact fillAll_literal _ _
    · exact ih

/-- The value that a placeholder is filled with: that of the parameter, and for the store the configured one otherwise. -/
def value? (template : Template) (storeId : Option String) (name : String) : Option String :=
  (Entries.get? name template.pathParameters).or
    (if name = storeName then (storeId.filter fun id => !Text.isBlank id).map Text.trim else none)

/-- What is written for a part. -/
inductive Part.Becomes (values : String → Option String) : Part → List Char → Prop
  | literal (text : String) : Becomes values (.literal text) text.toList
  | slot {name value : String} : values name = some value →
      Becomes values (.slot name) (Text.Percent.component value).toList

/-- What is left between braces is found. -/
theorem openPlaceholder?_isSome {front behind : List Char} (closed : '\x7d' ∈ behind) :
    (openPlaceholder? (front ++ '\x7b' :: behind)).isSome = true := by
  have opened : ∃ rest, (front ++ '\x7b' :: behind).dropWhile (· != '\x7b') = '\x7b' :: rest ∧ '\x7d' ∈ rest := by
    induction front with
    | nil => exact ⟨behind, rfl, closed⟩
    | cons c front ih =>
      by_cases brace : c = '\x7b'
      · exact ⟨front ++ '\x7b' :: behind, by simp [brace], List.mem_append_right _ (List.mem_cons_of_mem _ closed)⟩
      · obtain ⟨rest, found, inside⟩ := ih
        exact ⟨rest, by simpa [brace] using found, inside⟩
  obtain ⟨rest, found, inside⟩ := opened
  simp [openPlaceholder?, found, inside]

theorem openPlaceholder?_pathOf {parts : List Part} {name : String} (inside : .slot name ∈ parts) :
    (openPlaceholder? (pathOf parts)).isSome = true := by
  obtain ⟨before, after, rfl⟩ := List.append_of_mem inside
  have same : pathOf (before ++ .slot name :: after) =
      (pathOf before ++ ['/']) ++ '\x7b' :: (name.toList ++ '\x7d' :: pathOf after) := by
    rw [pathOf, List.map_append, List.map_cons, Url.written_append, Url.written_cons]
    simp [pathOf, Part.chars, placeholder]
  rw [same]
  exact openPlaceholder?_isSome (List.mem_append_right _ List.mem_cons_self)

/-- What the configured store makes of a part. -/
def Part.fillStore (storeId : Option String) (part : Part) : Part :=
  match storeId with
  | some id => if Text.isBlank id then part else part.fill storeName (Text.trim id)
  | none => part

/-- A part with the value of its name in the place of the placeholder, if there is one. -/
def Part.resolve (values : String → Option String) : Part → Part
  | literal text => literal text
  | slot name =>
    match values name with
    | some value => literal (Text.Percent.component value)
    | none => slot name

theorem Part.IsUnbraced.resolve {part : Part} (unbraced : part.IsUnbraced) (values : String → Option String) :
    (part.resolve values).IsUnbraced := by
  cases part with
  | literal text => exact unbraced
  | slot name =>
    rw [Part.resolve]
    split
    · exact Part.not_mem_component _
    · exact unbraced

/-- All parameters and the store together make of a part what its value makes of it. -/
theorem Part.fillStore_fillAll (template : Template) (storeId : Option String) (part : Part) :
    (part.fillAll template.pathParameters).fillStore storeId = part.resolve (template.value? storeId) := by
  have literal (text : String) : (Part.literal text).fillStore storeId = .literal text := by
    cases storeId with
    | none => rfl
    | some id =>
      rw [Part.fillStore]
      split <;> rfl
  cases part with
  | literal text => rw [fillAll_literal, literal, resolve]
  | slot name =>
    rw [fillAll_slot, resolve, value?]
    cases Entries.get? name template.pathParameters with
    | some value => exact literal _
    | none =>
      rw [Option.none_or]
      cases storeId with
      | none => simp [Part.fillStore]
      | some id =>
        by_cases blank : Text.isBlank id = true
        · have kept : (some id).filter (fun id => !Text.isBlank id) = none := by simp [Option.filter, blank]
          rw [kept]
          simp [Part.fillStore, blank]
        · have kept : (some id).filter (fun id => !Text.isBlank id) = some id := by simp [Option.filter, blank]
          rw [kept]
          by_cases store : name = storeName
          · simp [Part.fillStore, Part.fill, blank, store]
          · simp [Part.fillStore, Part.fill, blank, store]

/-- A part that is filled has its value in the place of the name; it stays only if there is none. -/
theorem Part.resolve_cases (values : String → Option String) (part : Part) :
    (∃ name, part.resolve values = .slot name) ∨ part.Becomes values (part.resolve values).chars := by
  cases part with
  | literal text => exact Or.inr (.literal text)
  | slot name =>
    rw [resolve]
    cases given : values name with
    | none => exact Or.inl ⟨name, rfl⟩
    | some value => exact Or.inr (.slot given)

/-- In the text of parts each part is filled apart from the others, with any name of a kind. -/
def FillsApart (text : List Part → List Char) (allowed : String → Prop) : Prop :=
  ∀ ⦃parts : List Part⦄, (∀ part ∈ parts, part.IsUnbraced) → ∀ ⦃name : String⦄, allowed name → ∀ value,
    fill (text parts) name value = text (parts.map (Part.fill name value))

namespace FillsApart

variable {text : List Part → List Char} {allowed : String → Prop} {parts : List Part}

theorem fillAll (apart : FillsApart text allowed) (unbraced : ∀ part ∈ parts, part.IsUnbraced)
    {parameters : Entries String} (given : ∀ parameter ∈ parameters, allowed parameter.1) :
    Template.fillAll (text parts) parameters = text (parts.map (Part.fillAll parameters)) := by
  induction parameters generalizing parts with
  | nil => exact congrArg text (List.map_id parts).symm
  | cons first parameters ih =>
    obtain ⟨name, value⟩ := first
    have one := apart unbraced (given _ List.mem_cons_self) value
    have still : ∀ part ∈ parts.map (Part.fill name value), part.IsUnbraced := by
      intro part inside
      obtain ⟨before, here, rfl⟩ := List.mem_map.mp inside
      exact (unbraced before here).fill name value
    have rest := ih still fun other inside => given other (List.mem_cons_of_mem _ inside)
    rw [← one, List.map_map] at rest
    exact rest

theorem fillStore (apart : FillsApart text allowed) (unbraced : ∀ part ∈ parts, part.IsUnbraced)
    (store : allowed storeName) (storeId : Option String) :
    Template.fillStore (text parts) storeId = text (parts.map (Part.fillStore storeId)) := by
  cases storeId with
  | none => exact congrArg text (List.map_id parts).symm
  | some id =>
    by_cases blank : Text.isBlank id = true
    · have same : Part.fillStore (some id) = fun part => part := funext fun part => if_pos blank
      rw [same, List.map_id']
      exact if_pos blank
    · have same : Part.fillStore (some id) = Part.fill storeName (Text.trim id) := funext fun part => if_neg blank
      rw [same, ← apart unbraced store]
      exact if_neg blank

/-- Filled with all parameters and the store, each part has its value. -/
theorem resolve (apart : FillsApart text allowed) (unbraced : ∀ part ∈ parts, part.IsUnbraced) {template : Template}
    (given : ∀ parameter ∈ template.pathParameters, allowed parameter.1) (store : allowed storeName)
    (storeId : Option String) :
    Template.fillStore (Template.fillAll (text parts) template.pathParameters) storeId =
      text (parts.map (Part.resolve (template.value? storeId))) := by
  have still : ∀ part ∈ parts.map (Part.fillAll template.pathParameters), part.IsUnbraced := by
    intro part inside
    obtain ⟨before, here, rfl⟩ := List.mem_map.mp inside
    exact (unbraced before here).fillAll _
  have both : Part.fillStore storeId ∘ Part.fillAll template.pathParameters = Part.resolve (template.value? storeId) :=
    funext (Part.fillStore_fillAll template storeId)
  rw [apart.fillAll unbraced given, apart.fillStore still store, List.map_map, both]

end FillsApart

/-- The text of parts one behind the other. -/
def spelled (parts : List Part) : List Char := parts.flatMap Part.chars

theorem spelled_cons (part : Part) (parts : List Part) : spelled (part :: parts) = part.chars ++ spelled parts := rfl

/-- What stands in front of the first closing brace. -/
theorem takeWhile_closed {front : List Char} (closed : '\x7d' ∉ front) (rest : List Char) :
    (front ++ '\x7d' :: rest).takeWhile (· != '\x7d') = front := by
  have other : ∀ c ∈ front, (c != '\x7d') = true := by
    intro c inside
    refine bne_iff_ne.mpr fun same => ?_
    exact closed (same ▸ inside)
  rw [List.takeWhile_append_of_pos other]
  exact List.append_nil front

/-- A placeholder is found at the front of another one and any text only if they are the same. -/
theorem eq_of_begins_append {name other : String} (given : '\x7d' ∉ name.toList) (there : '\x7d' ∉ other.toList)
    {rest : List Char} (begins : placeholder name <+: placeholder other ++ rest) : name = other := by
  obtain ⟨more, same⟩ := begins
  have inner : name.toList ++ '\x7d' :: more = other.toList ++ '\x7d' :: rest := by
    simpa [placeholder] using same
  have left := takeWhile_closed given more
  rw [inner, takeWhile_closed there] at left
  exact String.toList_inj.mp left.symm

theorem fillsApart_spelled : FillsApart spelled fun name => '\x7d' ∉ name.toList := by
  intro parts unbraced name given value
  induction parts with
  | nil => rfl
  | cons part parts ih =>
    have first := unbraced part List.mem_cons_self
    have rest := ih fun other inside => unbraced other (List.mem_cons_of_mem _ inside)
    -- A placeholder ends within this part, whatever stands behind: names have no closing brace.
    have apart : ∀ other, part = .slot other → placeholder name <+: placeholder other ++ spelled parts → name = other := by
      rintro other rfl begins
      exact eq_of_begins_append given first.2 begins
    rw [fill] at rest
    rw [List.map_cons, spelled_cons, spelled_cons, ← rest]
    exact Part.replaceAll_chars_append first apart value

/-- A path is its parts, each with a slash in front of it. -/
theorem pathOf_eq_spelled (parts : List Part) : pathOf parts = spelled (parts.flatMap fun part => [.literal "/", part]) := by
  induction parts with
  | nil => rfl
  | cons part parts ih =>
    rw [pathOf, List.map_cons, Url.written_cons, ← pathOf, ih, List.flatMap_cons]
    rfl

/-- A name fills the parts of a path one by one unless it has both a closing brace and a slash. -/
theorem fillsApart_pathOf : FillsApart pathOf fun name => '/' ∉ name.toList ∨ '\x7d' ∉ name.toList := by
  rintro parts unbraced name (unslashed | closed) value
  · have apart : '/' ∉ placeholder name := by
      simp [placeholder, unslashed]
    rw [fill, pathOf, Text.replaceAll_written apart nofun, pathOf, List.map_map, List.map_map]
    exact congrArg _ (List.map_congr_left fun part inside => Part.replaceAll_chars (unbraced part inside) name value)
  · have still : ∀ part ∈ parts.flatMap fun part => [.literal "/", part], part.IsUnbraced := by
      intro part inside
      obtain ⟨other, here, inside⟩ := List.mem_flatMap.mp inside
      rcases List.mem_pair.mp inside with rfl | rfl
      · change '\x7b' ∉ "/".toList
        decide
      · exact unbraced part here
    rw [pathOf_eq_spelled, fillsApart_spelled still closed, pathOf_eq_spelled, List.map_flatMap, List.flatMap_map]
    rfl

/-- A template of plain parts is filled part by part. -/
theorem filledPath_ok {template : Template} {storeId : Option String} {parts : List Part} {path : List Char}
    (shape : startPath template.path = pathOf parts) (plain : ∀ part ∈ parts, part.IsPlain)
    (apart : ∀ name value, (name, value) ∈ template.pathParameters → '/' ∉ name.toList ∨ '\x7d' ∉ name.toList)
    (filled : template.filledPath storeId = .ok path) :
    ∃ segments, path = Url.written segments ∧ List.Forall₂ (Part.Becomes (template.value? storeId)) parts segments := by
  have unbraced : ∀ part ∈ parts, part.IsUnbraced := fun part inside => (plain part inside).isUnbraced
  have resolved := fillsApart_pathOf.resolve unbraced (fun parameter inside => apart _ _ inside) (by decide) storeId
  rw [filledPath, shape, resolved] at filled
  split at filled
  · cases filled
  · rename_i closed
    cases filled
    refine ⟨_, rfl, ?_⟩
    rw [List.map_map, List.forall₂_map_right_iff, List.forall₂_same]
    intro part inside
    rcases part.resolve_cases (template.value? storeId) with ⟨name, left⟩ | becomes
    · have unfilled : Part.slot name ∈ parts.map (Part.resolve (template.value? storeId)) :=
        List.mem_map.mpr ⟨part, inside, left⟩
      have found := openPlaceholder?_pathOf unfilled
      rw [closed] at found
      cases found
    · exact becomes

end Template

end AuthzClient
