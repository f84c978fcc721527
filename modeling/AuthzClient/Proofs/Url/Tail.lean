import AuthzClient.Proofs.Url.Segments
import AuthzClient.Url.Basic
import Mathlib.Data.List.Basic

/-!
Queries and fragments. They are written in visible characters behind the path, and read as they are written.
-/

namespace AuthzClient.Url

open Text

/-- What a path holds: nothing that ends it. -/
def IsEndless (path : List Char) : Prop := ∀ c ∈ path, endsPath c = false

/-- A URL whose query and fragment are written as they are read. -/
structure IsSettled (url : Url) : Prop where
  query : ∀ query, url.query = some query → Percent.IsEncoded (isQueryByte true) query.toList
  fragment : ∀ fragment, url.fragment = some fragment → Percent.IsEncoded isFragmentByte fragment.toList

theorem isStable_isQueryByte : Percent.IsStable (isQueryByte true) where
  ascii := forall_byte (by decide +kernel)
  percent := by decide
  digit := by decide

theorem isStable_isFragmentByte : Percent.IsStable isFragmentByte where
  ascii := forall_byte (by decide +kernel)
  percent := by decide
  digit := by decide

variable {path : List Char} {url : Url}

theorem unended_path (endless : IsEndless path) : ∀ c ∈ path, (!endsPath c) = true := by
  intro c inside
  rw [endless c inside, Bool.not_false]

theorem ends_tailChars (url : Url) : ∀ c ∈ url.tailChars.head?, endsPath c = true := by
  intro c first
  unfold tailChars at first
  split at first
  · cases first
    rfl
  · split at first
    · cases first
      rfl
    · cases first

/-- The path is read up to the query or the fragment, and these are read as they are written. -/
theorem readPath_tailChars (endless : IsEndless path) (url : Url) :
    readPath true (path ++ url.tailChars) = readPath true path := by
  have whole : (path ++ url.tailChars).takeWhile (!endsPath ·) = path.takeWhile (!endsPath ·) := by
    rw [List.takeWhile_append_of_pos (unended_path endless), List.takeWhile_eq_self_iff.mpr (unended_path endless)]
    cases tail : url.tailChars with
    | nil => rw [List.takeWhile_nil, List.append_nil]
    | cons c rest =>
      have ends := ends_tailChars url c (by rw [tail]; rfl)
      rw [List.takeWhile_cons_of_neg (by simp [ends]), List.append_nil]
  rw [readPath, whole, readPath]

/-- The fragment that a text begins. -/
def fragmentOf : List Char → Option String
  | '#' :: rest => some (String.ofList (Percent.encodeChars isFragmentByte rest))
  | _ => none

theorem readTail_of_query {special : Bool} {cs rest : List Char} (ends : cs.dropWhile (!endsPath ·) = '?' :: rest) :
    readTail special cs =
      (some (String.ofList (Percent.encodeChars (isQueryByte special) (rest.takeWhile (· != '#')))),
        fragmentOf (rest.dropWhile (· != '#'))) := by
  rw [readTail, ends]
  rfl

theorem readTail_of_fragment {special : Bool} {cs rest : List Char} (ends : cs.dropWhile (!endsPath ·) = rest)
    (unasked : rest.head? ≠ some '?') : readTail special cs = (none, fragmentOf rest) := by
  rw [readTail, ends]
  dsimp only
  split
  · exact absurd rfl unasked
  · rfl

theorem ofList_encoded {allowed : UInt8 → Bool} {text : String} (encoded : Percent.IsEncoded allowed text.toList) :
    String.ofList (Percent.encodeChars allowed text.toList) = text := by
  rw [Percent.encodeChars_allowed encoded, String.ofList_toList]

/-- The text of a fragment behind its mark. -/
def fragmentChars : Option String → List Char
  | some fragment => '#' :: fragment.toList
  | none => []

theorem fragmentOf_fragmentChars {fragment : Option String}
    (encoded : ∀ text, fragment = some text → Percent.IsEncoded isFragmentByte text.toList) :
    fragmentOf (fragmentChars fragment) = fragment := by
  cases fragment with
  | none => rfl
  | some text => exact congrArg some (ofList_encoded (encoded text rfl))

/-- The text of a query behind its mark. -/
def queryChars : Option String → List Char
  | some query => '?' :: query.toList
  | none => []

theorem tailChars_eq (url : Url) : url.tailChars = queryChars url.query ++ fragmentChars url.fragment := rfl

theorem readTail_tailChars (endless : IsEndless path) (settled : url.IsSettled) :
    readTail true (path ++ url.tailChars) = (url.query, url.fragment) := by
  have tail : (path ++ url.tailChars).dropWhile (!endsPath ·) = url.tailChars := by
    rw [List.dropWhile_append_of_pos (unended_path endless)]
    cases tail : url.tailChars with
    | nil => rfl
    | cons c rest =>
      have ends := ends_tailChars url c (by rw [tail]; rfl)
      exact List.dropWhile_cons_of_neg (by simp [ends])
  have marked := fragmentOf_fragmentChars settled.fragment
  cases asked : url.query with
  | none =>
    rw [tailChars_eq, asked] at tail
    rw [tailChars_eq, asked, readTail_of_fragment tail]
    · exact congrArg _ marked
    · cases url.fragment <;> simp [queryChars, fragmentChars]
  | some query =>
    have encoded := settled.query query asked
    have unmarked : ∀ c ∈ query.toList, (c != '#') = true := by
      intro c inside
      rw [bne_iff_ne]
      rintro rfl
      exact absurd (encoded '#' inside).2 (by decide)
    have ends : (fragmentChars url.fragment).takeWhile (· != '#') = [] ∧
        (fragmentChars url.fragment).dropWhile (· != '#') = fragmentChars url.fragment := by
      cases url.fragment with
      | none => exact ⟨rfl, rfl⟩
      | some fragment => exact ⟨rfl, rfl⟩
    rw [tailChars_eq, asked, queryChars, List.cons_append] at tail
    rw [tailChars_eq, asked, queryChars, List.cons_append, readTail_of_query tail, List.takeWhile_append_of_pos unmarked,
      List.dropWhile_append_of_pos unmarked, ends.1, ends.2, marked, List.append_nil, ofList_encoded encoded]

theorem isEncoded_of_fragmentOf {cs : List Char} {text : String} (read : fragmentOf cs = some text) :
    Percent.IsEncoded isFragmentByte text.toList := by
  unfold fragmentOf at read
  split at read
  · cases read
    rw [String.toList_ofList]
    exact isStable_isFragmentByte.isEncoded _
  · cases read

/-- The query and the fragment of a URL of the web are written as they are read. -/
theorem isSettled_of_readTail {cs : List Char} (query : url.query = (readTail true cs).1)
    (fragment : url.fragment = (readTail true cs).2) : url.IsSettled := by
  by_cases asked : ∃ rest, cs.dropWhile (!endsPath ·) = '?' :: rest
  · obtain ⟨rest, ends⟩ := asked
    rw [readTail_of_query ends] at query fragment
    refine ⟨fun text read => ?_, fun text read => isEncoded_of_fragmentOf (fragment.symm.trans read)⟩
    cases query.symm.trans read
    rw [String.toList_ofList]
    exact isStable_isQueryByte.isEncoded _
  · have unasked : (cs.dropWhile (!endsPath ·)).head? ≠ some '?' := fun first =>
      asked ⟨_, List.eq_cons_of_mem_head? first⟩
    rw [readTail_of_fragment rfl unasked] at query fragment
    refine ⟨fun text read => ?_, fun text read => isEncoded_of_fragmentOf (fragment.symm.trans read)⟩
    cases query.symm.trans read

/-- A query and a fragment are written in visible characters of ASCII. -/
theorem visible_tailChars (settled : url.IsSettled) {c : Char} (inside : c ∈ url.tailChars) :
    0x20 < c.toNat ∧ c.toNat < 0x80 := by
  have above {b : UInt8} (n : Nat) (small : n < 0x80) (same : n.toUInt8 = b) (visible : 0x20 < b) : 0x20 < n := by
    rw [← same, UInt8.lt_iff_toNat_lt, Nat.toUInt8, UInt8.toNat_ofNat'] at visible
    have least : (0x20 : UInt8).toNat = 0x20 := rfl
    omega
  rw [tailChars_eq] at inside
  rcases List.mem_append.mp inside with query | fragment
  · cases asked : url.query with
    | none =>
      rw [asked] at query
      cases query
    | some text =>
      rw [asked] at query
      rcases List.mem_cons.mp query with rfl | inside
      · decide
      · obtain ⟨ascii, free⟩ := settled.query text asked c inside
        simp only [isQueryByte, Bool.and_eq_true, decide_eq_true_eq] at free
        exact ⟨above _ ascii rfl free.1.1.1, ascii⟩
  · cases marked : url.fragment with
    | none =>
      rw [marked] at fragment
      cases fragment
    | some text =>
      rw [marked] at fragment
      rcases List.mem_cons.mp fragment with rfl | inside
      · decide
      · obtain ⟨ascii, free⟩ := settled.fragment text marked c inside
        simp only [isFragmentByte, Bool.and_eq_true, decide_eq_true_eq] at free
        exact ⟨above _ ascii rfl free.1.1, ascii⟩

end AuthzClient.Url
