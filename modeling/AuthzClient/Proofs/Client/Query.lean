import AuthzClient.Proofs.Client.Origin
import AuthzClient.Proofs.Entries
import AuthzClient.Proofs.Text.Trimming
import AuthzClient.Proofs.Text.Utf8
import AuthzClient.Proofs.Url.Form

/-!
The query of a filled template. It is a form with the query parameters and nothing else: neither the path, nor what fills its
placeholders, nor the URL of the server says anything of a query, and the order in which parameters are added does not show.
-/

namespace AuthzClient

open Text Http

theorem Text.mem_replaceAll {pattern filling : List Char} {skip : Nat} {cs : List Char} {c : Char}
    (inside : c ∈ replaceAll pattern filling skip cs) : c ∈ filling ∨ c ∈ cs := by
  fun_induction replaceAll pattern filling skip cs with
  | case1 => cases inside
  | case2 skip d cs ih => exact (ih inside).imp_right (List.mem_cons_of_mem d)
  | case3 d cs begins ih =>
    rcases List.mem_append.mp inside with filled | inside
    · exact Or.inl filled
    · exact (ih inside).imp_right (List.mem_cons_of_mem d)
  | case4 d cs begins ih =>
    rcases List.mem_cons.mp inside with rfl | inside
    · exact Or.inr List.mem_cons_self
    · exact (ih inside).imp_right (List.mem_cons_of_mem d)

namespace Template

/-- With query parameters added, one after the other. -/
def querying (template : Template) (added : List (String × String)) : Template :=
  added.foldl (fun template parameter => template.queryParameter parameter.1 parameter.2) template

theorem querying_eq (template : Template) (added : List (String × String)) :
    template.querying added = { template with
      queryParameters := added.foldl (fun entries p => Entries.put p.1 p.2 entries) template.queryParameters } := by
  unfold querying
  induction added generalizing template with
  | nil => rfl
  | cons first added ih => exact ih _

/-- A template that says nothing of a query. -/
structure IsPathOnly (template : Template) : Prop where
  question : '?' ∉ template.path.toList
  hash : '#' ∉ template.path.toList
  unqueried : template.queryParameters = []

theorem IsPathOnly.querying_eq {template : Template} (alone : template.IsPathOnly) (added : List (String × String)) :
    template.querying added = { template with queryParameters := Entries.ofPairs added } := by
  rw [Template.querying_eq, alone.unqueried]
  rfl

section Within

/-- Nothing in a text ends the path of a URL. -/
def Within (cs : List Char) : Prop := ∀ c ∈ cs, Url.endsPath c = false

variable {path : List Char}

theorem Within.fill (within : Within path) (name value : String) : Within (fill path name value) := by
  intro c inside
  rcases Text.mem_replaceAll inside with filled | kept
  · exact Url.not_endsPath (Or.inr (Url.isSegmentChar_of_mem_component filled))
  · exact within c kept

theorem Within.fillAll (within : Within path) (parameters : Entries String) : Within (fillAll path parameters) := by
  induction parameters generalizing path with
  | nil => exact within
  | cons first parameters ih => exact ih (within.fill first.1 first.2)

theorem Within.fillStore (within : Within path) (storeId : Option String) : Within (fillStore path storeId) := by
  unfold Template.fillStore
  split
  · split
    · exact within
    · exact within.fill _ _
  · exact within

theorem IsPathOnly.within_startPath {template : Template} (alone : template.IsPathOnly) :
    Within (startPath template.path) := by
  obtain ⟨front, back, whole, _⟩ := exists_trimmed template.path.toList
  have trimmed : Within (trimChars template.path.toList) := by
    intro c inside
    have here : c ∈ template.path.toList := by
      rw [whole]
      exact List.mem_append_right _ (List.mem_append_left _ inside)
    have question := ne_of_mem_of_not_mem here alone.question
    have hash := ne_of_mem_of_not_mem here alone.hash
    simp [Url.endsPath, question, hash]
  unfold startPath
  split
  · rename_i same
    rwa [same] at trimmed
  · exact List.forall_mem_cons.mpr ⟨rfl, trimmed⟩

theorem IsPathOnly.within_filledPath {template : Template} (alone : template.IsPathOnly) {storeId : Option String}
    (filled : template.filledPath storeId = .ok path) : Within path := by
  unfold filledPath at filled
  dsimp only at filled
  split at filled
  · cases filled
  · cases filled
    exact (alone.within_startPath.fillAll _).fillStore _

end Within

end Template

namespace Client

variable {config : Configuration} {client : Client}

/-- The URL of a server that shows nothing behind its path says nothing of a query. -/
theorem Base.within_basePart (base : client.Base) (bare : client.baseUrl.IsBare) : Template.Within client.basePart := by
  have tail : client.baseUrl.tailChars = [] := by
    rw [Url.tailChars, bare.query, bare.fragment]
    rfl
  have scheme : Template.Within base.scheme := by
    rcases base.http with web | web
    · simp [web, Template.Within, Url.endsPath]
    · simp [web, Template.Within, Url.endsPath]
  have authority : Template.Within base.authority := by
    intro c inside
    have on := Url.not_endsAuthority_of_isInner (base.inner c inside)
    simp only [Url.endsAuthority, Bool.or_eq_false_iff] at on
    simp [Url.endsPath, on]
  have path : Template.Within ((Url.written base.segments).rdropWhile (· == '/')) := by
    intro c inside
    have here := (List.rdropWhile_prefix _ _).subset inside
    exact Url.not_endsPath (Url.written_plain (fun segment member => (base.read segment member).plain) here)
  rw [base.basePart_eq, tail, List.append_nil]
  simp only [Template.Within, List.forall_mem_append, List.forall_mem_cons]
  exact ⟨scheme, rfl, rfl, rfl, authority, path⟩

/-- What is joined says nothing of a query, if neither the URL of the server nor the path does. -/
theorem Base.query_of_join (base : client.Base) (bare : client.baseUrl.IsBare) {path : List Char}
    (within : Template.Within ('/' :: path)) {operation : String} {url : Url}
    (joined : client.join ('/' :: path) operation = .ok url) : url.query = none := by
  obtain ⟨tail, counts, rfl⟩ := base.exists_tail_of_join joined
  have behind : ∀ c ∈ '/' :: tail, Url.endsPath c = false := by
    intro c inside
    have here : c ∈ Url.relevant (client.basePart ++ '/' :: path) := by
      rw [counts]
      refine List.mem_append_right _ ?_
      iterate 3 refine List.mem_cons_of_mem _ ?_
      exact List.mem_append_right _ inside
    exact (List.mem_append.mp (Url.mem_of_mem_relevant here)).elim (base.within_basePart bare c) (within c)
  exact congrArg Prod.fst (Url.readTail_of_not_endsPath behind)

/-- The query of a template is the form of its query parameters. -/
theorem Base.query_of_fillTemplate (base : client.Base) (bare : client.baseUrl.IsBare) {template : Template}
    (alone : template.IsPathOnly) {added : List (String × String)} {request : Request}
    (filled : client.fillTemplate (template.querying added) = .ok request) :
    request.url.query = if added = [] then none else some (String.ofList (Form.encode (Entries.ofPairs added))) := by
  rw [alone.querying_eq] at filled
  obtain ⟨path, whole, written⟩ := Except.bind_eq_ok (templateUrl_of_fillTemplate filled)
  obtain ⟨url, joined, extended⟩ := Except.bind_eq_ok written
  have within : Template.Within path := alone.within_filledPath whole
  obtain ⟨rest, rfl⟩ := Template.exists_filledPath whole
  have none := base.query_of_join bare within joined
  have same : request.url = if (Entries.ofPairs added).isEmpty then url else url.appendPairs (Entries.ofPairs added) :=
    (Except.ok.inj extended).symm
  rw [same]
  by_cases empty : added = []
  · rw [if_pos empty, empty]
    exact none
  · have present : ¬(Entries.ofPairs added).isEmpty = true := fun nothing =>
      empty (Entries.ofPairs_eq_nil_iff.mp (List.isEmpty_iff.mp nothing))
    rw [if_neg empty, if_neg present, Url.appendPairs, none]

/-- The query of a request that a template writes, if neither the path of the template nor the URL of the server says
anything of a query. There is none without query parameters. Otherwise it is read as a form with each key once, in ascending
order of the bytes of the keys, and with the last value that was added for it. Parameters with different keys may be added in
any order, and another path or other path parameters make no difference to the query. -/
theorem query_of_template (made : ofConfiguration config = .ok client) (bare : client.baseUrl.IsBare) {template : Template}
    (alone : template.IsPathOnly) (added : List (String × String)) :
    (∀ request, client.fillTemplate (template.querying added) = .ok request →
      (request.url.query = none ↔ added = []) ∧
      ∀ query, request.url.query = some query →
        (Form.decode (Utf8.encode query)).Pairwise (fun a b => Utf8.encode a.1 < Utf8.encode b.1) ∧
        ∀ key value, (key, value) ∈ Form.decode (Utf8.encode query) ↔ Entries.IsLast added key value) ∧
    (∀ others : List (String × String), others.Perm added → (added.map Prod.fst).Nodup →
      client.fillTemplate (template.querying others) = client.fillTemplate (template.querying added)) ∧
    ∀ other : Template, other.IsPathOnly → ∀ request another,
      client.fillTemplate (template.querying added) = .ok request →
      client.fillTemplate (other.querying added) = .ok another → another.url.query = request.url.query := by
  obtain ⟨base⟩ := exists_base made
  refine ⟨fun request filled => ?_, fun others moved distinct => ?_, fun other apart request another filled also => ?_⟩
  · rw [base.query_of_fillTemplate bare alone filled]
    refine ⟨by simp, fun query shown => ?_⟩
    split at shown
    · cases shown
    · cases shown
      rw [Utf8.encode, String.toList_ofList, Form.decode_encode]
      have ascending : (Entries.ofPairs added).Pairwise fun a b => a.1 < b.1 := Entries.ascending_ofPairs added
      exact ⟨ascending.imp Utf8.encode_lt, fun key value => Entries.mem_ofPairs_iff⟩
  · rw [alone.querying_eq, alone.querying_eq, Entries.ofPairs_perm distinct moved]
  · rw [base.query_of_fillTemplate bare alone filled, base.query_of_fillTemplate bare apart also]

/-- Parameters that look like parts of a query. -/
def searching : List (String × String) := [("q", "a&b=c"), ("é +", "%26"), ("", "="), ("q", "?#")]

theorem isPathOnly_objectTemplate (object : String) : (objectTemplate object).IsPathOnly where
  question := by
    change '?' ∉ "/stores/\x7bstore_id\x7d/objects/\x7bobject\x7d".toList
    decide +kernel
  hash := by
    change '#' ∉ "/stores/\x7bstore_id\x7d/objects/\x7bobject\x7d".toList
    decide +kernel
  unqueried := rfl

theorem query_of_template_hosted :
    ofConfiguration hosted.config = .ok hosted ∧ hosted.baseUrl.IsBare ∧ (objectTemplate "?x=y#").IsPathOnly ∧
      ∃ request query, hosted.fillTemplate ((objectTemplate "?x=y#").querying searching) = .ok request ∧
        request.url.query = some query ∧ ("q", "?#") ∈ Form.decode (Utf8.encode query) ∧
        ("q", "a&b=c") ∉ Form.decode (Utf8.encode query) ∧
        ∃ another, hosted.fillTemplate ((objectTemplate "").querying searching) = .ok another ∧
          another.url.query = some query := by
  have bare : hosted.baseUrl.IsBare := ⟨rfl, rfl⟩
  have alone := isPathOnly_objectTemplate "?x=y#"
  obtain ⟨request, filled, _⟩ := exists_of_path ((objectTemplate "?x=y#").querying searching)
    (.segments ["v1", "stores", "01H", "objects", "%3Fx%3Dy%23"]) (by decide +kernel)
  obtain ⟨another, also, _⟩ := exists_of_path ((objectTemplate "").querying searching)
    (.segments ["v1", "stores", "01H", "objects", ""]) (by decide +kernel)
  obtain ⟨decoded, _, unseen⟩ := query_of_template ofConfiguration_hosted bare alone searching
  obtain ⟨empty, shown⟩ := decoded request filled
  obtain ⟨query, written⟩ := Option.ne_none_iff_exists'.mp (empty.not.mpr (by decide : searching ≠ []))
  obtain ⟨_, entries⟩ := shown query written
  refine ⟨ofConfiguration_hosted, bare, alone, request, query, filled, written, ?_, fun inside => ?_, another, also,
    (unseen _ (isPathOnly_objectTemplate "") request another filled also).trans written⟩
  · exact (entries _ _).mpr (Entries.mem_ofPairs_iff.mp (by decide))
  · exact absurd (Entries.mem_ofPairs_iff.mpr ((entries _ _).mp inside)) (by decide)

end Client

end AuthzClient
