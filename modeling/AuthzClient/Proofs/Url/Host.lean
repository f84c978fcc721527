import AuthzClient.Proofs.Text.Utf8
import AuthzClient.Proofs.Url.Domain

/-!
Hosts of the web. What is read from the text of a host that was read is this host.
-/

namespace AuthzClient.Url

open Text

/-- Bytes without a percent sign stand for themselves. -/
theorem decode_plain {bytes : List UInt8} (plain : ∀ b ∈ bytes, b ≠ 0x25) : Percent.decode bytes = bytes := by
  induction bytes with
  | nil => rfl
  | cons b bytes ih =>
    obtain ⟨here, later⟩ := List.forall_mem_cons.mp plain
    rw [Percent.decode_cons_plain here, ih later]

section Names

variable {name : List Char}

theorem decode_unmarked (unmarked : '%' ∉ name) : Utf8.decode? (Percent.decode (Utf8.encodeChars name)) = some name := by
  have plain : ∀ b ∈ Utf8.encodeChars name, b ≠ 0x25 := by
    rintro b inside rfl
    obtain ⟨c, here, byte⟩ := List.mem_flatMap.mp inside
    have percent : c = '%' := by
      rw [← Char.toNat_inj, Utf8.toNat_of_mem_encodeChar byte (by decide)]
      rfl
    exact unmarked (percent ▸ here)
  rw [decode_plain plain, Utf8.decode?_encodeChars]

/-- The host that a name in its ASCII form is. -/
theorem namedHost?_ascii (unmarked : '%' ∉ name) (ascii : Domain.toAscii? name = some name) (present : name ≠ []) :
    namedHost? name =
      if endsInNumber name then (ipv4? name).map .ipv4 else some (.domain (String.ofList name)) := by
  rw [namedHost?, decode_unmarked unmarked]
  change (Domain.toAscii? name).bind _ = _
  rw [ascii]
  exact if_neg (by simpa using present)

/-- A character of an address in base ten. -/
def isNumeric (c : Char) : Bool := isDigit c || c == '.'

theorem isNumeric_spec {c : Char} (numeric : isNumeric c = true) :
    lowerAscii c = c ∧ Domain.isAscii c = true ∧ Domain.isForbidden c = false ∧ c ≠ 'x' := by
  have ascii : c.toNat < 0x80 := by
    simp only [isNumeric, isDigit, Bool.or_eq_true, Bool.and_eq_true, decide_eq_true_eq, beq_iff_eq] at numeric
    rcases numeric with ⟨_, most⟩ | rfl
    · exact Nat.lt_of_le_of_lt most (by decide)
    · decide
  have all : ∀ c : Char, c.toNat < 0x80 → isNumeric c = true →
      lowerAscii c = c ∧ Domain.isAscii c = true ∧ Domain.isForbidden c = false ∧ c ≠ 'x' :=
    forall_ascii (by decide +kernel)
  exact all c ascii numeric

/-- A name of digits and points is its own ASCII form. -/
theorem toAscii?_numeric (numeric : ∀ c ∈ name, isNumeric c = true) : Domain.toAscii? name = some name := by
  have lowered : name.map lowerAscii = name :=
    (List.map_congr_left fun c inside => (isNumeric_spec (numeric c inside)).1).trans (List.map_id _)
  have plain : Domain.isPlain name = true := by
    simp only [Domain.isPlain, Bool.and_eq_true, List.all_eq_true, bne_iff_ne]
    refine ⟨fun c inside => (isNumeric_spec (numeric c inside)).2.1, fun label inside marked => ?_⟩
    have letter : 'x' ∈ label := (List.take_sublist 4 label).mem (marked ▸ List.mem_cons_self)
    exact (isNumeric_spec (numeric 'x' (mem_splitChars inside letter).1)).2.2.2 rfl
  have allowed : name.any Domain.isForbidden = false :=
    List.any_eq_false.mpr fun c inside => by simp [(isNumeric_spec (numeric c inside)).2.2.1]
  rw [Domain.toAscii?, lowered, if_pos plain, allowed, if_neg Bool.false_ne_true]

theorem isNumeric_of_mem_ipv4 {address : Nat} {c : Char} (inside : c ∈ (Host.ipv4 address).chars) : isNumeric c = true := by
  rcases mem_intercalate inside with rfl | ⟨part, here, inside⟩
  · rfl
  · obtain ⟨n, _, rfl⟩ := List.mem_map.mp here
    rw [isNumeric, isDigit_of_mem_toDigits inside, Bool.true_or]

/-- The last label of four bytes is a number. -/
theorem endsInNumber_ipv4 (address : Nat) : endsInNumber (Host.ipv4 address).chars = true := by
  have last : (labels (Host.ipv4 address).chars).getLast? = some (Nat.toDigits 10 (address % 256)) := by
    rw [labels_octets]
    rfl
  have digits : (Nat.toDigits 10 (address % 256)).all isDigit = true :=
    List.all_eq_true.mpr fun c => isDigit_of_mem_toDigits
  rw [endsInNumber, last]
  simp [digits]

/-- A name that is not in brackets is read as such. -/
theorem webHost?_named {c : Char} (allowed : Domain.isForbidden c = false) (rest : List Char) :
    webHost? (c :: rest) = namedHost? (c :: rest) := by
  rw [webHost?]
  rintro more ⟨⟩
  cases allowed

end Names

theorem bracketed?_chars {cs : List Char} {host : Host} (read : bracketed? cs = some host) :
    webHost? host.chars = some host := by
  unfold bracketed? at read
  split at read
  · obtain ⟨pieces, known, rfl⟩ := Option.map_eq_some_iff.mp read
    obtain ⟨eight, small⟩ := pieces_of_ipv6? known
    change bracketed? (ipv6Chars pieces ++ [']']) = _
    rw [bracketed?, if_pos List.getLast?_concat, List.dropLast_concat, ipv6?_ipv6Chars eight small]
    rfl
  · cases read

theorem namedHost?_chars {cs : List Char} {host : Host} (read : namedHost? cs = some host) :
    webHost? host.chars = some host := by
  obtain ⟨decoded, _, read⟩ := Option.bind_eq_some_iff.mp read
  obtain ⟨name, ascii, read⟩ := Option.bind_eq_some_iff.mp read
  -- both a name and an address in base ten are written without characters that are forbidden in names
  have again {text : List Char} (allowed : ∀ c ∈ text, Domain.isForbidden c = false)
      (own : Domain.toAscii? text = some text) (present : text ≠ []) :
      webHost? text =
        if endsInNumber text then (ipv4? text).map .ipv4 else some (.domain (String.ofList text)) := by
    have unmarked : '%' ∉ text := fun inside => Bool.noConfusion (allowed '%' inside)
    obtain ⟨c, rest, rfl⟩ := List.exists_cons_of_ne_nil present
    rw [webHost?_named (allowed c List.mem_cons_self), namedHost?_ascii unmarked own present]
  split at read
  · cases read
  · rename_i present
    split at read
    · obtain ⟨address, known, rfl⟩ := Option.map_eq_some_iff.mp read
      obtain ⟨numbers, _, bytes⟩ := Option.bind_eq_some_iff.mp known
      have numeric : ∀ c ∈ (Host.ipv4 address).chars, isNumeric c = true := fun c => isNumeric_of_mem_ipv4
      have shown : (Host.ipv4 address).chars ≠ [] := by
        rintro none
        have ends := endsInNumber_ipv4 address
        rw [none] at ends
        cases ends
      rw [again (fun c inside => (isNumeric_spec (numeric c inside)).2.2.1) (toAscii?_numeric numeric) shown,
        endsInNumber_ipv4, if_pos rfl, ipv4?_chars (lt_of_ofNumbers? bytes)]
      rfl
    · rename_i unnumbered
      cases read
      rw [Host.chars, String.toList_ofList, again (fun c => not_isForbidden_of_ascii ascii) (Domain.toAscii?_self ascii)
        (by simpa using present), if_neg unnumbered]

/-- What is written for a host that was read is read as this host. -/
theorem webHost?_chars {cs : List Char} {host : Host} (read : webHost? cs = some host) :
    webHost? host.chars = some host := by
  unfold webHost? at read
  split at read
  · exact bracketed?_chars read
  · exact namedHost?_chars read

end AuthzClient.Url
