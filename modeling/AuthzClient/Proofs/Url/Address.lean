import AuthzClient.Proofs.Url.Authority

/-!
Addresses as hosts. The text of an address that was read is read as this address again: eight pieces with the longest run
of zeros left out, or four bytes in base ten.
-/

namespace AuthzClient.Url

open Text

section Lists

variable {α β : Type} {f : α → Option β}

theorem exists_of_mapM {as : List α} {bs : List β} (read : as.mapM f = some bs) {b : β} (inside : b ∈ bs) :
    ∃ a ∈ as, f a = some b := by
  induction as generalizing bs with
  | nil =>
    cases read
    cases inside
  | cons a as ih =>
    rw [List.mapM_cons] at read
    obtain ⟨first, here, read⟩ := Option.bind_eq_some_iff.mp read
    obtain ⟨rest, later, read⟩ := Option.bind_eq_some_iff.mp read
    cases read
    rcases List.mem_cons.mp inside with rfl | behind
    · exact ⟨a, List.mem_cons_self, here⟩
    · obtain ⟨other, below, known⟩ := ih later behind
      exact ⟨other, List.mem_cons_of_mem _ below, known⟩

theorem mapM_map_eq_some {g : β → α} {bs : List β} (back : ∀ b ∈ bs, f (g b) = some b) : (bs.map g).mapM f = some bs := by
  induction bs with
  | nil => rfl
  | cons b bs ih =>
    rw [List.map_cons, List.mapM_cons, back b List.mem_cons_self, ih fun other inside =>
      back other (List.mem_cons_of_mem _ inside)]
    rfl

theorem splitChars_intercalate {separator : Char} {parts : List (List Char)} (present : parts ≠ [])
    (apart : ∀ part ∈ parts, ∀ c ∈ part, c ≠ separator) :
    splitChars separator ([separator].intercalate parts) = parts := by
  induction parts with
  | nil => exact absurd rfl present
  | cons part parts ih =>
    have here := apart part List.mem_cons_self
    cases parts with
    | nil => rw [List.intercalate_singleton, splitChars_apart here]
    | cons next parts =>
      rw [List.intercalate_cons_cons, List.append_assoc, List.singleton_append, splitChars_append here,
        ih nofun fun other inside => apart other (List.mem_cons_of_mem _ inside)]

end Lists

section Digits

variable {base n : Nat} {c : Char}

theorem ne_colon_of_mem_toDigits (inside : c ∈ Nat.toDigits base n) : c ≠ ':' := by
  obtain ⟨digit, rfl⟩ := exists_digit inside
  exact Nat.digitChar_ne ':' (by decide)

theorem ne_point_of_mem_toDigits (inside : c ∈ Nat.toDigits base n) : c ≠ '.' := by
  obtain ⟨digit, rfl⟩ := exists_digit inside
  exact Nat.digitChar_ne '.' (by decide)

end Digits

section Pieces

variable {cs : List Char} {n : Nat} {pieces : List Nat}

/-- Pieces of 16 bits. -/
def ArePieces (pieces : List Nat) : Prop := ∀ piece ∈ pieces, piece < 0x10000

theorem ArePieces.append {front back : List Nat} (first : ArePieces front) (last : ArePieces back) :
    ArePieces (front ++ back) := List.forall_mem_append.mpr ⟨first, last⟩

theorem lt_of_piece? (read : piece? cs = some n) : n < 0x10000 := by
  unfold piece? at read
  split at read
  · cases read
  · rename_i short
    have length : cs.length ≤ 4 := by
      simp only [Bool.or_eq_true, decide_eq_true_eq, not_or, Nat.not_lt] at short
      exact short.2
    calc n < 16 ^ cs.length := lt_of_inBase? read
      _ ≤ 16 ^ 4 := Nat.pow_le_pow_right (by decide) length

theorem piece?_toDigits (small : n < 0x10000) : piece? (Nat.toDigits 16 n) = some n := by
  have short : (Nat.toDigits 16 n).length ≤ 4 := (Nat.length_toDigits_le_iff (by decide) (by decide)).mpr small
  have present : (Nat.toDigits 16 n).isEmpty = false := List.isEmpty_eq_false_iff.mpr Nat.toDigits_ne_nil
  rw [piece?, present, Bool.false_or, if_neg (by simpa using short), inBase?_toDigits (by decide) (by decide)]

theorem le_of_octet? (read : octet? cs = some n) : n ≤ 255 := by
  unfold octet? at read
  split at read
  · cases read
    decide
  · split at read
    · cases read
    · exact of_decide_eq_true (Option.filter_eq_some_iff.mp read).2
  · cases read

theorem arePieces_of_octetPieces? (read : octetPieces? cs = some pieces) : ArePieces pieces := by
  unfold octetPieces? at read
  split at read
  · rename_i a b c d octets
    cases read
    have bound {n : Nat} (inside : n ∈ [a, b, c, d]) : n ≤ 255 := by
      obtain ⟨part, _, octet⟩ := exists_of_mapM octets inside
      exact le_of_octet? octet
    have first : a ≤ 255 := bound (by simp)
    have second : b ≤ 255 := bound (by simp)
    have third : c ≤ 255 := bound (by simp)
    have fourth : d ≤ 255 := bound (by simp)
    intro piece inside
    simp only [List.mem_cons, List.not_mem_nil, or_false] at inside
    omega
  · cases read

theorem arePieces_of_pieces? {last : Bool} {parts : List (List Char)} (read : pieces? last parts = some pieces) :
    ArePieces pieces := by
  induction parts generalizing pieces with
  | nil =>
    cases read
    exact List.forall_mem_nil _
  | cons part parts ih =>
    cases parts with
    | nil =>
      rw [pieces?] at read
      split at read
      · rename_i known
        cases read
        exact List.forall_mem_singleton.mpr (lt_of_piece? known)
      · split at read
        · exact arePieces_of_octetPieces? read
        · cases read
    | cons next parts =>
      rw [pieces?] at read
      · split at read
        · rename_i known later
          cases read
          exact List.forall_mem_cons.mpr ⟨lt_of_piece? known, ih later⟩
        · cases read
      · nofun

theorem arePieces_of_side? {last : Bool} (read : side? last cs = some pieces) : ArePieces pieces := by
  unfold side? at read
  split at read
  · cases read
    exact List.forall_mem_nil _
  · exact arePieces_of_pieces? read

/-- An address has eight pieces of 16 bits. -/
theorem pieces_of_ipv6? (read : ipv6? cs = some pieces) : pieces.length = 8 ∧ ArePieces pieces := by
  unfold ipv6? at read
  split at read
  · obtain ⟨side, eight⟩ := Option.filter_eq_some_iff.mp read
    exact ⟨of_decide_eq_true eight, arePieces_of_side? side⟩
  · split at read
    · rename_i front back before behind
      split at read
      · rename_i few
        cases read
        refine ⟨by simp; omega, (ArePieces.append (arePieces_of_side? before) fun piece inside => ?_).append
          (arePieces_of_side? behind)⟩
        rw [(List.mem_replicate.mp inside).2]
        decide
      · cases read
    · cases read

theorem pieces?_toDigits {last : Bool} (small : ArePieces pieces) : pieces? last (pieces.map (Nat.toDigits 16)) = some pieces := by
  induction pieces with
  | nil => rfl
  | cons piece pieces ih =>
    obtain ⟨here, later⟩ := List.forall_mem_cons.mp small
    have known := piece?_toDigits here
    cases pieces with
    | nil => rw [List.map_singleton, pieces?, known]
    | cons next pieces =>
      rw [List.map_cons, pieces?, known, ih later]
      nofun

theorem pieceChars_singleton (piece : Nat) : pieceChars [piece] = Nat.toDigits 16 piece := List.intercalate_singleton ..

theorem pieceChars_cons (piece next : Nat) (rest : List Nat) :
    pieceChars (piece :: next :: rest) = Nat.toDigits 16 piece ++ ':' :: pieceChars (next :: rest) := by
  rw [pieceChars, List.map_cons, List.map_cons, List.intercalate_cons_cons, List.append_assoc]
  rfl

theorem exists_pieceChars (present : pieces ≠ []) : ∃ c rest, pieceChars pieces = c :: rest ∧ c ≠ ':' := by
  obtain ⟨piece, rest, rfl⟩ := List.exists_cons_of_ne_nil present
  obtain ⟨c, digits, first⟩ := List.exists_cons_of_ne_nil (Nat.toDigits_ne_nil (n := piece) (b := 16))
  have apart : c ≠ ':' := ne_colon_of_mem_toDigits (first ▸ List.mem_cons_self)
  cases rest with
  | nil => exact ⟨c, digits, by rw [pieceChars_singleton, first], apart⟩
  | cons next rest => exact ⟨c, _, by rw [pieceChars_cons, first, List.cons_append], apart⟩

/-- One side of the gap is read as its pieces. -/
theorem side?_pieceChars (last : Bool) (small : ArePieces pieces) : side? last (pieceChars pieces) = some pieces := by
  by_cases present : pieces = []
  · rw [present]
    rfl
  · have apart : ∀ part ∈ pieces.map (Nat.toDigits 16), ∀ c ∈ part, c ≠ ':' := by
      intro part here c inside
      obtain ⟨n, _, rfl⟩ := List.mem_map.mp here
      exact ne_colon_of_mem_toDigits inside
    obtain ⟨c, rest, start, _⟩ := exists_pieceChars present
    have shown : (pieceChars pieces).isEmpty = false := by rw [start, List.isEmpty_cons]
    rw [side?, shown, if_neg Bool.false_ne_true, pieceChars, splitChars_intercalate (by simpa using present) apart,
      pieces?_toDigits small]

end Pieces

section Gap

variable {cs rest : List Char} {pieces : List Nat}

theorem splitGap_cons {c : Char} (apart : c ≠ ':') (rest : List Char) :
    splitGap (c :: rest) = (splitGap rest).map fun (before, behind) => (c :: before, behind) := by
  rw [splitGap]
  intro more colon
  exact absurd colon apart

theorem splitGap_append (apart : ∀ c ∈ cs, c ≠ ':') (rest : List Char) :
    splitGap (cs ++ rest) = (splitGap rest).map fun (before, behind) => (cs ++ before, behind) := by
  induction cs with
  | nil => simp
  | cons c cs ih =>
    rw [List.cons_append, splitGap_cons (apart c List.mem_cons_self), ih fun d inside =>
      apart d (List.mem_cons_of_mem _ inside), Option.map_map]
    rfl

theorem splitGap_colon {c : Char} (apart : c ≠ ':') (rest : List Char) :
    splitGap (':' :: c :: rest) = (splitGap (c :: rest)).map fun (before, behind) => (':' :: before, behind) := by
  rw [splitGap]
  intro more _ same
  exact apart (List.cons.inj same).1

/-- Two colons in a row do not stand within pieces, nor does the last piece end in one. -/
theorem splitGap_pieceChars (pieces : List Nat) :
    splitGap (pieceChars pieces) = none ∧
      ∀ rest, splitGap (pieceChars pieces ++ ':' :: ':' :: rest) = some (pieceChars pieces, rest) := by
  induction pieces with
  | nil => exact ⟨rfl, fun rest => rfl⟩
  | cons piece pieces ih =>
    have digits : ∀ c ∈ Nat.toDigits 16 piece, c ≠ ':' := fun c => ne_colon_of_mem_toDigits
    cases pieces with
    | nil =>
      rw [pieceChars_singleton]
      refine ⟨?_, fun rest => by rw [splitGap_append digits]; simp [splitGap]⟩
      have alone := splitGap_append digits []
      rwa [List.append_nil] at alone
    | cons next pieces =>
      obtain ⟨c, more, start, other⟩ := exists_pieceChars (List.cons_ne_nil next pieces)
      rw [pieceChars_cons]
      refine ⟨?_, fun rest => ?_⟩
      · rw [splitGap_append digits, start, splitGap_colon other, ← start, ih.1]
        rfl
      · rw [List.append_assoc, splitGap_append digits, List.cons_append, start, List.cons_append, splitGap_colon other,
          ← List.cons_append, ← start, ih.2]
        rfl

theorem leadingZeros_spec (pieces : List Nat) : ∃ back, pieces = List.replicate (leadingZeros pieces) 0 ++ back := by
  fun_induction leadingZeros pieces with
  | case1 rest ih =>
    obtain ⟨back, same⟩ := ih
    exact ⟨back, by rw [List.replicate_succ, List.cons_append, ← same]⟩
  | case2 pieces => exact ⟨pieces, rfl⟩

/-- A run that is left out is a run of zeros, where it is said to be. -/
theorem longestZeros_spec {place start length : Nat} (found : longestZeros pieces place = (start, length))
    (long : 1 < length) :
    ∃ front back, pieces = front ++ (List.replicate length 0 ++ back) ∧ start = place + front.length := by
  induction pieces generalizing place with
  | nil =>
    cases found
    exact absurd long (Nat.lt_irrefl 1)
  | cons piece rest ih =>
    rw [longestZeros] at found
    dsimp only at found
    split at found
    · cases found
      obtain ⟨back, same⟩ := leadingZeros_spec (piece :: rest)
      exact ⟨[], back, same, rfl⟩
    · obtain ⟨front, back, same, rfl⟩ := ih found
      exact ⟨piece :: front, back, by rw [same, List.cons_append], by rw [List.length_cons]; omega⟩

/-- An address of eight pieces is read from its text. -/
theorem ipv6?_ipv6Chars (eight : pieces.length = 8) (small : ArePieces pieces) : ipv6? (ipv6Chars pieces) = some pieces := by
  rcases found : longestZeros pieces 0 with ⟨start, length⟩
  unfold ipv6Chars
  rw [found]
  dsimp only
  split
  · rw [ipv6?, (splitGap_pieceChars pieces).1]
    dsimp only
    rw [side?_pieceChars true small]
    simp [eight]
  · rename_i long
    obtain ⟨front, back, rfl, rfl⟩ := longestZeros_spec found (Nat.lt_of_not_le long)
    obtain ⟨first, later⟩ := List.forall_mem_append.mp small
    have last : ArePieces back := (List.forall_mem_append.mp later).2
    have behind : (front ++ (List.replicate length 0 ++ back)).drop (front.length + length) = back := by
      rw [← List.append_assoc]
      exact List.drop_left' (by simp)
    simp only [List.length_append, List.length_replicate] at eight
    rw [Nat.zero_add, List.take_left, behind, ipv6?, (splitGap_pieceChars front).2]
    dsimp only
    rw [side?_pieceChars false first, side?_pieceChars true last]
    dsimp only
    have gap : 8 - front.length - back.length = length := by omega
    rw [if_pos (by omega), gap, List.append_assoc]

end Gap

section Octets

variable {address : Nat}

theorem foldl_bytes_lt {bytes : List Nat} (small : ∀ n ∈ bytes, n ≤ 255) (first : Nat) :
    bytes.foldl (fun address n => address * 256 + n) first < (first + 1) * 256 ^ bytes.length := by
  induction bytes generalizing first with
  | nil => simp
  | cons n bytes ih =>
    obtain ⟨here, later⟩ := List.forall_mem_cons.mp small
    have bound : first * 256 + n + 1 ≤ (first + 1) * 256 := by omega
    calc bytes.foldl (fun address n => address * 256 + n) (first * 256 + n)
        < (first * 256 + n + 1) * 256 ^ bytes.length := ih later _
      _ ≤ (first + 1) * 256 * 256 ^ bytes.length := Nat.mul_le_mul_right _ bound
      _ = (first + 1) * 256 ^ (n :: bytes).length := by rw [List.length_cons, Nat.pow_succ', Nat.mul_assoc]

/-- The last number fills no more than what the bytes in front of it leave. -/
theorem lt_of_ofNumbers? {numbers : List Nat} (read : ofNumbers? numbers = some address) : address < 256 ^ 4 := by
  unfold ofNumbers? at read
  dsimp only at read
  split at read
  · cases read
  · rename_i last _
    split at read
    · cases read
    · rename_i fits
      cases read
      simp only [not_or, Nat.not_lt, ge_iff_le, Nat.not_le, List.any_eq_true, decide_eq_true_eq, not_exists, not_and] at fits
      obtain ⟨few, below, bytes⟩ := fits
      have front := foldl_bytes_lt bytes 0
      rw [Nat.zero_add, Nat.one_mul] at front
      have whole : 256 ^ numbers.dropLast.length * 256 ^ (4 - numbers.dropLast.length) = 256 ^ 4 := by
        rw [← Nat.pow_add, Nat.add_sub_cancel' (Nat.le_succ_of_le few)]
      rw [← whole]
      exact Nat.lt_of_lt_of_le (Nat.add_lt_add_left below _)
        (Nat.succ_mul .. ▸ Nat.mul_le_mul_right (256 ^ (4 - numbers.dropLast.length)) front)

theorem addressNumber?_toDigits {n : Nat} (byte : n < 256) : addressNumber? (Nat.toDigits 10 n) = some n := by
  have all : ∀ n : Fin 256, addressNumber? (Nat.toDigits 10 n.val) = some n.val := by decide +kernel
  exact all ⟨n, byte⟩

/-- The text of four bytes has these as its labels. -/
theorem labels_octets (address : Nat) :
    labels (Host.ipv4 address).chars = (Host.octets address).map (Nat.toDigits 10) := by
  have apart : ∀ part ∈ (Host.octets address).map (Nat.toDigits 10), ∀ c ∈ part, c ≠ '.' := by
    intro part here c inside
    obtain ⟨n, _, rfl⟩ := List.mem_map.mp here
    exact ne_point_of_mem_toDigits inside
  have present : (Host.octets address).map (Nat.toDigits 10) ≠ [] := by nofun
  rw [labels, Host.chars, splitChars_intercalate present apart]
  refine if_neg ?_
  rintro ⟨_, last⟩
  exact Nat.toDigits_ne_nil (Option.some.inj last)

/-- An address of 32 bits is read from its text. -/
theorem ipv4?_chars (small : address < 256 ^ 4) : ipv4? (Host.ipv4 address).chars = some address := by
  have bytes : ∀ n ∈ Host.octets address, addressNumber? (Nat.toDigits 10 n) = some n := by
    intro n inside
    refine addressNumber?_toDigits ?_
    simp only [Host.octets, List.mem_cons, List.not_mem_nil, or_false] at inside
    omega
  rw [ipv4?, labels_octets, mapM_map_eq_some bytes]
  change ofNumbers? [address / 0x100_0000 % 256, address / 0x1_0000 % 256, address / 0x100 % 256, address % 256] = _
  have high : ¬address / 0x100_0000 % 256 > 255 := by omega
  have upper : ¬address / 0x1_0000 % 256 > 255 := by omega
  have lower : ¬address / 0x100 % 256 > 255 := by omega
  have last : ¬address % 256 ≥ 256 := by omega
  simp [ofNumbers?, high, upper, lower, last]
  omega

end Octets

end AuthzClient.Url
