import AuthzClient.Proofs.Json.Grammar
import AuthzClient.Stream.Entry

/-!
Which lines of a stream are entries. A line spells an entry as an object with a result and an error, or as an array of
the two; each may be `null`, and in an object each may be absent. Every line that spells an item gives this item, every
other line that spells an error gives this error, and all the rest cannot be decoded.
-/

namespace AuthzClient.Stream

open Json
open Json.Decoder

variable {α : Type}

def codeSlot : Slot Status Int where
  name := "code"
  read := code
  left := some
  ends := some
  get := Status.code
  set value status := { status with code := value }

def messageSlot : Slot Status String where
  name := "message"
  read := Decoder.text
  left := some
  ends := some
  get := Status.message
  set value status := { status with message := value }

def resultSlot (item : Decoder α) : Slot (Entry α) (Option α) where
  name := "result"
  read := nullable item
  left _ := some none
  ends _ := none
  get := Entry.result
  set value entry := { entry with result := value }

def errorSlot : Slot (Entry α) (Option Status) where
  name := "error"
  read := nullable statusDecoder
  left _ := some none
  ends _ := none
  get := Entry.error
  set value entry := { entry with error := value }

theorem codeSlot_apart : codeSlot.Apart messageSlot where
  names := by decide
  get_one _ _ := rfl
  get_two _ _ := rfl
  one_of_two _ _ := rfl
  two_of_one _ _ := rfl
  ext {found other} same equal := by
    cases found
    cases other
    cases same
    cases equal
    rfl

theorem resultSlot_apart (item : Decoder α) : (resultSlot item).Apart errorSlot where
  names := by
    show "result" ≠ "error"
    decide
  get_one _ _ := rfl
  get_two _ _ := rfl
  one_of_two _ _ := rfl
  two_of_one _ _ := rfl
  ext {found other} same equal := by
    cases found
    cases other
    cases same
    cases equal
    rfl

theorem statusDecoder_eq : statusDecoder = record [codeSlot.field, messageSlot.field] ⟨0, ""⟩ := rfl

theorem entryDecoder_eq (item : Decoder α) :
    entryDecoder item = record [(resultSlot item).field, errorSlot.field] ⟨none, none⟩ := rfl

/-- An error as it is written: its code and its message, both of which may be left out but not `null`. Numbers and texts
take neither fuel nor room. -/
def SpellsStatus : Reading Status :=
  Written codeSlot messageSlot (reading code 0 0) (reading Decoder.text 0 0) ⟨0, ""⟩

/-- The line is an entry with this result and this error, with nothing behind it. Its values lie one level within it. -/
def SpellsEntry (item : Decoder α) (bytes : List UInt8) (entry : Entry α) : Prop :=
  ∃ rest, Written (resultSlot item) errorSlot (Maybe (reading item (2 * bytes.length + 4) 127)) (Maybe SpellsStatus)
    ⟨none, none⟩ bytes entry rest ∧ skipSpace rest = []

section Statuses

variable {fuel room : Nat} {start behind : List UInt8} {status : Status}

theorem isConsuming_statusDecoder : statusDecoder.IsConsuming :=
  isConsuming_record (by
    rw [statusFields, List.forall_mem_cons, List.forall_mem_singleton]
    exact ⟨.defaulted (isConsuming_integer _ _) _ _, .defaulted isConsuming_text _ _⟩) _

theorem spellsStatus_of_reading (read : reading statusDecoder fuel (room + 2) start status behind) :
    SpellsStatus start status behind := by
  rw [statusDecoder_eq] at read
  exact written_of_record codeSlot_apart read

theorem reading_of_spellsStatus (enough : start.length ≤ fuel) (spells : SpellsStatus start status behind) :
    reading statusDecoder fuel (room + 2) start status behind := by
  rw [statusDecoder_eq]
  exact record_of_written codeSlot_apart (isConsuming_integer _ _) isConsuming_text enough spells

theorem SpellsStatus.shrinks : SpellsStatus.Shrinks := fun _ _ _ spells =>
  isConsuming_statusDecoder (reading_of_spellsStatus (Nat.le_refl _) spells : reading statusDecoder _ 2 _ _ _)

end Statuses

section Lines

variable {item : Decoder α} {bytes : List UInt8} {entry : Entry α}

theorem spellsEntry_of_read (read : (entryDecoder item).read bytes = .ok entry) : SpellsEntry item bytes entry := by
  unfold Decoder.read at read
  split at read
  · cases read
  · rename_i rest found
    split at read
    · rename_i blank
      cases read
      rw [entryDecoder_eq] at found
      have written := written_of_record (resultSlot_apart item) found
      refine ⟨rest, written.mono (fun _ _ _ => reading_nullable_iff.mp) fun _ _ _ error => ?_, List.isEmpty_iff.mp blank⟩
      exact (reading_nullable_iff.mp error).mono fun _ _ _ => spellsStatus_of_reading
    · cases read

theorem read_of_spellsEntry (consuming : item.IsConsuming) (spells : SpellsEntry item bytes entry) :
    (entryDecoder item).read bytes = .ok entry := by
  obtain ⟨rest, written, blank⟩ := spells
  have within := written.within (Maybe.shrinks consuming.reading) (Maybe.shrinks SpellsStatus.shrinks)
  have found : entryDecoder item (2 * bytes.length + 4) (126 + 2) bytes = .ok (entry, rest) := by
    rw [entryDecoder_eq]
    refine record_of_written (resultSlot_apart item) consuming.nullable isConsuming_statusDecoder.nullable (by omega)
      (within.mono (fun _ _ _ result => reading_nullable_iff.mpr result.2) fun _ _ _ error => reading_nullable_iff.mpr ?_)
    obtain ⟨short, error⟩ := error
    exact error.mono fun _ _ shorter => reading_of_spellsStatus (by omega)
  unfold Decoder.read
  rw [depthLimit, found]
  simp [blank]

/-- A line that is neither an object nor an array spells no entry. -/
theorem SpellsEntry.begins (spells : SpellsEntry item bytes entry) :
    ∃ text, skipSpace bytes = 0x7b :: text ∨ skipSpace bytes = 0x5b :: text := by
  obtain ⟨_, written, _⟩ := spells
  cases written with
  | object opened => exact ⟨_, .inl opened⟩
  | array opened => exact ⟨_, .inr opened⟩

end Lines

/-- A line gives an item only if it spells an entry with this result, and an error that the server reports only if it
spells an entry with this error and no result. Every other text, above all each one that is neither an object nor an array,
cannot be decoded, and the error carries the number of the line. If the form of items never reads behind the end of an item,
then also every line that spells an item or an error gives it. -/
theorem readEntry_spells (item : Decoder α) (line : Nat) (bytes : List UInt8) :
    (∀ value, readEntry item line bytes = .ok value → ∃ error, SpellsEntry item bytes ⟨some value, error⟩) ∧
    (∀ status, readEntry item line bytes = .error (.status status) → SpellsEntry item bytes ⟨none, some status⟩) ∧
    ((∀ entry, SpellsEntry item bytes entry → entry.result = none ∧ entry.error = none) →
      ∃ defect, readEntry item line bytes = .error (.decode line defect)) ∧
    ((∀ text, skipSpace bytes ≠ 0x7b :: text ∧ skipSpace bytes ≠ 0x5b :: text) →
      ∃ defect, readEntry item line bytes = .error (.decode line defect)) ∧
    (item.IsConsuming →
      (∀ value error, SpellsEntry item bytes ⟨some value, error⟩ → readEntry item line bytes = .ok value) ∧
      ∀ status, SpellsEntry item bytes ⟨none, some status⟩ → readEntry item line bytes = .error (.status status)) := by
  have others (vacant : ∀ entry, SpellsEntry item bytes entry → entry.result = none ∧ entry.error = none) :
      ∃ defect, readEntry item line bytes = .error (.decode line defect) := by
    unfold readEntry
    cases read : (entryDecoder item).read bytes with
    | error fault => exact ⟨_, rfl⟩
    | ok entry =>
      obtain ⟨result, error⟩ := entry
      obtain ⟨rfl, rfl⟩ := vacant _ (spellsEntry_of_read read)
      exact ⟨_, rfl⟩
  refine ⟨fun value given => ?_, fun status given => ?_, others, fun other => others fun entry spells => ?_,
    fun consuming => ⟨fun value error spells => ?_, fun status spells => ?_⟩⟩
  · unfold readEntry at given
    split at given
    · cases given
    · rename_i error read
      cases given
      exact ⟨error, spellsEntry_of_read read⟩
    · cases given
    · cases given
  · unfold readEntry at given
    split at given
    · cases given
    · cases given
    · rename_i read
      cases given
      exact spellsEntry_of_read read
    · cases given
  · obtain ⟨text, object | array⟩ := spells.begins
    · exact absurd object (other text).1
    · exact absurd array (other text).2
  · unfold readEntry
    rw [read_of_spellsEntry consuming spells]
  · unfold readEntry
    rw [read_of_spellsEntry consuming spells]

/-- The line `{"x":[1],"error":null,"result":"a"}`. -/
def mingled : List UInt8 :=
  [0x7b, 0x22, 0x78, 0x22, 0x3a, 0x5b, 0x31, 0x5d, 0x2c, 0x22, 0x65, 0x72, 0x72, 0x6f, 0x72, 0x22, 0x3a, 0x6e, 0x75,
  0x6c, 0x6c, 0x2c, 0x22, 0x72, 0x65, 0x73, 0x75, 0x6c, 0x74, 0x22, 0x3a, 0x22, 0x61, 0x22, 0x7d]

theorem readEntry_spells_mingled :
    (∃ error, SpellsEntry any mingled ⟨some (.text "a"), error⟩) ∧
      ∀ value error, SpellsEntry any mingled ⟨some value, error⟩ → value = .text "a" := by
  obtain ⟨items, -, -, -, spelled⟩ := readEntry_spells any 1 mingled
  have read : readEntry any 1 mingled = .ok (.text "a") := by rfl
  refine ⟨items _ read, fun value error spells => ?_⟩
  cases read.symm.trans ((spelled isConsuming_any).1 value error spells)
  rfl

/-- The line `[5,null]` is no object, and yet it gives an item. -/
theorem not_object_listed : (∀ text, skipSpace [0x5b, 0x35, 0x2c, 0x6e, 0x75, 0x6c, 0x6c, 0x5d] ≠ 0x7b :: text) ∧
    readEntry any 1 [0x5b, 0x35, 0x2c, 0x6e, 0x75, 0x6c, 0x6c, 0x5d] = .ok (.number (.whole 5)) :=
  ⟨fun _ same => absurd (List.cons.inj same).1 (by decide), rfl⟩

end AuthzClient.Stream
