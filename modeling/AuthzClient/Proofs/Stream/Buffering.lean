import AuthzClient.Proofs.Stream.WholeBody
import Mathlib.Data.List.DropRight
import Mathlib.Logic.Function.Iterate

/-!
How much of a stream is kept. Data is taken only when no line can be cut out of the bytes that have come, so the buffer
holds the line under way and nothing else then, and nothing at all once that line has outgrown the limit.
-/

namespace AuthzClient.Stream

open Http

variable {α : Type}

/-- The line under way: the bytes behind the last line feed. -/
def underway (bytes : List UInt8) : List UInt8 := bytes.rtakeWhile (· ≠ lineFeed)

theorem underway_unbroken {bytes : List UInt8} (unbroken : lineFeed ∉ bytes) : underway bytes = bytes := by
  refine List.rtakeWhile_eq_self_iff.mpr fun b inside => ?_
  simpa using ne_of_mem_of_not_mem inside unbroken

theorem underway_append (front rest : List UInt8) :
    underway (front ++ rest) = if lineFeed ∈ rest then underway rest else underway front ++ rest := by
  induction rest using List.reverseRecOn with
  | nil => simp
  | append_singleton rest b ih =>
    rw [← List.append_assoc, underway, List.rtakeWhile_concat]
    by_cases ends : b = lineFeed
    · simp [ends, underway]
    · have further : underway (rest ++ [b]) = underway rest ++ [b] := by
        rw [underway, List.rtakeWhile_concat_pos _ _ _ (by simpa using ends)]
        rfl
      have inside : lineFeed ∈ rest ++ [b] ↔ lineFeed ∈ rest := by simp [Ne.symm ends]
      simp only [inside, further, decide_eq_true_eq, ne_eq, ends, not_false_eq_true, if_true]
      rw [← underway, ih]
      split <;> simp

/-- A line that has ended makes no difference to the line under way. -/
theorem underway_line (front rest : List UInt8) : underway (front ++ lineFeed :: rest) = underway rest := by
  have apart : front ++ lineFeed :: rest = (front ++ [lineFeed]) ++ rest := by simp
  rw [apart, underway_append]
  split
  · rfl
  · rename_i unbroken
    rw [underway_unbroken unbroken]
    simp [underway]

namespace Splitter

/-- What a splitter has to do with the bytes that have come: it holds the line under way, or passes it over. -/
structure Follows (come : List UInt8) (splitter : Splitter) : Prop where
  reading : splitter.skipping = false → underway come = underway splitter.buffer
  skipping : splitter.skipping = true →
    if lineFeed ∈ splitter.buffer then underway come = underway splitter.buffer
    else longestLine < (underway come).length

variable {come bytes : List UInt8} {splitter next : Splitter} {found : Cut}

theorem Follows.extend (follows : splitter.Follows come) : (splitter.extend bytes).Follows (come ++ bytes) where
  reading mode := by
    have same := follows.reading mode
    change underway (come ++ bytes) = underway (splitter.buffer ++ bytes)
    rw [underway_append, underway_append, same]
  skipping mode := by
    have before := follows.skipping mode
    change if lineFeed ∈ splitter.buffer ++ bytes then underway (come ++ bytes) = underway (splitter.buffer ++ bytes)
      else longestLine < (underway (come ++ bytes)).length
    rw [underway_append, underway_append]
    by_cases new : lineFeed ∈ bytes
    · simp [new]
    · by_cases old : lineFeed ∈ splitter.buffer
      · rw [if_pos old] at before
        simp [new, old, before]
      · rw [if_neg old] at before
        simp only [List.mem_append, old, new, or_self, if_false, List.length_append]
        omega

theorem Follows.cutLine (follows : splitter.Follows come) (mode : splitter.skipping = false)
    (cut : splitter.cutLine = (found, next)) : next.Follows come := by
  have held := follows.reading mode
  rcases splitter.cutLine_cases with ⟨front, rest, same, _, _, value⟩ | ⟨long, _, value⟩ | ⟨_, _, rest, value, same, kept⟩
  · cases cut.symm.trans value
    refine ⟨fun _ => ?_, nofun⟩
    rw [held, same]
    exact underway_line front rest
  · cases cut.symm.trans value
    refine ⟨nofun, fun _ => ?_⟩
    change if lineFeed ∈ splitter.buffer then _ else _
    split
    · exact held
    · rename_i unbroken
      rwa [held, underway_unbroken unbroken]
  · cases cut.symm.trans value
    exact ⟨fun _ => by rw [held, same], fun other => absurd (kept.symm.trans other) (by simp [mode])⟩

theorem Follows.cut (follows : splitter.Follows come) (cut : splitter.cut = (found, next)) : next.Follows come := by
  unfold Splitter.cut at cut
  split at cut
  · rename_i mode
    have passing := follows.skipping mode
    split at cut
    · rename_i rest search
      obtain ⟨front, same, _⟩ := pastEnd?_some search
      have ended : lineFeed ∈ splitter.buffer := by simp [same]
      rw [if_pos ended, same, underway_line] at passing
      have resumed : (fresh rest false).Follows come := ⟨fun _ => passing, nofun⟩
      exact resumed.cutLine rfl cut
    · rename_i search
      rw [if_neg (pastEnd?_eq_none_iff.mp search)] at passing
      cases cut
      exact ⟨nofun, fun _ => by rwa [if_neg (by simp [fresh])]⟩
  · rename_i mode
    exact follows.cutLine (Bool.eq_false_iff.mpr mode) cut

/-- Before data is taken a splitter is determined by the line under way. -/
theorem Follows.waiting (follows : splitter.Follows come) (waiting : splitter.Waiting) :
    (splitter.skipping = true ↔ longestLine < (underway come).length) ∧
      splitter.buffer = if splitter.skipping then [] else underway come := by
  cases mode : splitter.skipping with
  | false =>
    have whole : underway come = splitter.buffer := by
      rw [follows.reading mode, underway_unbroken waiting.unbroken]
    have short := waiting.short
    rw [whole]
    exact ⟨iff_of_false (by simp) (by omega), rfl⟩
  | true =>
    have long := follows.skipping mode
    rw [if_neg waiting.unbroken] at long
    exact ⟨iff_of_true rfl long, waiting.skipped mode⟩

theorem buffer_cutLast (last : splitter.cutLast = (.nothing, next)) :
    next.buffer = [] ∨ next.buffer = [carriageReturn] := by
  unfold cutLast at last
  split at last
  · split at last
    · rename_i left
      cases last
      exact left
    · exact absurd (congrArg Prod.fst last) (Cut.ofBytes_ne_nothing _)
  · rename_i other
    exact absurd last (other next)

end Splitter

namespace Reader

/-- The data that comes next; none at the end of the body or when it breaks. -/
def incoming (reader : Reader) : List UInt8 :=
  match Body.next? reader.frames with
  | some (.ok bytes, _) => bytes
  | _ => []

/-- What a stream over given frames can be on its way, with the bytes that have come until then and the data among them
that came last. A look may be repeated: so it is when the data asked for is not there yet. -/
inductive Runs (item : Json.Decoder α) (frames : List Frame) : List UInt8 → List UInt8 → Reader → Prop
  | start : Runs item frames [] [] (.start frames)
  | look {come latest : List UInt8} {reader : Reader} :
      Runs item frames come latest reader → Runs item frames come latest (reader.look item).2
  | receive {come latest : List UInt8} {reader polled : Reader} :
      Runs item frames come latest reader → reader.look item = (.more, polled) →
      Runs item frames (come ++ polled.incoming) polled.incoming polled.receive.2

/-- What is kept in a stream on its way, and what it can still meet. -/
structure Keeps (frames : List Frame) (come latest : List UInt8) (reader : Reader) : Prop where
  follows : reader.ended = false → reader.splitter.Follows come
  bounded : reader.splitter.buffer.length ≤ longestLine + latest.length
  settled : reader.done = true → reader.ended = true →
    reader.splitter.buffer = [] ∨ reader.splitter.buffer = [carriageReturn]
  ahead : reader.done = false → reader.ended = false → Body.failure? reader.frames = Body.failure? frames
  broken : reader.done = true → reader.ended = false → (Body.failure? frames).isSome = true

variable {item : Json.Decoder α} {frames : List Frame} {come latest : List UInt8} {reader polled : Reader}

theorem length_buffer_cut {found : Cut} {splitter : Splitter} (cut : reader.cut = (found, splitter)) :
    splitter.buffer.length ≤ reader.splitter.buffer.length := by
  have lighter := reader.weight_cut.1
  rw [cut] at lighter
  simp only [Splitter.weight] at lighter
  have half := (!reader.splitter.skipping).toNat_le
  omega

/-- Cutting keeps a stream on its way. -/
theorem Keeps.cut {found : Cut} {next : Reader} (keeps : reader.Keeps frames come latest) (going : reader.done = false)
    (cut : reader.cut = (found, next.splitter)) (frame : next.frames = reader.frames) (ended : next.ended = reader.ended)
    (done : next.done = false) : next.Keeps frames come latest where
  follows more := by
    rw [Reader.cut, ← ended, more] at cut
    exact (keeps.follows (ended.symm.trans more)).cut cut
  bounded := Nat.le_trans (length_buffer_cut cut) keeps.bounded
  settled other := absurd (done.symm.trans other) (by simp)
  ahead _ more := by
    rw [frame]
    exact keeps.ahead going (ended.symm.trans more)
  broken other := absurd (done.symm.trans other) (by simp)

theorem Keeps.look (keeps : reader.Keeps frames come latest) : (reader.look item).2.Keeps frames come latest := by
  rcases reader.look_cases item with ⟨_, value⟩ | ⟨going, splitter, cut, ⟨ended, value⟩ | ⟨_, value⟩⟩ |
    ⟨going, _, splitter, cut, _, ⟨_, _, value⟩ | ⟨_, value⟩⟩
  · rwa [value]
  · rw [value]
    have last := cut
    rw [Reader.cut, if_pos ended] at last
    have never {P : Prop} (more : reader.ended = false) : P := absurd (ended.symm.trans more) (by simp)
    exact ⟨never, Nat.le_trans (length_buffer_cut cut) keeps.bounded, fun _ _ => Splitter.buffer_cutLast last, nofun,
      fun _ => never⟩
  all_goals
    rw [value]
    exact keeps.cut going cut rfl rfl going

/-- A stream takes data only when it keeps no more than the line under way. -/
theorem Keeps.waiting (keeps : reader.Keeps frames come latest) (looked : reader.look item = (.more, polled)) :
    polled.done = false ∧ polled.ended = false ∧ polled.splitter.Waiting ∧ polled.splitter.Follows come ∧
      Body.failure? polled.frames = Body.failure? frames := by
  obtain ⟨_, going, more, waiting⟩ := coming_look looked
  have kept : (reader.look item).2.Keeps frames come latest := keeps.look
  rw [looked] at kept
  exact ⟨going, more, waiting, kept.follows more, kept.ahead going more⟩

theorem Keeps.receive (keeps : reader.Keeps frames come latest) (looked : reader.look item = (.more, polled)) :
    polled.receive.2.Keeps frames (come ++ polled.incoming) polled.incoming := by
  obtain ⟨going, more, waiting, follows, same⟩ := keeps.waiting looked
  have short := waiting.short
  have undone {P : Prop} (done : polled.done = true) : P := absurd (going.symm.trans done) (by simp)
  have spec := Body.next?_spec polled.frames
  unfold Reader.receive incoming
  split at spec
  · rename_i bytes rest next
    simp only [next]
    refine ⟨fun _ => follows.extend, ?_, undone, fun _ _ => spec.2.symm.trans same, undone⟩
    simp only [Splitter.extend, List.length_append]
    omega
  · rename_i failure rest next
    simp only [next, List.append_nil]
    refine ⟨fun _ => follows, Nat.le_add_right_of_le short, fun _ ended => ?_, fun going => ?_, fun _ _ => ?_⟩
    · exact absurd (more.symm.trans ended) (by simp)
    · cases going
    · rw [← same, spec.2]
      rfl
  · rename_i next
    simp only [next, List.append_nil]
    refine ⟨fun unended => ?_, Nat.le_add_right_of_le short, undone, fun _ unended => ?_, undone⟩
    · cases unended
    · cases unended

theorem Runs.keeps (runs : Runs item frames come latest reader) : reader.Keeps frames come latest := by
  induction runs with
  | start => exact ⟨fun _ => ⟨fun _ => rfl, nofun⟩, Nat.zero_le _, nofun, fun _ _ => rfl, nofun⟩
  | look _ ih => exact ih.look
  | receive _ looked ih => exact ih.receive looked

/-- A pull is made of looks and of data taken between them. -/
theorem Runs.pull (runs : Runs item frames come latest reader) :
    ∃ come latest, Runs item frames come latest (reader.pull item).2 := by
  fun_induction Reader.pull item reader generalizing come latest with
  | case1 reader outcome next looked | case2 reader next looked =>
    have behind := runs.look
    rw [looked] at behind
    exact ⟨_, _, behind⟩
  | case3 reader next looked ih =>
    have behind := runs.look
    rw [looked] at behind
    exact ih behind
  | case4 reader next looked failure last received =>
    have behind := runs.receive looked
    rw [received] at behind
    exact ⟨_, _, behind⟩
  | case5 reader next looked last received ih =>
    have behind := runs.receive looked
    rw [received] at behind
    exact ih behind

theorem exists_runs_iterate (item : Json.Decoder α) (frames : List Frame) (n : Nat) :
    ∃ come latest, Runs item frames come latest ((fun reader => (reader.pull item).2)^[n] (.start frames)) := by
  induction n with
  | zero => exact ⟨[], [], .start⟩
  | succ n ih =>
    obtain ⟨_, _, runs⟩ := ih
    rw [Function.iterate_succ_apply']
    exact runs.pull

end Reader

open Reader in
/-- However a body is cut into frames, at most one line within the limit is kept when data is taken: the line under way,
or nothing while a line beyond the limit is passed over. Only the data that came last can go beyond that, and a stream
that has come to its end keeps nothing but a carriage return at most. -/
theorem buffer_of_runs (item : Json.Decoder α) (frames : List Frame) :
    (∀ n, ∃ come latest, Runs item frames come latest ((fun reader => (reader.pull item).2)^[n] (.start frames))) ∧
      ∀ come latest reader, Runs item frames come latest reader →
        reader.splitter.buffer.length ≤ 1048576 + latest.length ∧
        (∀ polled, reader.look item = (.more, polled) →
          polled.splitter.buffer.length ≤ 1048576 ∧
          (polled.splitter.skipping = true ↔ 1048576 < (underway come).length) ∧
          polled.splitter.buffer = if polled.splitter.skipping then [] else underway come) ∧
        (reader.done = true →
          if reader.ended then reader.splitter.buffer = [] ∨ reader.splitter.buffer = [carriageReturn]
          else (Body.failure? frames).isSome) := by
  refine ⟨exists_runs_iterate item frames, fun come latest reader runs => ?_⟩
  have keeps := runs.keeps
  refine ⟨keeps.bounded, fun polled looked => ?_, fun done => ?_⟩
  · obtain ⟨-, -, waiting, follows, -⟩ := keeps.waiting looked
    exact ⟨waiting.short, follows.waiting waiting⟩
  · cases ended : reader.ended with
    | false => exact keeps.broken done ended
    | true => exact keeps.settled done ended

/-- A splitter that holds a line beyond the limit reports it, then passes it over. -/
theorem Splitter.cut_long (splitter : Splitter) (reading : splitter.skipping = false)
    (long : longestLine < splitter.buffer.length) (unbroken : lineFeed ∉ splitter.buffer) :
    splitter.cut = (.tooLong, { splitter with skipping := true }) ∧
      { splitter with skipping := true }.cut = (.nothing, .fresh [] true) := by
  constructor
  · rw [cut, reading]
    rcases splitter.cutLine_cases with ⟨front, rest, same, _⟩ | ⟨_, _, value⟩ | ⟨short, _⟩
    · exact absurd (by simp [same]) unbroken
    · exact value
    · omega
  · simp only [cut, if_true, pastEnd?_eq_none_iff.mpr unbroken]

/-- A stream that has given the error for a line beyond the limit takes more data. -/
theorem Reader.runs_long {bytes : List UInt8} (long : longestLine < bytes.length) (unbroken : lineFeed ∉ bytes) :
    ∃ reader, Runs objectDecoder [.data bytes] bytes bytes reader ∧ reader.splitter.buffer = bytes ∧
      reader.look objectDecoder = (.more, { reader with splitter := .fresh [] true }) := by
  let full : Splitter := Splitter.empty.extend bytes
  let arrived : Reader := ⟨[], full, 0, false, false⟩
  have runs : Runs objectDecoder [.data bytes] bytes bytes arrived := .receive .start rfl
  obtain ⟨reported, passed⟩ := Splitter.cut_long full rfl long unbroken
  have given : (arrived.look objectDecoder).2 = arrived.count { full with skipping := true } := by
    simp only [look, arrived, Reader.cut, reported, Cut.outcome?, Bool.false_eq_true, if_false]
  have behind := runs.look
  rw [given] at behind
  refine ⟨_, behind, rfl, ?_⟩
  simp only [look, count, arrived, Reader.cut, passed, Bool.false_eq_true, if_false]

/-- A line one byte beyond the limit. -/
def overlong : List UInt8 := List.replicate (longestLine + 1) 0x61

open Reader in
/-- While a line beyond the limit is passed over nothing is kept. -/
theorem buffer_of_runs_overlong :
    ∃ reader polled, Runs objectDecoder [.data overlong] overlong overlong reader ∧
      reader.look objectDecoder = (.more, polled) ∧ polled.splitter.skipping = true ∧ polled.splitter.buffer = [] := by
  have long : longestLine < overlong.length := Nat.lt_of_lt_of_eq (Nat.lt_succ_self _) List.length_replicate.symm
  have unbroken : lineFeed ∉ overlong := fun inside => absurd (List.eq_of_mem_replicate inside) (by decide)
  obtain ⟨reader, runs, held, looked⟩ := runs_long long unbroken
  obtain ⟨-, taking, -⟩ := (buffer_of_runs objectDecoder [.data overlong]).2 _ _ _ runs
  obtain ⟨-, -, kept⟩ := taking _ looked
  exact ⟨reader, _, runs, looked, rfl, kept⟩

end AuthzClient.Stream
