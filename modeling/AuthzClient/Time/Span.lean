/-!
Lengths of time and points in time, counted exactly in nanoseconds. A span has at most `2 ^ 64 - 1` whole seconds;
arithmetic on spans stops at the longest one. An instant has a number of whole seconds since the epoch that fits in 64
bits with a sign; arithmetic on instants that leaves this range has no result.
-/

namespace AuthzClient

namespace Time

def second : Nat := 1000000000

def millisecond : Nat := 1000000

end Time

open Time

structure Span where
  nanos : Nat
  in_range : nanos < 0x1_0000_0000_0000_0000 * second

namespace Span

instance : DecidableEq Span := fun a b =>
  if h : a.nanos = b.nanos then isTrue (by cases a; cases b; cases h; rfl) else isFalse fun e => h (e ▸ rfl)

instance : Repr Span := ⟨fun span _ => repr span.nanos⟩

def longest : Nat := 0x1_0000_0000_0000_0000 * second - 1

/-- A number of nanoseconds, cut at the longest span. -/
def clamp (nanos : Nat) : Span :=
  ⟨min nanos longest, Nat.lt_of_le_of_lt (Nat.min_le_right ..) (by decide)⟩

/-- A number of nanoseconds, if that is a span. -/
def ofNanos? (nanos : Nat) : Option Span :=
  if h : nanos < 0x1_0000_0000_0000_0000 * second then some ⟨nanos, h⟩ else none

/-- A number of whole seconds, cut at the longest span. -/
def ofSeconds (n : Nat) : Span := clamp (n * second)

def ofMillis (n : Nat) : Span := clamp (n * millisecond)

def zero : Span := ⟨0, by decide⟩

instance : Inhabited Span := ⟨zero⟩

def seconds (span : Span) : Nat := span.nanos / second

def subNanos (span : Span) : Nat := span.nanos % second

/-- Sum, cut at the longest span. -/
def add (a b : Span) : Span := clamp (a.nanos + b.nanos)

/-- Multiple, cut at the longest span. -/
def scale (a : Span) (n : Nat) : Span := clamp (a.nanos * n)

def longer (a b : Span) : Span := if a.nanos < b.nanos then b else a

theorem eq_of_nanos {a b : Span} (same : a.nanos = b.nanos) : a = b := by
  cases a
  cases b
  cases same
  rfl

@[simp] theorem clamp_nanos (n : Nat) : (clamp n).nanos = min n longest := rfl

theorem le_longest (span : Span) : span.nanos ≤ longest := by
  have h := span.in_range
  unfold longest
  omega

theorem clamp_nanos_of_le {n : Nat} (bound : n ≤ longest) : (clamp n).nanos = n := by
  simp [Nat.min_eq_left bound]

end Span

/-- A point in time, in nanoseconds since the epoch. -/
structure Instant where
  nanos : Int
  after_first : -(0x8000_0000_0000_0000 * second : Int) ≤ nanos
  before_end : nanos < (0x8000_0000_0000_0000 * second : Int)

namespace Instant

instance : DecidableEq Instant := fun a b =>
  if h : a.nanos = b.nanos then isTrue (by cases a; cases b; cases h; rfl) else isFalse fun e => h (e ▸ rfl)

instance : Repr Instant := ⟨fun instant _ => repr instant.nanos⟩

/-- A number of nanoseconds since the epoch, if that is an instant. -/
def ofNanos? (nanos : Int) : Option Instant :=
  if h : -(0x8000_0000_0000_0000 * second : Int) ≤ nanos ∧ nanos < (0x8000_0000_0000_0000 * second : Int) then
    some ⟨nanos, h.1, h.2⟩
  else none

def epoch : Instant := ⟨0, by decide, by decide⟩

instance : Inhabited Instant := ⟨epoch⟩

/-- The instant one span later, if there is one. -/
def add? (t : Instant) (span : Span) : Option Instant := ofNanos? (t.nanos + span.nanos)

/-- The instant one span earlier, if there is one. -/
def sub? (t : Instant) (span : Span) : Option Instant := ofNanos? (t.nanos - span.nanos)

theorem eq_of_nanos {s t : Instant} (same : s.nanos = t.nanos) : s = t := by
  cases s
  cases t
  cases same
  rfl

theorem ofNanos?_eq_some_iff {nanos : Int} {t : Instant} : ofNanos? nanos = some t ↔ t.nanos = nanos := by
  have first := t.after_first
  have last := t.before_end
  unfold ofNanos?
  constructor
  · intro found
    split at found
    · exact (congrArg Instant.nanos (Option.some.inj found)).symm
    · cases found
  · rintro rfl
    rw [dif_pos ⟨first, last⟩]

theorem ofNanos?_eq_none_iff {nanos : Int} : ofNanos? nanos = none ↔
    nanos < -(0x8000_0000_0000_0000 * second : Int) ∨ (0x8000_0000_0000_0000 * second : Int) ≤ nanos := by
  unfold ofNanos?
  split <;> simp <;> omega

end Instant

end AuthzClient
