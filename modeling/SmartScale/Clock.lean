/-!
# Simulated time

Spans of time are counted in nanoseconds up to the greatest span, 2^64 seconds less a nanosecond;
sums beyond it stay there.  A `ManualClock` is a clock that moves only when it is told to, be it by
an advance or by someone's sleep on it.
-/

namespace SmartScale

def nanosPerSecond : Nat := 1000000000

def maxNanos : Nat := UInt64.size * nanosPerSecond - 1

structure Duration where
  nanos : Nat
  nanos_le : nanos ≤ maxNanos

namespace Duration

def zero : Duration := ⟨0, Nat.zero_le _⟩

def max : Duration := ⟨maxNanos, Nat.le_refl _⟩

/-- A count of nanoseconds, cut off at the greatest span. -/
def ofNanos (n : Nat) : Duration := ⟨min n maxNanos, Nat.min_le_right _ _⟩

theorem nanos_ofNanos (n : Nat) : (ofNanos n).nanos = min n maxNanos := rfl

theorem ofNanos_nanos (s : Duration) : ofNanos s.nanos = s := by
  simp only [ofNanos, Nat.min_eq_left s.nanos_le]

/-- What is cut off a part would have been cut off the sum. -/
theorem ofNanos_nanos_add (a b : Nat) : ofNanos ((ofNanos a).nanos + b) = ofNanos (a + b) := by
  simp only [ofNanos, mk.injEq]
  omega

def ofMicros (n : Nat) : Duration := ofNanos (n * 1000)

/-- The sum, cut off at the greatest span. -/
def add (a b : Duration) : Duration := ofNanos (a.nanos + b.nanos)

def seconds (s : Duration) : Nat := s.nanos / nanosPerSecond

def subsecond (s : Duration) : Nat := s.nanos % nanosPerSecond

def micros (s : Duration) : Nat := s.nanos / 1000

/-- Whole milliseconds, cut off at the greatest word. -/
def millis (s : Duration) : Nat := min (s.nanos / 1000000) (UInt64.size - 1)

theorem millis_le_millis {a b : Duration} (h : a.nanos ≤ b.nanos) : a.millis ≤ b.millis := by
  unfold millis
  omega

end Duration

/-- A clock that moves only when told to. -/
structure ManualClock where
  elapsed : Duration

namespace ManualClock

def new : ManualClock := ⟨Duration.zero⟩

def advance (c : ManualClock) (span : Duration) : ManualClock := ⟨c.elapsed.add span⟩

/-- Sleeping on the clock moves it on and takes no time. -/
def sleep (c : ManualClock) (span : Duration) : ManualClock := c.advance span

/-- Whole milliseconds since a mark, given as the span from the clock's start to the mark; none
while the mark lies ahead. -/
def millisSince (c : ManualClock) (mark : Duration) : Nat :=
  (Duration.ofNanos (c.elapsed.nanos - mark.nanos)).millis

end ManualClock

end SmartScale
