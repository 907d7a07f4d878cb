import Lookout.Duration

/-!
# Waiting before another try

The wait doubles with every failed try in a row, ten times at most, and never exceeds a ceiling.
It is counted in whole milliseconds held in 64 bits.
-/
set_option autoImplicit false

namespace Lookout

structure Backoff where
  base : Duration
  ceiling : Duration

namespace Backoff

def standard : Backoff := ⟨.ofMillis 100, .ofSecs 30⟩

/-- The wait after `attempt` earlier waits in a row. -/
def delay (b : Backoff) (attempt : Nat) : Duration :=
  let ms := UInt64.ofNat b.base.millis * UInt64.ofNat (Nat.pow 2 (min attempt 10))
  (Duration.ofMillis ms).least b.ceiling

end Backoff

end Lookout
