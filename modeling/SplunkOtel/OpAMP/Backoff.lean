import Mathlib.Algebra.Field.Rat
import Mathlib.Data.Rat.Defs

/-!
# Exponential backoff (`src/opamp/backoff.ts`)

Delays are exact milliseconds. `random` is the value of `Math.random()`.
-/

namespace SplunkOtel.OpAMP

structure ExponentialBackoff where
  baseMs : ℚ
  maxMs : ℚ
  failures : ℕ := 0
  minDelayOverride : Option ℚ := none

namespace ExponentialBackoff

def nextDelay (b : ExponentialBackoff) (normalIntervalMs random : ℚ) : ExponentialBackoff × ℚ :=
  if b.failures = 0 ∧ b.minDelayOverride = none then (b, normalIntervalMs)
  else
    let expDelayMs := min (b.baseMs * 2 ^ b.failures) b.maxMs
    let delay := expDelayMs + random * 1000
    let delay := match b.minDelayOverride with
      | none => delay
      | some minDelay => max delay minDelay
    ({ b with minDelayOverride := none, failures := b.failures + 1 }, delay)

def setMinDelay (b : ExponentialBackoff) (delayMs : ℚ) : ExponentialBackoff :=
  { b with minDelayOverride := some delayMs }

def reset (b : ExponentialBackoff) : ExponentialBackoff :=
  { b with failures := 0, minDelayOverride := none }

end ExponentialBackoff

end SplunkOtel.OpAMP
