import Playground.Decimal.Writing

/-!
# Scales of time

Seconds, as doubles or as exact fractions. Everything that is timed is written against this
interface, so that what runs on doubles can be reasoned about on fractions.
-/

namespace Playground

/-- Numbers that count seconds. -/
class TimeScale (τ : Type) extends Zero τ, Add τ, Sub τ, LT τ, LE τ where
  decideLT : DecidableLT τ
  decideLE : DecidableLE τ
  /-- At least as many as the steps of a positive length that it takes to cover a span. -/
  steps (span step : τ) : Nat
  ofMilliseconds : Int → τ
  /-- How messages tell a time. -/
  text : τ → String

namespace TimeScale

instance {τ : Type} [TimeScale τ] : DecidableLT τ := decideLT
instance {τ : Type} [TimeScale τ] : DecidableLE τ := decideLE

/-- Doubles round, so a few more steps are allowed for than a division tells. -/
instance : TimeScale Float where
  decideLT := inferInstance
  decideLE := inferInstance
  steps span step := 2 * (span / step).ceil.toUInt64.toNat + 64
  ofMilliseconds n := Float.ofInt n / 1000.0
  text := Decimal.measureText

instance : TimeScale Rat where
  zero := 0
  decideLT := inferInstance
  decideLE := inferInstance
  steps span step := if 0 < step then (span / step).ceil.toNat else 0
  ofMilliseconds n := n / 1000
  text t := s!"{t.num}/{t.den}"

/-- The smaller of two times, the first one if neither is smaller. -/
def least {τ : Type} [TimeScale τ] (a b : τ) : τ :=
  if b < a then b else a

/-- A time, or nothing if it is negative. -/
def positivePart {τ : Type} [TimeScale τ] (a : τ) : τ :=
  if a < 0 then 0 else a

end TimeScale

end Playground
