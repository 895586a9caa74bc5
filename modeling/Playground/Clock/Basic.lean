import Playground.Clock.Time

/-!
# Clocks

A clock whose time only moves when something waits on it, or moves it. Its state is the current
time.
-/

namespace Playground

/-- Work that is waited for. -/
inductive Completion (τ : Type) where
  /-- The work is done already. -/
  | done
  /-- The work is done from a time on; this is noticed only after waiting. -/
  | due (time : τ)
  | never
  deriving DecidableEq, Repr

/-- What a clock refuses to do. -/
inductive ClockError where
  | backwards
  deriving DecidableEq, Repr

/-- The wording of a refusal. -/
def ClockError.message : ClockError → String
  | .backwards => "Cannot move a clock backwards"

namespace Clock

variable {τ : Type} [TimeScale τ]

/-- Moves a clock forward. -/
def advance (now seconds : τ) : Except ClockError τ :=
  if seconds < 0 then .error .backwards else .ok (now + seconds)

/-- Waits for some time, if it is positive. -/
def sleep (now seconds : τ) : τ :=
  if 0 < seconds then now + seconds else now

/-- Waits for work, for some time at most. Unless the work is done already, all of the time passes.
Tells whether the work is done. -/
def wait (now : τ) (work : Completion τ) (seconds : τ) : Bool × τ :=
  match work with
  | .done => (true, now)
  | .due time =>
    let now := sleep now seconds
    (time ≤ now, now)
  | .never => (false, sleep now seconds)

end Clock

end Playground
