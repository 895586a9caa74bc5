import Playground.Clock.Basic

/-!
# Deadlines

A budget of time that runs from the moment it was started. Two ways to wait within it differ at the
very end: `Deadline.poll` still accepts a condition that holds when the budget runs out, and
`Deadline.waitFor` does not.

The loops take as many rounds as fit into what is left of the budget. Every round moves the clock
by the interval, or to the end of the budget.

A `Timekeeper` is a clock with the deadlines that were started on it. What is done with it is done
step by step.
-/

namespace Playground

/-- A budget of time, and when it was started. -/
structure Deadline (τ : Type) where
  startedAt : τ
  budget : τ
  deriving DecidableEq, Repr

namespace Deadline

variable {τ : Type} [TimeScale τ]

/-- When the budget runs out. -/
def expiresAt (d : Deadline τ) : τ :=
  d.startedAt + d.budget

/-- The time since the start. -/
def elapsed (d : Deadline τ) (now : τ) : τ :=
  now - d.startedAt

/-- The time that is left. -/
def remaining (d : Deadline τ) (now : τ) : τ :=
  TimeScale.positivePart (d.expiresAt - now)

/-- Whether no time is left. -/
def isExpired (d : Deadline τ) (now : τ) : Bool :=
  d.expiresAt ≤ now

/-- The rounds that fit into what is left. -/
def rounds (d : Deadline τ) (now interval : τ) : Nat :=
  TimeScale.steps (d.remaining now) interval + 1

/-- `waitFor` with a number of rounds. -/
def waitRounds (d : Deadline τ) (work : Completion τ) (interval : τ) : Nat → τ → Bool × τ
  | 0, now => (false, now)
  | rounds + 1, now =>
    if d.isExpired now then (false, now)
    else
      let (done, now) := Clock.wait now work (TimeScale.least interval (d.remaining now))
      if done then (!d.isExpired now, now) else waitRounds d work interval rounds now

/-- Waits for work within the budget, and looks every `interval` seconds. Work that is only done
when the budget has run out is late. -/
def waitFor (d : Deadline τ) (now : τ) (work : Completion τ) (interval : τ) : Bool × τ :=
  d.waitRounds work interval (d.rounds now interval) now

/-- The outcome of polling: whether the condition held, how often it was looked at, and the time
then. -/
structure Polled (τ : Type) where
  held : Bool
  looks : Nat
  now : τ
  deriving DecidableEq, Repr

/-- `poll` with a number of rounds, after some looks. -/
def pollRounds (d : Deadline τ) (condition : τ → Bool) (interval : τ) : Nat → Nat → τ → Polled τ
  | 0, looks, now => ⟨false, looks, now⟩
  | rounds + 1, looks, now =>
    if condition now then ⟨true, looks + 1, now⟩
    else if d.isExpired now then ⟨false, looks + 1, now⟩
    else
      pollRounds d condition interval rounds (looks + 1)
        (Clock.sleep now (TimeScale.least interval (d.remaining now)))

/-- Looks whether a condition on the time holds, every `interval` seconds and once more when the
budget runs out. -/
def poll (d : Deadline τ) (now : τ) (condition : τ → Bool) (interval : τ) : Polled τ :=
  d.pollRounds condition interval (d.rounds now interval + 1) 0 now

end Deadline

/-! ## Deadlines on one clock -/

/-- A clock, and the deadlines that were started on it, in order. -/
structure Timekeeper (τ : Type) where
  now : τ
  deadlines : List (Deadline τ)
  deriving DecidableEq, Repr

/-- What can be done with a clock. Polls and waits are within any deadline that one has at hand, the
latest one or another. -/
inductive ClockStep (τ : Type) where
  | advance (seconds : τ)
  | sleep (seconds : τ)
  | wait (work : Completion τ) (seconds : τ)
  /-- Starts a deadline. -/
  | start (budget : τ)
  | poll (d : Deadline τ) (condition : τ → Bool) (interval : τ)
  | waitFor (d : Deadline τ) (work : Completion τ) (interval : τ)

/-- What a step tells. -/
inductive ClockAnswer where
  | silent
  /-- Whether work is done, or was in time. -/
  | waited (done : Bool)
  | polled (held : Bool) (looks : Nat)
  deriving DecidableEq, Repr

namespace Timekeeper

variable {τ : Type} [TimeScale τ]

/-- A clock on which nothing has been started yet. -/
def ofStart (now : τ) : Timekeeper τ := ⟨now, []⟩

/-- Takes a step. -/
def step (k : Timekeeper τ) : ClockStep τ → Except ClockError ClockAnswer × Timekeeper τ
  | .advance seconds =>
    match Clock.advance k.now seconds with
    | .ok now => (.ok .silent, { k with now })
    | .error cause => (.error cause, k)
  | .sleep seconds => (.ok .silent, { k with now := Clock.sleep k.now seconds })
  | .wait work seconds =>
    let (done, now) := Clock.wait k.now work seconds
    (.ok (.waited done), { k with now })
  | .start budget => (.ok .silent, { k with deadlines := k.deadlines ++ [⟨k.now, budget⟩] })
  | .poll d condition interval =>
    let polled := d.poll k.now condition interval
    (.ok (.polled polled.held polled.looks), { k with now := polled.now })
  | .waitFor d work interval =>
    let (inTime, now) := d.waitFor k.now work interval
    (.ok (.waited inTime), { k with now })

/-- Takes steps, one after the other, and goes on after those that were refused. -/
def run (k : Timekeeper τ) (steps : List (ClockStep τ)) : Timekeeper τ :=
  steps.foldl (fun k s => (k.step s).2) k

end Timekeeper

end Playground
