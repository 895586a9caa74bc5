import Playground.Toolchain.Basic

/-!
# Launched programs

A program that was launched does what its plan says, in the time since its launch, until it is
killed.
-/

namespace Playground

/-- A launched program. -/
structure Handle (τ : Type) where
  plan : HostPlan τ
  launchedAt : τ
  killed : Bool
  closed : Bool

namespace Handle

variable {τ : Type} [TimeScale τ]

/-- Launches a program. -/
def launch (plan : HostPlan τ) (now : τ) : Handle τ :=
  ⟨plan, now, false, false⟩

/-- When the code of the program begins to run. -/
def readyAt (h : Handle τ) : τ :=
  h.launchedAt + h.plan.startup

/-- When the program ends by itself. -/
def endsAt (h : Handle τ) : τ :=
  h.launchedAt + h.plan.startup + h.plan.duration

/-- Whether the code of the program has begun to run. -/
def started (h : Handle τ) (now : τ) : Bool :=
  !h.plan.crash.isSome && !h.killed && h.readyAt ≤ now

/-- The status with which the program was killed. -/
def killedStatus : Int := -9

/-- The status with which the program has ended, if it has. -/
def poll (h : Handle τ) (now : τ) : Option Int :=
  if h.killed then some killedStatus
  else
    match h.plan.crash with
    | some status =>
      if h.readyAt ≤ now then some status
      else if h.endsAt ≤ now then some h.plan.exitStatus
      else none
    | none => if h.endsAt ≤ now then some h.plan.exitStatus else none

/-- Ends the program. -/
def kill (h : Handle τ) : Handle τ :=
  { h with killed := true }

/-- What the program has written. -/
def output (h : Handle τ) (now : τ) : String :=
  h.plan.output (now - h.launchedAt)

/-- The report of the host. There is none if the program was killed or has not ended. -/
def outcome (h : Handle τ) (now : τ) : Option HostOutcome :=
  if h.killed || (h.poll now).isNone then none else h.plan.outcome

/-- Releases what belongs to the program. -/
def close (h : Handle τ) : Handle τ :=
  { h with closed := true }

end Handle

end Playground
