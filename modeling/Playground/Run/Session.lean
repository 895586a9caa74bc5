import Playground.Run.Sandbox

/-!
# Sessions

One sandbox does many jobs, one after the other on one clock. A job begins at the time at which the
one before it has ended, however that ended.
-/

namespace Playground

/-- What a sandbox is asked to do. -/
inductive Job (τ : Type) where
  | run (w : Workspace) (budget : Option (RunBudget τ))
  | diagnose (w : Workspace) (budget : Option (RunBudget τ))

/-- What comes of a job that goes through. -/
inductive JobResult where
  | run (result : RunResult)
  | diagnose (diagnostics : List Diagnostic)
  deriving DecidableEq, Repr

/-- A job that was done: when it began, and the trace that it has left. -/
structure JobRecord (τ : Type) where
  began : τ
  trace : RunRecord τ JobResult

/-- The time that a job took. -/
def JobRecord.elapsed {τ : Type} [TimeScale τ] (r : JobRecord τ) : τ :=
  r.trace.now - r.began

/-- A trace with another reading of what was yielded. -/
def RunRecord.map {τ α β : Type} (f : α → β) (r : RunRecord τ α) : RunRecord τ β :=
  { r with answer := r.answer.map f }

namespace Sandbox

variable {τ : Type} [TimeScale τ]

/-- Does a job. -/
def perform (s : Sandbox τ) (job : Job τ) (now : τ) : JobRecord τ :=
  match job with
  | .run w budget => ⟨now, (s.run w budget now).map .run⟩
  | .diagnose w budget => ⟨now, (s.diagnose w budget now).map .diagnose⟩

/-- Does jobs, one after the other. -/
def session (s : Sandbox τ) : List (Job τ) → τ → List (JobRecord τ)
  | [], _ => []
  | job :: rest, now =>
    let done := s.perform job now
    done :: session s rest done.trace.now

end Sandbox

end Playground
