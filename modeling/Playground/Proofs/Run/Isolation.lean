import Mathlib.Data.List.Forall2
import Playground.Proofs.Run.Delay
import Playground.Run.Session

/-!
# Isolation

The jobs of a session have nothing in common but the clock: each of them goes as it would go alone,
at whatever time that were, whatever became of the jobs before it.

- `JobRecord.SameCourse`: what it is for two jobs to go the same way.
- `perform_sameCourse`: a job goes the same way whenever it begins.
- `session_isolated`: so do the jobs of a session.
-/

namespace Playground

namespace JobRecord

/-- Two jobs went the same way, whenever they began. -/
structure SameCourse (a b : JobRecord ℚ) : Prop where
  answer : a.trace.answer = b.trace.answer
  transitions : a.trace.transitions = b.trace.transitions
  /-- The same files were there at the launch. -/
  files : a.trace.files = b.trace.files
  /-- The same was launched, after the same time, and was killed and released alike. -/
  launched : a.trace.handle.map (fun h => (h.launchedAt - a.began, h.killed, h.closed)) =
    b.trace.handle.map fun h => (h.launchedAt - b.began, h.killed, h.closed)
  elapsed : a.elapsed = b.elapsed

/-- A job that was done so much later. -/
def delay (δ : ℚ) (r : JobRecord ℚ) : JobRecord ℚ :=
  ⟨r.began + δ, r.trace.delay δ⟩

/-- A job that was done later went the same way. -/
theorem sameCourse_delay (δ : ℚ) (r : JobRecord ℚ) : (r.delay δ).SameCourse r where
  answer := rfl
  transitions := rfl
  files := rfl
  launched := by
    show (r.trace.handle.map (Handle.delay δ)).map _ = _
    rw [Option.map_map]
    congr 1
    funext h
    show (h.launchedAt + δ - (r.began + δ), h.killed, h.closed) = _
    rw [add_sub_add_right_eq_sub]
  elapsed := add_sub_add_right_eq_sub ..

end JobRecord

namespace Sandbox

variable {s : Sandbox ℚ}

/-- A job that begins so much later is done in the same way, so much later. -/
theorem perform_delay (δ : ℚ) (s : Sandbox ℚ) (job : Job ℚ) (now : ℚ) :
    (s.delay δ).perform job (now + δ) = (s.perform job now).delay δ := by
  cases job with
  | run w budget =>
    rw [perform, run_delay]
    rfl
  | diagnose w budget =>
    rw [perform, diagnose_delay]
    rfl

/-- Where compilations do not depend on when they begin, neither does a job. -/
theorem perform_sameCourse (hs : ∀ δ, s.delay δ = s) (job : Job ℚ) (now fresh : ℚ) :
    (s.perform job now).SameCourse (s.perform job fresh) := by
  have hlater := s.perform_delay (now - fresh) job fresh
  rw [hs, add_sub_cancel] at hlater
  rw [hlater]
  exact JobRecord.sameCourse_delay ..

/-- The jobs of a session go as each would alone. -/
theorem session_sameCourse (hs : ∀ δ, s.delay δ = s) :
    ∀ (jobs : List (Job ℚ)) (start : ℚ),
      List.Forall₂ (fun job r => ∀ fresh, r.SameCourse (s.perform job fresh)) jobs
        (s.session jobs start)
  | [], _ => .nil
  | job :: rest, start =>
    .cons (perform_sameCourse hs job start) (session_sameCourse hs rest _)

/-- Each job of a session begins when the one before it has ended. -/
theorem session_began (s : Sandbox ℚ) :
    ∀ (jobs : List (Job ℚ)) (start : ℚ),
      (s.session jobs start).map (·.began) =
        (start :: (s.session jobs start).map (·.trace.now)).dropLast
  | [], _ => rfl
  | job :: rest, start => by
    have hbegan : (s.perform job start).began = start := by cases job <;> rfl
    rw [session, List.map_cons, List.map_cons, List.dropLast_cons_cons, hbegan,
      session_began s rest]

/-- A job of a session, whatever the ones before it have led to, goes as it would go alone at any
time; all that they leave behind is the time at which it begins. -/
theorem session_isolated (p : ToolchainPlan ℚ) (default : RunBudget ℚ) (interval : ℚ)
    (jobs : List (Job ℚ)) (start : ℚ) :
    let s : Sandbox ℚ := ⟨.ofPlan p, default, interval⟩
    let done := s.session jobs start
    List.Forall₂ (fun job r => ∀ fresh, r.SameCourse (s.perform job fresh)) jobs done ∧
      done.map (·.began) = (start :: done.map (·.trace.now)).dropLast := by
  intro s done
  have hs : ∀ δ, s.delay δ = s := by
    intro δ
    show (⟨(Toolchain.ofPlan p).delay δ, default, interval⟩ : Sandbox ℚ) = _
    rw [Toolchain.delay_ofPlan]
  exact ⟨session_sameCourse hs jobs start, s.session_began jobs start⟩

end Sandbox

end Playground
