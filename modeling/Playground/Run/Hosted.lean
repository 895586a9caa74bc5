import Playground.Host.Capture
import Playground.Host.Program
import Playground.Toolchain.Basic

/-!
# Hosted programs

What a hosted program does, as far as a run sees it: when it is ready, what it has written by a
time, when and how it ends, and what its control channel says in the end.
-/

namespace Playground

/-- Stands for the duration of a process that never ends: longer than any budget that is granted. -/
def HostPlan.forever {τ : Type} [TimeScale τ] : τ :=
  TimeScale.ofMilliseconds 1000000000000000000

/-- The plan of a program whose host leaves a given trace; so many characters of its output are
captured. A host that never says that it is ready has not got its program started. -/
def HostPlan.ofTrace {τ : Type} [TimeScale τ] (limit : Int) (trace : Host.Program.Trace τ) :
    HostPlan τ :=
  let state := Host.Control.read trace.channel
  { startup := 0
    duration := if trace.ends then trace.machine.elapsed else trace.machine.elapsed + forever
    exitStatus := trace.status
    crash := if state.started then none else some trace.status
    output := fun time =>
      String.ofList (Host.Capture.ofBytes limit (trace.machine.writtenBy time)).output
    outcome := Host.Control.outcome? state }

end Playground
