import Playground.Toolchain.Basic

/-!
# Planned toolchains

A toolchain whose answers are laid down beforehand, whatever it is asked about. It stands in for a
real one wherever only the course of a run matters: a compilation takes no time or never ends, and
a program that is started gets ready and ends as planned.
-/

namespace Playground

/-- What a planned toolchain does. -/
structure ToolchainPlan (τ : Type) where
  reports : List Report
  hasArtifact : Bool
  /-- Whether compilations never end. -/
  isBlocked : Bool
  candidates : List Candidate
  introspection : Option Introspection
  startup : τ
  duration : τ
  exitStatus : Int
  /-- Whether the host ends where the code of the program should begin to run. -/
  crashes : Bool
  output : String
  outcome : Option HostOutcome

namespace ToolchainPlan

variable {τ : Type}

/-- The status of a host that crashes. -/
def crashStatus : Int := 1

/-- What a program does that is started. -/
def host (p : ToolchainPlan τ) : HostPlan τ :=
  { startup := p.startup
    duration := p.duration
    exitStatus := p.exitStatus
    crash := if p.crashes then some crashStatus else none
    output := fun _ => p.output
    outcome := p.outcome }

/-- What a compilation yields. -/
def compilation (p : ToolchainPlan τ) (mode : Mode) : Compilation :=
  ⟨if p.hasArtifact then some ⟨mode, none⟩ else none, p.reports⟩

end ToolchainPlan

/-- The toolchain of a plan. -/
def Toolchain.ofPlan {τ : Type} (p : ToolchainPlan τ) : Toolchain τ :=
  { compile := fun _ mode => .ok (p.compilation mode)
    compileTime := if p.isBlocked then .never else .done
    canLaunch := true
    host := p.host
    complete := fun _ _ => p.candidates
    inspect := fun _ _ => .ok p.introspection }

end Playground
