import Playground.Proofs.Diagnostic.Mapping
import Playground.Run.Sandbox

/-!
# The course of a run

What a run leaves behind, whatever the toolchain and the scale of time.

- `Course` lists the records that a run can leave, one constructor for each way to end, and
  `Course.agrees` reads off that the states, the answer and the handle of such a record agree.
- `run_of_late`, `run_of_compiled` and `launch_of_written`: how a run goes up to its launch.
- `follow_course`: whatever becomes of a program that was launched, the run leaves such a record.
-/

namespace Playground

/-! ## Handles -/

namespace Handle

variable {τ : Type} (h : Handle τ)

@[simp] theorem closed_close : h.close.closed = true := rfl

@[simp] theorem killed_close : h.close.killed = h.killed := rfl

@[simp] theorem killed_kill : h.kill.killed = true := rfl

end Handle

/-! ## Records -/

namespace RunRecord

variable {τ : Type}

/-- The answer is that the budget for compiling and starting up has run out. -/
@[simp] def InfrastructureTimedOut (r : RunRecord τ RunResult) : Prop :=
  (∃ budget, r.answer = .error (.compilationTimedOut budget)) ∨
    ∃ budget output, r.answer = .error (.startTimedOut budget output)

/-- The answer is that the budget of the program has run out. -/
@[simp] def UserCodeTimedOut (r : RunRecord τ RunResult) : Prop :=
  ∃ budget output, r.answer = .error (.userCodeTimedOut budget output)

/-- The answer is that the host ended before the program ran. -/
@[simp] def HostEnded (r : RunRecord τ RunResult) : Prop :=
  ∃ status output, r.answer = .error (.hostEnded status output)

/-- The answer is that of a compilation that failed. -/
@[simp] def Rejected (r : RunRecord τ RunResult) : Prop :=
  (∃ result, r.answer = .ok result ∧ result.succeeded = false) ∧ r.handle = none

/-- The answer is a result of a program that was launched. -/
@[simp] def Ended (succeeded : Bool) (r : RunRecord τ RunResult) : Prop :=
  (∃ result, r.answer = .ok result ∧ result.succeeded = succeeded) ∧ r.handle.isSome = true

/-- The answer is that the files could not be laid out. -/
@[simp] def Unwritten (r : RunRecord τ RunResult) : Prop :=
  ∃ e, r.answer = .error (.file e)

/-- The states, the answer and the handle of a run agree. -/
structure Agrees (r : RunRecord τ RunResult) : Prop where
  states : r.states ∈ [[.compiling, .infrastructureTimedOut], [.compiling, .failed],
    [.compiling, .running, .succeeded], [.compiling, .running, .failed],
    [.compiling, .running, .userCodeTimedOut], [.compiling]]
  infrastructureTimedOut :
    r.states = [.compiling, .infrastructureTimedOut] ↔ r.InfrastructureTimedOut
  failed : r.states = [.compiling, .failed] ↔ r.Rejected ∨ r.HostEnded
  succeeded : r.states = [.compiling, .running, .succeeded] ↔
    ∃ result, r.answer = .ok result ∧ result.succeeded = true
  endedFailed : r.states = [.compiling, .running, .failed] ↔ r.Ended false
  userCodeTimedOut : r.states = [.compiling, .running, .userCodeTimedOut] ↔ r.UserCodeTimedOut
  unwritten : r.states = [.compiling] ↔ r.Unwritten
  /-- There is no handle iff the compilation timed out or failed, or the files could not be laid
  out. -/
  unlaunched : r.handle = none ↔
    (∃ budget, r.answer = .error (.compilationTimedOut budget)) ∨ r.Rejected ∨ r.Unwritten
  /-- A program that was launched is always released, and killed iff it ran out of time. -/
  released : ∀ h, r.handle = some h →
    h.closed = true ∧ (h.killed = true ↔ r.InfrastructureTimedOut ∨ r.UserCodeTimedOut)

/-- The records that a run can leave. -/
inductive Course : RunRecord τ RunResult → Prop
  | compilationTimedOut (budget : τ) (now : τ) :
    Course ⟨.error (.compilationTimedOut budget), [.compiling, .infrastructureTimedOut], none,
      .empty, now⟩
  | rejected (result : RunResult) (now : τ) : result.succeeded = false →
    Course ⟨.ok result, [.compiling, .failed], none, .empty, now⟩
  | unwritten (e : FileError) (now : τ) :
    Course ⟨.error (.file e), [.compiling], none, .empty, now⟩
  | startTimedOut (budget : τ) (output : String) (h : Handle τ) (files : FileTree) (now : τ) :
    Course ⟨.error (.startTimedOut budget output), [.compiling, .infrastructureTimedOut],
      some h.kill.close, files, now⟩
  | hostEnded (status : Int) (output : String) (h : Handle τ) (files : FileTree) (now : τ) :
    h.killed = false →
    Course ⟨.error (.hostEnded status output), [.compiling, .failed], some h.close, files, now⟩
  | userCodeTimedOut (budget : τ) (output : String) (h : Handle τ) (files : FileTree) (now : τ) :
    Course ⟨.error (.userCodeTimedOut budget output), [.compiling, .running, .userCodeTimedOut],
      some h.kill.close, files, now⟩
  | ended (result : RunResult) (h : Handle τ) (files : FileTree) (now : τ) :
    h.killed = false →
    Course ⟨.ok result, [.compiling, .running, if result.succeeded then .succeeded else .failed],
      some h.close, files, now⟩

/-- On every record that a run can leave the states, the answer and the handle agree. -/
theorem Course.agrees {r : RunRecord τ RunResult} (hr : r.Course) : r.Agrees := by
  cases hr with
  | compilationTimedOut budget now => constructor <;> simp
  | rejected result now hresult => constructor <;> simp [hresult]
  | unwritten e now => constructor <;> simp
  | startTimedOut budget output h files now => constructor <;> simp
  | hostEnded status output h files now hkilled => constructor <;> simp [hkilled]
  | userCodeTimedOut budget output h files now => constructor <;> simp
  | ended result h files now hkilled =>
    cases hresult : result.succeeded with
    | true => constructor <;> simp [hkilled, hresult]
    | false => constructor <;> simp [hkilled, hresult]

theorem HostEnded.not_infrastructureTimedOut {r : RunRecord τ RunResult} (hr : r.HostEnded) :
    ¬ r.InfrastructureTimedOut := by
  obtain ⟨status, output, hanswer⟩ := hr
  simp [hanswer]

end RunRecord

namespace Sandbox

variable {τ : Type} [TimeScale τ] {s : Sandbox τ} {w : Workspace}

/-! ## Up to the launch -/

/-- A compilation that is not done in time uses up the budget for starting up. -/
theorem run_of_late {budget : Option (RunBudget τ)} {now later : τ}
    (hwait : (⟨now, (budget.getD s.defaultBudget).infrastructure⟩ : Deadline τ).waitFor now
      s.toolchain.compileTime s.pollInterval = (false, later)) :
    s.run w budget now =
      ⟨.error (.compilationTimedOut (budget.getD s.defaultBudget).infrastructure),
        [.compiling, .infrastructureTimedOut], none, .empty, later⟩ := by
  simp [run, compile, hwait]

/-- What a run does with the outcome of a compilation that is done in time. -/
theorem run_of_compiled {budget : Option (RunBudget τ)} {now later : τ}
    {c : WorkspaceCompilation} {diagnostics : List Diagnostic}
    (hwait : (⟨now, (budget.getD s.defaultBudget).infrastructure⟩ : Deadline τ).waitFor now
      s.toolchain.compileTime s.pollInterval = (true, later))
    (hcompile : w.compile s.toolchain = .ok c)
    (hmap : Diagnostic.mapAll w c.reports = .ok diagnostics) :
    s.run w budget now =
      if c.succeeded then
        s.launch w (budget.getD s.defaultBudget)
          ⟨now, (budget.getD s.defaultBudget).infrastructure⟩ diagnostics later
      else
        ⟨(rejected w diagnostics).mapError .missing, [.compiling, .failed], none, .empty, later⟩ := by
  simp [run, compile, hwait, hcompile, Except.mapError, hmap]

/-- A workspace that does not compile fails with its diagnostics, one per line. -/
theorem exists_lines {diagnostics : List Diagnostic}
    (hformat : ∀ d ∈ diagnostics, ∃ line, d.format w = .ok line) :
    ∃ lines, diagnostics.mapM (Diagnostic.format w) = .ok lines ∧
      rejected w diagnostics =
        .ok ⟨false, "\n".intercalate lines, none, none, diagnostics⟩ := by
  obtain ⟨lines, hlines, -⟩ := Checks.exists_mapM (p := fun _ => True) fun d hd =>
    (hformat d hd).imp fun line hline => ⟨hline, trivial⟩
  refine ⟨lines, hlines, ?_⟩
  rw [rejected, hlines]
  rfl

theorem launch_of_unwritten {b : RunBudget τ} {d : Deadline τ} {diagnostics : List Diagnostic}
    {now : τ} {e : FileError} (hfiles : FileTree.ofFiles w.files = .error e) :
    s.launch w b d diagnostics now = ⟨.error (.file e), [.compiling], none, .empty, now⟩ := by
  rw [launch, hfiles]

theorem launch_of_written {b : RunBudget τ} {d : Deadline τ} {diagnostics : List Diagnostic}
    {now : τ} {files : FileTree} (hfiles : FileTree.ofFiles w.files = .ok files)
    (hcan : s.toolchain.canLaunch = true) :
    s.launch w b d diagnostics now =
      s.follow b d (.launch s.toolchain.host now) diagnostics files now := by
  rw [launch, hfiles]
  exact if_pos hcan

/-! ## From the launch on -/

variable {b : RunBudget τ} {d : Deadline τ} {h : Handle τ} {diagnostics : List Diagnostic}
  {files : FileTree} {now : τ}

/-- A program that has neither got ready nor ended in time is killed. -/
theorem follow_of_missed (hstart : (s.awaitStart d h now).held = false) :
    s.follow b d h diagnostics files now =
      ⟨.error (.startTimedOut d.budget (h.output (s.awaitStart d h now).now)),
        [.compiling, .infrastructureTimedOut], some h.kill.close, files,
        (s.awaitStart d h now).now⟩ := by
  simp [follow, hstart]

/-- A host that has ended without getting its program started is told of. -/
theorem follow_of_ended (hstart : (s.awaitStart d h now).held = true)
    (hready : h.started (s.awaitStart d h now).now = false) :
    s.follow b d h diagnostics files now =
      ⟨.error (.hostEnded ((h.poll (s.awaitStart d h now).now).getD 0)
          (h.output (s.awaitStart d h now).now)),
        [.compiling, .failed], some h.close, files, (s.awaitStart d h now).now⟩ := by
  simp [follow, hstart, hready]

/-- A program that is ready in time is waited for. -/
theorem follow_of_ready (hstart : (s.awaitStart d h now).held = true)
    (hready : h.started (s.awaitStart d h now).now = true) :
    s.follow b d h diagnostics files now =
      s.supervise b h diagnostics files (s.awaitStart d h now).now := by
  simp [follow, hstart, hready]

/-- A program that does not end within its own budget is killed. -/
theorem supervise_of_missed (hend : (s.awaitEnd ⟨now, b.userCode⟩ h now).held = false) :
    s.supervise b h diagnostics files now =
      ⟨.error (.userCodeTimedOut b.userCode
          (h.output (s.awaitEnd ⟨now, b.userCode⟩ h now).now)),
        [.compiling, .running, .userCodeTimedOut], some h.kill.close, files,
        (s.awaitEnd ⟨now, b.userCode⟩ h now).now⟩ := by
  simp [supervise, hend]

/-- A program that ends within its own budget has a result. -/
theorem supervise_of_ended (diagnostics : List Diagnostic) (files : FileTree)
    (hend : (s.awaitEnd ⟨now, b.userCode⟩ h now).held = true) :
    ∃ result, s.supervise b h diagnostics files now =
      ⟨.ok result, [.compiling, .running, if result.succeeded then .succeeded else .failed],
        some h.close, files, (s.awaitEnd ⟨now, b.userCode⟩ h now).now⟩ := by
  simp [supervise, hend]

/-- Whatever becomes of a program that was launched, the run leaves one of the records that it can
leave, with a handle. -/
theorem follow_course (hkilled : h.killed = false) (diagnostics : List Diagnostic)
    (files : FileTree) (now : τ) :
    (s.follow b d h diagnostics files now).Course ∧
      (s.follow b d h diagnostics files now).handle.isSome = true := by
  cases hstart : (s.awaitStart d h now).held with
  | false =>
    rw [follow_of_missed hstart]
    exact ⟨.startTimedOut .., rfl⟩
  | true =>
    cases hready : h.started (s.awaitStart d h now).now with
    | false =>
      rw [follow_of_ended hstart hready]
      exact ⟨.hostEnded _ _ _ _ _ hkilled, rfl⟩
    | true =>
      rw [follow_of_ready hstart hready]
      cases hend : (s.awaitEnd ⟨(s.awaitStart d h now).now, b.userCode⟩ h
          (s.awaitStart d h now).now).held with
      | false =>
        rw [supervise_of_missed hend]
        exact ⟨.userCodeTimedOut .., rfl⟩
      | true =>
        obtain ⟨result, hresult⟩ := supervise_of_ended diagnostics files hend
        rw [hresult]
        exact ⟨.ended _ _ _ _ hkilled, rfl⟩

end Sandbox

end Playground
