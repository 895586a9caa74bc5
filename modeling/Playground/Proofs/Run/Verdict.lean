import Playground.Proofs.Host.Program
import Playground.Proofs.Run.Diagnosis
import Playground.Proofs.Run.Timing
import Playground.Run.Hosted

/-!
# Verdicts

What a run says of a program that ends within its budgets. The host and the sandbox are two
processes, and between them there is the channel and an exit status: the verdict is put together
from both, and it is the one that the ending of the program calls for.

Two endings are not told of as they are. A value without a text is taken for an exception, and an
exception that cannot be described ends the host before its report, so that the exit status is all
that is told.

- `RunResult.Tells`: the verdict that an ending calls for.
- `tells_of_calls`: a report, or an exit status without one, gives that verdict.
- `run_of_launched`: a run that has launched a program follows it.
- `run_verdict`: a run of a hosted program tells how the program ended.
-/

namespace Playground

open Host

/-! ## What is told -/

/-- A result is the one that the ending of a program calls for. -/
structure RunResult.Tells {τ : Type} (result : RunResult) (p : Program τ) (room : Site → Nat)
    (done : Execution τ) : Prop where
  /-- Success is a normal end with nothing or with a value that has a text, an exit that asks for
  success, or an end at once with status zero. -/
  succeeded : result.succeeded = true ↔
    (∃ v, p.EndsWith done v ∧ (v = .none ∨ v.Fits (room .report))) ∨
      (∃ e, done.ending = .raised e ∧ e.AsksForSuccess) ∨ done.ending = .ended 0
  exception_of_succeeded : result.succeeded = true → result.exception = none
  exception_of_ended : ∀ status, done.ending = .ended status → status ≠ 0 →
    result.exception = some s!"Process exited with status {status}"
  /-- Any other exception is told of by its description. -/
  exception_of_raised : ∀ e text, done.ending = .raised e → ¬ e.AsksForSuccess →
    e.describe room = .ok text → result.exception = some text
  /-- It has one unless it is a fault of a source text with an odd place. -/
  described : ∀ e, done.ending = .raised e → e.IsPlain room →
    ∃ text, e.describe room = .ok text
  /-- Without one, all that is told is that the host has failed. -/
  exception_of_undescribed : ∀ e f, done.ending = .raised e → ¬ e.AsksForSuccess →
    e.describe room = .error f → result.exception = some "Process exited with status 1"
  /-- A value without a text is told of by the exception that it has none. -/
  exception_of_notShown : ∀ v, p.EndsWith done v → v ≠ .none → ¬ v.Fits (room .report) →
    ∃ cause text, v.shown (room .report) = .error cause ∧
      (Exception.ofShowError cause).describe room = .ok text ∧ result.exception = some text
  /-- A value is only told of after a normal end, and only if it is one. -/
  returnValue : ∀ text, result.returnValue = some text ↔
    ∃ v, p.EndsWith done v ∧ v ≠ .none ∧ v.shown (room .report) = .ok text

/-! ## From the ending to the verdict -/

namespace Sandbox

section

variable {τ : Type} {p : Program τ} {room : Site → Nat} {done : Execution τ}
  (hnormal : ∀ v, p.EndsWith done v ↔ done.ending.IsNormal v)
  (status : Int) (output : String) (diagnostics : List Diagnostic)

include hnormal

/-- After a normal end the report has the text of the value, or the exception that it has none. -/
theorem tells_of_isNormal {v : Value} (h : done.ending.IsNormal v) {o : HostOutcome}
    (hexception : o.exception = none ↔ v = .none ∨ v.Fits (room .report))
    (hnotShown : v ≠ .none → ¬ v.Fits (room .report) → ∃ cause text,
      v.shown (room .report) = .error cause ∧
        (Exception.ofShowError cause).describe room = .ok text ∧ o.exception = some text)
    (hvalue : ∀ text, o.returnValue = some text ↔ v ≠ .none ∧ v.shown (room .report) = .ok text) :
    (verdict status (some o) output diagnostics).Tells p room done := by
  have hends (w : Value) : p.EndsWith done w ↔ w = v :=
    (hnormal w).trans ⟨h.eq, fun hw => hw ▸ h⟩
  constructor
  case succeeded => simp [verdict, hends, hexception, h.ne_raised, h.ne_ended]
  case exception_of_succeeded => exact Option.isNone_iff_eq_none.mp
  case exception_of_ended => exact fun status hstatus => absurd hstatus (h.ne_ended status)
  case exception_of_raised => exact fun e _ he => absurd he (h.ne_raised e)
  case described => exact fun e he => absurd he (h.ne_raised e)
  case exception_of_undescribed => exact fun e _ he => absurd he (h.ne_raised e)
  case exception_of_notShown =>
    intro w hw
    obtain rfl := (hends w).mp hw
    exact hnotShown
  case returnValue => simp [verdict, hends, hvalue]

/-- After an exception the verdict is its description, if there is one to report. -/
theorem tells_of_raised {e : Exception} (h : done.ending = .raised e)
    {outcome : Option HostOutcome} (hvalue : outcome.bind (·.returnValue) = none)
    (hsuccess : (verdict status outcome output diagnostics).exception = none ↔ e.AsksForSuccess)
    (hdescribed : ∀ text, ¬ e.AsksForSuccess → e.describe room = .ok text →
      (verdict status outcome output diagnostics).exception = some text)
    (hundescribed : ∀ f, ¬ e.AsksForSuccess → e.describe room = .error f →
      (verdict status outcome output diagnostics).exception =
        some "Process exited with status 1") :
    (verdict status outcome output diagnostics).Tells p room done := by
  have hends (v : Value) : ¬ p.EndsWith done v := fun hv =>
    ((hnormal v).mp hv).ne_raised e h
  constructor
  case succeeded =>
    refine Option.isNone_iff_eq_none.trans (hsuccess.trans ?_)
    simp [hends, h]
  case exception_of_succeeded => exact Option.isNone_iff_eq_none.mp
  case exception_of_ended =>
    intro status hstatus
    rw [h] at hstatus
    cases hstatus
  case exception_of_raised =>
    intro e' text he
    rw [h] at he
    cases he
    exact hdescribed text
  case described => exact fun e _ hplain => hplain.exists_describe
  case exception_of_undescribed =>
    intro e' f he
    rw [h] at he
    cases he
    exact hundescribed f
  case exception_of_notShown => exact fun v hv => absurd hv (hends v)
  case returnValue =>
    intro text
    refine iff_of_false ?_ fun ⟨v, hv, _⟩ => hends v hv
    show outcome.bind (·.returnValue) ≠ some text
    rw [hvalue]
    exact nofun

/-- Without a report the exit status decides. -/
theorem tells_of_ended (h : done.ending = .ended status) :
    (verdict status none output diagnostics).Tells p room done := by
  have hends (v : Value) : ¬ p.EndsWith done v := fun hv =>
    ((hnormal v).mp hv).ne_ended status h
  have hraised (e : Exception) : done.ending ≠ .raised e := by
    rw [h]
    exact nofun
  constructor
  case succeeded => simp [verdict, hends, h]
  case exception_of_succeeded => exact Option.isNone_iff_eq_none.mp
  case exception_of_ended =>
    intro n hn hzero
    rw [h] at hn
    cases hn
    exact if_neg hzero
  case exception_of_raised => exact fun e _ he => absurd he (hraised e)
  case described => exact fun e he => absurd he (hraised e)
  case exception_of_undescribed => exact fun e _ he => absurd he (hraised e)
  case exception_of_notShown => exact fun v hv => absurd hv (hends v)
  case returnValue => exact fun text => iff_of_false nofun fun ⟨v, hv, _⟩ => hends v hv

/-- The report that an ending calls for, or else the exit status, gives the verdict that the ending
calls for. -/
theorem tells_of_calls {outcome : Option HostOutcome} (h : done.ending.Calls room outcome)
    (hends : done.ending ≠ .stopped) (hended : ∀ n, done.ending = .ended n → status = n)
    (hundescribed : done.ending.IsUndescribed room → status = 1) :
    (verdict status outcome output diagnostics).Tells p room done := by
  generalize hending : done.ending = ending at h
  cases h with
  | nothing h =>
    exact tells_of_isNormal hnormal _ _ _ (hending ▸ h) (by simp) (by simp) (by simp)
  | @shown _ v text h hv hshown =>
    have hfits : v.Fits (room .report) := Value.fits_of_shown hshown
    exact tells_of_isNormal hnormal _ _ _ (hending ▸ h) (by simp [hfits])
      (fun _ hnot => absurd hfits hnot) (by simp [hv, hshown])
  | @notShown _ v cause text h hv hshown hdescribe =>
    have hnot : ¬ v.Fits (room .report) := Value.not_fits_of_shown hshown
    exact tells_of_isNormal hnormal _ _ _ (hending ▸ h) (by simp [hv, hnot])
      (fun _ _ => ⟨cause, text, hshown, hdescribe, rfl⟩) (by simp [hshown])
  | @success e hsuccess =>
    exact tells_of_raised hnormal _ _ _ hending rfl (by simp [verdict, hsuccess])
      (fun _ hnot => absurd hsuccess hnot) (fun _ hnot => absurd hsuccess hnot)
  | @described e text hnot hdescribe =>
    refine tells_of_raised hnormal _ _ _ hending rfl (by simp [verdict, hnot]) ?_ ?_
    · intro text' _ h
      rw [hdescribe] at h
      cases h
      rfl
    · intro f _ h
      rw [hdescribe] at h
      cases h
  | @undescribed e f hnot hdescribe =>
    obtain rfl := hundescribed ⟨e, f, hending, hnot, hdescribe⟩
    refine tells_of_raised hnormal _ _ _ hending rfl (by simp [verdict, hnot]) ?_ fun _ _ _ => rfl
    intro text _ h
    rw [hdescribe] at h
    cases h
  | ended n =>
    obtain rfl := hended n hending
    exact tells_of_ended hnormal _ _ _ hending
  | stopped => exact absurd hending hends

end

/-- The report of a host, or else its exit status, gives the verdict that the ending of its program
calls for. -/
theorem verdict_tells {τ : Type} [TimeScale τ] (p : Program τ) (m : Machine τ)
    (hends : (p.run m).ending ≠ .stopped) (output : String) (diagnostics : List Diagnostic) :
    (verdict (p.host m).status ((p.run m).ending.report? m.interpreter.room) output
      diagnostics).Tells p m.interpreter.room (p.run m) :=
  tells_of_calls (p.run_endsWith_iff m) _ _ _ (Ending.calls_report? _ _) hends
    (fun _ h => Program.Trace.status_of_ended h)
    (fun h => Program.Trace.status_of_isUndescribed h)

end Sandbox

/-! ## The plan of a hosted program -/

namespace HostPlan

variable {τ : Type} [TimeScale τ] (limit : Int) (i : Interpreter) (done : Execution τ)

/-- What a run sees of a hosted program: it is ready at once, does not crash, and its host reports
on the ending. -/
theorem startup_ofTrace : (ofTrace limit (.ofExecution i done)).startup = 0 :=
  rfl

theorem crash_ofTrace : (ofTrace limit (.ofExecution i done)).crash = none := by
  show (if (Control.read (Program.Trace.ofExecution i done).channel).started then none
    else some (Program.Trace.ofExecution i done).status) = none
  rw [Program.Trace.read_channel (Program.Trace.events_ofExecution done i)]
  rfl

theorem outcome_ofTrace :
    (ofTrace limit (.ofExecution i done)).outcome = done.ending.report? i.room := by
  show Control.outcome? (Control.read (Program.Trace.ofExecution i done).channel) = _
  rw [Program.Trace.read_channel (Program.Trace.events_ofExecution done i),
    Control.outcome?_ofOutcome]

theorem duration_ofTrace {done : Execution τ} (hends : done.ending ≠ .stopped) :
    (ofTrace limit (.ofExecution i done)).duration = done.machine.elapsed := by
  rw [← Program.Trace.elapsed_ofExecution done i]
  exact if_pos (Program.Trace.ends_ofExecution i hends)

end HostPlan

/-! ## Runs -/

namespace Handle

variable {h : Handle ℚ}

/-- A program that is seen to have ended has its exit status, and the report of its host. -/
theorem ended_of_poll (hkilled : h.killed = false) (hcrash : h.plan.crash = none) {t : ℚ}
    (hend : (h.poll t).isSome = true) :
    h.poll t = some h.plan.exitStatus ∧ h.outcome t = h.plan.outcome := by
  rw [isSome_poll hkilled hcrash, decide_eq_true_iff] at hend
  have hpoll : h.poll t = some h.plan.exitStatus := by
    simp [poll, hkilled, hcrash, hend]
  refine ⟨hpoll, ?_⟩
  simp [outcome, hkilled, hpoll]

end Handle

namespace Sandbox

variable {s : Sandbox ℚ} {b : RunBudget ℚ} {h : Handle ℚ} {now : ℚ}

/-- A program that ends within its budget gets the verdict on its status and its report. -/
theorem supervise_verdict (hp : 0 < s.pollInterval) (hkilled : h.killed = false)
    (hcrash : h.plan.crash = none) (hbudget : 0 ≤ b.userCode)
    (hend : h.endsAt ≤ now + b.userCode) (diagnostics : List Diagnostic) (files : FileTree) :
    ∃ output, (s.supervise b h diagnostics files now).answer =
      .ok (verdict h.plan.exitStatus h.plan.outcome output diagnostics) := by
  obtain ⟨hheld, -⟩ := Deadline.poll_within hp hbudget hend
  rw [← awaitEnd_eq hkilled hcrash] at hheld
  obtain ⟨hpoll, houtcome⟩ :=
    h.ended_of_poll hkilled hcrash (Deadline.condition_of_poll_held _ hheld)
  rw [← awaitEnd] at hpoll houtcome
  refine ⟨h.output (s.awaitEnd ⟨now, b.userCode⟩ h now).now, ?_⟩
  simp [supervise, hheld, hpoll, houtcome]

/-- A program that is ready at its launch is waited for at once. -/
theorem follow_of_ready_at_once (hready : h.started now = true) (d : Deadline ℚ)
    (diagnostics : List Diagnostic) (files : FileTree) :
    s.follow b d h diagnostics files now = s.supervise b h diagnostics files now := by
  have hstart : s.awaitStart d h now = ⟨true, 1, now⟩ :=
    Deadline.poll_of_holds d (by rw [hready]; rfl)
  have hheld : (s.awaitStart d h now).held = true := by
    rw [hstart]
  have hnow : (s.awaitStart d h now).now = now := by
    rw [hstart]
  rw [follow_of_ready hheld (hnow.symm ▸ hready), hnow]

/-- A hosted program that ends within its budget gets the verdict on its status and its report. -/
theorem follow_verdict {plan : HostPlan ℚ} (hp : 0 < s.pollInterval) (hcrash : plan.crash = none)
    (hstartup : plan.startup = 0) (hduration : 0 ≤ plan.duration)
    (htime : plan.duration ≤ b.userCode) (d : Deadline ℚ) (diagnostics : List Diagnostic)
    (files : FileTree) (start : ℚ) :
    ∃ output, (s.follow b d (.launch plan start) diagnostics files start).answer =
      .ok (verdict plan.exitStatus plan.outcome output diagnostics) := by
  have hready : (Handle.launch plan start).started start = true := by
    rw [Handle.started_of_crash_none rfl hcrash]
    refine decide_eq_true ?_
    show start + plan.startup ≤ start
    rw [hstartup, add_zero]
  have hend : (Handle.launch plan start).endsAt ≤ start + b.userCode := by
    show start + plan.startup + plan.duration ≤ _
    rw [hstartup, add_zero]
    exact add_le_add_right htime start
  rw [follow_of_ready_at_once hready]
  exact supervise_verdict hp rfl hcrash (hduration.trans htime) hend diagnostics files

section

variable {τ : Type} [TimeScale τ] {s : Sandbox τ} {w : Workspace} {b : RunBudget τ}
  {d : Deadline τ} {diagnostics : List Diagnostic} {now : τ}

theorem handle_compile (s : Sandbox τ) (w : Workspace) (d : Deadline τ) (now : τ) :
    (s.compile w d now).handle = none := by
  unfold compile
  dsimp only
  split <;> rfl

theorem launch_of_launched (h : (s.launch w b d diagnostics now).handle.isSome = true) :
    ∃ files, s.launch w b d diagnostics now =
      s.follow b d (.launch s.toolchain.host now) diagnostics files now := by
  obtain ⟨e, he⟩ | hfollow := s.launch_cases w b d diagnostics now
  · rw [he] at h
    cases h
  · exact hfollow

/-- A run that has launched a program follows it. -/
theorem run_of_launched {budget : Option (RunBudget τ)}
    (h : (s.run w budget now).handle.isSome = true) :
    ∃ d diagnostics files start, s.run w budget now =
      s.follow (budget.getD s.defaultBudget) d (.launch s.toolchain.host start) diagnostics files
        start := by
  let d : Deadline τ := ⟨now, (budget.getD s.defaultBudget).infrastructure⟩
  have hcompile := s.handle_compile w d now
  cases hanswer : (s.compile w d now).answer with
  | error e => simp [run, hanswer, hcompile, d] at h
  | ok c =>
    cases hmap : Diagnostic.mapAll w c.reports with
    | error m => simp [run, hanswer, hmap, hcompile, d] at h
    | ok diagnostics =>
      by_cases hsucceeded : c.succeeded = true
      · have hrun : s.run w budget now = s.launch w (budget.getD s.defaultBudget) d diagnostics
            (s.compile w d now).now := by
          simp [run, hanswer, hmap, hsucceeded, d]
        rw [hrun] at h ⊢
        obtain ⟨files, hfollow⟩ := launch_of_launched h
        exact ⟨_, _, files, _, hfollow⟩
      · simp [run, hanswer, hmap, hsucceeded, hcompile, d] at h

end

section

variable {s : Sandbox ℚ} (hp : 0 < s.pollInterval) (p : Program ℚ) {m : Machine ℚ}
  (hm : m.elapsed = 0) {limit : Int} (hhost : s.toolchain.host = .ofTrace limit (p.host m))
  {w : Workspace} {budget : Option (RunBudget ℚ)} {now : ℚ}
  (hlaunched : (s.run w budget now).handle.isSome = true)
  (hends : (p.run m).ending ≠ .stopped)
  (htime : (p.run m).machine.elapsed ≤ (budget.getD s.defaultBudget).userCode)

include hp hm hhost hlaunched hends htime

/-- A hosted program that was launched and ends within its budget gets the verdict on its status and
on the report that its ending calls for. -/
theorem run_hosted :
    ∃ result, (s.run w budget now).answer = .ok result ∧
      result.Tells p m.interpreter.room (p.run m) := by
  obtain ⟨d, diagnostics, files, start, hrun⟩ := run_of_launched hlaunched
  have hcrash : s.toolchain.host.crash = none :=
    hhost ▸ HostPlan.crash_ofTrace limit m.interpreter (p.run m)
  have hstartup : s.toolchain.host.startup = 0 :=
    hhost ▸ HostPlan.startup_ofTrace limit m.interpreter (p.run m)
  have hduration : s.toolchain.host.duration = (p.run m).machine.elapsed :=
    hhost ▸ HostPlan.duration_ofTrace limit m.interpreter hends
  have hreport : s.toolchain.host.outcome = (p.run m).ending.report? m.interpreter.room :=
    hhost ▸ HostPlan.outcome_ofTrace limit m.interpreter (p.run m)
  have hstatus : s.toolchain.host.exitStatus = (p.host m).status := hhost ▸ rfl
  have helapsed : 0 ≤ (p.run m).machine.elapsed := hm ▸ p.elapsed_le_run m
  obtain ⟨output, hanswer⟩ := follow_verdict hp hcrash hstartup (hduration ▸ helapsed)
    (hduration ▸ htime) d diagnostics files start
  rw [hstatus, hreport] at hanswer
  exact ⟨_, hrun ▸ hanswer, verdict_tells p m hends output diagnostics⟩

end

/-- A sandbox that launches a host for any workspace at once. -/
def launching (host : HostPlan ℚ) : Sandbox ℚ where
  toolchain :=
    { compile := fun _ mode => .ok ⟨some ⟨mode, mode.entryPoint?⟩, []⟩
      compileTime := .done
      canLaunch := true
      host
      complete := fun _ _ => []
      inspect := fun _ _ => .ok none }
  defaultBudget := ⟨5, 15⟩
  pollInterval := 1 / 50

theorem isSome_handle_launching (host : HostPlan ℚ) (kind : String) (now : ℚ) :
    (((launching host).run ⟨kind, [⟨"", "", none⟩], [], [], none⟩ none now).handle).isSome =
      true := by
  have hopen : (⟨now, 5⟩ : Deadline ℚ).isExpired now = false :=
    (Deadline.isExpired_eq_false_iff _ _).mpr (lt_add_of_pos_right now (by norm_num))
  have hwait : (⟨now, 5⟩ : Deadline ℚ).waitFor now .done (1 / 50) = (true, now) := by
    rw [Deadline.waitFor_done, hopen]
    rfl
  let w : Workspace := ⟨kind, [⟨"", "", none⟩], [], [], none⟩
  let mode := Mode.ofKind kind
  have hcompile : w.compile (launching host).toolchain =
      .ok ⟨mode, some ⟨mode, mode.entryPoint?⟩, []⟩ := rfl
  have hrun : (launching host).run w none now = (launching host).launch w ⟨5, 15⟩ ⟨now, 5⟩ [] now :=
    (run_of_compiled hwait hcompile rfl).trans (if_pos rfl)
  rw [hrun, launch_of_written rfl rfl]
  exact (follow_course rfl [] _ now).2

end Sandbox

end Playground
