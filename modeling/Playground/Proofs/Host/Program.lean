import Mathlib.Algebra.Order.Ring.Rat
import Playground.Host.Program
import Playground.Proofs.Host.Control
import Playground.Proofs.Host.Description

/-!
# How programs end, and what their hosts tell of it

A program does its actions in order and no others, time never goes back meanwhile, and it ends
normally only if all of its module was done. Its host says that it is ready before the first action,
and reports at most once, after the last one.

- `runAll_cons`: what one action comes to; what holds of whole runs follows by induction.
- `Program.EndsWith` and `run_endsWith_iff`: the normal endings of a program.
- `Exception.AsksForSuccess`: the exceptions that count as success.
- `Ending.Calls` and `calls_report?`: the report that an ending calls for, if there is one.
- `Trace.Reports` and `reports_ofExecution`: what a host tells, and when.
-/

namespace Playground.Host

section

variable {τ : Type} [TimeScale τ]

/-! ## Actions -/

namespace Action

/-- No action takes back time. -/
theorem elapsed_le_run (s : Setting) (m : Machine ℚ) (a : Action ℚ) :
    m.elapsed ≤ (a.run s m).1.elapsed := by
  cases a with
  | sleep seconds =>
    simp only [run]
    split
    · exact le_rfl
    · next h => exact le_add_of_nonneg_right (not_lt.mp h)
  | _ =>
    simp only [run, writeConsole, Machine.print]
    repeat' split
    all_goals exact le_rfl

/-- Only the actions of an entry point return. -/
theorem run_ne_returned {s : Setting} (hs : s.inEntry = false) (m : Machine τ) (a : Action τ)
    (v : Value) : (a.run s m).2 ≠ .returned v := by
  cases a with
  | value _ => simp [run, hs]
  | _ =>
    simp only [run, writeConsole, Machine.print, send, leave]
    repeat' split
    all_goals exact nofun

/-- What doing actions comes to by the first one: the others are done where it leaves off, or it
ends them all. -/
theorem runAll_cons (s : Setting) (m : Machine τ) (last : Value) (a : Action τ)
    (rest : List (Action τ)) :
    (∃ v, (a.run s m).2 = .finished v ∧ ∃ done,
        done = runAll (settingAfter s a) (a.run s m).1 v rest ∧
        runAll s m last (a :: rest) = { done with begun := a :: done.begun }) ∨
      (∀ v, (a.run s m).2 ≠ .finished v) ∧
        runAll s m last (a :: rest) = ⟨[a], (a.run s m).1, (a.run s m).2⟩ := by
  rw [runAll]
  split
  · next m' v h => exact .inl ⟨v, by rw [h], _, by rw [h], rfl⟩
  · next m' ending hnot h =>
    rw [h]
    exact .inr ⟨fun v hv => hnot v hv, rfl⟩

/-- The actions that are begun are the first ones; all of them are begun where all are done. -/
theorem runAll_begun (s : Setting) (m : Machine τ) (last : Value) (actions : List (Action τ)) :
    (runAll s m last actions).begun <+: actions ∧
      ∀ v, (runAll s m last actions).ending = .finished v →
        (runAll s m last actions).begun = actions := by
  induction actions generalizing s m last with
  | nil => exact ⟨List.prefix_rfl, fun _ _ => rfl⟩
  | cons a rest ih =>
    obtain ⟨v, -, done, rfl, hdone⟩ | ⟨hnot, hdone⟩ := runAll_cons s m last a rest
    · obtain ⟨hfirst, hall⟩ := ih (settingAfter s a) (a.run s m).1 v
      rw [hdone]
      exact ⟨List.cons_prefix_cons.mpr ⟨rfl, hfirst⟩, fun v hv => congrArg (a :: ·) (hall v hv)⟩
    · rw [hdone]
      exact ⟨List.cons_prefix_cons.mpr ⟨rfl, List.nil_prefix⟩, fun v hv => absurd hv (hnot v)⟩

/-- Time does not go back while actions are done. -/
theorem elapsed_le_runAll (s : Setting) (m : Machine ℚ) (last : Value) (actions : List (Action ℚ)) :
    m.elapsed ≤ (runAll s m last actions).machine.elapsed := by
  induction actions generalizing s m last with
  | nil => exact le_rfl
  | cons a rest ih =>
    obtain ⟨v, -, done, rfl, hdone⟩ | ⟨-, hdone⟩ := runAll_cons s m last a rest
    · rw [hdone]
      exact (elapsed_le_run s m a).trans (ih _ _ _)
    · rw [hdone]
      exact elapsed_le_run s m a

/-- At the top of a module nothing returns. -/
theorem runAll_ne_returned {s : Setting} (hs : s.inEntry = false) (m : Machine τ) (last : Value)
    (actions : List (Action τ)) (v : Value) : (runAll s m last actions).ending ≠ .returned v := by
  induction actions generalizing s m last with
  | nil => exact nofun
  | cons a rest ih =>
    obtain ⟨w, -, done, rfl, hdone⟩ | ⟨-, hdone⟩ := runAll_cons s m last a rest
    · have hafter : (settingAfter s a).inEntry = false := hs
      rw [hdone]
      exact ih hafter _ _
    · rw [hdone]
      exact run_ne_returned hs m a v

end Action

/-! ## Endings -/

namespace Ending

/-- An ending that nothing brought about but the end of the program, which came to a value. -/
def IsNormal (ending : Ending) (v : Value) : Prop :=
  ending = .finished v ∨ ending = .returned v

section

variable {ending : Ending} {v : Value}

theorem IsNormal.eq {w : Value} (h : ending.IsNormal v) (hw : ending.IsNormal w) : w = v := by
  obtain rfl | rfl := h <;> obtain h | h := hw <;> cases h <;> rfl

theorem IsNormal.ne_raised (h : ending.IsNormal v) (e : Exception) : ending ≠ .raised e := by
  obtain rfl | rfl := h <;> exact nofun

theorem IsNormal.ne_ended (h : ending.IsNormal v) (status : Int) : ending ≠ .ended status := by
  obtain rfl | rfl := h <;> exact nofun

end

/-- Whatever leaves a coroutine without an exception is what it ended with. -/
theorem eq_of_leavingCoroutine {interrupted : Bool} {ending left : Ending}
    (h : ending.leavingCoroutine interrupted = left) (hnot : ∀ e, left ≠ .raised e) :
    ending = left := by
  subst h
  cases ending with
  | finished v | returned v =>
    cases interrupted with
    | false => rfl
    | true => exact absurd rfl (hnot _)
  | raised e =>
    simp only [leavingCoroutine] at hnot ⊢
    split at hnot <;> exact absurd rfl (hnot _)
  | ended status | stopped => rfl

theorem ofEntry_ne_finished (ending : Ending) (v : Value) : ending.ofEntry ≠ .finished v := by
  cases ending <;> exact nofun

end Ending

/-! ## Modules and entry points -/

namespace Execution

variable (moduleName : String) (isCoroutine : Bool)

/-- The first actions are begun, as far as it goes. -/
theorem ofActions_begun (inEntry : Bool) (m : Machine τ) (actions : List (Action τ)) :
    (ofActions moduleName inEntry isCoroutine m actions).begun <+: actions :=
  (Action.runAll_begun _ m .none actions).1

/-- Time does not go back. -/
theorem elapsed_le_ofActions (inEntry : Bool) (m : Machine ℚ) (actions : List (Action ℚ)) :
    m.elapsed ≤ (ofActions moduleName inEntry isCoroutine m actions).machine.elapsed :=
  Action.elapsed_le_runAll _ m .none actions

/-- A module that was done to its end has done everything. -/
theorem begun_of_ofActions_finished {m : Machine τ} {actions : List (Action τ)} {v : Value}
    (h : (ofActions moduleName false isCoroutine m actions).ending = .finished v) :
    (ofActions moduleName false isCoroutine m actions).begun = actions := by
  refine (Action.runAll_begun _ m .none actions).2 v ?_
  cases isCoroutine with
  | false => exact h
  | true => exact Ending.eq_of_leavingCoroutine h nofun

/-- A module does not return. -/
theorem ofActions_ne_returned (m : Machine τ) (actions : List (Action τ)) (v : Value) :
    (ofActions moduleName false isCoroutine m actions).ending ≠ .returned v := by
  have hnot := Action.runAll_ne_returned (s := ⟨moduleName, false, isCoroutine, false⟩) rfl m
    .none actions v
  cases isCoroutine with
  | false => exact hnot
  | true => exact fun h => hnot (Ending.eq_of_leavingCoroutine h nofun)

/-- An entry point does not go on to its end without returning. -/
theorem ofActions_ne_finished (m : Machine τ) (actions : List (Action τ)) (v : Value) :
    (ofActions moduleName true isCoroutine m actions).ending ≠ .finished v := by
  cases isCoroutine with
  | false => exact Ending.ofEntry_ne_finished _ v
  | true =>
    exact fun h => Ending.ofEntry_ne_finished _ v (Ending.eq_of_leavingCoroutine h nofun)

end Execution

/-! ## Programs -/

namespace Program

/-- A program ends normally, and comes to a value: a script has done all that it does, and the entry
point of a program returns once all of its module was loaded. -/
def EndsWith (p : Program τ) (done : Execution τ) (v : Value) : Prop :=
  match p.mode with
  | .script => done.begun = p.body ∧ done.ending = .finished v
  | .program => p.load <+: done.begun ∧ done.ending = .returned v

variable (p : Program τ)

/-- What a script comes to. -/
theorem run_script {p : Program τ} (hmode : p.mode = .script) (m : Machine τ) :
    p.run m = .ofActions Mode.script.moduleName false (p.body.any Action.isAwait) m p.body := by
  rw [run, hmode]

/-- What a program comes to: its entry point follows on its module, or the module ends it. -/
theorem run_program {p : Program τ} (hmode : p.mode = .program) (m : Machine τ) :
    ∃ loaded, loaded = Execution.ofActions Mode.program.moduleName false false m p.load ∧
      ((∃ v done, loaded.ending = .finished v ∧
          done = Execution.ofActions Mode.program.moduleName true p.isAsync loaded.machine p.body ∧
          p.run m = { done with begun := loaded.begun ++ done.begun }) ∨
        (∀ v, loaded.ending ≠ .finished v) ∧ p.run m = loaded) := by
  refine ⟨_, rfl, ?_⟩
  rw [run, hmode]
  dsimp only
  split
  · next v h => exact .inl ⟨v, _, h, rfl, rfl⟩
  · next hnot => exact .inr ⟨fun v h => hnot v h, rfl⟩

/-- A program ends normally iff it goes on to its end or returns. -/
theorem run_endsWith_iff (m : Machine τ) (v : Value) :
    p.EndsWith (p.run m) v ↔ (p.run m).ending.IsNormal v := by
  unfold EndsWith Ending.IsNormal
  cases hmode : p.mode with
  | script =>
    rw [run_script hmode]
    constructor
    · exact fun h => .inl h.2
    · rintro (h | h)
      · exact ⟨Execution.begun_of_ofActions_finished _ _ h, h⟩
      · exact absurd h (Execution.ofActions_ne_returned _ _ m p.body v)
  | program =>
    obtain ⟨loaded, hloaded, ⟨w, done, hend, hdone, hrun⟩ | ⟨hnot, hrun⟩⟩ := run_program hmode m
    -- the entry point is called once all of the module was done
    · have hbegun : loaded.begun = p.load := by
        subst hloaded
        exact Execution.begun_of_ofActions_finished _ _ hend
      rw [hrun]
      constructor
      · exact fun h => .inr h.2
      · rintro (h | h)
        · subst hdone
          exact absurd h (Execution.ofActions_ne_finished _ _ _ p.body v)
        · exact ⟨hbegun ▸ List.prefix_append _ _, h⟩
    -- a module that does not come to its end does not return either
    · have hreturned : loaded.ending ≠ .returned v := by
        subst hloaded
        exact Execution.ofActions_ne_returned _ _ m p.load v
      rw [hrun]
      constructor
      · exact fun h => absurd h.2 hreturned
      · rintro (h | h)
        · exact absurd h (hnot v)
        · exact absurd h hreturned

/-- The actions of a program, in the order in which they stand. -/
def actions {τ : Type} (p : Program τ) : List (Action τ) :=
  match p.mode with
  | .script => p.body
  | .program => p.load ++ p.body

/-- The first actions of a program are begun, as far as it goes. -/
theorem begun_run (m : Machine τ) : (p.run m).begun <+: p.actions := by
  unfold actions
  cases hmode : p.mode with
  | script =>
    rw [run_script hmode]
    exact Execution.ofActions_begun _ _ _ m p.body
  | program =>
    obtain ⟨loaded, rfl, ⟨v, done, hend, rfl, hrun⟩ | ⟨-, hrun⟩⟩ := run_program hmode m
    · rw [hrun]
      show (_ ++ _) <+: p.load ++ p.body
      rw [Execution.begun_of_ofActions_finished _ _ hend]
      exact (List.prefix_append_right_inj p.load).mpr (Execution.ofActions_begun _ _ _ _ p.body)
    · rw [hrun]
      exact (Execution.ofActions_begun _ _ _ m p.load).trans (List.prefix_append _ _)

/-- Time does not go back while a program runs. -/
theorem elapsed_le_run (p : Program ℚ) (m : Machine ℚ) : m.elapsed ≤ (p.run m).machine.elapsed := by
  cases hmode : p.mode with
  | script =>
    rw [run_script hmode]
    exact Execution.elapsed_le_ofActions _ _ _ m p.body
  | program =>
    obtain ⟨loaded, rfl, ⟨_, done, -, rfl, hrun⟩ | ⟨-, hrun⟩⟩ := run_program hmode m
    · rw [hrun]
      exact (Execution.elapsed_le_ofActions _ _ _ m p.load).trans
        (Execution.elapsed_le_ofActions _ _ _ _ p.body)
    · rw [hrun]
      exact Execution.elapsed_le_ofActions _ _ _ m p.load

end Program

end

/-! ## Reports -/

/-- The code of an exit: nothing, its argument, or all of its arguments. -/
def Exception.exitCode (e : Exception) : Value :=
  match e.args with
  | [] => .none
  | [v] => v
  | vs => .tuple vs

/-- An exit asks for success if its code is nothing or equal to zero. -/
def Exception.AsksForSuccess (e : Exception) : Prop :=
  e.isOf "SystemExit" = true ∧ (e.exitCode = .none ∨ e.exitCode.asInt? = some 0)

namespace Program

theorem isNormalExit_iff (e : Exception) : isNormalExit e = true ↔ e.AsksForSuccess := by
  unfold isNormalExit Exception.AsksForSuccess Exception.exitCode
  rw [Bool.and_eq_true]
  refine and_congr_right fun _ => ?_
  match e.args with
  | [] => simp
  | [v] => cases v <;> simp [Value.asInt?, Value.index?]
  | _ :: _ :: _ => simp [Value.asInt?, Value.index?]

variable (room : Site → Nat)

/-- The exception for a value without a text is no exit, and can be described. -/
theorem reportException_ofShowError (cause : ShowError) :
    ∃ text, (Exception.ofShowError cause).describe room = .ok text ∧
      reportException room (.ofShowError cause) = .ok ⟨some text, none⟩ := by
  have hplain : (Exception.ofShowError cause).IsPlain room := nofun
  obtain ⟨text, htext⟩ := hplain.exists_describe
  have hexit : isNormalExit (.ofShowError cause) = false := by
    cases cause <;> rfl
  refine ⟨text, htext, ?_⟩
  rw [reportException, hexit, htext]
  rfl

/-- An exception that cannot be described is not reported. -/
theorem reportException_of_undescribed {room : Site → Nat} {e f : Exception}
    (hnot : ¬ e.AsksForSuccess) (h : e.describe room = .error f) :
    reportException room e = .error f := by
  rw [reportException, if_neg (mt (isNormalExit_iff e).mp hnot), h]
  rfl

/-- A value that is something is shown, or the exception that it has no text is reported. -/
theorem reportValue_of_ne {v : Value} (hv : v ≠ .none) :
    reportValue room v =
      match v.shown (room .report) with
      | .ok text => .ok ⟨none, some text⟩
      | .error cause => reportException room (.ofShowError cause) := by
  cases v with
  | none => exact absurd rfl hv
  | _ => rfl

end Program

namespace Ending

/-- What a host reports on an ending: nothing if the process has ended at once, or is stopped, or if
the exception cannot be described. -/
def report? (room : Site → Nat) : Ending → Option HostOutcome
  | .ended _ | .stopped => none
  | ending => (Program.report room ending).toOption

/-- The report that an ending calls for, or that there is none. -/
inductive Calls (room : Site → Nat) : Ending → Option HostOutcome → Prop
  | nothing {ending : Ending} : ending.IsNormal .none → Calls room ending (some ⟨none, none⟩)
  | shown {ending : Ending} {v : Value} {text : String} : ending.IsNormal v → v ≠ .none →
      v.shown (room .report) = .ok text → Calls room ending (some ⟨none, some text⟩)
  /-- A value without a text counts as the exception that it has none. -/
  | notShown {ending : Ending} {v : Value} {cause : ShowError} {text : String} :
      ending.IsNormal v → v ≠ .none → v.shown (room .report) = .error cause →
      (Exception.ofShowError cause).describe room = .ok text →
      Calls room ending (some ⟨some text, none⟩)
  | success {e : Exception} : e.AsksForSuccess → Calls room (.raised e) (some ⟨none, none⟩)
  | described {e : Exception} {text : String} : ¬ e.AsksForSuccess →
      e.describe room = .ok text → Calls room (.raised e) (some ⟨some text, none⟩)
  | undescribed {e f : Exception} : ¬ e.AsksForSuccess → e.describe room = .error f →
      Calls room (.raised e) none
  | ended (status : Int) : Calls room (.ended status) none
  | stopped : Calls room .stopped none

variable {room : Site → Nat} {ending : Ending}

theorem calls_of_isNormal {v : Value} (h : ending.IsNormal v) :
    Calls room ending (Program.reportValue room v).toOption := by
  by_cases hv : v = .none
  · subst hv
    exact .nothing h
  · rw [Program.reportValue_of_ne room hv]
    cases hshown : v.shown (room .report) with
    | ok text => exact .shown h hv hshown
    | error cause =>
      obtain ⟨text, hdescribe, hreport⟩ := Program.reportException_ofShowError room cause
      dsimp only
      rw [hreport]
      exact .notShown h hv hshown hdescribe

theorem calls_of_raised (e : Exception) :
    Calls room (.raised e) (Program.reportException room e).toOption := by
  by_cases hsuccess : e.AsksForSuccess
  · rw [Program.reportException, if_pos ((Program.isNormalExit_iff e).mpr hsuccess)]
    exact .success hsuccess
  · rw [Program.reportException, if_neg (mt (Program.isNormalExit_iff e).mp hsuccess)]
    cases hdescribe : e.describe room with
    | ok text => exact .described hsuccess hdescribe
    | error f => exact .undescribed hsuccess hdescribe

/-- Hosts report as the ending calls for. -/
theorem calls_report? (room : Site → Nat) (ending : Ending) :
    Calls room ending (ending.report? room) := by
  cases ending with
  | finished v => exact calls_of_isNormal (.inl rfl)
  | returned v => exact calls_of_isNormal (.inr rfl)
  | raised e => exact calls_of_raised e
  | ended status => exact .ended status
  | stopped => exact .stopped

-- a script ends with a list in which there is no room left for the element
example : (finished (.list [.none])).report? (fun _ => 1) =
    some ⟨some ("RecursionError: maximum recursion depth exceeded " ++
      "while getting the repr of an object"), none⟩ := by
  rfl

/-- No report has both an exception and a value. -/
theorem Calls.exclusive {o : HostOutcome} (h : Calls room ending (some o)) :
    o.exception = none ∨ o.returnValue = none := by
  cases h with
  | nothing _ | shown _ _ _ => exact .inl rfl
  | notShown _ _ _ _ | success _ | described _ _ => exact .inr rfl

/-- An ending by an exception that cannot be described. -/
def IsUndescribed (room : Site → Nat) (ending : Ending) : Prop :=
  ∃ e f, ending = .raised e ∧ ¬ e.AsksForSuccess ∧ e.describe room = .error f

theorem Calls.eq_none (h : Calls room ending none) :
    (∃ status, ending = .ended status) ∨ ending = .stopped ∨ ending.IsUndescribed room := by
  cases h with
  | undescribed hnot hdescribe => exact .inr (.inr ⟨_, _, rfl, hnot, hdescribe⟩)
  | ended status => exact .inl ⟨status, rfl⟩
  | stopped => exact .inr (.inl rfl)

/-- There is no report iff the process has ended at once, or is stopped, or the exception cannot be
described. -/
theorem report?_eq_none_iff :
    ending.report? room = none ↔
      (∃ status, ending = .ended status) ∨ ending = .stopped ∨ ending.IsUndescribed room := by
  constructor
  · intro h
    exact (h ▸ calls_report? room ending).eq_none
  · rintro (⟨status, rfl⟩ | rfl | ⟨e, f, rfl, hnot, hdescribe⟩)
    · rfl
    · rfl
    · show (Program.reportException room e).toOption = none
      rw [Program.reportException_of_undescribed hnot hdescribe]
      rfl

end Ending

/-! ## Hosts -/

namespace Program

section

variable {τ : Type}

/-- What is done in order, when a host has reported `reports`. -/
def told (done : Execution τ) (reports : List HostOutcome) : List (Event τ) :=
  .line Control.ready :: done.begun.map .action ++
    reports.map fun o => .line (Control.reportLine o)

/-- Only the events of the host are on its channel. -/
theorem filterMap_told (done : Execution τ) (reports : List HostOutcome) :
    (told done reports).filterMap Event.line? =
      Control.ready :: reports.map Control.reportLine := by
  simp [told, List.filterMap_append, List.filterMap_map, Function.comp_def, Event.line?]

namespace Trace

variable {t : Trace τ} {done : Execution τ}

/-- The lines that a host leaves on its channel are whole, and can be told apart. -/
theorem lines_channel {reports : List HostOutcome} (h : t.events = told done reports) :
    Control.lines t.channel.toList =
      (Control.ready :: reports.map Control.reportLine).map String.toList ++ [[]] := by
  have hchannel : t.channel.toList =
      ((Control.ready :: reports.map Control.reportLine).map String.toList).flatMap
        (· ++ ['\n']) := by
    simp [channel, h, filterMap_told, String.toList_join, List.flatMap_map]
  rw [hchannel]
  refine Control.lines_flatMap ?_
  simp [Control.isWhole_ready, Control.isWhole_reportLine]

/-- Reading the channel gives the report back, if there is one. -/
theorem read_channel {o : Option HostOutcome} (h : t.events = told done o.toList) :
    Control.read t.channel = ⟨true, o.map .ofOutcome, none⟩ := by
  cases o with
  | none =>
    have hchannel : t.channel = Control.ready ++ "\n" := by
      simp [channel, h, filterMap_told, String.join]
    rw [hchannel, Control.read_ready]
    rfl
  | some o =>
    have hchannel : t.channel = Control.channel o := by
      simp [channel, h, filterMap_told, String.join, Control.channel, String.append_assoc]
    rw [hchannel, Control.read_channel]
    rfl

variable (i : Interpreter) (done)

/-- A host reports at most once, and only if it can. -/
theorem events_ofExecution :
    (ofExecution i done).events = told done (done.ending.report? i.room).toList := by
  obtain ⟨begun, machine, ending⟩ := done
  cases ending with
  | ended status | stopped => simp [ofExecution, told, Ending.report?]
  | finished v | returned v | raised e =>
    simp only [ofExecution, Ending.report?]
    split <;> simp [told, *, Except.toOption]

/-- What a host tells of its program: it says that it is ready before the first action, reports at
most once after the last one, and says nothing else. -/
structure Reports (room : Site → Nat) (t : Trace τ) (done : Execution τ)
    (reports : List HostOutcome) : Prop where
  events : t.events = told done reports
  lines : Control.lines t.channel.toList =
    (Control.ready :: reports.map Control.reportLine).map String.toList ++ [[]]
  atMostOne : reports.length ≤ 1
  exclusive : ∀ o ∈ reports, o.exception = none ∨ o.returnValue = none
  /-- It is only silent on a process that has ended at once, or is stopped, and on an exception that
  it cannot describe. -/
  silent : reports = [] ↔ (∃ status, done.ending = .ended status) ∨ done.ending = .stopped ∨
    done.ending.IsUndescribed room

/-- Hosts report as they should. -/
theorem reports_ofExecution :
    (ofExecution i done).Reports i.room done (done.ending.report? i.room).toList where
  events := events_ofExecution done i
  lines := lines_channel (events_ofExecution done i)
  atMostOne := Option.length_toList_le
  exclusive o ho := by
    rw [Option.mem_toList] at ho
    exact (ho ▸ Ending.calls_report? i.room done.ending).exclusive
  silent := by
    rw [Option.toList_eq_nil_iff, Ending.report?_eq_none_iff]

/-- A process that ends at once has the status that it ends with. -/
theorem status_of_ended {i : Interpreter} {done : Execution τ} {n : Int}
    (h : done.ending = .ended n) : (ofExecution i done).status = n := by
  rw [ofExecution, h]

/-- A host that cannot describe an exception fails. -/
theorem status_of_isUndescribed {i : Interpreter} {done : Execution τ}
    (h : done.ending.IsUndescribed i.room) : (ofExecution i done).status = 1 := by
  obtain ⟨e, f, hending, hnot, hdescribe⟩ := h
  simp only [ofExecution, hending, report, reportException_of_undescribed hnot hdescribe]

/-- Whatever the host writes in the end takes no time. -/
theorem elapsed_ofExecution : (ofExecution i done).machine.elapsed = done.machine.elapsed := by
  obtain ⟨begun, machine, ending⟩ := done
  cases ending with
  | ended status | stopped => rfl
  | finished v | returned v | raised e =>
    simp only [ofExecution]
    split <;> rfl

/-- A process ends unless it is stopped. -/
theorem ends_ofExecution {done : Execution τ} (h : done.ending ≠ .stopped) :
    (ofExecution i done).ends = true := by
  obtain ⟨begun, machine, ending⟩ := done
  cases ending with
  | stopped => exact absurd rfl h
  | ended status => rfl
  | finished v | returned v | raised e =>
    simp only [ofExecution]
    split <;> rfl

end Trace

end

end Program

end Playground.Host
