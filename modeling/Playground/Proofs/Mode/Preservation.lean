import Playground.Mode.Evaluation
import Playground.Proofs.Host.Program

/-!
# What a script keeps

A script that ends with an expression is changed to keep its value under a name, which the host
looks up after the run. The change makes no other difference: the run has the same effects and ends
in the same way, wherever it ends.

- `Ran.SameBut`: two runs that differ in what some names are bound to, and in nothing else.
- `runBody_append`: a body runs part by part.
- `sameBut_keepingValue`: keeping the value of a statement makes a difference to two names only.
- `keptValue?_eq_some_iff`: the host finds the value of the last expression, and finds one only if
  the run reaches its end.
- `runAll_eq_runModule`: what a host makes of the actions of a script is what comes of their
  statements, so changed.
- `KeepsMeaning` and `keepLastValue_preserves`: all of this for a script.
-/

namespace Playground

/-! ## Runs one after another -/

namespace Ran

variable {η ρ κ α β γ : Type}

@[simp] theorem andThen_done (r : Ran η ρ κ Unit) :
    (r.andThen fun _ state => done () state) = r := by
  obtain ⟨effects, state, result⟩ := r
  cases result with
  | error cause => rfl
  | ok value => simp [andThen, done]

@[simp] theorem done_andThen (value : α) (state : ρ) (next : α → ρ → Ran η ρ κ β) :
    (done value state).andThen next = next value state := by
  simp [andThen, done]

theorem andThen_assoc (r : Ran η ρ κ α) (f : α → ρ → Ran η ρ κ β) (g : β → ρ → Ran η ρ κ γ) :
    (r.andThen f).andThen g = r.andThen fun v state => (f v state).andThen g := by
  obtain ⟨effects, state, result⟩ := r
  cases result with
  | error cause => rfl
  | ok value =>
    simp only [andThen]
    cases hresult : (f value state).result with
    | error cause => rfl
    | ok v => simp [List.append_assoc]

/-- What goes on has ended well iff both of its parts have. -/
theorem result_andThen_eq_ok_iff {r : Ran η ρ κ α} {next : α → ρ → Ran η ρ κ β} {b : β} :
    (r.andThen next).result = .ok b ↔
      ∃ a, r.result = .ok a ∧ (next a r.state).result = .ok b := by
  obtain ⟨effects, state, result⟩ := r
  cases result with
  | error cause => simp [andThen]
  | ok value => simp [andThen]

end Ran

/-! ## Runs that differ in some names only -/

section

variable {ν ω η κ α β : Type}

/-- Two runs differ in what some names are bound to, and in nothing else. -/
structure Ran.SameBut (names : List String) (r r' : Ran η (ModuleState ν ω) κ α) : Prop where
  effects : r.effects = r'.effects
  world : r.state.world = r'.state.world
  result : r.result = r'.result
  bound : ∀ name, name ∉ names → r.state.names name = r'.state.names name

namespace Ran.SameBut

variable {names : List String}

theorem refl (r : Ran η (ModuleState ν ω) κ α) : r.SameBut names r :=
  ⟨rfl, rfl, rfl, fun _ _ => rfl⟩

theorem symm {r r' : Ran η (ModuleState ν ω) κ α} (h : r.SameBut names r') :
    r'.SameBut names r :=
  ⟨h.effects.symm, h.world.symm, h.result.symm, fun name hname => (h.bound name hname).symm⟩

theorem trans {names' : List String} {r r' r'' : Ran η (ModuleState ν ω) κ α}
    (h : r.SameBut names r') (h' : r'.SameBut names' r'') : r.SameBut (names ++ names') r'' := by
  refine ⟨h.effects.trans h'.effects, h.world.trans h'.world, h.result.trans h'.result, ?_⟩
  intro name hname
  rw [List.mem_append, not_or] at hname
  exact (h.bound name hname.1).trans (h'.bound name hname.2)

/-- What differs in some names only does so after a common beginning too. -/
theorem andThen (r : Ran η (ModuleState ν ω) κ α)
    {next next' : α → ModuleState ν ω → Ran η (ModuleState ν ω) κ β}
    (h : ∀ v, r.result = .ok v → (next v r.state).SameBut names (next' v r.state)) :
    (r.andThen next).SameBut names (r.andThen next') := by
  obtain ⟨effects, state, result⟩ := r
  cases result with
  | error cause => exact .refl _
  | ok value =>
    obtain ⟨heffects, hworld, hresult, hbound⟩ := h value rfl
    exact ⟨congrArg (effects ++ ·) heffects, hworld, hresult, hbound⟩

end Ran.SameBut

theorem Names.bind_of_ne (names : Names ν) {name other : String} (h : other ≠ name) (v : ν) :
    names.bind name v other = names other :=
  if_neg h

@[simp] theorem Names.bind_self (names : Names ν) (name : String) (v : ν) :
    names.bind name v name = some v :=
  if_pos rfl

end

/-! ## Bodies -/

variable {ε σ ν ω η κ : Type}

theorem keepLastValue_concat (body : List (TopStatement ε σ)) (s : TopStatement ε σ) :
    keepLastValue (body ++ [s]) = body ++ [s.keepingValue] := by
  induction body with
  | nil => rfl
  | cons t rest ih =>
    cases rest with
    | nil => rfl
    | cons u rest => exact congrArg (t :: ·) ih

/-- A statement keeps its place. -/
@[simp] theorem TopStatement.place_keepingValue (s : TopStatement ε σ) :
    s.keepingValue.place = s.place := by
  unfold TopStatement.keepingValue
  split <;> rfl

/-- A statement that keeps its value documents nothing. -/
theorem TopStatement.documenting_keepingValue (s : TopStatement ε σ) :
    s.keepingValue.documenting = s.keepingValue := by
  obtain ⟨place, form⟩ := s
  cases form <;> rfl

namespace Meaning

variable (m : Meaning ε σ ν ω η κ)

/-- A body runs part by part. -/
theorem runBody_append (state : ModuleState ν ω) (first second : List (TopStatement ε σ)) :
    m.runBody state (first ++ second) =
      (m.runBody state first).andThen fun _ state => m.runBody state second := by
  induction first generalizing state with
  | nil =>
    rw [runBody, Ran.done_andThen]
    rfl
  | cons s rest ih =>
    show (m.runForm s.form state).andThen (fun _ state => m.runBody state (rest ++ second)) = _
    rw [runBody, Ran.andThen_assoc]
    congr 1
    funext _ state
    exact ih state

theorem runBody_concat (state : ModuleState ν ω) (body : List (TopStatement ε σ))
    (s : TopStatement ε σ) :
    m.runBody state (body ++ [s]) =
      (m.runBody state body).andThen fun _ state => m.runForm s.form state := by
  rw [runBody_append]
  congr 1
  funext _ state
  exact Ran.andThen_done _

/-- A run of a module without its last statement, and then that statement. It documents the module
if it is the only one. -/
theorem runModule_concat (state : ModuleState ν ω) (body : List (TopStatement ε σ))
    (s : TopStatement ε σ) :
    m.runModule (body ++ [s]) state =
      (m.runModule body state).andThen fun _ state =>
        m.runForm (if body = [] then s.documenting else s).form state := by
  have hdocumented : documented (body ++ [s]) =
      documented body ++ [if body = [] then s.documenting else s] := by
    cases body <;> rfl
  rw [runModule, hdocumented, runBody_concat]
  rfl

/-! ## Names that statements bind -/

/-- A statement does not bind a name. -/
def Spares (name : String) (s : TopStatement ε σ) : Prop :=
  ∀ state, (m.runForm s.form state).state.names name = state.names name

variable {m} {name : String}

theorem Spares.documenting {s : TopStatement ε σ} (h : m.Spares name s)
    (hname : name ≠ documentationName) : m.Spares name s.documenting := by
  intro state
  have hs := h state
  unfold TopStatement.documenting
  split
  case h_2 => exact hs
  case h_1 value hform =>
    rw [hform] at hs
    cases hresult : (m.evaluate value state).result with
    | error cause => simpa [runForm, Ran.andThen, hresult] using hs
    | ok v =>
      simpa [runForm, Ran.andThen, Ran.done, hresult, Names.bind_of_ne _ hname] using hs

/-- What no statement binds is bound to what it was bound to. -/
theorem names_runBody {body : List (TopStatement ε σ)} (h : ∀ s ∈ body, m.Spares name s)
    (state : ModuleState ν ω) : (m.runBody state body).state.names name = state.names name := by
  induction body generalizing state with
  | nil => rfl
  | cons s rest ih =>
    have hs := h s List.mem_cons_self state
    have hrest := ih (fun t ht => h t (List.mem_cons_of_mem _ ht))
    rw [runBody, Ran.andThen]
    cases hresult : (m.runForm s.form state).result with
    | error cause => exact hs
    | ok _ => exact (hrest _).trans hs

theorem names_runModule {body : List (TopStatement ε σ)} (h : ∀ s ∈ body, m.Spares name s)
    (hname : name ≠ documentationName) (state : ModuleState ν ω) :
    (m.runModule body state).state.names name = state.names name := by
  refine names_runBody (fun s hs => ?_) state
  cases body with
  | nil => cases hs
  | cons t rest =>
    rcases List.mem_cons.mp hs with rfl | hs
    · exact (h t List.mem_cons_self).documenting hname
    · exact h s (List.mem_cons_of_mem _ hs)

/-! ## Keeping a value -/

variable (m)

/-- Whether a value is dropped or kept under a name makes a difference to that name only. -/
theorem sameBut_store (target : String) (isText : Bool) (value : ε) (state : ModuleState ν ω) :
    (m.runForm (.store target value) state).SameBut [target]
      (m.runForm (.expression isText value) state) := by
  simp only [runForm]
  refine .andThen _ fun v _ => ⟨rfl, rfl, rfl, fun name hname => ?_⟩
  exact Names.bind_of_ne _ (mt List.mem_singleton.mpr hname) v

theorem sameBut_keepingValue (s : TopStatement ε σ) (state : ModuleState ν ω) :
    (m.runForm s.keepingValue.form state).SameBut [returnValueName] (m.runForm s.form state) := by
  unfold TopStatement.keepingValue
  split
  case h_2 => exact .refl _
  case h_1 isText value hform =>
    rw [hform]
    exact m.sameBut_store _ _ _ _

theorem sameBut_documenting (s : TopStatement ε σ) (state : ModuleState ν ω) :
    (m.runForm s.documenting.form state).SameBut [documentationName] (m.runForm s.form state) := by
  unfold TopStatement.documenting
  split
  case h_2 => exact .refl _
  case h_1 value hform =>
    rw [hform]
    exact m.sameBut_store _ _ _ _

/-- Keeping the value of the last statement of a module makes a difference to two names only, and to
one only unless that statement is the first one too. -/
theorem sameBut_runModule (body : List (TopStatement ε σ)) (s : TopStatement ε σ)
    (state : ModuleState ν ω) :
    (m.runModule (body ++ [s.keepingValue]) state).SameBut
      (if body = [] then [returnValueName, documentationName] else [returnValueName])
      (m.runModule (body ++ [s]) state) := by
  rw [runModule_concat, runModule_concat, s.documenting_keepingValue, ite_self]
  refine Ran.SameBut.andThen _ fun _ _ => ?_
  split
  · exact (m.sameBut_keepingValue s _).trans (m.sameBut_documenting s _).symm
  · exact m.sameBut_keepingValue s _

/-! ## What the host finds -/

/-- Keeping a value goes on iff there is a value to keep. -/
theorem result_runForm_store_iff (target : String) (value : ε) (state : ModuleState ν ω) :
    (m.runForm (.store target value) state).result = .ok () ↔
      ∃ v, (m.evaluate value state).result = .ok v := by
  rw [runForm, Ran.result_andThen_eq_ok_iff]
  simp [Ran.done]

/-- After a last statement that keeps its value, the host finds that value if the run has come so
far. -/
theorem keptValue?_andThen_store (r : Ran η (ModuleState ν ω) κ Unit) (value : ε) (v : ν) :
    (r.andThen fun _ state => m.runForm (.store returnValueName value) state).keptValue? = some v ↔
      r.result = .ok () ∧ (m.evaluate value r.state).result = .ok v := by
  obtain ⟨effects, state, result⟩ := r
  cases result with
  | error cause => simp [Ran.andThen, Ran.keptValue?]
  | ok _ =>
    cases hresult : (m.evaluate value state).result with
    | error cause => simp [Ran.andThen, Ran.keptValue?, runForm, hresult]
    | ok u => simp [Ran.andThen, Ran.keptValue?, Ran.done, runForm, hresult]

end Meaning

/-- A statement that is an expression. -/
def TopStatement.IsExpression (s : TopStatement ε σ) : Prop :=
  ∃ isText value, s.form = .expression isText value

/-- The value of an expression is kept. -/
theorem TopStatement.form_keepingValue {s : TopStatement ε σ} {isText : Bool} {e : ε}
    (h : s.form = .expression isText e) : s.keepingValue.form = .store returnValueName e := by
  simp [TopStatement.keepingValue, h]

/-- Any other statement is left as it is. -/
theorem TopStatement.keepingValue_of_not {s : TopStatement ε σ} (h : ¬ s.IsExpression) :
    s.keepingValue = s := by
  unfold TopStatement.keepingValue
  split
  case h_1 isText value hform => exact absurd ⟨isText, value, hform⟩ h
  case h_2 => rfl

/-- The host of a program binds none of the names that scripts are changed to bind. -/
theorem ModuleState.names_ofHost (value : String → ν) (world : ω) :
    (ModuleState.ofHost value world).names returnValueName = none := by
  have hfree : returnValueName ∉ hostNames := by decide
  simp [ofHost, hfree]

/-- The host finds the value of the last statement of a script, if that is an expression and the run
has come so far, and nothing else. -/
theorem Meaning.keptValue?_eq_some_iff (m : Meaning ε σ ν ω η κ) {body : List (TopStatement ε σ)}
    {s : TopStatement ε σ} (hbody : ∀ t ∈ body ++ [s], m.Spares returnValueName t)
    {state : ModuleState ν ω} (hstart : state.names returnValueName = none) (v : ν) :
    (m.runModule (body ++ [s.keepingValue]) state).keptValue? = some v ↔
      ∃ isText e, s.form = .expression isText e ∧ (m.runModule body state).result = .ok () ∧
        (m.evaluate e (m.runModule body state).state).result = .ok v := by
  by_cases hs : s.IsExpression
  · obtain ⟨isText, e, hform⟩ := hs
    rw [runModule_concat, s.documenting_keepingValue, ite_self,
      TopStatement.form_keepingValue hform, keptValue?_andThen_store]
    constructor
    · intro h
      exact ⟨isText, e, hform, h⟩
    · rintro ⟨isText', e', hform', h⟩
      rw [hform] at hform'
      cases hform'
      exact h
  · rw [TopStatement.keepingValue_of_not hs]
    have hnone := names_runModule hbody (by decide) state
    rw [hstart] at hnone
    constructor
    · intro h
      unfold Ran.keptValue? at h
      split at h
      · rw [hnone] at h
        cases h
      · cases h
    · rintro ⟨isText, e, hform, -⟩
      exact absurd ⟨isText, e, hform⟩ hs

/-- So it finds something iff the run has reached its end and the last statement is an
expression. -/
theorem Meaning.isSome_keptValue?_iff (m : Meaning ε σ ν ω η κ) {body : List (TopStatement ε σ)}
    {s : TopStatement ε σ} (hbody : ∀ t ∈ body ++ [s], m.Spares returnValueName t)
    {state : ModuleState ν ω} (hstart : state.names returnValueName = none) :
    (m.runModule (body ++ [s.keepingValue]) state).keptValue?.isSome = true ↔
      (m.runModule (body ++ [s]) state).result = .ok () ∧ s.IsExpression := by
  rw [← (m.sameBut_runModule body s state).result, Option.isSome_iff_exists]
  simp only [m.keptValue?_eq_some_iff hbody hstart]
  rw [runModule_concat, s.documenting_keepingValue, ite_self, Ran.result_andThen_eq_ok_iff]
  constructor
  · rintro ⟨v, isText, e, hform, hbefore, hlast⟩
    refine ⟨⟨(), hbefore, ?_⟩, isText, e, hform⟩
    rw [TopStatement.form_keepingValue hform, m.result_runForm_store_iff]
    exact ⟨v, hlast⟩
  · rintro ⟨⟨_, hbefore, hlast⟩, isText, e, hform⟩
    rw [TopStatement.form_keepingValue hform, m.result_runForm_store_iff] at hlast
    obtain ⟨v, hv⟩ := hlast
    exact ⟨v, isText, e, hform, hbefore, hv⟩

/-! ## The actions of a script -/

namespace Host.Action

variable {τ : Type}

/-- Whether an action is an expression: all are but raising an exception and doing nothing. -/
def isExpression : Action τ → Bool
  | .raise .. | .raiseDefined .. | .pass => false
  | _ => true

/-- Whether an action is a text and nothing else. -/
def isText : Action τ → Bool
  | .value (.text _) => true
  | _ => false

/-- An action as a statement that stands somewhere. -/
def statement (place : Place) (a : Action τ) : TopStatement (Action τ) (Action τ) :=
  ⟨place, if a.isExpression then .expression a.isText a else .other a⟩

variable [TimeScale τ]

/-- Does an action as a part of a module. It is its own effect, and binds no name. -/
def ran (a : Action τ) (state : ModuleState Value (Setting × Machine τ)) :
    Ran (Action τ) (ModuleState Value (Setting × Machine τ)) Ending Value where
  effects := [a]
  state := { state with
    world := (settingAfter state.world.1 a, (a.run state.world.1 state.world.2).1) }
  result :=
    match (a.run state.world.1 state.world.2).2 with
    | .finished v => .ok v
    | ending => .error ending

/-- What actions do as expressions and as statements. -/
def meaning : Meaning (Action τ) (Action τ) Value (Setting × Machine τ) (Action τ) Ending where
  evaluate := ran
  execute a state := a.ran state |>.andThen fun _ state => .done () state

theorem runForm_statement (place : Place) (a : Action τ)
    (state : ModuleState Value (Setting × Machine τ)) :
    meaning.runForm (a.statement place).form state =
      (a.ran state).andThen fun _ state => .done () state := by
  unfold statement
  split <;> rfl

/-- An action binds no name. -/
theorem spares_statement (name : String) (place : Place) (a : Action τ) :
    meaning.Spares name (a.statement place) := by
  intro state
  rw [runForm_statement, Ran.andThen]
  split <;> rfl

/-- An action that is no expression has no value. -/
theorem eq_none_of_finished {a : Action τ} (ha : a.isExpression = false) {s : Setting}
    {machine machine' : Machine τ} {v : Value} (h : a.run s machine = (machine', .finished v)) :
    v = .none := by
  cases a with
  | pass =>
    simp only [run, Prod.mk.injEq, Ending.finished.injEq] at h
    exact h.2.symm
  | raise type args =>
    simp only [run] at h
    split at h <;> simp at h
  | raiseDefined type args => simp [run] at h
  | _ => cases ha

/-- The first of several statements, whether it documents the module or not, does the same as its
action, and binds nothing that the host looks up. -/
theorem runForm_first (place : Place) (a : Action τ) {s : TopStatement (Action τ) (Action τ)}
    (hs : s = a.statement place ∨ s = (a.statement place).documenting)
    (state : ModuleState Value (Setting × Machine τ)) :
    (meaning.runForm s.form state).SameBut [documentationName]
      ((a.ran state).andThen fun _ state => .done () state) := by
  rw [← runForm_statement place]
  rcases hs with rfl | rfl
  · exact .refl _
  · exact meaning.sameBut_documenting _ _

/-- What comes of a run as the host sees it: a run that has reached its end has the value that the
host finds, or none. -/
def executionOf (r : Ran (Action τ) (ModuleState Value (Setting × Machine τ)) Ending Unit) :
    Execution τ where
  begun := r.effects
  machine := r.state.world.2
  ending :=
    match r.result with
    | .ok _ => .finished (r.keptValue?.getD .none)
    | .error ending => ending

/-- What doing an action as a part of a module comes to. -/
theorem ran_of_finished {a : Action τ} {s : Setting} {machine : Machine τ} {v : Value}
    (h : (a.run s machine).2 = .finished v) (names : Names Value) :
    a.ran ⟨names, s, machine⟩ =
      ⟨[a], ⟨names, settingAfter s a, (a.run s machine).1⟩, .ok v⟩ := by
  simp [ran, h]

theorem ran_of_not {a : Action τ} {s : Setting} {machine : Machine τ}
    (h : ∀ v, (a.run s machine).2 ≠ .finished v) (names : Names Value) :
    a.ran ⟨names, s, machine⟩ =
      ⟨[a], ⟨names, settingAfter s a, (a.run s machine).1⟩, .error (a.run s machine).2⟩ := by
  unfold ran
  congr 1
  split
  case h_1 v hv => exact absurd hv (h v)
  case h_2 => rfl

/-- The last action of a script. -/
theorem runAll_last (place : Place) (a : Action τ) (s : Setting) (machine : Machine τ)
    (last : Value) {names : Names Value} (hnames : names returnValueName = none) :
    runAll s machine last [a] =
      executionOf (meaning.runForm (a.statement place).keepingValue.form ⟨names, s, machine⟩) := by
  by_cases ha : a.isExpression = true
  · have hform : (a.statement place).form = .expression a.isText a := if_pos ha
    rw [TopStatement.form_keepingValue hform, Meaning.runForm]
    obtain ⟨v, hv, done, rfl, hrun⟩ | ⟨hnot, hrun⟩ := runAll_cons s machine last a []
    · rw [hrun]
      simp [meaning, ran_of_finished hv, Ran.andThen, Ran.done, executionOf, Ran.keptValue?, runAll]
    · rw [hrun]
      simp [meaning, ran_of_not hnot, Ran.andThen, executionOf]
  · have hnot : ¬ (a.statement place).IsExpression := by
      simp [TopStatement.IsExpression, statement, ha]
    rw [TopStatement.keepingValue_of_not hnot, runForm_statement]
    obtain ⟨v, hv, done, rfl, hrun⟩ | ⟨hnot, hrun⟩ := runAll_cons s machine last a []
    · obtain rfl := eq_none_of_finished (by simpa using ha) (Prod.ext rfl hv)
      rw [hrun]
      simp [ran_of_finished hv, Ran.andThen, Ran.done, executionOf, Ran.keptValue?, runAll, hnames]
    · rw [hrun]
      simp [ran_of_not hnot, Ran.andThen, executionOf]

/-- The actions of a script are done as their statements are run. The induction is on the actions
after the first one: what the first one does is in the state in which the others are run. -/
theorem runAll_eq_runBody (place : Place) (rest : List (Action τ)) :
    ∀ (a : Action τ) (s : Setting) (machine : Machine τ) (last : Value) (names : Names Value)
      (body : List (TopStatement (Action τ) (Action τ))), names returnValueName = none →
      (body = keepLastValue ((a :: rest).map (statement place)) ∨
        body = documented (keepLastValue ((a :: rest).map (statement place)))) →
      runAll s machine last (a :: rest) =
        executionOf (meaning.runBody ⟨names, s, machine⟩ body) := by
  induction rest with
  | nil =>
    intro a s machine last names body hnames hbody
    have hone : body = [(a.statement place).keepingValue] := by
      rcases hbody with rfl | rfl
      · rfl
      · exact congrArg ([·]) (a.statement place).documenting_keepingValue
    rw [hone, Meaning.runBody]
    show _ = executionOf (Ran.andThen _ fun _ state => .done () state)
    rw [Ran.andThen_done]
    exact runAll_last place a s machine last hnames
  | cons b rest ih =>
    intro a s machine last names body hnames hbody
    obtain ⟨first, hfirst, hcons⟩ : ∃ first,
        (first = a.statement place ∨ first = (a.statement place).documenting) ∧
          body = first :: keepLastValue ((b :: rest).map (statement place)) := by
      rcases hbody with rfl | rfl
      · exact ⟨_, .inl rfl, rfl⟩
      · exact ⟨_, .inr rfl, rfl⟩
    obtain ⟨heffects, hworld, hresult, hbound⟩ := runForm_first place a hfirst ⟨names, s, machine⟩
    have hkept := hbound returnValueName (by decide)
    rw [hcons, Meaning.runBody]
    generalize meaning.runForm first.form ⟨names, s, machine⟩ = r at *
    obtain ⟨effects, ⟨names', s', machine'⟩, result⟩ := r
    obtain ⟨v, hv, done, rfl, hrun⟩ | ⟨hnot, hrun⟩ := runAll_cons s machine last a (b :: rest)
    · rw [ran_of_finished hv] at heffects hworld hresult hkept
      obtain ⟨rfl, rfl⟩ := Prod.ext_iff.mp hworld
      obtain rfl : effects = [a] := heffects
      obtain rfl : result = .ok () := hresult
      have hrest := ih b (settingAfter s a) (a.run s machine).1 v names' _ (hkept.trans hnames)
        (.inl rfl)
      rw [hrun, hrest]
      rfl
    · rw [ran_of_not hnot] at heffects hworld hresult
      obtain ⟨rfl, rfl⟩ := Prod.ext_iff.mp hworld
      obtain rfl : effects = [a] := heffects
      obtain rfl : result = .error (a.run s machine).2 := hresult
      exact hrun

/-- What a host makes of the actions of a script is what comes of their statements when the script
is changed to keep its last value. -/
theorem runAll_eq_runModule (place : Place) (actions : List (Action τ)) (s : Setting)
    (machine : Machine τ) (value : String → Value) :
    runAll s machine .none actions =
      executionOf (meaning.runModule (Mode.script.transform (actions.map (statement place)))
        (.ofHost value (s, machine))) := by
  have hnames := ModuleState.names_ofHost value (s, machine)
  cases actions with
  | nil =>
    show _ = executionOf (.done () (.ofHost value (s, machine)))
    simp only [executionOf, Ran.done, Ran.keptValue?, hnames, runAll]
    rfl
  | cons a rest => exact runAll_eq_runBody place rest a s machine .none _ _ hnames (.inr rfl)

end Host.Action

/-! ## Scripts -/

/-- What it is for the change to a script to make no difference to a run of it but the one that it
is made for. -/
structure KeepsMeaning (m : Meaning ε σ ν ω η κ) (body : List (TopStatement ε σ))
    (state : ModuleState ν ω) : Prop where
  /-- The same effects, in the same order. -/
  effects : (m.runModule (Mode.script.transform body) state).effects =
    (m.runModule body state).effects
  /-- The same ending. -/
  result : (m.runModule (Mode.script.transform body) state).result =
    (m.runModule body state).result
  world : (m.runModule (Mode.script.transform body) state).state.world =
    (m.runModule body state).state.world
  /-- The same names, but for the one of the value and the one of the documentation. -/
  names : ∀ name, name ≠ returnValueName → name ≠ documentationName →
    (m.runModule (Mode.script.transform body) state).state.names name =
      (m.runModule body state).state.names name
  /-- Only a text that is the whole script is no longer its documentation. -/
  documentation : body.length ≠ 1 →
    (m.runModule (Mode.script.transform body) state).state.names documentationName =
      (m.runModule body state).state.names documentationName
  /-- The host finds a value iff the run has reached its end and the last statement is an
  expression. -/
  finds : (m.runModule (Mode.script.transform body) state).keptValue?.isSome = true ↔
    (m.runModule body state).result = .ok () ∧
      ∃ s, body.getLast? = some s ∧ s.IsExpression
  /-- What it finds is the value that the last statement has after the statements before it. -/
  value : ∀ v, (m.runModule (Mode.script.transform body) state).keptValue? = some v ↔
    ∃ before place isText e, body = before ++ [⟨place, .expression isText e⟩] ∧
      (m.runModule before state).result = .ok () ∧
      (m.evaluate e (m.runModule before state).state).result = .ok v
  /-- There are as many statements as before. -/
  length : (Mode.script.transform body).length = body.length
  /-- All of them but the last one are the same. -/
  others : ∀ i, i + 1 < body.length → (Mode.script.transform body)[i]? = body[i]?
  /-- All of them stand where they stood. -/
  places : (Mode.script.transform body).map TopStatement.place = body.map TopStatement.place

/-- If none of the statements of a script binds the name that the host looks up, then keeping the
value of the last one under it makes no difference to what the script does and to how it ends, and
the host finds that value and no other. -/
theorem keepLastValue_preserves (m : Meaning ε σ ν ω η κ) {body : List (TopStatement ε σ)}
    (hbody : ∀ s ∈ body, m.Spares returnValueName s) (value : String → ν) (world : ω) :
    KeepsMeaning m body (.ofHost value world) := by
  have hstart := ModuleState.names_ofHost value world
  generalize ModuleState.ofHost value world = state at hstart ⊢
  rcases List.eq_nil_or_concat body with rfl | ⟨before, s, rfl⟩
  · have hnone : (m.runModule [] state).keptValue? = none := hstart
    constructor
    case effects | result | world | length | places => rfl
    case names => exact fun _ _ _ => rfl
    case documentation => exact fun _ => rfl
    case finds =>
      show (m.runModule [] state).keptValue?.isSome = true ↔ _
      simp [hnone]
    case value =>
      intro v
      show (m.runModule [] state).keptValue? = some v ↔ _
      simp [hnone]
    case others => exact fun i hi => absurd hi (by simp)
  · rw [List.concat_eq_append] at hbody ⊢
    have htransform : Mode.script.transform (before ++ [s]) = before ++ [s.keepingValue] :=
      keepLastValue_concat before s
    have hsame := m.sameBut_runModule before s state
    constructor
    case effects =>
      rw [htransform]
      exact hsame.effects
    case result =>
      rw [htransform]
      exact hsame.result
    case world =>
      rw [htransform]
      exact hsame.world
    case names =>
      intro name hvalue hdocumentation
      rw [htransform]
      refine hsame.bound name ?_
      split <;> simp [hvalue, hdocumentation]
    case documentation =>
      intro hlength
      have hbefore : before ≠ [] := by
        rintro rfl
        exact hlength rfl
      rw [if_neg hbefore] at hsame
      rw [htransform]
      exact hsame.bound documentationName (by decide)
    case finds =>
      rw [htransform, m.isSome_keptValue?_iff hbody hstart]
      simp
    case value =>
      intro v
      rw [htransform, m.keptValue?_eq_some_iff hbody hstart]
      constructor
      · rintro ⟨isText, e, hform, hbefore, hlast⟩
        refine ⟨before, s.place, isText, e, ?_, hbefore, hlast⟩
        rw [← hform]
      · rintro ⟨before', place, isText, e, happend, hbefore, hlast⟩
        obtain ⟨rfl, hs⟩ := List.append_inj' happend rfl
        obtain rfl := List.singleton_inj.mp hs
        exact ⟨isText, e, rfl, hbefore, hlast⟩
    case length => simp [htransform]
    case others =>
      intro i hi
      have hlt : i < before.length := by simpa using hi
      rw [htransform, List.getElem?_append_left hlt, List.getElem?_append_left hlt]
    case places => simp [htransform]

/-- A script that writes a line and ends with a number. -/
theorem keepLastValue_preserves_print_value :
    let place : Place := ⟨1, 0, none, none⟩
    let body : List (TopStatement (Host.Action ℚ) (Host.Action ℚ)) :=
      [Host.Action.statement place (.print (.text "hi")),
        Host.Action.statement place (.value (.int 42))]
    let start : ModuleState Host.Value (Host.Setting × Host.Machine ℚ) :=
      .ofHost (fun _ => .none)
        (⟨"__main__", false, false, false⟩, ⟨⟨fun _ => 980, fun _ _ => ""⟩, [], .empty, 0, []⟩)
    (∀ s ∈ body, Host.Action.meaning.Spares returnValueName s) ∧
      KeepsMeaning Host.Action.meaning body start ∧
      (Host.Action.meaning.runModule (Mode.script.transform body) start).keptValue? =
        some (.int 42) := by
  intro place body start
  have hbody : ∀ s ∈ body, Host.Action.meaning.Spares returnValueName s := by
    intro s hs
    rcases List.mem_pair.mp hs with rfl | rfl <;> exact Host.Action.spares_statement _ _ _
  exact ⟨hbody, keepLastValue_preserves _ hbody _ _, rfl⟩

end Playground
