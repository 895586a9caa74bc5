import Mathlib.Data.List.Basic
import Mathlib.Data.List.Induction
import Mathlib.Logic.Function.Basic
import Playground.Proofs.Toolchain.Consistency
import Playground.Toolchain.WarningHook

/-!
# Warnings of compilations at the same time

Compilations enter the warning hook and leave it in any order, and warnings come up in between. Each
compilation ends with the warnings about its own file, and every other warning is passed on.

- `TakesTurns`: what it is for steps to be those of compilations.
- `Routed`: what has become of the warnings after some steps.
- `Routed.step`: one more step keeps to it.
- `run_routed`: so does every sequence of steps, and when all have left nobody is registered.
- `exists_errors`: what a compilation reports on is what has been put on its list.
-/

namespace Playground

namespace HookStep

variable {ι : Type}

/-- The compilations that enter in some steps. -/
def entries (steps : List (HookStep ι)) : List ι :=
  steps.filterMap fun
    | .enter c => some c
    | _ => none

/-- The compilations that leave in some steps. -/
def exits (steps : List (HookStep ι)) : List ι :=
  steps.filterMap fun
    | .leave c => some c
    | _ => none

/-- The warnings about a file that come up in some steps. -/
def warningsAbout (name : String) (steps : List (HookStep ι)) : List FileWarning :=
  steps.filterMap fun
    | .raise w => if w.file = name then some w else none
    | _ => none

/-- Whether the warnings about a file are collected after some steps: a compilation of it has entered
and has not left. -/
def IsCollected (file : ι → String) (steps : List (HookStep ι)) (name : String) : Prop :=
  ∃ c ∈ entries steps, c ∉ exits steps ∧ file c = name

variable [DecidableEq ι]

/-- Whether a step is a compilation's own. -/
def isOf (c : ι) : HookStep ι → Bool
  | .enter d | .leave d => d = c
  | .raise _ => false

/-- Steps of compilations in any order, in which each compilation enters and then leaves. It need not
have come to that yet. -/
def TakesTurns (steps : List (HookStep ι)) : Prop :=
  ∀ c, steps.filter (isOf c) <+: [.enter c, .leave c]

instance (file : ι → String) (steps : List (HookStep ι)) (name : String) :
    Decidable (IsCollected file steps name) :=
  inferInstanceAs (Decidable (∃ c ∈ entries steps, _))

/-- The warning of a step, if nobody collects it after what has been done. -/
def unclaimedBy (file : ι → String) (done : List (HookStep ι)) : HookStep ι → List FileWarning
  | .raise w => if IsCollected file done w.file then [] else [w]
  | _ => []

/-- The warnings in some steps that nobody collects at that time. -/
def unclaimedAfter (file : ι → String) (done : List (HookStep ι)) :
    List (HookStep ι) → List FileWarning
  | [] => []
  | s :: rest => unclaimedBy file done s ++ unclaimedAfter file (done ++ [s]) rest

/-! ## One more step -/

variable {steps : List (HookStep ι)} {s : HookStep ι} {c : ι}

omit [DecidableEq ι] in
theorem mem_entries : c ∈ entries steps ↔ .enter c ∈ steps := by
  rw [entries, List.mem_filterMap]
  constructor
  · rintro ⟨s, hs, h⟩
    cases s with
    | enter d =>
      obtain rfl := Option.some.inj h
      exact hs
    | raise _ | leave _ => cases h
  · exact fun h => ⟨_, h, rfl⟩

omit [DecidableEq ι] in
theorem mem_exits : c ∈ exits steps ↔ .leave c ∈ steps := by
  rw [exits, List.mem_filterMap]
  constructor
  · rintro ⟨s, hs, h⟩
    cases s with
    | leave d =>
      obtain rfl := Option.some.inj h
      exact hs
    | raise _ | enter _ => cases h
  · exact fun h => ⟨_, h, rfl⟩

/-- What a compilation has done before a step of its own. -/
theorem TakesTurns.own (h : TakesTurns (steps ++ [s])) (hs : s.isOf c = true) :
    (s = .enter c ∧ steps.filter (isOf c) = []) ∨
      (s = .leave c ∧ steps.filter (isOf c) = [.enter c]) := by
  have hown := h c
  rw [List.filter_append, List.filter_cons_of_pos hs, List.filter_nil] at hown
  match hdone : steps.filter (isOf c) with
  | [] =>
    rw [hdone] at hown
    exact .inl ⟨(List.cons_prefix_cons.mp hown).1, rfl⟩
  | [t] =>
    rw [hdone] at hown
    obtain ⟨rfl, hnext⟩ := List.cons_prefix_cons.mp hown
    exact .inr ⟨(List.cons_prefix_cons.mp hnext).1, rfl⟩
  | t :: u :: more =>
    rw [hdone] at hown
    have hlength := hown.length_le
    simp at hlength

theorem TakesTurns.init (h : TakesTurns (steps ++ [s])) : TakesTurns steps := by
  intro c
  have hown := h c
  rw [List.filter_append] at hown
  exact (List.prefix_append _ _).trans hown

/-- A compilation enters once, and not after it has left. -/
theorem TakesTurns.of_enter (h : TakesTurns (steps ++ [.enter c])) :
    .enter c ∉ steps ∧ .leave c ∉ steps := by
  rcases h.own (c := c) (by simp [isOf]) with ⟨-, hdone⟩ | ⟨⟨⟩, -⟩
  rw [List.filter_eq_nil_iff] at hdone
  exact ⟨fun hc => hdone _ hc (by simp [isOf]), fun hc => hdone _ hc (by simp [isOf])⟩

/-- A compilation leaves once, and only after it has entered. -/
theorem TakesTurns.of_leave (h : TakesTurns (steps ++ [.leave c])) :
    .enter c ∈ steps ∧ .leave c ∉ steps := by
  rcases h.own (c := c) (by simp [isOf]) with ⟨⟨⟩, -⟩ | ⟨-, hdone⟩
  constructor
  · exact (List.mem_filter.mp (hdone ▸ List.mem_singleton_self _)).1
  · intro hc
    have hleave : .leave c ∈ steps.filter (isOf c) := List.mem_filter.mpr ⟨hc, by simp [isOf]⟩
    rw [hdone] at hleave
    cases List.mem_singleton.mp hleave

/-- A compilation has not left before it enters. -/
theorem TakesTurns.not_mem_before {before since : List (HookStep ι)}
    (h : TakesTurns (before ++ .enter c :: since)) : .leave c ∉ before := by
  have henter : TakesTurns (before ++ [.enter c]) := by
    intro d
    have hown := h d
    rw [← List.singleton_append, ← List.append_assoc, List.filter_append] at hown
    exact (List.prefix_append _ _).trans hown
  exact henter.of_enter.2

omit [DecidableEq ι] in
theorem warningsAbout_concat (name : String) : warningsAbout name (steps ++ [s]) =
    warningsAbout name steps ++ warningsAbout name [s] :=
  List.filterMap_append

theorem unclaimedAfter_concat (file : ι → String) (done : List (HookStep ι)) :
    unclaimedAfter file done (steps ++ [s]) =
      unclaimedAfter file done steps ++ unclaimedBy file (done ++ steps) s := by
  induction steps generalizing done with
  | nil => simp [unclaimedAfter]
  | cons t steps ih =>
    rw [List.cons_append, unclaimedAfter, ih, unclaimedAfter, List.append_assoc, List.append_assoc,
      List.singleton_append]

omit [DecidableEq ι] in
/-- Steps with one more at the end, seen from one of them. -/
theorem concat_split {t : HookStep ι} {before since : List (HookStep ι)}
    (h : steps ++ [s] = before ++ t :: since) :
    (since = [] ∧ s = t ∧ steps = before) ∨
      ∃ earlier, since = earlier ++ [s] ∧ steps = before ++ t :: earlier := by
  obtain rfl | ⟨earlier, u, rfl⟩ := since.eq_nil_or_concat
  · obtain ⟨rfl, hs⟩ := List.append_inj' h rfl
    exact .inl ⟨rfl, (List.cons.inj hs).1, rfl⟩
  · rw [List.concat_eq_append, ← List.cons_append, ← List.append_assoc] at h
    obtain ⟨rfl, hs⟩ := List.append_inj' h rfl
    obtain ⟨rfl, -⟩ := List.cons.inj hs
    exact .inr ⟨earlier, List.concat_eq_append, rfl⟩

omit [DecidableEq ι] in
/-- A compilation that has left did so before any step that is not its leaving. -/
theorem left_init {before between after : List (HookStep ι)} (hs : s ≠ .leave c)
    (h : steps ++ [s] = before ++ .enter c :: (between ++ .leave c :: after)) :
    ∃ earlier, steps = before ++ .enter c :: (between ++ .leave c :: earlier) := by
  rw [← List.cons_append, ← List.append_assoc] at h
  rcases concat_split h with ⟨-, hs', -⟩ | ⟨earlier, -, hearlier⟩
  · exact absurd hs' hs
  · exact ⟨earlier, by rw [hearlier, List.append_assoc, List.cons_append]⟩

omit [DecidableEq ι] in
/-- A compilation that is inside has been so since before any step that is not its entry. -/
theorem inside_init {before since : List (HookStep ι)} (hs : s ≠ .enter c)
    (h : steps ++ [s] = before ++ .enter c :: since) (hsince : .leave c ∉ since) :
    ∃ earlier, since = earlier ++ [s] ∧ steps = before ++ .enter c :: earlier ∧
      .leave c ∉ earlier := by
  rcases concat_split h with ⟨-, hs', -⟩ | ⟨earlier, rfl, hearlier⟩
  · exact absurd hs' hs
  · exact ⟨earlier, rfl, hearlier, fun hleave => hsince (List.mem_append_left _ hleave)⟩

end HookStep

namespace WarningHook

open HookStep

variable {ι η : Type}

/-! ## The table of collectors -/

/-- A file that is struck out of a table is not found, and all others are found as before. -/
theorem lookup_filter (table : List (String × ι)) (file name : String) :
    (table.filter (·.1 != file)).lookup name =
      if name = file then none else table.lookup name := by
  induction table with
  | nil => simp
  | cons entry table ih =>
    obtain ⟨key, c⟩ := entry
    by_cases hkey : key = file
    · rw [List.filter_cons_of_neg (by simp [hkey]), ih]
      by_cases hname : name = file
      · rw [if_pos hname, if_pos hname]
      · rw [if_neg hname, if_neg hname, List.lookup_cons, beq_false_of_ne (hkey ▸ hname)]
    · rw [List.filter_cons_of_pos (by simp [hkey]), List.lookup_cons, List.lookup_cons, ih]
      by_cases hname : name = file
      · rw [if_pos hname, if_pos hname, beq_false_of_ne (hname ▸ Ne.symm hkey)]
      · rw [if_neg hname, if_neg hname]

/-- A table in which nothing is found is empty. -/
theorem eq_nil_of_lookup {table : List (String × ι)} (h : ∀ name, table.lookup name = none) :
    table = [] := by
  cases table with
  | nil => rfl
  | cons entry table =>
    have hentry := h entry.1
    rw [List.lookup_cons_self] at hentry
    cases hentry

theorem lookup_enter [DecidableEq ι] (h : WarningHook ι η) (file name : String) (c : ι) :
    (h.enter file c).collectors.lookup name =
      if name = file then some c else h.collectors.lookup name := by
  show ((file, c) :: h.collectors.filter (·.1 != file)).lookup name = _
  rw [List.lookup_cons, lookup_filter]
  by_cases hname : name = file
  · rw [if_pos hname, if_pos hname, beq_iff_eq.mpr hname]
  · rw [if_neg hname, if_neg hname, beq_false_of_ne hname]

/-! ## Single steps -/

theorem isFirst_inFront (filters : List WarningFilter) :
    WarningFilter.isFirst (WarningFilter.inFront filters) = true := by
  unfold WarningFilter.inFront
  split
  · assumption
  · rfl

/-- A hook that routes the warnings that come up in some steps as it should. -/
structure Routed [DecidableEq ι] (file : ι → String) (h : WarningHook ι η)
    (steps : List (HookStep ι)) (h' : WarningHook ι η) : Prop where
  /-- A compilation that has left has the warnings about its file from when it was inside. -/
  left : ∀ c before between after, steps = before ++ .enter c :: (between ++ .leave c :: after) →
    h'.caught c = warningsAbout (file c) between
  /-- One that is inside has those since it entered. -/
  inside : ∀ c before since, steps = before ++ .enter c :: since → .leave c ∉ since →
    h'.caught c = warningsAbout (file c) since
  outside : ∀ c, .enter c ∉ steps → h'.caught c = h.caught c
  /-- The handler outside is called once for each warning that nobody collects. -/
  handled : h'.handled = h.handled ++ (unclaimedAfter file [] steps).map (h.outer, ·)
  outer : h'.outer = h.outer
  registered : ∀ name c, h'.collectors.lookup name = some c ↔
    file c = name ∧ .enter c ∈ steps ∧ .leave c ∉ steps
  /-- From the first entry on, the router is in charge and no filter hides warnings from it. -/
  installed : ∀ c, .enter c ∈ steps →
    h'.installed = none ∧ WarningFilter.isFirst h'.filters = true

namespace Routed

variable [DecidableEq ι] {file : ι → String} {h h' : WarningHook ι η} {steps : List (HookStep ι)}
  {c : ι} {w : FileWarning}

/-- A hook without collectors, before any step. -/
theorem nil (hempty : h.collectors = []) : Routed file h [] h where
  left c before between after hsteps := by simp at hsteps
  inside c before since hsteps := by simp at hsteps
  outside _ _ := rfl
  handled := by rw [unclaimedAfter, List.map_nil, List.append_nil]
  outer := rfl
  registered name c := by simp [hempty]
  installed c hc := nomatch hc

theorem isCollected_iff (hr : Routed file h steps h') (name : String) :
    IsCollected file steps name ↔ ∃ c, h'.collectors.lookup name = some c := by
  simp only [IsCollected, mem_entries, mem_exits, hr.registered]
  constructor
  · rintro ⟨c, henter, hleave, hfile⟩
    exact ⟨c, hfile, henter, hleave⟩
  · rintro ⟨c, hfile, henter, hleave⟩
    exact ⟨c, henter, hleave, hfile⟩

theorem enter (hr : Routed file h steps h') (hfile : Function.Injective file)
    (hturns : TakesTurns (steps ++ [.enter c])) :
    Routed file h (steps ++ [.enter c]) (h'.enter (file c) c) := by
  obtain ⟨henter, hleave⟩ := hturns.of_enter
  -- whoever has entered before is somebody else
  have hother : ∀ {d}, .enter d ∈ steps → (h'.enter (file c) c).caught d = h'.caught d := by
    intro d hd
    refine if_neg ?_
    rintro rfl
    exact henter hd
  exact
    { left := by
        intro d before between after hsteps
        obtain ⟨earlier, hearlier⟩ := left_init (by simp) hsteps
        rw [hother (by simp [hearlier]), hr.left d _ _ _ hearlier]
      inside := by
        intro d before since hsteps hsince
        rcases concat_split hsteps with ⟨rfl, hd, -⟩ | ⟨earlier, rfl, hearlier⟩
        · cases hd
          exact if_pos rfl
        · rw [List.mem_append, not_or] at hsince
          rw [hother (by simp [hearlier]), hr.inside d _ _ hearlier hsince.1, warningsAbout_concat]
          exact (List.append_nil _).symm
      outside := by
        intro d hd
        rw [List.mem_append, not_or, List.mem_singleton] at hd
        refine (if_neg ?_).trans (hr.outside d hd.1)
        rintro rfl
        exact hd.2 rfl
      handled := by
        rw [unclaimedAfter_concat]
        exact hr.handled.trans (by simp [unclaimedBy])
      outer := hr.outer
      registered := by
        intro name d
        rw [lookup_enter, List.mem_append, List.mem_singleton, List.mem_append, List.mem_singleton]
        by_cases hname : name = file c
        · rw [if_pos hname, Option.some.injEq, hname]
          constructor
          · rintro rfl
            exact ⟨rfl, .inr rfl, by simpa using hleave⟩
          · rintro ⟨hd, -, -⟩
            exact (hfile hd).symm
        · rw [if_neg hname, hr.registered]
          have hd : file d = name → d ≠ c := by
            rintro rfl rfl
            exact hname rfl
          constructor
          · rintro ⟨hd, hdone, hnot⟩
            exact ⟨hd, .inl hdone, by simpa using hnot⟩
          · rintro ⟨hname, hdone, hnot⟩
            have hne := hd hname
            simp only [HookStep.enter.injEq, hne, or_false, reduceCtorEq] at hdone hnot
            exact ⟨hname, hdone, hnot⟩
      installed := fun _ _ => ⟨rfl, isFirst_inFront _⟩ }

/-- A warning goes to the compilation that is entered for its file, or else to the handler outside,
whether the router is in charge yet or not. -/
theorem raise_cases (hr : Routed file h steps h') (w : FileWarning) :
    (∃ c, h'.collectors.lookup w.file = some c ∧ h'.raise w = h'.collect c w) ∨
      (h'.collectors.lookup w.file = none ∧ h'.raise w = h'.handle w) := by
  cases hlookup : h'.collectors.lookup w.file with
  | some c =>
    obtain ⟨-, henter, -⟩ := (hr.registered _ _).mp hlookup
    refine .inl ⟨c, rfl, ?_⟩
    rw [WarningHook.raise, (hr.installed c henter).1, hlookup]
  | none =>
    refine .inr ⟨rfl, ?_⟩
    unfold WarningHook.raise
    cases h'.installed with
    | some other => rfl
    | none =>
      dsimp only
      rw [hlookup]

/-- A compilation that is inside gets a warning iff it is about its file. -/
theorem caught_raise_inside (hr : Routed file h steps h') (henter : .enter c ∈ steps)
    (hleave : .leave c ∉ steps) :
    (h'.raise w).caught c = h'.caught c ++ warningsAbout (file c) [(.raise w : HookStep ι)] := by
  have hopen : h'.collectors.lookup (file c) = some c :=
    (hr.registered _ _).mpr ⟨rfl, henter, hleave⟩
  by_cases hname : w.file = file c
  · rcases hr.raise_cases w with ⟨d, hlookup, hraise⟩ | ⟨hlookup, -⟩
    · rw [hname, hopen] at hlookup
      obtain rfl := Option.some.inj hlookup
      rw [hraise]
      refine (if_pos rfl).trans ?_
      simp [warningsAbout, hname]
    · rw [hname, hopen] at hlookup
      cases hlookup
  · have hnone : warningsAbout (file c) [(.raise w : HookStep ι)] = [] := by
      simp [warningsAbout, hname]
    rw [hnone, List.append_nil]
    rcases hr.raise_cases w with ⟨d, hlookup, hraise⟩ | ⟨-, hraise⟩
    · rw [hraise]
      refine if_neg ?_
      rintro rfl
      exact hname ((hr.registered _ _).mp hlookup).1.symm
    · rw [hraise]
      rfl

/-- One that is not inside gets none. -/
theorem caught_raise_outside (hr : Routed file h steps h')
    (hout : ¬ (.enter c ∈ steps ∧ .leave c ∉ steps)) : (h'.raise w).caught c = h'.caught c := by
  rcases hr.raise_cases w with ⟨d, hlookup, hraise⟩ | ⟨-, hraise⟩
  · rw [hraise]
    refine if_neg ?_
    rintro rfl
    exact hout ((hr.registered _ _).mp hlookup).2
  · rw [hraise]
    rfl

/-- A warning that nobody collects is passed on once, any other one is not. -/
theorem handled_raise (hr : Routed file h steps h') : (h'.raise w).handled =
    h'.handled ++ (unclaimedBy file steps (.raise w)).map (h.outer, ·) := by
  rw [unclaimedBy]
  rcases hr.raise_cases w with ⟨c, hlookup, hraise⟩ | ⟨hlookup, hraise⟩
  · rw [hraise, if_pos ((hr.isCollected_iff _).mpr ⟨c, hlookup⟩)]
    exact (List.append_nil _).symm
  · have hnot : ¬ IsCollected file steps w.file := by
      rw [hr.isCollected_iff, hlookup]
      rintro ⟨c, ⟨⟩⟩
    rw [hraise, if_neg hnot, ← hr.outer]
    rfl

theorem raise (hr : Routed file h steps h') (hturns : TakesTurns steps) :
    Routed file h (steps ++ [.raise w]) (h'.raise w) := by
  -- the hook itself stays as it is
  have hkept : (h'.raise w).collectors = h'.collectors ∧ (h'.raise w).installed = h'.installed ∧
      (h'.raise w).filters = h'.filters ∧ (h'.raise w).outer = h'.outer := by
    rcases hr.raise_cases w with ⟨c, -, hraise⟩ | ⟨-, hraise⟩
    · rw [hraise]
      exact ⟨rfl, rfl, rfl, rfl⟩
    · rw [hraise]
      exact ⟨rfl, rfl, rfl, rfl⟩
  exact
    { left := by
        intro d before between after hsteps
        obtain ⟨earlier, hearlier⟩ := left_init (by simp) hsteps
        rw [hr.caught_raise_outside (by simp [hearlier]), hr.left d _ _ _ hearlier]
      inside := by
        intro d before since hsteps hsince
        obtain ⟨earlier, rfl, rfl, hin⟩ := inside_init (by simp) hsteps hsince
        have hleave : .leave d ∉ before ++ .enter d :: earlier := by
          simp [hin, hturns.not_mem_before]
        rw [hr.caught_raise_inside (by simp) hleave, hr.inside d _ _ rfl hin,
          warningsAbout_concat]
      outside := by
        intro d hd
        rw [List.mem_append, not_or] at hd
        rw [hr.caught_raise_outside fun hin => hd.1 hin.1, hr.outside d hd.1]
      handled := by
        rw [hr.handled_raise, hr.handled, unclaimedAfter_concat, List.nil_append, List.map_append,
          List.append_assoc]
      outer := hkept.2.2.2.trans hr.outer
      registered := by
        intro name d
        rw [hkept.1]
        simpa using hr.registered name d
      installed := by
        intro d hd
        rw [hkept.2.1, hkept.2.2.1]
        exact hr.installed d (by simpa using hd) }

theorem leave (hr : Routed file h steps h') (hfile : Function.Injective file)
    (hturns : TakesTurns (steps ++ [.leave c])) :
    ∃ h'', h'.leave (file c) = .ok h'' ∧ Routed file h (steps ++ [.leave c]) h'' := by
  obtain ⟨henter, hleave⟩ := hturns.of_leave
  have hopen : h'.collectors.lookup (file c) = some c :=
    (hr.registered _ _).mpr ⟨rfl, henter, hleave⟩
  refine ⟨{ h' with collectors := h'.collectors.filter (·.1 != file c) }, ?_, ?_⟩
  · rw [WarningHook.leave, hopen]
  · exact
      { left := by
          intro d before between after hsteps
          rw [← List.cons_append, ← List.append_assoc] at hsteps
          rcases concat_split hsteps with ⟨-, hd, hbetween⟩ | ⟨earlier, -, hearlier⟩
          · cases hd
            refine hr.inside _ _ _ hbetween fun hmem => hleave ?_
            simp [hbetween, hmem]
          · rw [List.append_assoc, List.cons_append] at hearlier
            exact hr.left d _ _ _ hearlier
        inside := by
          intro d before since hsteps hsince
          obtain ⟨earlier, rfl, hearlier, hin⟩ := inside_init (by simp) hsteps hsince
          rw [warningsAbout_concat]
          exact (hr.inside d _ _ hearlier hin).trans (List.append_nil _).symm
        outside := by
          intro d hd
          rw [List.mem_append, not_or] at hd
          exact hr.outside d hd.1
        handled := by
          rw [unclaimedAfter_concat]
          exact hr.handled.trans (by simp [unclaimedBy])
        outer := hr.outer
        registered := by
          intro name d
          rw [lookup_filter, List.mem_append, List.mem_singleton, List.mem_append,
            List.mem_singleton]
          by_cases hname : name = file c
          · rw [if_pos hname, hname]
            refine iff_of_false nofun ?_
            rintro ⟨hd, -, hnot⟩
            exact hnot (.inr (hfile hd ▸ rfl))
          · rw [if_neg hname, hr.registered]
            have hd : file d = name → d ≠ c := by
              rintro rfl rfl
              exact hname rfl
            constructor
            · rintro ⟨hname, hdone, hnot⟩
              exact ⟨hname, .inl hdone, by simpa [hd hname] using hnot⟩
            · rintro ⟨hname, hdone, hnot⟩
              exact ⟨hname, by simpa using hdone, fun hleft => hnot (.inl hleft)⟩
        installed := by
          intro d hd
          exact hr.installed d (by simpa using hd) }

/-- One more step of the compilations keeps to it. -/
theorem step (hr : Routed file h steps h') (hfile : Function.Injective file) {s : HookStep ι}
    (hturns : TakesTurns (steps ++ [s])) :
    ∃ h'', h'.step file s = .ok h'' ∧ Routed file h (steps ++ [s]) h'' := by
  cases s with
  | enter c => exact ⟨_, rfl, hr.enter hfile hturns⟩
  | raise w => exact ⟨_, rfl, hr.raise hturns.init⟩
  | leave c => exact hr.leave hfile hturns

end Routed

/-! ## Whole runs -/

variable [DecidableEq ι] {file : ι → String} {h : WarningHook ι η} {steps : List (HookStep ι)}

theorem exists_routed (hfile : Function.Injective file) (hempty : h.collectors = [])
    (hturns : TakesTurns steps) : ∃ h', h.run file steps = .ok h' ∧ Routed file h steps h' := by
  induction steps using List.reverseRecOn with
  | nil => exact ⟨h, rfl, .nil hempty⟩
  | append_singleton steps s ih =>
    obtain ⟨h', hrun, hr⟩ := ih hturns.init
    obtain ⟨h'', hstep, hr'⟩ := hr.step hfile hturns
    refine ⟨h'', ?_, hr'⟩
    rw [run, List.foldlM_append, ← run, hrun]
    exact (bind_pure _).trans hstep

/-- Whatever the order of their steps is, compilations of different files never lose a warning, and
never get one of another: each ends with the warnings about its own file, all others go to the
handler outside, and when all have left nothing is registered. -/
theorem run_routed (hfile : Function.Injective file) (hempty : h.collectors = [])
    (hturns : TakesTurns steps) :
    ∃ h', h.run file steps = .ok h' ∧ Routed file h steps h' ∧
      ((∀ c, .enter c ∈ steps → .leave c ∈ steps) → h'.collectors = []) := by
  obtain ⟨h', hrun, hr⟩ := exists_routed hfile hempty hturns
  refine ⟨h', hrun, hr, fun hall => eq_nil_of_lookup fun name => ?_⟩
  rw [Option.eq_none_iff_forall_ne_some]
  intro c hc
  obtain ⟨-, henter, hleave⟩ := (hr.registered name c).mp hc
  exact hleave (hall c henter)

/-- Two compilations that are inside at the same time, each with a warning about its file, and one
warning too late. -/
theorem run_routed_overlapping :
    let file : Bool → String := fun c => if c then "<workspace-1>" else "<workspace-0>"
    let warning : Source.SourceWarning := ⟨"invalid decimal literal", 1, true⟩
    let h : WarningHook Bool String := ⟨some "outer", "none", [], [], fun _ => [], []⟩
    let steps : List (HookStep Bool) :=
      [.enter false, .enter true, .raise ⟨"<workspace-1>", warning⟩,
        .raise ⟨"<workspace-0>", warning⟩, .leave false, .raise ⟨"<workspace-0>", warning⟩,
        .leave true]
    Function.Injective file ∧ h.collectors = [] ∧ TakesTurns steps ∧
      ∃ h', h.run file steps = .ok h' ∧
        h'.caught false = [⟨"<workspace-0>", warning⟩] ∧
        h'.caught true = [⟨"<workspace-1>", warning⟩] ∧
        h'.handled = [("outer", ⟨"<workspace-0>", warning⟩)] ∧ h'.collectors = [] := by
  intro file warning h steps
  have hfile : Function.Injective file := by
    unfold Function.Injective
    decide
  have hturns : TakesTurns steps := by
    rintro (_ | _)
    · exact ⟨[], rfl⟩
    · exact ⟨[], rfl⟩
  obtain ⟨h', hrun, hr, hall⟩ := run_routed hfile (h := h) rfl hturns
  refine ⟨hfile, rfl, hturns, h', hrun, ?_, ?_, ?_, ?_⟩
  · exact hr.left false [] [_, _, _] [_, _] rfl
  · exact hr.left true [_] [_, _, _, _] [] rfl
  · exact hr.handled
  · refine hall ?_
    rintro (_ | _) -
    · simp [steps]
    · simp [steps]

/-- If the warnings about a file that come up while its compilation is inside are those that the
front end gives, then they are what the compilation reports on after its errors. -/
theorem exists_errors {h' : WarningHook ι η} (hr : Routed file h steps h') {c : ι}
    {before between after : List (HookStep ι)}
    (hsteps : steps = before ++ .enter c :: (between ++ .leave c :: after)) {ε σ : Type}
    {f : FrontEnd ε σ} {text : String} {mode : Mode} {compiled : Compilation}
    (hgiven : (warningsAbout (file c) between).map (·.warning) = f.given text mode)
    (hcompile : f.compile text mode = .ok compiled) :
    ∃ errors, f.Errors text mode errors ∧ compiled.reports =
      errors ++ FrontEnd.warnings (.ofText text.toList) ((h'.caught c).map (·.warning)) := by
  obtain ⟨errors, herrors, hreports, -⟩ := (FrontEnd.consistent_of_compile hcompile).ordered
  exact ⟨errors, herrors, by rw [hr.left c _ _ _ hsteps, hgiven, hreports]⟩

end WarningHook

end Playground
