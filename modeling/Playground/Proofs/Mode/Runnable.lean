import Playground.Proofs.Mode.Program

/-!
# Runnable modules

What it is for a module to be a program that the host can run, told by its syntax tree alone. The
check of the program mode counts the parameters of the entry point that have no default; here each
parameter is matched with its own one.

- `Runnable`: a module of declarations that ends up with an entry point to be called as it is.
- `offending_top`: the statements that offend, by their positions in the module.
- `getLast?_entries_top`: the entry point is the last function with its name.
- `required_eq_zero_iff`: no parameter is required iff each one has a default.
- `check_pinpoints`: the check reports each statement out of place and what is wrong with the entry
  point, and so nothing iff the module is runnable.
-/

namespace Playground

namespace Source

/-! ## Declarations -/

/-- A statement that declares something: an import, a definition, an assignment with or without an
annotation, a condition or a handler of exceptions. -/
inductive StmtForm.Declares : StmtForm → Prop
  | importNames (names : List Alias) : Declares (.importNames names)
  | importFrom (module : Option String) (names : List Alias) (level : Nat) :
      Declares (.importFrom module names level)
  | functionDef (isAsync : Bool) (name : String) (params : Params) (body : List Stmt)
      (decorators : List Expr) (returns : Option Expr) :
      Declares (.functionDef isAsync name params body decorators returns)
  | classDef (name : String) (bases : List Expr) (keywords : List Keyword) (body : List Stmt)
      (decorators : List Expr) : Declares (.classDef name bases keywords body decorators)
  | assign (targets : List Expr) (value : Expr) : Declares (.assign targets value)
  | annAssign (target hint : Expr) (value : Option Expr) (simple : Bool) :
      Declares (.annAssign target hint value simple)
  | ifStmt (test : Expr) (body orElse : List Stmt) : Declares (.ifStmt test body orElse)
  | tryStmt (isStar : Bool) (body : List Stmt) (handlers : List Handler)
      (orElse finalBody : List Stmt) :
      Declares (.tryStmt isStar body handlers orElse finalBody)

/-- A statement that is a text and nothing else. -/
inductive StmtForm.IsText : StmtForm → Prop
  | mk (span : Span) (value : String) (unicodeMark : Bool) :
      IsText (.expr (.mk span (.literal (.text value unicodeMark))))

theorem StmtForm.declares_iff {form : StmtForm} : form.Declares ↔
    ProgramCheck.isDeclaration (TopForm.ofStatement form) = true := by
  constructor
  · intro h
    cases h <;> rfl
  · intro h
    cases form <;> first | constructor | cases h

theorem StmtForm.isText_iff {form : StmtForm} : form.IsText ↔
    ProgramCheck.isDocumentation (TopForm.ofStatement form) = true := by
  constructor
  · rintro ⟨⟩
    rfl
  · intro h
    cases form with
    | expr value =>
      obtain ⟨span, form⟩ := value
      cases form with
      | literal value => cases value <;> first | constructor | cases h
      | _ => cases h
    | _ => cases h

instance (form : StmtForm) : Decidable form.Declares :=
  decidable_of_iff _ StmtForm.declares_iff.symm

instance (form : StmtForm) : Decidable form.IsText :=
  decidable_of_iff _ StmtForm.isText_iff.symm

/-- A statement may stand at a position of a module if it declares something. The first one may also
be a text, which documents the module. -/
def Stmt.MayStand (s : Stmt) (i : Nat) : Prop :=
  s.form.Declares ∨ (i = 0 ∧ s.form.IsText)

instance (s : Stmt) (i : Nat) : Decidable (s.MayStand i) :=
  inferInstanceAs (Decidable (_ ∨ _))

/-! ## Parameters -/

/-- The default of a positional parameter. Defaults belong to the last parameters, so both are
counted from the end. -/
def Params.default? (ps : Params) (i : Nat) : Option Expr :=
  ps.defaults.reverse[ps.positionalOnly.length + ps.positional.length - 1 - i]?

/-- No function has more defaults than parameters that they could belong to. -/
def Params.Fits (ps : Params) : Prop :=
  ps.defaults.length ≤ ps.positionalOnly.length + ps.positional.length

/-- Parameters that are all bound by a call without arguments. -/
structure Params.BindsAll (ps : Params) : Prop where
  positional : ∀ i < ps.positionalOnly.length + ps.positional.length, ps.default? i ≠ none
  /-- Each keyword-only parameter has an entry of its own. -/
  keywordOnly : ∀ default ∈ ps.keywordDefaults, default ≠ none

/-! ## Entry points -/

/-- A function with a name and parameters. -/
def Stmt.IsFunction (s : Stmt) (name : String) (ps : Params) : Prop :=
  ∃ isAsync body decorators returns,
    s.form = .functionDef isAsync name ps body decorators returns

/-- The last function of a module with the name of the entry point. -/
def Module.StartsAt (m : Module) (s : Stmt) (ps : Params) : Prop :=
  ∃ before after, m = before ++ s :: after ∧ s.IsFunction "main" ps ∧
    ∀ later ∈ after, ∀ ps', ¬ later.IsFunction "main" ps'

/-- A module with such functions only. -/
def Module.Fits (m : Module) : Prop :=
  ∀ s ∈ m, ∀ name ps, s.IsFunction name ps → ps.Fits

theorem Module.StartsAt.fits {m : Module} {s : Stmt} {ps : Params} (h : m.StartsAt s ps)
    (hfits : m.Fits) : ps.Fits := by
  obtain ⟨before, after, rfl, hs, -⟩ := h
  have hmem : s ∈ before ++ s :: after := List.mem_append_right before List.mem_cons_self
  exact hfits s hmem "main" ps hs

/-- A module of declarations with an entry point that can be called without arguments. -/
structure Module.Runnable (m : Module) : Prop where
  declares : ∀ i (s : Stmt), m[i]? = some s → s.MayStand i
  entry : ∃ s ps, m.StartsAt s ps ∧ ps.BindsAll

/-- The statements of a module that may not stand where they do, in order. -/
def Module.misplaced (m : Module) : List Stmt :=
  (m.zipIdx.filter fun (s, i) => ¬ s.MayStand i).map (·.1)

/-- Where a statement stands in a text. -/
def Stmt.extent (t : Text.LineTable) (s : Stmt) : Nat × Nat :=
  let start := t.byteOffset s.span.line s.span.col
  let endLine := if s.span.endLine = 0 then s.span.line else s.span.endLine
  (start, max start (t.byteOffset endLine s.span.endCol))

end Source

namespace ParamShape

open Source

/-- The positional parameters all have defaults iff there are as many of these. -/
theorem forall_default_iff (ps : Params) :
    (∀ i < ps.positionalOnly.length + ps.positional.length, ps.default? i ≠ none) ↔
      ps.positionalOnly.length + ps.positional.length ≤ ps.defaults.length := by
  have hdefault : ∀ i, ps.default? i ≠ none ↔
      ps.positionalOnly.length + ps.positional.length - 1 - i < ps.defaults.length := by
    intro i
    rw [Params.default?, Ne, List.getElem?_eq_none_iff, List.length_reverse, Nat.not_le]
  simp only [hdefault]
  constructor
  · intro h
    by_contra hlt
    -- the first parameter is the one that needs most defaults
    have hfirst := h 0 (by omega)
    omega
  · intro h i hi
    omega

/-- No parameter is required iff a call without arguments binds all of them. -/
theorem required_eq_zero_iff {ps : Params} (h : ps.Fits) :
    (ofParams ps).required = 0 ↔ ps.BindsAll := by
  have hkeywords : (ps.keywordDefaults.map Option.isSome).countP (!·) = 0 ↔
      ∀ default ∈ ps.keywordDefaults, default ≠ none := by
    rw [List.countP_eq_zero, List.forall_mem_map]
    simp
  have hbinds : ps.BindsAll ↔
      ps.positionalOnly.length + ps.positional.length ≤ ps.defaults.length ∧
        (ps.keywordDefaults.map Option.isSome).countP (!·) = 0 := by
    rw [hkeywords, ← forall_default_iff]
    exact ⟨fun h => ⟨h.1, h.2⟩, fun h => ⟨h.1, h.2⟩⟩
  rw [hbinds, required, ofParams]
  unfold Params.Fits at h
  dsimp only
  omega

end ParamShape

namespace ProgramCheck

open Source

variable {m : Module}

/-! ## Misplaced statements -/

theorem spanOf_ofSpan (t : Text.LineTable) (s : Stmt) :
    spanOf t (.ofSpan s.span) = s.extent t := by
  obtain ⟨⟨line, col, endLine, endCol⟩, form⟩ := s
  cases endLine with
  | zero => rfl
  | succ n => rfl

theorem mayStand_iff {s : Stmt} {i : Nat} : s.MayStand i ↔
    (isDeclaration (TopForm.ofStatement s.form) ||
      (i == 0 && isDocumentation (TopForm.ofStatement s.form))) = true := by
  rw [Stmt.MayStand, StmtForm.declares_iff, StmtForm.isText_iff, Bool.or_eq_true,
    Bool.and_eq_true, beq_iff_eq]

/-- The statements that offend, from a position of a module on. -/
theorem offending_map (m : Module) (i : Nat) :
    offending (i == 0) (m.map TopStatement.ofStatement) =
      ((m.zipIdx i).filter fun (s, i) => ¬ s.MayStand i).map (.ofStatement ·.1) := by
  induction m generalizing i with
  | nil => rfl
  | cons s rest ih =>
    have hrest : offending false (rest.map TopStatement.ofStatement) = _ := ih (i + 1)
    rw [List.map_cons, List.zipIdx_cons, offending, hrest]
    by_cases hs : s.MayStand i
    · rw [List.filter_cons_of_neg (by simpa using hs)]
      exact if_pos (mayStand_iff.mp hs)
    · rw [List.filter_cons_of_pos (by simpa using hs), List.map_cons]
      exact if_neg (mayStand_iff.not.mp hs)

/-- What is reported about the statements of a module is that they are out of place. -/
theorem map_misplaced_top (t : Text.LineTable) (m : Module) :
    (offending true m.top).map (misplaced t) = m.misplaced.map fun s =>
      .placedError "PY5002"
        "Only declarations are allowed at program scope; move statements into main()"
        (s.extent t).1 (s.extent t).2 := by
  have hoffending : offending true m.top = m.misplaced.map .ofStatement := by
    rw [Module.misplaced, List.map_map]
    exact offending_map m 0
  rw [hoffending, List.map_map]
  refine List.map_congr_left fun s _ => ?_
  rw [← spanOf_ofSpan]
  rfl

theorem misplaced_eq_nil_iff :
    m.misplaced = [] ↔ ∀ i (s : Stmt), m[i]? = some s → s.MayStand i := by
  rw [Module.misplaced, List.map_eq_nil_iff, List.filter_eq_nil_iff]
  constructor
  · intro h i s hs
    simpa using h (s, i) (List.mk_mem_zipIdx_iff_getElem?.mpr hs)
  · rintro h ⟨s, i⟩ hs
    simpa using h i s (List.mk_mem_zipIdx_iff_getElem?.mp hs)

/-! ## Entry points -/

/-- The entry point that a statement is. -/
def entry? {ε σ : Type} (s : TopStatement ε σ) : Option (Place × ParamShape) :=
  match s.form with
  | .function name params _ => if name == entryPoint then some (s.place, params) else none
  | _ => none

theorem entry?_ofStatement {s : Stmt} {place : Place} {shape : ParamShape} :
    entry? (.ofStatement s) = some (place, shape) ↔
      ∃ ps, s.IsFunction "main" ps ∧ .ofSpan s.span = place ∧ .ofParams ps = shape := by
  obtain ⟨span, form⟩ := s
  constructor
  · intro h
    cases form with
    | functionDef isAsync name ps body decorators returns =>
      have hentry : (if name == entryPoint then some (Place.ofSpan span, ParamShape.ofParams ps)
          else none) = some (place, shape) := h
      obtain ⟨hname, hsome⟩ := Option.ite_none_right_eq_some.mp hentry
      obtain rfl : name = "main" := eq_of_beq hname
      cases hsome
      exact ⟨ps, ⟨isAsync, body, decorators, returns, rfl⟩, rfl, rfl⟩
    | _ => cases h
  · rintro ⟨ps, ⟨isAsync, body, decorators, returns, rfl⟩, rfl, rfl⟩
    rfl

theorem entry?_ofStatement_eq_none {s : Stmt} :
    entry? (.ofStatement s) = none ↔ ∀ ps, ¬ s.IsFunction "main" ps := by
  rw [Option.eq_none_iff_forall_ne_some]
  constructor
  · intro h ps hs
    exact h _ (entry?_ofStatement.mpr ⟨ps, hs, rfl, rfl⟩)
  · rintro h ⟨place, shape⟩ hentry
    obtain ⟨ps, hs, -⟩ := entry?_ofStatement.mp hentry
    exact h ps hs

theorem getLast?_entries (m : Module) :
    (entries m.top).getLast? = m.reverse.findSome? fun s => entry? (.ofStatement s) := by
  have hentries : entries m.top = m.filterMap fun s => entry? (.ofStatement s) :=
    List.filterMap_map
  rw [hentries, List.getLast?_filterMap]

theorem getLast?_entries_eq_some {place : Place} {shape : ParamShape} :
    (entries m.top).getLast? = some (place, shape) ↔
      ∃ s ps, m.StartsAt s ps ∧ .ofSpan s.span = place ∧ .ofParams ps = shape := by
  rw [getLast?_entries, List.findSome?_eq_some_iff]
  constructor
  · rintro ⟨after, s, before, hm, hs, hafter⟩
    obtain ⟨ps, hps, hplace, hshape⟩ := entry?_ofStatement.mp hs
    refine ⟨s, ps, ⟨before.reverse, after.reverse, ?_, hps, ?_⟩, hplace, hshape⟩
    · rw [← List.reverse_reverse m, hm]
      simp
    · intro later hlater
      exact entry?_ofStatement_eq_none.mp (hafter later (List.mem_reverse.mp hlater))
  · rintro ⟨s, ps, ⟨before, after, rfl, hps, hafter⟩, hplace, hshape⟩
    refine ⟨after.reverse, s, before.reverse, by simp, ?_, ?_⟩
    · exact entry?_ofStatement.mpr ⟨ps, hps, hplace, hshape⟩
    · intro later hlater
      exact entry?_ofStatement_eq_none.mpr (hafter later (List.mem_reverse.mp hlater))

theorem getLast?_entries_eq_none :
    (entries m.top).getLast? = none ↔ ∀ s ∈ m, ∀ ps, ¬ s.IsFunction "main" ps := by
  rw [getLast?_entries, List.findSome?_eq_none_iff]
  simp only [List.mem_reverse, entry?_ofStatement_eq_none]

/-- What is reported about the entry point of a module: that there is none, or that the last one
cannot be called, from where its definition starts. -/
inductive EntryReport (t : Text.LineTable) (m : Module) : List Report → Prop
  | missing (h : ∀ s ∈ m, ∀ ps, ¬ s.IsFunction "main" ps) :
      EntryReport t m [.unplacedError "PY5001"
        "Program does not contain a 'main' function suitable for an entry point"]
  | uncallable {s : Stmt} {ps : Params} (hstart : m.StartsAt s ps) (hbinds : ¬ ps.BindsAll)
      (length : Nat) :
      EntryReport t m [.placedError "PY5001"
        "'main' must be callable without arguments to be used as an entry point"
        (s.extent t).1 ((s.extent t).1 + length)]
  | callable {s : Stmt} {ps : Params} (hstart : m.StartsAt s ps) (hbinds : ps.BindsAll) :
      EntryReport t m []

/-- What is reported about an entry point depends on its parameters. -/
theorem entryReports_of_startsAt {s : Stmt} {ps : Params} (hstart : m.StartsAt s ps)
    (hfits : ps.Fits) (t : Text.LineTable) :
    (ps.BindsAll ∧ entryReports t m.top = []) ∨
      ¬ ps.BindsAll ∧ ∃ length, entryReports t m.top =
        [.placedError "PY5001"
          "'main' must be callable without arguments to be used as an entry point"
          (s.extent t).1 ((s.extent t).1 + length)] := by
  have hlast := getLast?_entries_eq_some.mpr ⟨s, ps, hstart, rfl, rfl⟩
  unfold entryReports
  rw [hlast]
  by_cases hbinds : ps.BindsAll
  · exact .inl ⟨hbinds, if_pos ((ParamShape.required_eq_zero_iff hfits).mpr hbinds)⟩
  · exact .inr ⟨hbinds, _, if_neg ((ParamShape.required_eq_zero_iff hfits).not.mpr hbinds)⟩

/-- What is reported about the entry point of a module. -/
theorem entryReport_entryReports (t : Text.LineTable) (hfits : m.Fits) :
    EntryReport t m (entryReports t m.top) := by
  cases hlast : (entries m.top).getLast? with
  | none =>
    unfold entryReports
    rw [hlast]
    exact .missing (getLast?_entries_eq_none.mp hlast)
  | some entry =>
    obtain ⟨place, shape⟩ := entry
    obtain ⟨s, ps, hstart, -, -⟩ := getLast?_entries_eq_some.mp hlast
    rcases entryReports_of_startsAt hstart (hstart.fits hfits) t with
      ⟨hbinds, hnone⟩ | ⟨hbinds, length, hone⟩
    · rw [hnone]
      exact .callable hstart hbinds
    · rw [hone]
      exact .uncallable hstart hbinds length

/-- Nothing is reported about an entry point that can be called. -/
theorem entryReports_eq_nil_iff (t : Text.LineTable) (hfits : m.Fits) :
    entryReports t m.top = [] ↔ ∃ s ps, m.StartsAt s ps ∧ ps.BindsAll := by
  constructor
  · intro h
    have hentry := entryReport_entryReports t hfits
    rw [h] at hentry
    cases hentry with
    | callable hstart hbinds => exact ⟨_, _, hstart, hbinds⟩
  · rintro ⟨s, ps, hstart, hbinds⟩
    rcases entryReports_of_startsAt hstart (hstart.fits hfits) t with ⟨-, hnone⟩ | ⟨hnot, -⟩
    · exact hnone
    · exact absurd hbinds hnot

/-! ## Reports -/

/-- The check of a program reports every statement of a module that may not stand where it does,
each with its extent and in order, and then what is wrong with the last function that could be the
entry point, if anything. So it reports nothing iff the module is runnable. -/
theorem check_pinpoints (t : Text.LineTable) {m : Module} (hfits : m.Fits) :
    (Mode.program.check t m.top = [] ↔ m.Runnable) ∧
      ∃ entry, EntryReport t m entry ∧
        Mode.program.check t m.top =
          (m.misplaced.map fun s =>
            .placedError "PY5002"
              "Only declarations are allowed at program scope; move statements into main()"
              (s.extent t).1 (s.extent t).2) ++ entry := by
  have hreports : Mode.program.check t m.top = _ ++ entryReports t m.top :=
    congrArg (· ++ entryReports t m.top) (map_misplaced_top t m)
  refine ⟨?_, _, entryReport_entryReports t hfits, hreports⟩
  rw [hreports, List.append_eq_nil_iff, List.map_eq_nil_iff, misplaced_eq_nil_iff,
    entryReports_eq_nil_iff t hfits]
  exact ⟨fun h => ⟨h.1, h.2⟩, fun h => ⟨h.1, h.2⟩⟩

/-- A program that is documented and has two functions to start with, the last of which needs no
argument, and one with a text out of place whose last function needs one. -/
theorem check_pinpoints_last :
    let span (line : Nat) : Span := ⟨line, 0, line, 5⟩
    let text (line : Nat) : Stmt :=
      .mk (span line) (.expr (.mk (span line) (.literal (.text "Doc" false))))
    let a : Param := .mk ⟨2, 9, 2, 10⟩ "a" none
    let value : Expr := .mk ⟨2, 11, 2, 12⟩ (.literal (.int 1))
    let bound : Params := .mk [a] [] none [a] [some value] none [value]
    let unbound : Params := .mk [a] [a] none [] [] none [value]
    let main (line : Nat) (ps : Params) : Stmt :=
      .mk (span line) (.functionDef false "main" ps [] [] none)
    let t := Text.LineTable.ofText "'Doc'\ndef main(): pass\n'Doc'\ndef main(): pass\n".toList
    let good : Module := [text 1, main 2 unbound, main 4 bound]
    let bad : Module := [text 1, main 2 bound, text 3, main 4 unbound]
    good.Fits ∧ bad.Fits ∧ good.Runnable ∧ ¬ bad.Runnable ∧
      (Mode.program.check t bad.top).map (fun r => (r.id, r.start)) =
        [("PY5002", some 23), ("PY5001", some 29)] := by
  intro span text a value bound unbound main t good bad
  have htext (line : Nat) : ∀ name ps, (text line).IsFunction name ps → ps.Fits := by
    rintro name ps ⟨_, _, _, _, h⟩
    cases h
  have hmain (line : Nat) {ps : Params} (hps : ps.Fits) :
      ∀ name ps', (main line ps).IsFunction name ps' → ps'.Fits := by
    rintro name ps' ⟨_, _, _, _, h⟩
    cases h
    exact hps
  have hbound : bound.Fits := Nat.le_refl 1
  have hunbound : unbound.Fits := Nat.le_succ 1
  have hgood : good.Fits := by
    simpa [Module.Fits, good] using ⟨htext 1, hmain 2 hunbound, hmain 4 hbound⟩
  have hbad : bad.Fits := by
    simpa [Module.Fits, bad] using ⟨htext 1, hmain 2 hbound, htext 3, hmain 4 hunbound⟩
  have haccepted : Mode.program.check t good.top = [] := by decide
  have hrejected : (Mode.program.check t bad.top).map (fun r => (r.id, r.start)) =
      [("PY5002", some 23), ("PY5001", some 29)] := by decide
  refine ⟨hgood, hbad, (check_pinpoints t hgood).1.mp haccepted, fun hrunnable => ?_, hrejected⟩
  rw [(check_pinpoints t hbad).1.mpr hrunnable] at hrejected
  cases hrejected

end ProgramCheck

end Playground
