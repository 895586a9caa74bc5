import Playground.Toolchain.FrontEnd

/-!
# The course of a compilation

A front end reads a text, the mode of the compilation checks what was read, and the front end
generates code from it. Each of the three can be the last step.

- `Stops`: what it is for a front end to stop short of the end.
- `Course`: the ways in which a compilation can go, each with what it yields.
- `compile_course`: every compilation goes in one of them.
- `compile_eq_error_iff`: the texts for which a compilation is broken off.
-/

namespace Playground.FrontEnd

variable {ε σ : Type} {f : FrontEnd ε σ} {text : String} {mode : Mode}

/-- A front end stops on a text for some reason: it cannot read it, or it cannot generate code from
what it has read although the mode does not object to that. -/
inductive Stops (f : FrontEnd ε σ) (text : String) (mode : Mode) (reason : Rejection) : Prop
  | reading : (f.read text).1 = .error reason → Stops f text mode reason
  | generating {body : List (TopStatement ε σ)} : (f.read text).1 = .ok body →
    mode.check (.ofText text.toList) body = [] →
    (f.generate mode (mode.transform body)).1 = .error reason → Stops f text mode reason

/-- The warnings that a front end gives about a text, in order. -/
def given (f : FrontEnd ε σ) (text : String) (mode : Mode) : List Source.SourceWarning :=
  match f.read text with
  | (.error _, early) => early
  | (.ok body, early) =>
    match mode.check (.ofText text.toList) body with
    | _ :: _ => early
    | [] => early ++ (f.generate mode (mode.transform body)).2

/-- A compilation as it goes: how far the front end comes with a text, and what is made of that. -/
inductive Course (f : FrontEnd ε σ) (text : String) (mode : Mode) :
    Except Breakdown Compilation → Prop
  | nullCharacter : '\x00' ∈ text.toList → Course f text mode (.error .nullCharacter)
  | brokenOff {cause : Breakdown} : '\x00' ∉ text.toList → f.Stops text mode (.breakdown cause) →
    Course f text mode (.error cause)
  | faulty {fault : Source.SyntaxFault} : '\x00' ∉ text.toList →
    f.Stops text mode (.fault fault) →
    Course f text mode (.ok ⟨none, [.ofFault (.ofText text.toList) fault] ++
      warnings (.ofText text.toList) (f.given text mode)⟩)
  | objected {body : List (TopStatement ε σ)} : '\x00' ∉ text.toList →
    (f.read text).1 = .ok body → mode.check (.ofText text.toList) body ≠ [] →
    Course f text mode (.ok ⟨none, mode.check (.ofText text.toList) body ++
      warnings (.ofText text.toList) (f.given text mode)⟩)
  | generated {body : List (TopStatement ε σ)} : '\x00' ∉ text.toList →
    (f.read text).1 = .ok body → mode.check (.ofText text.toList) body = [] →
    (f.generate mode (mode.transform body)).1 = .ok () →
    Course f text mode (.ok ⟨some ⟨mode, mode.entryPoint?⟩,
      warnings (.ofText text.toList) (f.given text mode)⟩)

/-- Every compilation goes in one of these ways. -/
theorem compile_course (f : FrontEnd ε σ) (text : String) (mode : Mode) :
    f.Course text mode (f.compile text mode) := by
  by_cases hnull : '\x00' ∈ text.toList
  · rw [compile, if_pos (List.contains_iff_mem.mpr hnull)]
    exact .nullCharacter hnull
  · rw [compile, if_neg (mt List.contains_iff_mem.mp hnull)]
    dsimp only
    rcases hread : f.read text with ⟨(fault | cause) | body, early⟩
    · have hgiven : f.given text mode = early := by rw [given, hread]
      have hstops : f.Stops text mode (.fault fault) := .reading (congrArg Prod.fst hread)
      have hcourse := Course.faulty hnull hstops
      rwa [hgiven] at hcourse
    · exact .brokenOff hnull (.reading (congrArg Prod.fst hread))
    · have hbody : (f.read text).1 = .ok body := congrArg Prod.fst hread
      dsimp only
      -- code is generated only if the mode has nothing to report
      cases hcheck : mode.check (.ofText text.toList) body with
      | cons r rs =>
        have hgiven : f.given text mode = early := by
          rw [given, hread]
          dsimp only
          rw [hcheck]
        have hcourse := Course.objected hnull hbody (by rw [hcheck]; exact List.cons_ne_nil r rs)
        rwa [hcheck, hgiven] at hcourse
      | nil =>
        have hgiven : f.given text mode = early ++ (f.generate mode (mode.transform body)).2 := by
          rw [given, hread]
          dsimp only
          rw [hcheck]
        dsimp only
        rcases hgenerate : f.generate mode (mode.transform body) with ⟨(fault | cause) | ⟨⟩, late⟩
        · have hcourse := Course.faulty hnull
            (.generating hbody hcheck (congrArg Prod.fst hgenerate))
          rwa [hgiven, hgenerate] at hcourse
        · exact .brokenOff hnull (.generating hbody hcheck (congrArg Prod.fst hgenerate))
        · have hcourse := Course.generated hnull hbody hcheck (congrArg Prod.fst hgenerate)
          rwa [hgiven, hgenerate] at hcourse

/-- Where a text is read, a front end can only stop while it generates code. -/
theorem Stops.of_read {reason : Rejection} {body : List (TopStatement ε σ)}
    (h : f.Stops text mode reason) (hread : (f.read text).1 = .ok body) :
    mode.check (.ofText text.toList) body = [] ∧
      (f.generate mode (mode.transform body)).1 = .error reason := by
  cases h with
  | reading hread' => exact nomatch hread.symm.trans hread'
  | generating hread' hcheck hgenerate =>
    obtain rfl := Except.ok.inj (hread.symm.trans hread')
    exact ⟨hcheck, hgenerate⟩

/-- A front end stops for one reason. -/
theorem Stops.unique {reason other : Rejection} (h : f.Stops text mode reason)
    (h' : f.Stops text mode other) : reason = other := by
  cases h with
  | reading hread =>
    cases h' with
    | reading hread' => exact Except.error.inj (hread.symm.trans hread')
    | generating hread' => exact nomatch hread.symm.trans hread'
  | generating hread _ hgenerate =>
    exact Except.error.inj (hgenerate.symm.trans (h'.of_read hread).2)

/-- A compilation is broken off for texts with null characters, and for those on which the front
end stops without finding a fault. -/
theorem compile_eq_error_iff {cause : Breakdown} :
    f.compile text mode = .error cause ↔
      ('\x00' ∈ text.toList ∧ cause = .nullCharacter) ∨
        ('\x00' ∉ text.toList ∧ f.Stops text mode (.breakdown cause)) := by
  have hcourse := compile_course f text mode
  constructor
  · intro hcompile
    rw [hcompile] at hcourse
    cases hcourse with
    | nullCharacter hnull => exact .inl ⟨hnull, rfl⟩
    | brokenOff hnull hstops => exact .inr ⟨hnull, hstops⟩
  · rintro (⟨hnull, rfl⟩ | ⟨hnull, hstops⟩)
    · rw [compile, if_pos (List.contains_iff_mem.mpr hnull)]
    · -- only one course is open to a front end that stops without finding a fault
      generalize f.compile text mode = compiled at hcourse
      cases hcourse with
      | nullCharacter hnull' => exact absurd hnull' hnull
      | brokenOff _ hstops' =>
        cases hstops.unique hstops'
        rfl
      | faulty _ hstops' => cases hstops.unique hstops'
      | objected _ hread hcheck => exact absurd (hstops.of_read hread).1 hcheck
      | generated _ hread _ hgenerate =>
        exact nomatch hgenerate.symm.trans (hstops.of_read hread).2

end Playground.FrontEnd
