import Playground.Diagnostic.Fault
import Playground.Mode.Program
import Playground.Mode.Script
import Playground.Toolchain.Basic

/-!
# Front ends

A front end reads a source text and generates code from what it has read. In between, the mode of
the compilation has its say: it may object to the body of the module, and it may change it.

Whatever is wrong with a text is reported, errors before warnings. Only a text that cannot be
handled at all breaks the compilation off.
-/

namespace Playground

/-- Why a front end does not come to an end. -/
inductive Rejection where
  | fault (f : Source.SyntaxFault)
  | breakdown (cause : Breakdown)
  deriving Inhabited

/-- What a step of a front end yields: a result or the reason for which there is none, and
warnings. -/
abbrev FrontEndStep (α : Type) := Except Rejection α × List Source.SourceWarning

/-- A front end for modules with expressions `ε` and statements `σ`. -/
structure FrontEnd (ε σ : Type) where
  read : String → FrontEndStep (List (TopStatement ε σ))
  generate : Mode → List (TopStatement ε σ) → FrontEndStep Unit

namespace FrontEnd

variable {ε σ : Type}

/-- The reports of warnings. -/
def warnings (t : Text.LineTable) (ws : List Source.SourceWarning) : List Report :=
  ws.map fun w => .ofWarning t w.isSyntax w.message w.line

/-- Compiles a text. -/
def compile (f : FrontEnd ε σ) (text : String) (mode : Mode) : Except Breakdown Compilation :=
  let chars := text.toList
  if chars.contains '\x00' then .error .nullCharacter
  else
    let t := Text.LineTable.ofText chars
    let rejected (reports : List Report) (ws : List Source.SourceWarning) : Compilation :=
      ⟨none, reports ++ warnings t ws⟩
    match f.read text with
    | (.error (.breakdown cause), _) => .error cause
    | (.error (.fault e), early) => .ok (rejected [.ofFault t e] early)
    | (.ok body, early) =>
      match mode.check t body with
      | r :: rs => .ok (rejected (r :: rs) early)
      | [] =>
        match f.generate mode (mode.transform body) with
        | (.error (.breakdown cause), _) => .error cause
        | (.error (.fault e), late) => .ok (rejected [.ofFault t e] (early ++ late))
        | (.ok (), late) =>
          .ok ⟨some ⟨mode, mode.entryPoint?⟩, warnings t (early ++ late)⟩

end FrontEnd

end Playground
