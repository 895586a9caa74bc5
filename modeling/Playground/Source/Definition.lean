import Playground.Source.FrontEnd
import Playground.Source.Printer.Expression
import Playground.Text.Margin

/-!
# Definitions in a text

What a text says about a function or class that it defines. If it defines a name more than once, the
outermost definition counts, and of several at one depth the first. Handlers and cases are a depth of
their own.
-/

namespace Playground.Source

/-- A function or class that a text defines. -/
structure Definition where
  name : String
  /-- The parameters of a function; classes have none. -/
  params : Option Params
  documentation : Option String

/-- The documentation at the start of a body. -/
def documentation? : List Stmt → Option String
  | .mk _ (.expr (.mk _ (.literal (.text s _)))) :: _ => some (Text.cleanText s)
  | _ => none

namespace Definition

mutual

/-- The definitions in a statement, each with its depth, from the top to the bottom. -/
def ofStmt (depth : Nat) : Stmt → List (Nat × Definition)
  | .mk _ form => ofForm depth form

/-- The definitions in a form of statement. -/
def ofForm (depth : Nat) : StmtForm → List (Nat × Definition)
  | .functionDef _ name params body _ _ =>
    (depth, ⟨name, some params, documentation? body⟩) :: ofBody (depth + 1) body
  | .classDef name _ _ body _ =>
    (depth, ⟨name, none, documentation? body⟩) :: ofBody (depth + 1) body
  | .forLoop _ _ _ body orElse => ofBody (depth + 1) body ++ ofBody (depth + 1) orElse
  | .whileLoop _ body orElse => ofBody (depth + 1) body ++ ofBody (depth + 1) orElse
  | .ifStmt _ body orElse => ofBody (depth + 1) body ++ ofBody (depth + 1) orElse
  | .withStmt _ _ body => ofBody (depth + 1) body
  | .matchStmt _ cases => ofCases (depth + 1) cases
  | .tryStmt _ body handlers orElse finalBody =>
    ofBody (depth + 1) body ++ ofHandlers (depth + 1) handlers ++ ofBody (depth + 1) orElse
      ++ ofBody (depth + 1) finalBody
  | _ => []

/-- The definitions in statements of one depth. -/
def ofBody (depth : Nat) : List Stmt → List (Nat × Definition)
  | [] => []
  | s :: ss => ofStmt depth s ++ ofBody depth ss

/-- The definitions in cases. -/
def ofCases (depth : Nat) : List Case → List (Nat × Definition)
  | [] => []
  | .mk _ _ body :: cases => ofBody (depth + 1) body ++ ofCases depth cases

/-- The definitions in handlers. -/
def ofHandlers (depth : Nat) : List Handler → List (Nat × Definition)
  | [] => []
  | .mk _ _ _ body :: handlers => ofBody (depth + 1) body ++ ofHandlers depth handlers

end

/-- The first of the outermost among definitions with their depths. -/
def outermost? : List (Nat × Definition) → Option (Nat × Definition)
  | [] => none
  | d :: ds =>
    match outermost? ds with
    | none => some d
    | some e => some (if e.1 < d.1 then e else d)

/-- The definition of a name in a module. -/
def inModule? (name : String) (m : Module) : Option Definition :=
  (outermost? ((ofBody 0 m).filter fun d => d.2.name == name)).map Prod.snd

end Definition

/-- The definition of a name in a text. A text with mistakes has none. -/
def definition? (text name : String) : Except Breakdown (Option Definition) :=
  if text.toList.contains '\x00' then .error .nullCharacter
  else
    match (readModule text).1 with
    | .error (.breakdown cause) => .error cause
    | .error (.fault _) => .ok none
    | .ok m => .ok (Definition.inModule? name m)

end Playground.Source
