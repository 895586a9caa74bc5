import Playground.Source.Scope.Collect

/-!
# Resolving names

Where names belong that a scope declares to be bound in a scope around it. A class does not lend its
names to the scopes inside it, and neither does a module: its names are global.
-/

namespace Playground.Source

namespace ScopeFacts

/-- Whether the scope binds a name of its own. -/
def binds (roles : List NameRole) : Bool :=
  !roles.contains .declaredGlobal && !roles.contains .declaredNonlocal &&
    (roles.contains .assigned || roles.contains .parameter || roles.contains .imported)

/-- Refuses a name where it is declared. -/
def refuse (f : ScopeFacts) (name : String) (m : Misuse) : Except Stop Unit :=
  throw (m.stop (((f.declarations.find? fun d => d.1 == name).map fun d => .ofSpan d.2).getD .none))

/-- Checks one name; `bound` are the names that the functions around the scope bind, if the scope is
inside one at all. -/
def checkName (f : ScopeFacts) (bound : Option (List String)) (name : String)
    (roles : List NameRole) : Except Stop Unit :=
  if roles.contains .declaredNonlocal then
    if roles.contains .declaredGlobal then f.refuse name (.nonlocalAndGlobal name)
    else
      match bound with
      | none => f.refuse name .nonlocalInModule
      | some names =>
        if names.contains name then .ok () else f.refuse name (.unboundNonlocal name)
  else .ok ()

/-- The names that the scopes inside a scope see as bound around them. -/
def boundInside (f : ScopeFacts) (bound : Option (List String)) : List String :=
  let outer := bound.getD []
  match f.kind with
  | .classBody => "__class__" :: outer
  | .module | .hint => outer
  | .function | .comprehension _ =>
    (f.names.filter fun n => binds n.2).map (·.1) ++
      outer.filter fun name => !(f.roles name).contains .declaredGlobal

end ScopeFacts

namespace Scope

mutual

/-- Checks the names of a scope and of all scopes inside it. -/
def resolve (bound : Option (List String)) : Scope → Except Stop Unit
  | .mk facts inner => do
    facts.names.forM fun n => facts.checkName bound n.1 n.2
    resolveAll (facts.boundInside bound) inner

/-- Checks the names of scopes. -/
def resolveAll (bound : List String) : List Scope → Except Stop Unit
  | [] => .ok ()
  | s :: rest => do
    resolve (some bound) s
    resolveAll bound rest

end

/-- The scopes of a module, if its names can be resolved. -/
def ofModule (depth : Nat) (delayed : Bool) (m : Module) : Except Stop Scope := do
  let scope ← Collect.module depth delayed m
  resolve none scope
  return scope

end Scope

end Playground.Source
