import Playground.Source.Misuse

/-!
# Scopes

A scope is a module, a class, a function or a comprehension, together with what each name is in it.
Scopes form a tree; a comprehension counts as a function there.
-/

namespace Playground.Source

/-- What a name is in a scope. -/
inductive NameRole where
  | declaredGlobal
  | declaredNonlocal
  | assigned
  | parameter
  | imported
  | used
  | annotated
  /-- Bound by a clause of a comprehension. -/
  | iterated
  deriving DecidableEq, Repr

/-- The kinds of scopes. -/
inductive ScopeKind where
  | module
  | classBody
  | function
  | comprehension (what : Gathering)
  /-- An annotation that is not evaluated. -/
  | hint
  deriving DecidableEq, Repr, Inhabited

/-- Whether a scope is that of a function. -/
def ScopeKind.isFunction : ScopeKind → Bool
  | .function | .comprehension _ => true
  | _ => false

/-- What a comprehension makes whose scope this is. -/
def ScopeKind.gathering? : ScopeKind → Option Gathering
  | .comprehension what => some what
  | _ => none

/-- What is known about one scope. -/
structure ScopeFacts where
  kind : ScopeKind
  span : Span
  /-- The names with their roles, in the order in which they came up. -/
  names : List (String × List NameRole)
  /-- The names that a statement declares to belong to another scope, and where. -/
  declarations : List (String × Span)
  isCoroutine : Bool
  isGenerator : Bool
  deriving Inhabited

namespace ScopeFacts

/-- A scope of which nothing is known yet. -/
def ofKind (kind : ScopeKind) (span : Span) : ScopeFacts :=
  ⟨kind, span, [], [], false, false⟩

/-- The roles of a name. -/
def roles (f : ScopeFacts) (name : String) : List NameRole :=
  ((f.names.find? fun n => n.1 == name).map (·.2)).getD []

/-- Sets the roles of a name. -/
def setRoles (f : ScopeFacts) (name : String) (roles : List NameRole) : ScopeFacts :=
  if f.names.any fun n => n.1 == name then
    { f with names := f.names.map fun n => if n.1 == name then (name, roles) else n }
  else { f with names := f.names ++ [(name, roles)] }

/-- Gives a name a role, unless it has it already. -/
def addRole (f : ScopeFacts) (name : String) (role : NameRole) : ScopeFacts :=
  let roles := f.roles name
  if roles.contains role then f else f.setRoles name (roles ++ [role])

end ScopeFacts

/-- A scope with the scopes inside it. -/
inductive Scope where
  | mk (facts : ScopeFacts) (inner : List Scope)
  deriving Inhabited

namespace Scope

/-- What is known about the scope. -/
def facts : Scope → ScopeFacts
  | .mk facts _ => facts

/-- The scopes inside the scope. -/
def inner : Scope → List Scope
  | .mk _ inner => inner

mutual

/-- What is known about a scope and all scopes inside it. -/
def flatten : Scope → List ScopeFacts
  | .mk facts inner => facts :: flattenAll inner

/-- What is known about scopes and all scopes inside them. -/
def flattenAll : List Scope → List ScopeFacts
  | [] => []
  | s :: rest => flatten s ++ flattenAll rest

end

end Scope

/-- A name as it is known outside the class that it is private to. A name is private if it begins
with two underscores, does not end with two, and has no dot. -/
def privateName (owner : Option String) (name : String) : String :=
  match owner with
  | none => name
  | some owner =>
    let text := name.toList
    let isPrivate := ['_', '_'].isPrefixOf text && !(['_', '_'].isSuffixOf text) &&
      !text.contains '.'
    match owner.toList.dropWhile (· == '_') with
    | [] => name
    | stem => if isPrivate then "_" ++ String.ofList stem ++ name else name

end Playground.Source
