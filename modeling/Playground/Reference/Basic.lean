/-!
# What names stand for

Completion answers from descriptions: nothing is run to find out what a name stands for. Modules and
classes are described by tables, and everything else by the class it belongs to.

Looking up an attribute reads tables only. A class looks in its own table and in those of its
ancestors, and then in the tables of its metaclass. Anything else looks among what every instance of
its class carries and then in the tables of the class. A module has its own table, and behind it the
modules that a package holds.
-/

namespace Playground

/-- What a name stands for. -/
inductive Entity where
  | module (name : String)
  | classOf (name : String)
  /-- An attribute that is computed when it is read. -/
  | property
  /-- Something to call, of a given class of functions or methods. -/
  | routine (type : String) (signature : Option String) (documentation : List String)
  /-- Anything else, of a given class. -/
  | value (type : String) (signature : Option String)
  deriving DecidableEq, Repr, Inhabited

/-- Names with what they stand for. -/
abbrev Members := List (String × Entity)

/-- What is known about a module. -/
structure ModuleTable where
  name : String
  /-- Other names under which it can be imported. -/
  aliases : List String := []
  documentation : List String := []
  members : Members := []

/-- What is known about a class. -/
structure ClassTable where
  name : String
  /-- The classes whose attributes it inherits, the nearest first. -/
  ancestors : List String := ["object"]
  /-- The class that it is an instance of. -/
  metaclass : String := "type"
  /-- How it is called. -/
  signature : Option String := none
  documentation : List String := []
  /-- Its attributes. -/
  members : Members := []
  /-- What each of its instances carries besides. -/
  carried : Members := []

/-- What completion knows about the language and its library. -/
structure Reference where
  modules : List ModuleTable
  classes : List ClassTable
  /-- The names that every program starts with. -/
  prelude : Members
  /-- The names of the language itself, by their order in the alphabet. -/
  builtins : Members
  /-- Names that the language knows but that are no use to anyone, so that they are not suggested. -/
  ambient : Members
  keywords : List String
  /-- Whether a module of this name may be imported in order to look at it. -/
  isImportable : String → Bool

/-- What a name stands for among others. -/
def Members.find? (ms : Members) (name : String) : Option Entity :=
  ms.lookup name

namespace Entity

/-- Whether something is a class. -/
def isClass : Entity → Bool
  | .classOf _ => true
  | _ => false

/-- The kind of an attribute, or of a name that is no attribute, as suggestions give it. -/
def kind (owner : Option Entity) : Entity → String
  | .module _ => "module"
  | .classOf _ => "class"
  | .property => "property"
  | .routine .. => if owner.any isClass then "method" else "function"
  | .value .. => if owner.any isClass then "field" else "variable"

end Entity

namespace Reference

variable (r : Reference)

/-- The table of a class. -/
def class? (name : String) : Option ClassTable :=
  r.classes.find? (·.name == name)

/-- The module of a name, which need not be its own. -/
def module? (name : String) : Option ModuleTable :=
  r.modules.find? fun m => m.name == name || m.aliases.contains name

/-- Imports a module in order to look at it. -/
def importModule? (name : String) : Option Entity :=
  if r.isImportable name then (r.module? name).map fun m => .module m.name else none

/-- The tables in which an attribute of a class is looked for, in turn. -/
def lineage (name : String) : List ClassTable :=
  match r.class? name with
  | none => []
  | some c => c :: c.ancestors.filterMap r.class?

/-- The class that something is an instance of. -/
def typeOf : Entity → String
  | .module _ => "module"
  | .classOf name => ((r.class? name).map ClassTable.metaclass).getD "type"
  | .property => "property"
  | .routine type _ _ => type
  | .value type _ => type

/-- The tables of the attributes that a class has or inherits, the nearest first. -/
def inherited (name : String) : List Members :=
  (r.lineage name).map ClassTable.members

/-- The tables of the attributes that an instance of a class has. -/
def instanceTables (name : String) : List Members :=
  (r.lineage name).map ClassTable.carried ++ r.inherited name

/-- An attribute, as the tables give it. -/
def attribute? (owner : Entity) (name : String) : Option Entity :=
  match owner with
  | .module m =>
    (((r.module? m).map ModuleTable.members).getD []).find? name
      <|> (r.inherited "module").findSome? (·.find? name)
      <|> r.importModule? (m ++ "." ++ name)
  | .classOf c =>
    (r.inherited c ++ r.inherited (r.typeOf owner)).findSome? (·.find? name)
  | _ => (r.instanceTables (r.typeOf owner)).findSome? (·.find? name)

/-- The names of the attributes of something, in the order of the alphabet. The attributes of a
class do not include those of its metaclass. -/
def attributeNames (owner : Entity) : List String :=
  let tables :=
    match owner with
    | .module m => [((r.module? m).map ModuleTable.members).getD []]
    | .classOf c => r.inherited c
    | _ => r.instanceTables (r.typeOf owner)
  ((tables.flatten.map Prod.fst).mergeSort fun a b => decide (a ≤ b)).eraseReps

/-- The documentation of modules, classes and routines, line by line. Other things have none of
their own. -/
def documentation : Entity → List String
  | .module name => ((r.module? name).map ModuleTable.documentation).getD []
  | .classOf name => ((r.class? name).map ClassTable.documentation).getD []
  | .routine _ _ lines => lines
  | _ => []

/-- How something is called, if it can be called and that is known. -/
def signature : Entity → Option String
  | .module _ => none
  | .classOf name => (r.class? name).bind ClassTable.signature
  | .property => none
  | .routine _ s _ => s
  | .value _ s => s

end Reference

end Playground
