import Playground.Completion.Chain
import Playground.Completion.Resolve
import Playground.Toolchain.Basic

/-!
# Suggestions

What can be typed at a position. After a dot these are the attributes of what stands before it;
otherwise they are the names that the text binds, those of the prelude, those of the language, and
its keywords, in this order. Names that begin with an underscore are private: they are only
suggested to someone who has typed an underscore.
-/

namespace Playground

/-- The part of a text before a position; a negative position counts from the end. -/
def Text.before (position : Int) (text : List Char) : List Char :=
  text.take (if position < 0 then position + text.length else position).toNat

namespace Completion

/-- Whether a name begins with what has been typed, and is not private without need. -/
def isVisible (typed name : String) : Bool :=
  typed.toList.isPrefixOf name.toList &&
    (typed.toList.head? == some '_' || name.toList.head? != some '_')

end Completion

namespace Reference

variable (r : Reference)

/-- The first line of the documentation of something. -/
def summary? (e : Entity) : Option String :=
  (r.documentation e).head?

/-- The suggestion of something under a name. -/
def candidate (owner : Option Entity) (name : String) (e : Entity) : Candidate :=
  ⟨name, e.kind owner, some name, r.summary? e⟩

/-- The suggestion of a name of which only the kind is known. -/
def bareCandidate (kind name : String) : Candidate :=
  ⟨name, kind, some name, none⟩

/-- The suggestion of a name that a text binds. -/
def ofBinding : String × Binding → Candidate
  | (name, .module _) => bareCandidate "module" name
  | (name, _) => bareCandidate "variable" name

/-- Everything that can stand without a dot before it. -/
def names (scope : List (String × Binding)) : List Candidate :=
  scope.map ofBinding
    ++ r.prelude.map (fun (name, e) => r.candidate none name e)
    ++ r.builtins.map (fun (name, e) => r.candidate none name e)
    ++ r.keywords.map (bareCandidate "keyword")

/-- The attributes of something. -/
def attributes (owner : Entity) : List Candidate :=
  (r.attributeNames owner).filterMap fun name =>
    (r.attribute? owner name).map (r.candidate (some owner) name)

/-- What can be typed at a position of a text. -/
def complete (text : String) (position : Int) : List Candidate :=
  match Chain.before? (Text.before position text.toList) with
  | none => []
  | some chain =>
    let scope := Binding.ofText text.toList
    let found :=
      if chain.base.isEmpty then r.names scope
      else ((r.resolve? scope chain.base).map r.attributes).getD []
    Completion.firsts Candidate.label
      (found.filter fun c => Completion.isVisible chain.typed c.label)

end Reference

end Playground
