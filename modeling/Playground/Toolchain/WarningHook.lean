import Playground.Source.Fault
import Playground.Text.Quoted

/-!
# The warning hook

A process has one handler for warnings, but several compilations can be on their way in it at once,
and each of them wants the warnings about its own text. So a router takes the place of the handler.
It knows a text by the name of its file, and puts a warning on the list of the compilation that has
entered under that name. Whatever belongs to no compilation is passed on to the handler that the
router has replaced.

Each step takes place under a lock. What compilations do at the same time is a sequence of their
steps.
-/

namespace Playground

/-- What is done with the warnings that match in each of the parts that are given; a line of zero
matches every line. -/
structure WarningFilter where
  action : String
  message : Option String
  category : String
  module : Option String
  line : Nat
  deriving DecidableEq, Repr

namespace WarningFilter

/-- Shows every warning about a file whose name begins as those of compilations do. -/
def always : WarningFilter :=
  ⟨"always", none, "Warning", some "<workspace\\-", 0⟩

/-- Whether the first of some filters shows the warnings of compilations. -/
def isFirst (filters : List WarningFilter) : Bool :=
  filters.head?.any fun f => f.action == always.action && f.module == always.module

/-- Puts the filter for compilations in front, where no other filter can hide their warnings. -/
def inFront (filters : List WarningFilter) : List WarningFilter :=
  if isFirst filters then filters else always :: filters.erase always

end WarningFilter

/-- A warning about a file. -/
structure FileWarning where
  file : String
  warning : Source.SourceWarning
  deriving Repr, Inhabited

/-- The warning hook of a process, where compilations are known by `ι` and handlers by `η`. -/
structure WarningHook (ι η : Type) where
  /-- The handler in charge, unless it is the router. -/
  installed : Option η
  /-- Where the router passes on what belongs to no compilation. -/
  passthrough : η
  filters : List WarningFilter
  /-- The compilations that have entered, by the names of their files. -/
  collectors : List (String × ι)
  /-- The lists of the compilations. -/
  caught : ι → List FileWarning
  /-- What the handlers other than the router were called with, in order. -/
  handled : List (η × FileWarning)

/-- Why a compilation cannot leave: nothing has entered under the name of its file. -/
inductive CollectorError where
  | missing (file : String)
  deriving DecidableEq, Repr

/-- The wording of a missing entry. -/
def CollectorError.message : CollectorError → String
  | .missing file => Text.quoted file

/-- What is done to a hook in one step. -/
inductive HookStep (ι : Type) where
  | enter (c : ι)
  | raise (w : FileWarning)
  | leave (c : ι)

namespace WarningHook

variable {ι η : Type}

/-- The handler of all that belongs to no compilation. -/
def outer (h : WarningHook ι η) : η :=
  h.installed.getD h.passthrough

/-- Puts the router in charge. -/
def install (h : WarningHook ι η) : WarningHook ι η :=
  { h with
    installed := none
    passthrough := h.outer
    filters := WarningFilter.inFront h.filters }

/-- Calls the handler that is outside of all compilations. -/
def handle (h : WarningHook ι η) (w : FileWarning) : WarningHook ι η :=
  { h with handled := h.handled ++ [(h.outer, w)] }

section

variable [DecidableEq ι]

/-- A compilation enters under the name of its file, with an empty list. -/
def enter (h : WarningHook ι η) (file : String) (c : ι) : WarningHook ι η :=
  { h.install with
    collectors := (file, c) :: h.collectors.filter (·.1 != file)
    caught := fun d => if d = c then [] else h.caught d }

/-- Puts a warning at the end of the list of a compilation. -/
def collect (h : WarningHook ι η) (c : ι) (w : FileWarning) : WarningHook ι η :=
  { h with caught := fun d => if d = c then h.caught d ++ [w] else h.caught d }

/-- A warning comes up. The router is no longer under the lock when it passes the warning on, but
what it does then concerns no compilation. -/
def raise (h : WarningHook ι η) (w : FileWarning) : WarningHook ι η :=
  match h.installed with
  | some _ => h.handle w
  | none =>
    match h.collectors.lookup w.file with
    | some c => h.collect c w
    | none => h.handle w

/-- The compilation of a file leaves. Its list stays as it is. -/
def leave (h : WarningHook ι η) (file : String) : Except CollectorError (WarningHook ι η) :=
  match h.collectors.lookup file with
  | some _ => .ok { h with collectors := h.collectors.filter (·.1 != file) }
  | none => .error (.missing file)

/-- Does a step, where `file` tells the names of the files. -/
def step (file : ι → String) (h : WarningHook ι η) :
    HookStep ι → Except CollectorError (WarningHook ι η)
  | .enter c => .ok (h.enter (file c) c)
  | .raise w => .ok (h.raise w)
  | .leave c => h.leave (file c)

/-- Does steps in order. -/
def run (file : ι → String) (h : WarningHook ι η) (steps : List (HookStep ι)) :
    Except CollectorError (WarningHook ι η) :=
  steps.foldlM (step file) h

end

end WarningHook

end Playground
