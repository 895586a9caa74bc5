import Playground.Reference.Class.Bytes
import Playground.Reference.Class.Callable
import Playground.Reference.Class.Collection
import Playground.Reference.Class.Combination
import Playground.Reference.Class.Exception
import Playground.Reference.Class.Iterator
import Playground.Reference.Class.Number
import Playground.Reference.Class.Object
import Playground.Reference.Class.Session
import Playground.Reference.Class.Text
import Playground.Reference.Library
import Playground.Reference.Module.Builtins
import Playground.Reference.Module.Fraction
import Playground.Reference.Module.Host
import Playground.Reference.Module.Iteration
import Playground.Reference.Module.Json
import Playground.Reference.Module.Keyword
import Playground.Reference.Module.Known
import Playground.Reference.Module.Math
import Playground.Reference.Module.Path
import Playground.Reference.Module.System
import Playground.Reference.Module.Text
import Playground.Reference.Prelude
import Playground.Source.Keyword

/-!
# The standard reference

All that completion knows: the language with its classes, and the modules of its library that are
described here. Other modules of the library can be named, but nothing is known about them.
-/

namespace Playground.Reference

/-- The modules that are described. -/
def standardModules : List ModuleTable :=
  [builtinsModule, mathModule, stringModule, keywordModule, itertoolsModule, sysModule, osModule]
    ++ jsonModules ++ fractionModules ++ pathModules ++ knownModules

/-- The classes that are described. -/
def standardClasses : List ClassTable :=
  consoleClass :: objectClasses ++ numberClasses ++ textClasses ++ bytesClasses
    ++ collectionClasses ++ iteratorClasses ++ callableClasses ++ exceptionClasses
    ++ sessionClasses ++ combinationClasses ++ stringClasses ++ jsonClasses ++ fractionClasses
    ++ systemClasses

/-- The language and its library. -/
def standard : Reference where
  modules := standardModules
  classes := standardClasses
  prelude := preludeMembers
  builtins := builtinMembers
  ambient := ambientMembers
  keywords := Source.keywords
  isImportable := Library.isImportable

end Playground.Reference
