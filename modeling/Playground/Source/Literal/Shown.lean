import Playground.Decimal.Writing
import Playground.Source.Tree
import Playground.Text.Quoted

/-!
# Showing literals

The text of a value, as it is shown in messages: it can be read as a literal again, apart from
values that are not finite.
-/

namespace Playground.Source.Literal

/-- The style of the parts of complex numbers: whole numbers have no point. -/
def partStyle : Decimal.Style := ⟨15, false⟩

/-- A part of a complex number. -/
def partText (x : Float) : String :=
  Decimal.floatText partStyle Decimal.shortest x

/-- A complex number. A real part of zero is left out, unless it is negative. -/
def complexText (re im : Float) : String :=
  if re == 0.0 && !Decimal.isNegative re then partText im ++ "j"
  else
    let sign := if im.isNaN || !Decimal.isNegative im then "+" else ""
    s!"({partText re}{sign}{partText im}j)"

mutual

/-- The text of a value. -/
def shown : Literal → String
  | .none => "None"
  | .bool b => if b then "True" else "False"
  | .ellipsis => "Ellipsis"
  | .int n => toString n
  | .float x => Decimal.exactText x
  | .complex re im => complexText re im
  | .text s _ => Text.quoted s
  | .bytes bs => Text.quotedBytes bs
  | .tuple [v] => "(" ++ shown v ++ ",)"
  | .tuple vs => "(" ++ ", ".intercalate (shownAll vs) ++ ")"
  | .frozenset vs =>
    if vs.isEmpty then "frozenset()"
    else "frozenset(\x7b" ++ ", ".intercalate (shownAll vs) ++ "\x7d)"

/-- The texts of values. -/
def shownAll : List Literal → List String
  | [] => []
  | v :: vs => shown v :: shownAll vs

end

end Playground.Source.Literal
