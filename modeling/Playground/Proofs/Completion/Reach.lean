import Playground.Completion.Describe
import Playground.Proofs.Completion.Cursor
import Playground.Proofs.Completion.Joint

/-!
# How far chains reach

The chain at a cursor is looked for in the merged text, where the using directives and other buffers
stand in front of the entry buffer. It is that of the entry buffer, whatever these are, unless a
dotted name goes across the start of the buffer. The white space around the dots of a name may
contain line ends, and so it does there.

- `KeepsTo`: what it is for a cursor to have the chain of its own text; `KeepsTo.agree`: what stands
  in front of the text makes no difference then.
- `cursor_keepsTo`: the cursor of a workspace does.
- `cursor_reaches_out`: where a name goes across the start of the buffer, the chain is another one.
-/

namespace Playground

variable {front text back : List Char} {position : Int}

/-- A cursor that has the chain of a text of its own, at a position of it, although something stands
in front of the text. -/
structure Cursor.KeepsTo (c : Cursor) (front text : List Char) (position : Int) : Prop where
  /-- What is typed there is completed alike. -/
  before : ¬ Chain.Joins front (Text.before position text) →
    Chain.before? (Text.before c.offset c.text.toList) = Chain.before? (Text.before position text)
  /-- What is named there is described alike. -/
  around : ¬ Chain.Joins front (Text.before position text) →
    Chain.at? c.text.toList c.offset = Chain.at? text position
  /-- If a name goes across, then the chains agree only where there is none. -/
  across : Chain.Joins front (Text.before position text) →
    Chain.before? (Text.before c.offset c.text.toList) = Chain.before? (Text.before position text) →
      Chain.before? (Text.before position text) = none

/-! ## Places in a longer text -/

theorem Text.before_append (hzero : 0 ≤ position) (hlength : position ≤ text.length) :
    Text.before (front.length + position) (front ++ text ++ back) =
      front ++ Text.before position text := by
  have hle : position.toNat ≤ text.length := by omega
  rw [Text.before, Text.before, if_neg (by omega), if_neg (by omega),
    show ((front.length : Int) + position).toNat = front.length + position.toNat by omega,
    List.append_assoc, List.take_length_add_append, List.take_append_of_le_length hle]

/-- A word does not go on behind the end of a text if a line ends there. -/
theorem Text.restOfWord_append (hzero : 0 ≤ position) (hlength : position ≤ text.length)
    (hback : back = [] ∨ back.head? = some '\n') :
    Text.restOfWord (front.length + position) (front ++ text ++ back) =
      Text.restOfWord position text := by
  have hle : position.toNat ≤ text.length := by omega
  have hstop : back.takeWhile Text.isWord = [] := by
    obtain rfl | hback := hback
    · rfl
    · obtain ⟨rest, rfl⟩ := List.head?_eq_some_iff.mp hback
      exact List.takeWhile_cons_of_neg (by decide)
  rw [Text.restOfWord, Text.restOfWord,
    show ((front.length : Int) + position).toNat = front.length + position.toNat by omega,
    List.append_assoc, List.drop_length_add_append, List.drop_append_of_le_length hle,
    List.takeWhile_append, hstop, List.append_nil]
  split
  · rename_i hall
    exact (List.takeWhile_prefix Text.isWord).eq_of_length hall |>.symm
  · rfl

theorem Text.isWord_restOfWord (position : Int) (text : List Char) :
    Chain.IsWord (Text.restOfWord position text) :=
  fun _ hc => List.mem_takeWhile_imp hc

/-- What is closed does not end within a word. -/
theorem Text.IsClosed.isClear (h : Text.IsClosed front) : Chain.IsClear front := by
  intro c hc
  obtain rfl | hlast := h
  · cases hc
  · obtain rfl := Option.some.inj (hlast.symm.trans hc)
    decide

/-! ## Cursors -/

/-- Behind whole lines and in front of a line end, a text keeps its chains. -/
theorem Cursor.keepsTo_append {merged : String} (hmerged : merged.toList = front ++ text ++ back)
    (hfront : Text.IsClosed front) (hback : back = [] ∨ back.head? = some '\n')
    (hzero : 0 ≤ position) (hlength : position ≤ text.length) :
    Cursor.KeepsTo ⟨merged, front.length + position⟩ front text position where
  before hjoins := by
    dsimp only
    rw [hmerged, Text.before_append hzero hlength]
    exact Chain.before?_append_of_not_joins hfront.isClear hjoins
  around hjoins := by
    dsimp only
    rw [hmerged, Chain.at?, Chain.at?, Text.before_append hzero hlength,
      Text.restOfWord_append hzero hlength hback, List.append_assoc]
    exact Chain.before?_append_of_not_joins hfront.isClear fun h =>
      hjoins (h.of_append_word (Text.isWord_restOfWord position text))
  across hjoins hsame := by
    dsimp only at hsame
    rw [hmerged, Text.before_append hzero hlength] at hsame
    exact hjoins.before?_eq_none hfront.isClear hsame

/-- Two cursors that keep to a text agree, whatever stands in front of it for the one and for the
other. -/
theorem Cursor.KeepsTo.agree {c c' : Cursor} {front' : List Char}
    (h : c.KeepsTo front text position) (h' : c'.KeepsTo front' text position)
    (hjoins : ¬ Chain.Joins front (Text.before position text))
    (hjoins' : ¬ Chain.Joins front' (Text.before position text)) :
    Chain.before? (Text.before c.offset c.text.toList) =
        Chain.before? (Text.before c'.offset c'.text.toList) ∧
      Chain.at? c.text.toList c.offset = Chain.at? c'.text.toList c'.offset :=
  ⟨(h.before hjoins).trans (h'.before hjoins').symm,
    (h.around hjoins).trans (h'.around hjoins').symm⟩

namespace Workspace

variable {w : Workspace} {b : Buffer}

/-- The chain at the cursor of a workspace is that of its entry buffer, unless a dotted name goes
across the start of the buffer. -/
theorem cursor_keepsTo (hids : (w.buffers.map (·.id)).Nodup) (hentry : w.entryBuffer = .ok b)
    (hposition : b.position = some position) (hzero : 0 ≤ position)
    (hlength : position ≤ b.content.length) :
    ∃ c before after, w.cursor = .ok c ∧ w.buffers = before ++ b :: after ∧
      c.KeepsTo (leading w.usings before) b.content.toList position := by
  obtain ⟨position', before, after, hposition', hsplit, hcursor⟩ :=
    cursor_of_nodup hids hentry ⟨position, hposition, hzero, hlength⟩
  obtain rfl := Option.some.inj (hposition.symm.trans hposition')
  have hmerged : w.merged.text.toList =
      leading w.usings before ++ b.content.toList ++ trailing after := by
    rw [merged, hsplit, mergeSources_toList]
  refine ⟨_, before, after, hcursor, hsplit, ?_⟩
  exact Cursor.keepsTo_append hmerged (isClosed_leading before) (head?_trailing after) hzero
    (by rwa [String.length_toList])

/-- A name behind a directive and another buffer. -/
theorem cursor_keepsTo_behind_name :
    let b : Buffer := ⟨"b", "math.pi", some 7⟩
    let w : Workspace := ⟨"console", [⟨"a", "math", none⟩, b], ["import math"], [], some "b"⟩
    (w.buffers.map (·.id)).Nodup ∧ w.entryBuffer = .ok b ∧ b.position = some 7 ∧
      (7 : Int) ≤ b.content.length ∧
      ∃ c, w.cursor = .ok c ∧
        Chain.before? (Text.before c.offset c.text.toList) = some ⟨["math"], "pi"⟩ := by
  intro b w
  obtain ⟨c, before, after, hcursor, hsplit, hkeeps⟩ :=
    cursor_keepsTo (w := w) (b := b) (by decide) (by decide) rfl (by decide) (by decide)
  obtain ⟨rfl, rfl⟩ : before = [⟨"a", "math", none⟩] ∧ after = [] := by
    rcases before with _ | ⟨first, _ | ⟨second, more⟩⟩
    · simp [w, b] at hsplit
    · obtain ⟨rfl, hrest⟩ := List.cons.inj hsplit
      exact ⟨rfl, (List.cons.inj hrest).2.symm⟩
    · simp [w] at hsplit
  have hjoins : ¬ Chain.Joins (leading w.usings [⟨"a", "math", none⟩])
      (Text.before 7 b.content.toList) := fun h => by
    rcases h.dot with hdot | hdot
    · revert hdot
      decide
    · revert hdot
      decide
  have hscans : Chain.Scans ([] ++ "math".toList ++ [] ++ '.' :: []) (some ["math"]) :=
    .link (.stop (by decide)) (by decide) ⟨by decide, by decide⟩
      (by decide) (by decide)
  have hown : Text.before 7 b.content.toList = "math.".toList ++ "pi".toList := by decide
  refine ⟨by decide, by decide, rfl, by decide, c, hcursor, ?_⟩
  rw [hkeeps.before hjoins, hown, Chain.before?_append (by decide) (by decide)]
  exact congrArg (Chain.ofScan · "pi".toList) hscans.scan_eq

/-- A name that begins in a directive and goes on at the start of the buffer. The buffer alone has
no chain there. -/
theorem cursor_reaches_out :
    let r : Request := { source := some ".p", position := some 2, usings := some ["math"] }
    let b : Buffer := ⟨"", ".p", some 2⟩
    let w : Workspace := ⟨"script", [b], ["import math"], [], none⟩
    let c : Cursor := ⟨"import math\n.p", 14⟩
    ofRequest r = .ok w ∧ w.entryBuffer = .ok b ∧ w.cursor = .ok c ∧
      Chain.before? (Text.before c.offset c.text.toList) = some ⟨["math"], "p"⟩ ∧
      Chain.before? (Text.before 2 b.content.toList) = none := by
  intro r b w c
  have hscans : Chain.Scans ("import ".toList ++ "math".toList ++ ['\n'] ++ '.' :: [])
      (some ["math"]) :=
    .link (.stop (by decide)) (by decide) ⟨by decide, by decide⟩
      (by decide) (by decide)
  have hmerged : Text.before c.offset c.text.toList =
      "import math\n.".toList ++ "p".toList := by decide
  have hown : Text.before 2 b.content.toList = ".".toList ++ "p".toList := by decide
  refine ⟨by decide, by decide, by decide, ?_, ?_⟩
  · rw [hmerged, Chain.before?_append (by decide) (by decide)]
    exact congrArg (Chain.ofScan · "p".toList) hscans.scan_eq
  · rw [hown, Chain.before?_append (by decide) (by decide)]
    have hgap : Chain.IsGap [] := List.forall_mem_nil _
    exact congrArg (Chain.ofScan · "p".toList) (Chain.scan_dot hgap hgap)

end Workspace

end Playground
