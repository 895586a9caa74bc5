import Playground.Completion.Describe
import Playground.Proofs.Completion.Items
import Playground.Proofs.Completion.Links
import Playground.Proofs.Completion.Search
import Playground.Reference.Standard

/-!
# Names under a cursor

What is known about the name at a position is asked for with the text up to the end of the word
there. That text is the same wherever in the word the position is, so the answer is, too. In a
dotted name the words in front of that word belong to what is asked for, and those behind it do not.

- `at?_append`: the chain at a position, by the text on either side of it.
- `at?_eq_of_isWord`: within a word it is the same everywhere.
- `Occurrence`: a dotted name as it stands in a text; `Occurrence.at?_eq`: the chain at a position
  in one of its words.
- `inspect_eq` and `name_of_describeWords`: what is answered is about the words of the chain, and
  bears their name.
- `inspect_steady`: all this of what is known about the name at a position.
-/

namespace Playground

namespace Chain

open Text (Stops)

variable {front word back : List Char}

/-! ## Positions in a word -/

/-- The chain at a position is that of the text up to the end of the word there. -/
theorem at?_append (front back : List Char) :
    at? (front ++ back) front.length = before? (front ++ back.takeWhile Text.isWord) := by
  have hbefore : Text.before front.length (front ++ back) = front := by
    rw [Text.before, if_neg (by omega), Int.toNat_natCast, List.take_left]
  have hrest : Text.restOfWord front.length (front ++ back) = back.takeWhile Text.isWord := by
    rw [Text.restOfWord, Int.toNat_natCast, List.drop_left]
  rw [at?, hbefore, hrest]

/-- The chain is the same at the start of letters and behind them. -/
theorem at?_letters (front : List Char) (hword : IsWord word) (back : List Char) :
    at? (front ++ word ++ back) front.length =
      at? (front ++ word ++ back) (front ++ word).length := by
  have hstart : at? (front ++ word ++ back) front.length =
      before? (front ++ (word ++ back).takeWhile Text.isWord) := by
    rw [List.append_assoc]
    exact at?_append front (word ++ back)
  rw [hstart, at?_append, List.takeWhile_append_of_pos hword, List.append_assoc]

/-- The chain is the same at two positions with nothing but letters between them. -/
theorem at?_eq_of_isWord {text : List Char} {p q : Nat} (hpq : p ≤ q) (hq : q ≤ text.length)
    (hword : IsWord ((text.drop p).take (q - p))) : at? text p = at? text q := by
  have htext : text = text.take p ++ (text.drop p).take (q - p) ++ text.drop q := by
    have hdrop : (text.drop p).drop (q - p) = text.drop q := by
      rw [List.drop_drop, Nat.add_sub_cancel' hpq]
    rw [List.append_assoc, ← hdrop, List.take_append_drop, List.take_append_drop]
  have hp : (text.take p).length = p := List.length_take_of_le (hpq.trans hq)
  have hboth : (text.take p ++ (text.drop p).take (q - p)).length = q := by
    rw [List.length_append, hp, List.length_take, List.length_drop]
    omega
  have hletters := at?_letters (text.take p) hword (text.drop q)
  rwa [← htext, hp, hboth] at hletters

/-- In a word the chain is the one that ends with the word. -/
theorem at?_of_stops (hword : IsWord word) (hback : Stops Text.isWord back) {i : Nat}
    (hi : i ≤ word.length) :
    at? (front ++ word ++ back) ↑(front.length + i) = before? (front ++ word) := by
  have hsplit : front ++ word ++ back = front ++ word.take i ++ (word.drop i ++ back) := by
    rw [List.append_assoc, List.append_assoc, ← List.append_assoc (word.take i),
      List.take_append_drop]
  have hlength : front.length + i = (front ++ word.take i).length := by
    rw [List.length_append, List.length_take_of_le hi]
  have hrest : ∀ c ∈ word.drop i, Text.isWord c = true := fun c hc =>
    hword c (List.mem_of_mem_drop hc)
  rw [hsplit, hlength, at?_append, hback.takeWhile_append hrest, List.append_assoc,
    List.take_append_drop]

/-! ## Dotted names -/

/-- A dotted name as it stands in a text: names with dots between them, and white space around the
dots. In front of the first name there is neither a letter nor a dot, and behind the last one no
letter. -/
structure Occurrence where
  front : List Char
  links : List Link
  last : List Char
  back : List Char
  isContext : IsContext front
  named : IsNamed last
  stops : Stops Text.isWord back

namespace Occurrence

variable (o : Occurrence)

/-- The text that it stands in. -/
def text : List Char :=
  o.front ++ linksText o.links ++ o.last ++ o.back

/-- Its names, from the front to the back. -/
def names : List String :=
  o.links.map Link.word ++ [String.ofList o.last]

/-- Where its name of a number begins. -/
def start (k : Nat) : Nat :=
  o.front.length + (linksText (o.links.take k)).length

theorem length_names : o.names.length = o.links.length + 1 := by
  rw [names, List.length_append, List.length_map, List.length_singleton]

/-- Each of its names stands behind links with the names before it, and does not go on behind. -/
theorem exists_name {k : Nat} (hk : k < o.names.length) : ∃ name rest,
    o.text = o.front ++ linksText (o.links.take k) ++ name ++ rest ∧ IsNamed name ∧
      Stops Text.isWord rest ∧ o.names.take k = (o.links.take k).map Link.word ∧
      o.names[k] = String.ofList name := by
  have hlength := o.length_names
  have htake : o.names.take k = (o.links.take k).map Link.word := by
    rw [names, List.take_append_of_le_length (by rw [List.length_map]; omega), List.map_take]
  by_cases hlast : k < o.links.length
  · have hlinks : o.links = o.links.take k ++ o.links[k] :: o.links.drop (k + 1) := by
      rw [List.getElem_cons_drop, List.take_append_drop]
    have htext : linksText o.links =
        linksText (o.links.take k) ++ o.links[k].text ++ linksText (o.links.drop (k + 1)) := by
      conv => lhs; rw [hlinks]
      rw [linksText, List.flatMap_append, List.flatMap_cons, ← List.append_assoc]
      rfl
    -- a name with a dot after it goes up to the white space or the dot
    have hstops : Stops Text.isWord
        (o.links[k].gap ++ '.' :: (o.links[k].gap' ++ linksText (o.links.drop (k + 1)) ++ o.last
          ++ o.back)) := by
      cases hgap : o.links[k].gap with
      | nil =>
        rintro c ⟨⟩
        exact isWord_dot
      | cons d gap =>
        rintro c ⟨⟩
        have hblank := o.links[k].isGap
        rw [hgap] at hblank
        exact Text.isWord_of_isBlank (hblank d List.mem_cons_self)
    refine ⟨_, _, ?_, o.links[k].named, hstops, htake, ?_⟩
    · rw [text, htext, Link.text]
      simp only [List.append_assoc, List.cons_append]
    · simp only [names]
      rw [List.getElem_append_left (by rwa [List.length_map]), List.getElem_map]
      rfl
  · obtain rfl : k = o.links.length := by omega
    refine ⟨o.last, o.back, ?_, o.named, o.stops, htake, ?_⟩
    · rw [List.take_length, text]
    · simp only [names]
      rw [List.getElem_append_right (by rw [List.length_map])]
      simp

/-- Wherever in one of its names a position is, the chain there has the names up to that one. -/
theorem at?_eq {k : Nat} (hk : k < o.names.length) {i : Nat} (hi : i ≤ o.names[k].length) :
    at? o.text ↑(o.start k + i) = some ⟨o.names.take k, o.names[k]⟩ := by
  obtain ⟨name, rest, htext, hnamed, hrest, htake, hname⟩ := o.exists_name hk
  have hreads : Reads (o.front ++ linksText (o.links.take k) ++ name)
      ⟨(o.links.take k).map Link.word, String.ofList name⟩ := by
    refine .mk _ o.isContext hnamed.letters fun _ hdigit => ?_
    have hnot := isName_eq_false_iff.mpr (.inr hdigit)
    rw [hnamed.named] at hnot
    cases hnot
  rw [hname, String.length_ofList] at hi
  rw [htext, start, ← List.length_append, at?_of_stops hnamed.letters hrest hi, hreads.before?_eq,
    htake, hname]

end Occurrence

end Chain

/-! ## Descriptions -/

namespace Source.Definition

theorem mem_of_outermost? {ds : List (Nat × Definition)} {d : Nat × Definition}
    (h : outermost? ds = some d) : d ∈ ds := by
  induction ds generalizing d with
  | nil => cases h
  | cons e es ih =>
    rw [outermost?] at h
    cases hrest : outermost? es with
    | none =>
      rw [hrest] at h
      cases h
      exact List.mem_cons_self
    | some e' =>
      rw [hrest] at h
      dsimp only at h
      split at h
      · cases h
        exact List.mem_cons_of_mem _ (ih hrest)
      · cases h
        exact List.mem_cons_self

/-- The definition of a name defines that name. -/
theorem name_of_definition? {text name : String} {d : Definition}
    (h : definition? text name = .ok (some d)) : d.name = name := by
  unfold definition? at h
  split at h
  · cases h
  · split at h
    · cases h
    · cases h
    · rename_i m _
      obtain ⟨e, he, rfl⟩ := Option.map_eq_some_iff.mp (Except.ok.inj h)
      have hmem := List.mem_filter.mp (mem_of_outermost? he)
      exact beq_iff_eq.mp hmem.2

theorem name_of_describe {d : Definition} {i : Introspection} (h : d.describe = .ok i) :
    i.name = d.name := by
  unfold describe at h
  split at h
  · cases h
    rfl
  · split at h
    · cases h
    · cases h
      rfl

end Source.Definition

namespace Reference

open Binding (ofText)

variable (r : Reference) {text : String} {position : Int} {words : List String}

/-- What is known about a dotted name, given by its words. A single word that the text defines is
what the text defines it to be; any other name is looked up. -/
def describeWords (text : String) : List String → Except Breakdown (Option Introspection)
  | [] => .ok none
  | [name] =>
    match Source.definition? text name with
    | .error cause => .error cause
    | .ok none => .ok (r.describeName? (ofText text.toList) [name])
    | .ok (some d) => d.describe.map some
  | words => .ok (r.describeName? (ofText text.toList) words)

/-- What is known at a position is what is known about the words of the chain there. -/
theorem inspect_eq (text : String) (position : Int) :
    r.inspect text position =
      ((Chain.at? text.toList position).map Chain.words).elim (.ok none)
        (r.describeWords text) := by
  unfold inspect
  cases (Chain.at? text.toList position).map Chain.words with
  | none => rfl
  | some words =>
    rw [Option.elim_some]
    cases words with
    | nil => rfl
    | cons name names =>
      cases names with
      | cons name' names => rfl
      | nil =>
        dsimp only [describeWords]
        cases Source.definition? text name with
        | error cause => rfl
        | ok defined =>
          cases defined with
          | none => rfl
          | some d =>
            show (do return some (← d.describe)) = d.describe.map some
            cases d.describe <;> rfl

/-- What is known about a dotted name bears that name. -/
theorem name_of_describeWords {i : Introspection} (h : r.describeWords text words = .ok (some i)) :
    i.name = ".".intercalate words := by
  have hlookedUp {words : List String} (h : r.describeName? (ofText text.toList) words = some i) :
      i.name = ".".intercalate words := by
    obtain ⟨e, -, rfl⟩ := Option.map_eq_some_iff.mp h
    rfl
  unfold describeWords at h
  split at h
  · cases h
  · rename_i name
    split at h
    · cases h
    · exact hlookedUp (Except.ok.inj h)
    · rename_i d hdefined
      cases hdescribe : d.describe with
      | error cause =>
        rw [hdescribe] at h
        cases h
      | ok i' =>
        rw [hdescribe] at h
        cases h
        rw [Source.Definition.name_of_describe hdescribe,
          Source.Definition.name_of_definition? hdefined, String.intercalate_singleton]
  · exact hlookedUp (Except.ok.inj h)

/-- What is known about the name at a position is the same wherever in a word the position is. In a
dotted name it is about the names up to the one at the position: these are looked up, and what is
known bears the name that they make. -/
theorem inspect_steady (text : String) :
    (∀ p q : Nat, p ≤ q → q ≤ text.length → Chain.IsWord ((text.toList.drop p).take (q - p)) →
      r.inspect text p = r.inspect text q) ∧
    ∀ o : Chain.Occurrence, o.text = text.toList → ∀ k (hk : k < o.names.length),
      ∀ i ≤ o.names[k].length,
        r.inspect text ↑(o.start k + i) = r.describeWords text (o.names.take (k + 1)) ∧
          ∀ d, r.inspect text ↑(o.start k + i) = .ok (some d) →
            d.name = ".".intercalate (o.names.take (k + 1)) := by
  constructor
  · intro p q hpq hq hword
    rw [← String.length_toList] at hq
    rw [inspect_eq, inspect_eq, Chain.at?_eq_of_isWord hpq hq hword]
  · intro o ho k hk i hi
    obtain ⟨name, -, -, hnamed, -, -, hname⟩ := o.exists_name hk
    have hwords : Chain.words ⟨o.names.take k, o.names[k]⟩ = o.names.take (k + 1) := by
      have hne : o.names[k].isEmpty = false := by
        rw [hname]
        simpa using hnamed.ne_nil
      rw [Chain.words, hne, List.take_succ_eq_append_getElem hk]
      rfl
    have hinspect : r.inspect text ↑(o.start k + i) =
        r.describeWords text (o.names.take (k + 1)) := by
      rw [inspect_eq, ← ho, o.at?_eq hk hi, Option.map_some, Option.elim_some, hwords]
    refine ⟨hinspect, fun d hd => ?_⟩
    rw [hinspect] at hd
    exact r.name_of_describeWords hd

/-- A name in the middle of a dotted one, asked for at its ends and within it. -/
theorem inspect_steady_between_dots :
    let text := "import math\nprint(math . pi.x)"
    let o : Chain.Occurrence :=
      { front := "import math\nprint(".toList
        links := [
          ⟨"math".toList, " ".toList, " ".toList, ⟨by decide, by decide⟩, by decide, by decide⟩,
          ⟨"pi".toList, [], [], ⟨by decide, by decide⟩, by decide, by decide⟩]
        last := "x".toList
        back := ")".toList
        isContext := ⟨by decide, by decide⟩
        named := ⟨by decide, by decide⟩
        stops := by decide }
    o.text = text.toList ∧ o.start 1 = 25 ∧ o.names = ["math", "pi", "x"] ∧
      standard.inspect text 25 = standard.inspect text 27 ∧
      standard.inspect text 26 = .ok (some ⟨"math.pi", "variable", none, none⟩) := by
  intro text o
  have htext : o.text = text.toList := by decide
  have hstart : o.start 1 = 25 := by decide
  obtain ⟨hwithin, hnamed⟩ := inspect_steady standard text
  obtain ⟨hinspect, -⟩ := hnamed o htext 1 (by decide) 1 (by decide)
  have hknown : standard.describeWords text ["math", "pi"] =
      .ok (some ⟨"math.pi", "variable", none, none⟩) := by
    show Except.ok (standard.describeName? (ofText text.toList) ["math", "pi"]) = _
    rw [Binding.ofText_eq]
    decide
  rw [hstart] at hinspect
  exact ⟨htext, hstart, by decide, hwithin 25 27 (by decide) (by decide) (by decide),
    hinspect.trans hknown⟩

end Reference

end Playground
