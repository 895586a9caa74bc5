import Mathlib.Data.List.Nodup
import Playground.Proofs.Completion.Links
import Playground.Proofs.Completion.Naming
import Playground.Reference.Standard

/-!
# What is suggested without a dot

Where no dot stands before the cursor, the names of four sources are suggested: those that the text
binds, those of the prelude, those of the language, and its keywords. A name that several of them
have is suggested once, as the first of them has it. What does not go on from what is typed is left
out, and so is what is private; it makes no difference to the other names whether it is left out
before or after the repetitions are.

- `firstsAfter_filter`: leaving out keys and leaving out repetitions commute.
- `pairwise_idxOf_firstsAfter` and `find?_of_mem_firstsAfter`: the order of what is left, and which
  of several entries with one key it is.
- `SuggestsNames`: what it is for suggestions to be complete, without repetitions, and in order.
- `complete_suggestsNames`: what is suggested without a dot is.
-/

namespace Playground

namespace Completion

/-! ## First occurrences of some keys -/

variable {α : Type} {key : α → String} {seen : List String} {xs : List α} {x : α}

/-- An entry whose key has been seen is left out. -/
theorem firstsAfter_cons_of_mem (h : key x ∈ seen) (xs : List α) :
    firstsAfter key seen (x :: xs) = firstsAfter key seen xs :=
  if_pos (List.contains_iff_mem.mpr h)

/-- Any other stays, and its key has been seen from then on. -/
theorem firstsAfter_cons_of_not_mem (h : key x ∉ seen) (xs : List α) :
    firstsAfter key seen (x :: xs) = x :: firstsAfter key (key x :: seen) xs :=
  if_neg (mt List.contains_iff_mem.mp h)

/-- Entries can be left out for their keys before repetitions are, or after: a key that is left out
need not have been seen. -/
theorem firstsAfter_filter (p : String → Bool) {seen' : List String}
    (hseen : ∀ k, p k = true → (k ∈ seen ↔ k ∈ seen')) (xs : List α) :
    firstsAfter key seen (xs.filter fun x => p (key x)) =
      (firstsAfter key seen' xs).filter fun x => p (key x) := by
  induction xs generalizing seen seen' with
  | nil => rfl
  | cons x xs ih =>
    by_cases hp : p (key x) = true
    · have hsame := hseen (key x) hp
      rw [List.filter_cons, if_pos hp]
      by_cases hmem : key x ∈ seen'
      · rw [firstsAfter_cons_of_mem (hsame.mpr hmem), firstsAfter_cons_of_mem hmem]
        exact ih hseen
      · have hnext : ∀ k, p k = true → (k ∈ key x :: seen ↔ k ∈ key x :: seen') := by
          intro k hk
          rw [List.mem_cons, List.mem_cons, hseen k hk]
        rw [firstsAfter_cons_of_not_mem (mt hsame.mp hmem), firstsAfter_cons_of_not_mem hmem,
          List.filter_cons, if_pos hp, ih hnext]
    · rw [List.filter_cons, if_neg hp]
      by_cases hmem : key x ∈ seen'
      · rw [firstsAfter_cons_of_mem hmem]
        exact ih hseen
      · -- the key is now among those that were seen, on one side only
        rw [firstsAfter_cons_of_not_mem hmem, List.filter_cons, if_neg hp]
        refine ih fun k hk => ?_
        have hne : k ≠ key x := by
          rintro rfl
          exact hp hk
        rw [hseen k hk, List.mem_cons, or_iff_right hne]

/-- Of several entries with one key the first one is left. -/
theorem find?_of_mem_firstsAfter (hx : x ∈ firstsAfter key seen xs) :
    xs.find? (fun y => key y == key x) = some x := by
  induction xs generalizing seen with
  | nil => cases hx
  | cons y ys ih =>
    have hfresh : key x ∉ seen := not_mem_of_mem_firstsAfter hx
    by_cases hmem : key y ∈ seen
    · rw [firstsAfter_cons_of_mem hmem] at hx
      have hne : key y ≠ key x := ne_of_mem_of_not_mem hmem hfresh
      rw [List.find?_cons_of_neg (by simpa using hne)]
      exact ih hx
    · rw [firstsAfter_cons_of_not_mem hmem] at hx
      rcases List.mem_cons.mp hx with rfl | hx
      · exact List.find?_cons_of_pos (beq_self_eq_true _)
      · have hne : key y ≠ key x := fun h =>
          not_mem_of_mem_firstsAfter hx (h ▸ List.mem_cons_self)
        rw [List.find?_cons_of_neg (by simpa using hne)]
        exact ih hx

/-- The keys that are left are in the order in which they first occur. -/
theorem pairwise_idxOf_firstsAfter (key : α → String) (seen : List String) (xs : List α) :
    ((firstsAfter key seen xs).map key).Pairwise fun a b =>
      (xs.map key).idxOf a < (xs.map key).idxOf b := by
  induction xs generalizing seen with
  | nil => exact .nil
  | cons x xs ih =>
    have hlater {seen' : List String} (hx : key x ∈ seen') {k : String}
        (hk : k ∈ (firstsAfter key seen' xs).map key) :
        ((x :: xs).map key).idxOf k = (xs.map key).idxOf k + 1 := by
      obtain ⟨y, hy, rfl⟩ := List.mem_map.mp hk
      have hne : key x ≠ key y := ne_of_mem_of_not_mem hx (not_mem_of_mem_firstsAfter hy)
      rw [List.map_cons, List.idxOf_cons_ne _ hne]
    -- what is left behind the first entry occurs one place later than without it
    have hrest {seen' : List String} (hx : key x ∈ seen') :
        ((firstsAfter key seen' xs).map key).Pairwise fun a b =>
          ((x :: xs).map key).idxOf a < ((x :: xs).map key).idxOf b := by
      refine (ih seen').imp_of_mem fun {a b} ha hb hlt => ?_
      rw [hlater hx ha, hlater hx hb]
      exact Nat.succ_lt_succ hlt
    by_cases hmem : key x ∈ seen
    · rw [firstsAfter_cons_of_mem hmem]
      exact hrest hmem
    · rw [firstsAfter_cons_of_not_mem hmem]
      refine List.pairwise_cons.mpr ⟨fun k hk => ?_, hrest List.mem_cons_self⟩
      rw [hlater List.mem_cons_self hk, List.map_cons, List.idxOf_cons_self]
      exact Nat.succ_pos _

/-! ## Visible names -/

/-- A name that is worth suggesting to someone who has typed this much. -/
structure Suits (typed name : String) : Prop where
  /-- It goes on from what is typed. -/
  goesOn : typed.toList <+: name.toList
  /-- It is private only if what is typed is. -/
  notPrivate : typed.toList.head? ≠ some '_' → name.toList.head? ≠ some '_'

theorem isVisible_eq_true_iff {typed name : String} :
    isVisible typed name = true ↔ Suits typed name := by
  have hprivate : (typed.toList.head? == some '_' || name.toList.head? != some '_') = true ↔
      (typed.toList.head? ≠ some '_' → name.toList.head? ≠ some '_') := by
    rw [Bool.or_eq_true, beq_iff_eq, bne_iff_ne]
    exact or_iff_not_imp_left
  rw [isVisible, Bool.and_eq_true, List.isPrefixOf_iff_prefix, hprivate]
  exact ⟨fun h => ⟨h.1, h.2⟩, fun h => ⟨h.1, h.2⟩⟩

end Completion

/-! ## Suggestions -/

/-- The kind of a name that a text binds, as far as the text tells it. -/
def Binding.kind : Binding → String
  | .module _ => "module"
  | .attribute _ _ | .own => "variable"

namespace Reference

open Binding (ofText)
open Completion (firsts Suits)

variable (r : Reference) {text typed : String} {position : Int}

/-- All names that can stand without a dot before them, source by source. -/
def allNames (text : String) : List String :=
  (ofText text.toList).map Prod.fst ++ r.prelude.map Prod.fst ++ r.builtins.map Prod.fst
    ++ r.keywords

theorem map_label_names (text : String) :
    (r.names (ofText text.toList)).map Candidate.label = r.allNames text := by
  have hmembers (ms : Members) :
      (ms.map fun m => r.candidate none m.1 m.2).map Candidate.label = ms.map Prod.fst := by
    rw [List.map_map]
    rfl
  have hbindings : ((ofText text.toList).map ofBinding).map Candidate.label =
      (ofText text.toList).map Prod.fst := by
    rw [List.map_map]
    exact List.map_congr_left fun b _ => label_ofBinding b
  have hkeywords : (r.keywords.map (bareCandidate "keyword")).map Candidate.label = r.keywords := by
    rw [List.map_map]
    exact List.map_id _
  rw [names, List.map_append, List.map_append, List.map_append, hmembers, hmembers, hbindings,
    hkeywords, allNames]

theorem kind_ofBinding (b : String × Binding) : (ofBinding b).kind = b.2.kind := by
  obtain ⟨name, _ | _ | _⟩ := b <;> rfl

/-- Without a dot, what suits is suggested of the first occurrences of all names. -/
theorem complete_eq_filter
    (h : Chain.before? (Text.before position text.toList) = some ⟨[], typed⟩) :
    r.complete text position =
      (firsts Candidate.label (r.names (ofText text.toList))).filter
        fun c => Completion.isVisible typed c.label := by
  rw [complete, h]
  exact Completion.firstsAfter_filter (Completion.isVisible typed) (fun _ _ => Iff.rfl) _

/-- What is suggested of the names of all sources to someone who has typed this much. -/
structure SuggestsNames (text typed : String) (suggested : List Candidate) : Prop where
  /-- All names that suit are suggested, and no others. -/
  label : ∀ name, name ∈ suggested.map Candidate.label ↔
    name ∈ r.allNames text ∧ Suits typed name
  /-- None of them is suggested twice. -/
  nodup : (suggested.map Candidate.label).Nodup
  /-- They are in the order in which they first occur in the sources, one after the other. -/
  order : (suggested.map Candidate.label).Pairwise fun a b =>
    (r.allNames text).idxOf a < (r.allNames text).idxOf b
  /-- Each is suggested as the first source that has it gives it. -/
  first : ∀ c ∈ suggested,
    (r.names (ofText text.toList)).find? (fun d => d.label == c.label) = some c
  /-- So what the text binds is suggested as what the text binds it to. -/
  own : ∀ name b, (name, b) ∈ ofText text.toList → ∀ c ∈ suggested, c.label = name →
    c.kind = b.kind

/-- The names that suit are suggested where no dot stands before the cursor: all of them, each once
and in order, and those that the text binds as what it binds them to. -/
theorem complete_suggestsNames
    (h : Chain.before? (Text.before position text.toList) = some ⟨[], typed⟩) :
    r.SuggestsNames text typed (r.complete text position) := by
  have hcomplete := r.complete_eq_filter h
  have hsublist : ((r.complete text position).map Candidate.label).Sublist
      ((firsts Candidate.label (r.names (ofText text.toList))).map Candidate.label) := by
    rw [hcomplete]
    exact List.filter_sublist.map Candidate.label
  have hnodup : ((r.complete text position).map Candidate.label).Nodup :=
    (Completion.nodup_map_firstsAfter _ _ _).sublist hsublist
  constructor
  case label =>
    intro name
    have hall : name ∈ (firsts Candidate.label (r.names (ofText text.toList))).map
        Candidate.label ↔ name ∈ r.allNames text := by
      rw [Completion.map_firsts, List.mem_eraseDups, map_label_names]
    rw [← hall, ← Completion.isVisible_eq_true_iff, hcomplete]
    simp only [List.mem_map, List.mem_filter]
    constructor
    · rintro ⟨c, ⟨hc, hvisible⟩, rfl⟩
      exact ⟨⟨c, hc, rfl⟩, hvisible⟩
    · rintro ⟨⟨c, hc, rfl⟩, hvisible⟩
      exact ⟨c, ⟨hc, hvisible⟩, rfl⟩
  case nodup => exact hnodup
  case order =>
    have horder := Completion.pairwise_idxOf_firstsAfter Candidate.label []
      (r.names (ofText text.toList))
    rw [map_label_names] at horder
    exact horder.sublist hsublist
  case first =>
    intro c hc
    rw [hcomplete] at hc
    exact Completion.find?_of_mem_firstsAfter (List.mem_of_mem_filter hc)
  case own =>
    rintro name b hb c hc rfl
    obtain ⟨others, happend, -⟩ := r.complete_eq_append h
    have hvisible : Completion.isVisible typed c.label = true := by
      rw [hcomplete] at hc
      exact (List.mem_filter.mp hc).2
    -- the text's own name is among the suggestions, and no other has its label
    have hown : ofBinding (c.label, b) ∈ r.complete text position := by
      rw [happend, suggestions]
      refine List.mem_append_left _ (List.mem_map_of_mem ?_)
      exact List.mem_filter.mpr ⟨hb, hvisible⟩
    have hsame : c = ofBinding (c.label, b) :=
      List.inj_on_of_nodup_map hnodup hc hown (label_ofBinding (c.label, b)).symm
    rw [hsame, kind_ofBinding]

/-- A variable and a module with the beginning of a name that the language has too. -/
theorem complete_suggestsNames_shadowing :
    let text := "abs = 1\nimport abc\nab"
    let suggested := standard.complete text 21
    Chain.before? (Text.before 21 text.toList) = some ⟨[], "ab"⟩ ∧
      "abs" ∈ standard.builtins.map Prod.fst ∧
      (∃ c ∈ suggested, c.label = "abs") ∧
      (∀ c ∈ suggested, c.label = "abs" → c.kind = "variable") ∧
      ∀ c ∈ suggested, c.label = "abc" → c.kind = "module" := by
  intro text suggested
  have hreads : Chain.Reads ("abs = 1\nimport abc\n".toList ++ Chain.linksText [] ++ "ab".toList)
      ⟨[], "ab"⟩ :=
    .mk [] ⟨by decide, by decide⟩ (by decide) fun _ => by decide
  have htext : Text.before 21 text.toList =
      "abs = 1\nimport abc\n".toList ++ Chain.linksText [] ++ "ab".toList := by decide
  have hbefore : Chain.before? (Text.before 21 text.toList) = some ⟨[], "ab"⟩ := by
    rw [htext, hreads.before?_eq]
  have hsuggests := complete_suggestsNames standard hbefore
  have hbound : ofText text.toList = [("abs", .own), ("abc", .module "abc")] := by
    rw [Binding.ofText_eq]
    decide
  have habs : "abs" ∈ standard.builtins.map Prod.fst := by decide
  have hall : "abs" ∈ standard.allNames text :=
    List.mem_append_left _ (List.mem_append_right _ habs)
  refine ⟨hbefore, habs, ?_, hsuggests.own "abs" .own ?_, hsuggests.own "abc" (.module "abc") ?_⟩
  · have hlabel := (hsuggests.label "abs").mpr ⟨hall, ⟨by decide, by decide⟩⟩
    exact List.mem_map.mp hlabel
  · rw [hbound]
    exact List.mem_cons_self
  · rw [hbound]
    exact List.mem_cons_of_mem _ List.mem_cons_self

end Reference

end Playground
