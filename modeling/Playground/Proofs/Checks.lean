import Mathlib.Data.List.Forall2

/-!
# Checks

What it takes for a sequence of checks to go through, each of which may refuse instead.

- `bind_eq_ok_iff` and `guard_eq_ok_iff`: one check after another.
- `bind_eq_error_iff` and `guard_eq_error_iff`: which of the two refuses.
- `mapM_eq_ok_iff` and `exists_mapM`: the same check on every element of a list.
-/

namespace Playground.Checks

variable {ε α β : Type}

theorem bind_eq_ok_iff {x : Except ε α} {f : α → Except ε β} {b : β} :
    x >>= f = .ok b ↔ ∃ a, x = .ok a ∧ f a = .ok b := by
  cases x with
  | error e => exact ⟨(nomatch ·), fun ⟨_, h, _⟩ => nomatch h⟩
  | ok a => exact ⟨fun h => ⟨a, rfl, h⟩, fun ⟨_, h, hb⟩ => Except.ok.inj h ▸ hb⟩

/-- What comes after a guard is reached iff the guard holds. -/
theorem guard_eq_ok_iff {p : Prop} [Decidable p] {e : ε} {x : Except ε β} {b : β} :
    (if p then x else throw e >>= fun _ : PUnit => x) = .ok b ↔ p ∧ x = .ok b := by
  by_cases h : p
  · rw [if_pos h]
    exact (and_iff_right h).symm
  · rw [if_neg h]
    exact ⟨(nomatch ·), fun hp => absurd hp.1 h⟩

/-- Of two checks, the first one refuses or the second one does after it. -/
theorem bind_eq_error_iff {x : Except ε α} {f : α → Except ε β} {e : ε} :
    x >>= f = .error e ↔ x = .error e ∨ ∃ a, x = .ok a ∧ f a = .error e := by
  cases x with
  | error e' =>
    refine ⟨fun h => .inl (congrArg _ (Except.error.inj h)), ?_⟩
    rintro (h | ⟨a, h, -⟩)
    · exact congrArg _ (Except.error.inj h)
    · cases h
  | ok a =>
    refine ⟨fun h => .inr ⟨a, rfl, h⟩, ?_⟩
    rintro (h | ⟨a', h, hb⟩)
    · cases h
    · exact Except.ok.inj h ▸ hb

/-- A guard refuses iff it does not hold. -/
theorem guard_eq_error_iff {p : Prop} [Decidable p] {e e' : ε} {x : Except ε β} :
    (if p then x else throw e >>= fun _ : PUnit => x) = .error e' ↔
      (¬ p ∧ e = e') ∨ (p ∧ x = .error e') := by
  by_cases h : p
  · rw [if_pos h]
    simp [h]
  · rw [if_neg h]
    show Except.error e = _ ↔ _
    simp [h]

/-- A check goes through on a list iff it does on each element. -/
theorem mapM_eq_ok_iff {f : α → Except ε β} :
    ∀ {xs : List α} {ys : List β},
      xs.mapM f = .ok ys ↔ List.Forall₂ (fun x y => f x = .ok y) xs ys
  | [], ys => by
    rw [List.mapM_nil, List.forall₂_nil_left_iff]
    exact ⟨fun h => (Except.ok.inj h).symm, fun h => h ▸ rfl⟩
  | x :: xs, ys => by
    rw [List.mapM_cons, bind_eq_ok_iff, List.forall₂_cons_left_iff]
    constructor
    · rintro ⟨y, hy, h⟩
      obtain ⟨ys', hys, h⟩ := bind_eq_ok_iff.mp h
      exact ⟨y, ys', hy, mapM_eq_ok_iff.mp hys, (Except.ok.inj h).symm⟩
    · rintro ⟨y, ys', hy, hys, rfl⟩
      exact ⟨y, hy, bind_eq_ok_iff.mpr ⟨ys', mapM_eq_ok_iff.mpr hys, rfl⟩⟩

/-- Where each element of a list has a counterpart, so does any. -/
theorem exists_of_forall₂ {R : α → β → Prop} {xs : List α} {ys : List β}
    (h : List.Forall₂ R xs ys) : ∀ x ∈ xs, ∃ y, R x y := by
  have hboth : List.Forall₂ (fun x y => (∃ y, R x y) ∧ R x y) xs ys :=
    h.imp fun _ y hy => ⟨⟨y, hy⟩, hy⟩
  exact ((List.forall₂_and_left _ _).mp hboth).1

/-- What comes out of a list of checks comes out of one of them. -/
theorem exists_mem_of_mapM {f : α → Except ε β} {xs : List α} {ys : List β}
    (h : xs.mapM f = .ok ys) {y : β} (hy : y ∈ ys) : ∃ x ∈ xs, f x = .ok y := by
  induction mapM_eq_ok_iff.mp h with
  | nil => cases hy
  | @cons x y' xs ys hx hrest ih =>
    rcases List.mem_cons.mp hy with rfl | hy
    · exact ⟨x, List.mem_cons_self, hx⟩
    · obtain ⟨x', hx', hxy⟩ := ih (mapM_eq_ok_iff.mpr hrest) hy
      exact ⟨x', List.mem_cons_of_mem _ hx', hxy⟩

/-- A list of checks refuses for what one of them refuses for. -/
theorem exists_mem_of_mapM_error {f : α → Except ε β} {e : ε} :
    ∀ {xs : List α}, xs.mapM f = .error e → ∃ x ∈ xs, f x = .error e
  | [], h => nomatch h
  | x :: xs, h => by
    rw [List.mapM_cons, bind_eq_error_iff] at h
    rcases h with h | ⟨y, -, h⟩
    · exact ⟨x, List.mem_cons_self, h⟩
    · rcases bind_eq_error_iff.mp h with h | ⟨ys, -, h⟩
      · obtain ⟨x', hx', hxe⟩ := exists_mem_of_mapM_error h
        exact ⟨x', List.mem_cons_of_mem _ hx', hxe⟩
      · cases h

/-- A check that goes through on each element of a list goes through on the list. -/
theorem exists_mapM {f : α → Except ε β} {p : β → Prop} :
    ∀ {xs : List α}, (∀ x ∈ xs, ∃ y, f x = .ok y ∧ p y) →
      ∃ ys, xs.mapM f = .ok ys ∧ ∀ y ∈ ys, p y
  | [], _ => ⟨[], rfl, fun y hy => nomatch hy⟩
  | x :: xs, h => by
    obtain ⟨y, hy, hp⟩ := h x List.mem_cons_self
    obtain ⟨ys, hys, hps⟩ := exists_mapM fun x' hx' => h x' (List.mem_cons_of_mem _ hx')
    refine ⟨y :: ys, ?_, fun z hz => ?_⟩
    · rw [List.mapM_cons, hy, hys]
      rfl
    · rcases List.mem_cons.mp hz with rfl | hz
      · exact hp
      · exact hps z hz

end Playground.Checks
