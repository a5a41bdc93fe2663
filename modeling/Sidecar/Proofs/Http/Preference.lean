/-
**Which of two patterns is preferred.**

Two patterns are compared at the first place where they differ in more than the name of a hole.  The
one that leaves less open there is preferred: a character leaves nothing open, a hole for a segment
the segment, a hole for the rest all that follows.  Where both have holes the patterns conflict.
Patterns that do not conflict can always be told apart by a path that is of both: one of them is
preferred there, and the other is not.

Main definitions:

* `Sidecar.Http.Piece.Alike`, `Sidecar.Http.Pattern.Alike` — equal up to the names of holes;
* `Sidecar.Http.Pattern.Part` — where two patterns part, and with which pieces;
* `Sidecar.Http.Pattern.Clash`, `Sidecar.Http.Pattern.Preferred` — what this says of the two.

Main results:

* `Sidecar.Http.Pattern.conflicts_iff`, `Sidecar.Http.Pattern.precedes_iff` — **the router's
  comparisons are these**;
* `Sidecar.Http.Pattern.preferred_or_preferred` — **one of two patterns that do not clash is
  preferred for a path of both.**
-/

import Mathlib.Data.List.Forall2
import Sidecar.Proofs.Http.Spelling

set_option autoImplicit false

namespace Sidecar.Http

/-- How much a piece leaves open. -/
def Piece.openness : Piece → Nat
  | .literal _ => 0
  | .segment _ => 1
  | .rest _ => 2

@[simp] theorem Piece.openness_literal (c : Char) : (Piece.literal c).openness = 0 := rfl
@[simp] theorem Piece.openness_segment (name : String) : (Piece.segment name).openness = 1 := rfl
@[simp] theorem Piece.openness_rest (name : String) : (Piece.rest name).openness = 2 := rfl

/-- The pieces are the same up to the name of a hole. -/
inductive Piece.Alike : Piece → Piece → Prop
  | literal (char : Char) : Alike (.literal char) (.literal char)
  | segment (name name' : String) : Alike (.segment name) (.segment name')
  | rest (name name' : String) : Alike (.rest name) (.rest name')

theorem Piece.Alike.symm {a b : Piece} (h : a.Alike b) : b.Alike a := by
  cases h with
  | literal c => exact .literal c
  | segment m n => exact .segment n m
  | rest m n => exact .rest n m

namespace Pattern

/-- The patterns are the same up to the names of holes. -/
def Alike (p q : Pattern) : Prop :=
  List.Forall₂ Piece.Alike p q

/-- The patterns part with these pieces: up to them they are alike, and the pieces are not. -/
def Part (p q : Pattern) (a b : Piece) : Prop :=
  ∃ before before' after after', Alike before before' ∧ ¬ a.Alike b ∧ p = before ++ a :: after
    ∧ q = before' ++ b :: after'

/-- The patterns are alike, or part where both have holes. -/
def Clash (p q : Pattern) : Prop :=
  Alike p q ∨ ∃ a b, Part p q a b ∧ 0 < a.openness ∧ 0 < b.openness

/-- Where the patterns part, the first leaves less open. -/
def Preferred (p q : Pattern) : Prop :=
  ∃ a b, Part p q a b ∧ a.openness < b.openness

/-- A hole for the rest is the last piece. -/
def RestLast (p : Pattern) : Prop :=
  ∀ before name after, p = before ++ .rest name :: after → after = []

/-! ### Laws of parting -/

section Part

variable {p q : Pattern} {a b x y : Piece}

theorem part_nil_left : ¬ Part [] q a b := by
  rintro ⟨before, _, _, _, _, _, hnil, _⟩
  cases before <;> cases hnil

theorem part_nil_right : ¬ Part p [] a b := by
  rintro ⟨_, before, _, _, _, _, _, hnil⟩
  cases before <;> cases hnil

/-- Patterns whose first pieces are alike part where the others do. -/
theorem part_cons_iff (h : a.Alike b) : Part (a :: p) (b :: q) x y ↔ Part p q x y := by
  constructor
  · rintro ⟨before, before', after, after', hbefore, hxy, hp, hq⟩
    cases hbefore with
    | nil =>
        cases hp
        cases hq
        exact absurd h hxy
    | cons _ hbefore =>
        cases hp
        cases hq
        exact ⟨_, _, _, _, hbefore, hxy, rfl, rfl⟩
  · rintro ⟨before, before', after, after', hbefore, hxy, rfl, rfl⟩
    exact ⟨a :: before, b :: before', after, after', .cons h hbefore, hxy, rfl, rfl⟩

/-- Patterns whose first pieces are not alike part with them. -/
theorem part_cons_of_not_alike (h : ¬ a.Alike b) :
    Part (a :: p) (b :: q) x y ↔ x = a ∧ y = b := by
  constructor
  · rintro ⟨before, before', after, after', hbefore, _, hp, hq⟩
    cases hbefore with
    | nil =>
        cases hp
        cases hq
        exact ⟨rfl, rfl⟩
    | cons hfirst _ =>
        cases hp
        cases hq
        exact absurd hfirst h
  · rintro ⟨rfl, rfl⟩
    exact ⟨[], [], p, q, .nil, h, rfl, rfl⟩

theorem RestLast.tail (h : RestLast (a :: p)) : RestLast p := by
  rintro before name after rfl
  exact h (a :: before) name after rfl

theorem RestLast.eq_nil {name : String} (h : RestLast (.rest name :: p)) : p = [] :=
  h [] name p rfl

theorem clash_cons_iff (h : a.Alike b) : Clash (a :: p) (b :: q) ↔ Clash p q := by
  simp only [Clash, Alike, List.forall₂_cons, h, true_and, part_cons_iff h]

theorem clash_cons_of_not_alike (h : ¬ a.Alike b) :
    Clash (a :: p) (b :: q) ↔ 0 < a.openness ∧ 0 < b.openness := by
  simp only [Clash, Alike, List.forall₂_cons, h, false_and, false_or, part_cons_of_not_alike h]
  constructor
  · rintro ⟨_, _, ⟨rfl, rfl⟩, hopen⟩
    exact hopen
  · intro hopen
    exact ⟨a, b, ⟨rfl, rfl⟩, hopen⟩

theorem preferred_cons_iff (h : a.Alike b) : Preferred (a :: p) (b :: q) ↔ Preferred p q := by
  simp only [Preferred, part_cons_iff h]

theorem preferred_cons_of_not_alike (h : ¬ a.Alike b) :
    Preferred (a :: p) (b :: q) ↔ a.openness < b.openness := by
  simp only [Preferred, part_cons_of_not_alike h]
  constructor
  · rintro ⟨_, _, ⟨rfl, rfl⟩, hopen⟩
    exact hopen
  · intro hopen
    exact ⟨a, b, ⟨rfl, rfl⟩, hopen⟩

end Part

/-- The hole for the rest of a pattern that is written is at its end. -/
theorem Spells.restLast {cs : List Char} {p : Pattern} (h : Spells cs p) : RestLast p := by
  induction h with
  | nil => rintro (_ | _) name after ⟨⟩
  | plain _ _ ih | brace _ _ ih | segment _ _ _ _ _ ih =>
      rintro (_ | ⟨a, before⟩) name after hp
      · cases hp
      · cases hp
        exact ih before name after rfl
  | rest _ _ =>
      rintro (_ | ⟨a, before⟩) name after hp
      · cases hp
        rfl
      · cases before <;> cases hp

/-! ### The comparisons of the router -/

/-- **Patterns conflict exactly if they clash.** -/
theorem conflicts_iff {p q : Pattern} (hp : RestLast p) (hq : RestLast q) :
    conflicts p q = true ↔ Clash p q := by
  induction p generalizing q with
  | nil =>
      cases q with
      | nil => exact iff_of_true rfl (.inl .nil)
      | cons b q =>
          refine iff_of_false (by cases b <;> simp [conflicts]) ?_
          rintro (h | ⟨_, _, h, _⟩)
          · cases h
          · exact part_nil_left h
  | cons a p ih =>
      cases q with
      | nil =>
          refine iff_of_false (by cases a <;> simp [conflicts]) ?_
          rintro (h | ⟨_, _, h, _⟩)
          · cases h
          · exact part_nil_right h
      | cons b q =>
          have ih := ih hp.tail hq.tail
          by_cases hab : a.Alike b
          · rw [clash_cons_iff hab, ← ih]
            cases hab with
            | literal c => simp [conflicts]
            | segment _ _ => rfl
            | rest _ _ =>
                rw [hp.eq_nil, hq.eq_nil]
                rfl
          · rw [clash_cons_of_not_alike hab]
            cases a with
            | literal c =>
                cases b with
                | literal d =>
                    have hne : c ≠ d := by
                      rintro rfl
                      exact hab (.literal c)
                    simp [conflicts, hne]
                | segment n => simp [conflicts]
                | rest n => simp [conflicts]
            | segment m =>
                cases b with
                | literal d => simp [conflicts]
                | segment n => exact absurd (.segment m n) hab
                | rest n => simp [conflicts]
            | rest m =>
                cases b with
                | literal d => simp [conflicts]
                | segment n => simp [conflicts]
                | rest n => exact absurd (.rest m n) hab

/-! ### Paths of two patterns -/

/-- There is a path of both patterns. -/
def Meet (p q : Pattern) : Prop :=
  ∃ cs, (match? p cs).isSome ∧ (match? q cs).isSome

section Meet

variable {p q : Pattern} {a b : Piece}

/-- A path of a pattern with pieces has a character. -/
theorem match?_cons_nil : match? (a :: p) [] = none := by
  cases a with
  | rest name => cases p <;> rfl
  | literal c => rfl
  | segment name => rfl

/-- What follows pieces that are alike has a path in common, too, unless they are holes for the
rest. -/
theorem Meet.tail (h : Meet (a :: p) (b :: q)) (hab : a.Alike b) (hopen : a.openness < 2) :
    Meet p q := by
  obtain ⟨cs, hp, hq⟩ := h
  cases cs with
  | nil =>
      rw [match?_cons_nil] at hp
      cases hp
  | cons d ds =>
      cases hab with
      | literal c =>
          by_cases hcd : c = d
          · simp only [match?, hcd, if_true] at hp hq
            exact ⟨ds, hp, hq⟩
          · simp [match?, hcd] at hp
      | segment m n =>
          rw [match?] at hp hq
          split at hp
          · cases hp
          · next hne =>
            rw [if_neg hne, Option.isSome_map] at hq
            rw [Option.isSome_map] at hp
            exact ⟨_, hp, hq⟩
      | rest m n => simp at hopen

/-- Where patterns with a path in common part, not both have a character. -/
theorem Meet.openness_ne (h : Meet (a :: p) (b :: q)) (hab : ¬ a.Alike b) :
    a.openness ≠ b.openness := by
  obtain ⟨cs, hp, hq⟩ := h
  intro hopen
  cases a with
  | literal c =>
      cases b with
      | literal d =>
          cases cs with
          | nil => cases hp
          | cons e es =>
              by_cases hce : c = e
              · by_cases hde : d = e
                · exact hab (hce ▸ hde ▸ .literal _)
                · simp [match?, hde] at hq
              · simp [match?, hce] at hp
      | segment n => cases hopen
      | rest n => cases hopen
  | segment m =>
      cases b with
      | literal d => cases hopen
      | segment n => exact hab (.segment m n)
      | rest n => cases hopen
  | rest m =>
      cases b with
      | literal d => cases hopen
      | segment n => cases hopen
      | rest n => exact hab (.rest m n)

/-- **Of two patterns of a path the one precedes the other exactly if it is preferred.** -/
theorem precedes_iff (hp : RestLast p) (hq : RestLast q) (hmeet : Meet p q) :
    precedes p q = true ↔ Preferred p q := by
  induction p generalizing q with
  | nil =>
      refine iff_of_false (by simp [precedes]) ?_
      rintro ⟨_, _, h, _⟩
      exact part_nil_left h
  | cons a p ih =>
      cases q with
      | nil =>
          refine iff_of_false (by cases a <;> simp [precedes]) ?_
          rintro ⟨_, _, h, _⟩
          exact part_nil_right h
      | cons b q =>
          by_cases hab : a.Alike b
          · rw [preferred_cons_iff hab]
            have htail := ih hp.tail hq.tail
            cases hab with
            | literal c => exact htail (hmeet.tail (.literal c) (by simp))
            | segment m n => exact htail (hmeet.tail (.segment m n) (by simp))
            | rest m n =>
                obtain rfl := hp.eq_nil
                refine iff_of_false (by simp [precedes]) ?_
                rintro ⟨_, _, h, _⟩
                exact part_nil_left h
          · have hne := hmeet.openness_ne hab
            rw [preferred_cons_of_not_alike hab]
            cases a <;> cases b <;> simp [precedes] at hne ⊢

/-- No two patterns are preferred to each other. -/
theorem Preferred.not_preferred (h : Preferred p q) : ¬ Preferred q p := by
  induction p generalizing q with
  | nil =>
      obtain ⟨_, _, h, _⟩ := h
      exact absurd h part_nil_left
  | cons a p ih =>
      cases q with
      | nil =>
          obtain ⟨_, _, h, _⟩ := h
          exact absurd h part_nil_right
      | cons b q =>
          by_cases hab : a.Alike b
          · rw [preferred_cons_iff hab] at h
            rw [preferred_cons_iff hab.symm]
            exact ih h
          · rw [preferred_cons_of_not_alike hab] at h
            rw [preferred_cons_of_not_alike fun hba => hab hba.symm]
            omega

/-- **One of two patterns that do not clash is preferred for a path of both.** -/
theorem preferred_or_preferred (hp : RestLast p) (hq : RestLast q) (hclash : ¬ Clash p q)
    (hmeet : Meet p q) : Preferred p q ∨ Preferred q p := by
  induction p generalizing q with
  | nil =>
      cases q with
      | nil => exact absurd (.inl .nil) hclash
      | cons b q =>
          obtain ⟨cs, hnil, hcons⟩ := hmeet
          cases cs with
          | nil => simp [match?_cons_nil] at hcons
          | cons d ds => simp [match?] at hnil
  | cons a p ih =>
      cases q with
      | nil =>
          obtain ⟨cs, hcons, hnil⟩ := hmeet
          cases cs with
          | nil => simp [match?_cons_nil] at hcons
          | cons d ds => simp [match?] at hnil
      | cons b q =>
          by_cases hab : a.Alike b
          · rw [clash_cons_iff hab] at hclash
            rw [preferred_cons_iff hab, preferred_cons_iff hab.symm]
            have htail := ih hp.tail hq.tail hclash
            cases hab with
            | literal c => exact htail (hmeet.tail (.literal c) (by simp))
            | segment m n => exact htail (hmeet.tail (.segment m n) (by simp))
            | rest m n =>
                -- with nothing after the holes the patterns are alike
                rw [hp.eq_nil, hq.eq_nil] at hclash
                exact absurd (.inl .nil) hclash
          · have hne := hmeet.openness_ne hab
            rw [clash_cons_of_not_alike hab] at hclash
            rw [preferred_cons_of_not_alike hab, preferred_cons_of_not_alike fun h => hab h.symm]
            omega

end Meet

end Pattern

end Sidecar.Http
