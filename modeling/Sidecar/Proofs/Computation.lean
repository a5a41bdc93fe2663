/-
**Computations that succeed, and that fail.**

Most of what the library does can fail, and is put together of steps that can.  What such a
computation comes to is read off its steps: it succeeds exactly if each of them does, and fails as
the first of them that does not.

Main results:

* `Sidecar.bind_eq_ok_iff`, `Sidecar.mapM_eq_ok_iff`, `Sidecar.exists_mapM_option_eq_ok_iff` — one
  step after another, one for each item of a list, and one for what is there perhaps, succeed;
* `Sidecar.bind_eq_error_iff`, `Sidecar.foldlM_eq_error_iff` — one step after another, and a run of
  steps over a list, fail;
* `Sidecar.bind_ne_error`, `Sidecar.mapM_ne_error`, `Sidecar.mapM_option_ne_error` — an error that
  no step gives is not given;
* `Sidecar.mapError_eq_ok_iff`, `Sidecar.mapError_eq_error_iff` — a computation whose errors are
  changed succeeds when it did, and fails with what an error is changed to.
-/

import Mathlib.Data.List.Forall2

set_option autoImplicit false

namespace Sidecar

variable {ε α β : Type}

/-- Two computations in turn succeed exactly if both do. -/
theorem bind_eq_ok_iff {x : Except ε α} {f : α → Except ε β} {b : β} :
    x >>= f = .ok b ↔ ∃ a, x = .ok a ∧ f a = .ok b := by
  cases x with
  | error e =>
      constructor
      · intro h
        cases h
      · rintro ⟨a, h, _⟩
        cases h
  | ok a =>
      constructor
      · intro h
        exact ⟨a, rfl, h⟩
      · rintro ⟨a', h, hf⟩
        cases h
        exact hf

/-- Two computations in turn fail exactly if the first does or the second does after it. -/
theorem bind_eq_error_iff {x : Except ε α} {f : α → Except ε β} {e : ε} :
    x >>= f = .error e ↔ x = .error e ∨ ∃ a, x = .ok a ∧ f a = .error e := by
  cases x with
  | error e' =>
      constructor
      · intro h
        cases h
        exact .inl rfl
      · rintro (h | ⟨a, h, _⟩)
        · cases h
          rfl
        · cases h
  | ok a =>
      constructor
      · intro h
        exact .inr ⟨a, rfl, h⟩
      · rintro (h | ⟨a', h, hf⟩)
        · cases h
        · cases h
          exact hf

theorem pure_eq_ok_iff {a b : α} : (pure a : Except ε α) = .ok b ↔ a = b := by
  constructor
  · intro h
    cases h
    rfl
  · rintro rfl
    rfl

/-- What is made of a result makes no difference to whether there is one. -/
theorem exists_bind_pure_eq_ok_iff {x : Except ε α} {g : α → β} :
    (∃ b, (x >>= fun a => pure (g a)) = .ok b) ↔ ∃ a, x = .ok a := by
  simp only [bind_eq_ok_iff, pure_eq_ok_iff]
  constructor
  · rintro ⟨_, a, ha, _⟩
    exact ⟨a, ha⟩
  · rintro ⟨a, ha⟩
    exact ⟨_, a, ha, rfl⟩

section MapError

variable {ε' ε'' : Type} (g : ε → ε')

/-- A change of errors makes no difference to what succeeds. -/
theorem mapError_eq_ok_iff {f : ε → ε'} {x : Except ε α} {a : α} :
    x.mapError f = .ok a ↔ x = .ok a := by
  cases x with
  | error e =>
      constructor
      · intro h
        cases h
      · intro h
        cases h
  | ok b => exact ⟨fun h => by cases h; rfl, fun h => by cases h; rfl⟩

/-- A mapped error is the image of one. -/
theorem mapError_eq_error_iff {g : ε → ε'} {x : Except ε α} {e' : ε'} :
    x.mapError g = .error e' ↔ ∃ e, x = .error e ∧ e' = g e := by
  cases x with
  | error e =>
      constructor
      · intro h
        cases h
        exact ⟨e, rfl, rfl⟩
      · rintro ⟨_, h, rfl⟩
        cases h
        rfl
  | ok a =>
      constructor
      · intro h
        cases h
      · rintro ⟨_, h, _⟩
        cases h

/-- Errors of two computations in turn are mapped in each of them. -/
theorem mapError_bind (x : Except ε α) (f : α → Except ε β) :
    (x >>= f).mapError g = x.mapError g >>= fun a => (f a).mapError g := by
  cases x with
  | error e => rfl
  | ok a => rfl

theorem mapError_mapError (g' : ε' → ε'') (x : Except ε α) :
    (x.mapError g).mapError g' = x.mapError fun e => g' (g e) := by
  cases x with
  | error e => rfl
  | ok a => rfl

end MapError

/-- A list is converted exactly if each of its items is. -/
theorem mapM_eq_ok_iff {f : α → Except ε β} {xs : List α} {ys : List β} :
    xs.mapM f = .ok ys ↔ List.Forall₂ (fun x y => f x = .ok y) xs ys := by
  induction xs generalizing ys with
  | nil =>
      rw [List.mapM_nil, pure_eq_ok_iff, List.forall₂_nil_left_iff]
      exact eq_comm
  | cons x xs ih =>
      rw [List.mapM_cons, bind_eq_ok_iff]
      constructor
      · rintro ⟨y, hy, h⟩
        obtain ⟨zs, hzs, h⟩ := bind_eq_ok_iff.1 h
        obtain rfl := pure_eq_ok_iff.1 h
        exact .cons hy (ih.1 hzs)
      · intro h
        cases h with
        | cons hy hrest => exact ⟨_, hy, bind_eq_ok_iff.2 ⟨_, ih.2 hrest, rfl⟩⟩

/-- A list can be converted exactly if each of its items can. -/
theorem exists_mapM_eq_ok_iff {f : α → Except ε β} {xs : List α} :
    (∃ ys, xs.mapM f = .ok ys) ↔ ∀ x ∈ xs, ∃ y, f x = .ok y := by
  induction xs with
  | nil => simp [pure_eq_ok_iff]
  | cons x xs ih =>
      rw [List.forall_mem_cons, ← ih]
      simp only [List.mapM_cons, bind_eq_ok_iff, pure_eq_ok_iff]
      constructor
      · rintro ⟨_, y, hy, ys, hys, _⟩
        exact ⟨⟨y, hy⟩, ys, hys⟩
      · rintro ⟨⟨y, hy⟩, ys, hys⟩
        exact ⟨_, y, hy, ys, hys, rfl⟩

/-- What is there perhaps can be converted exactly if it can be when it is there. -/
theorem exists_mapM_option_eq_ok_iff {f : α → Except ε β} {x : Option α} :
    (∃ y, x.mapM f = .ok y) ↔ ∀ a ∈ x, ∃ b, f a = .ok b := by
  cases x with
  | none => exact iff_of_true ⟨none, rfl⟩ (by simp)
  | some a =>
      have hmap : (some a).mapM f = some <$> f a := rfl
      rw [hmap]
      cases hfa : f a with
      | error e => simp [Functor.map, Except.map, hfa]
      | ok b => simp [Functor.map, Except.map, hfa]

/-- Two computations in turn do not give an error that neither gives. -/
theorem bind_ne_error {x : Except ε α} {f : α → Except ε β} {e : ε} (hx : x ≠ .error e)
    (hf : ∀ a, f a ≠ .error e) : x >>= f ≠ .error e := by
  intro h
  rcases bind_eq_error_iff.1 h with h | ⟨a, _, h⟩
  · exact hx h
  · exact hf a h

/-- A list is not converted to an error that none of its items gives. -/
theorem mapM_ne_error {f : α → Except ε β} {e : ε} (h : ∀ x, f x ≠ .error e) (xs : List α) :
    xs.mapM f ≠ .error e := by
  induction xs with
  | nil =>
      rw [List.mapM_nil]
      exact fun h => by cases h
  | cons x xs ih =>
      rw [List.mapM_cons]
      exact bind_ne_error (h x) fun _ => bind_ne_error ih fun _ h => by cases h

theorem mapM_option_ne_error {f : α → Except ε β} {e : ε} (h : ∀ x, f x ≠ .error e)
    (x : Option α) : x.mapM f ≠ .error e := by
  cases x with
  | none =>
      intro hnone
      cases hnone
  | some a =>
      have hmap : (some a).mapM f = f a >>= fun b => pure (some b) := by
        change some <$> f a = _
        cases f a <;> rfl
      rw [hmap]
      exact bind_ne_error (h a) fun _ h => by cases h

/-- **A run of steps fails** exactly if it succeeds up to a step that fails. -/
theorem foldlM_eq_error_iff {f : β → α → Except ε β} {xs : List α} {b : β} {e : ε} :
    xs.foldlM f b = .error e
      ↔ ∃ before x after mid, xs = before ++ x :: after ∧ before.foldlM f b = .ok mid
        ∧ f mid x = .error e := by
  induction xs generalizing b with
  | nil =>
      constructor
      · intro h
        cases h
      · rintro ⟨before, x, after, _, hnil, _⟩
        exact absurd hnil.symm (by simp)
  | cons y ys ih =>
      rw [List.foldlM_cons, bind_eq_error_iff]
      constructor
      · rintro (hfirst | ⟨next, hfirst, hrest⟩)
        · exact ⟨[], y, ys, b, rfl, rfl, hfirst⟩
        · obtain ⟨before, x, after, mid, rfl, hbefore, hlast⟩ := ih.1 hrest
          exact ⟨y :: before, x, after, mid, rfl, bind_eq_ok_iff.2 ⟨next, hfirst, hbefore⟩, hlast⟩
      · rintro ⟨before, x, after, mid, hsplit, hbefore, hlast⟩
        cases before with
        | nil =>
            obtain ⟨rfl, rfl⟩ := List.cons.inj hsplit
            cases hbefore
            exact .inl hlast
        | cons z zs =>
            obtain ⟨rfl, rfl⟩ := List.cons.inj hsplit
            obtain ⟨next, hfirst, hrest⟩ := bind_eq_ok_iff.1 hbefore
            exact .inr ⟨next, hfirst, ih.2 ⟨zs, x, after, mid, rfl, hrest, hlast⟩⟩

end Sidecar
