/-
**Named entries in ascending order of their names.**

Objects of a document and maps of settings list their entries by name, each name once, in ascending
order of code points.

Main definitions:

* `Sidecar.Entries.find?`, `Sidecar.Entries.insert`, `Sidecar.Entries.erase` — look-up and change
  of a list of entries;
* `Sidecar.Entries.ofList` — the entries of any list of pairs, the last of a name winning;
* `Sidecar.StringMap` — entries of texts whose order is part of the type.

Main results:

* `Sidecar.Entries.find?_insert` — **what is found after an insertion**: the new value under its
  name, and what was there under every other;
* `Sidecar.Entries.find?_ofList` — of several values of one name the last is found;
* `Sidecar.Entries.sorted_insert`, `Sidecar.Entries.sorted_ofList` — the order is kept;
* `Sidecar.Entries.ext_find?` — two sorted lists that answer every look-up alike are equal.
-/

set_option autoImplicit false

namespace Sidecar

namespace Entries

variable {α : Type}

/-- The names are strictly ascending. -/
def Sorted (entries : List (String × α)) : Prop :=
  entries.Pairwise fun a b => a.1 < b.1

/-- The value of the first entry of that name. -/
def find? (name : String) : List (String × α) → Option α
  | [] => none
  | (k, v) :: rest => if k = name then some v else find? name rest

/-- The entries with the value set under the name: in its place if the name is new. -/
def insert (name : String) (value : α) : List (String × α) → List (String × α)
  | [] => [(name, value)]
  | (k, v) :: rest =>
    if name < k then (name, value) :: (k, v) :: rest
    else if k = name then (name, value) :: rest
    else (k, v) :: insert name value rest

/-- The entries without the first of that name. -/
def erase (name : String) : List (String × α) → List (String × α)
  | [] => []
  | (k, v) :: rest => if k = name then rest else (k, v) :: erase name rest

/-- The entries of any list of pairs, in order; of several values of one name the last. -/
def ofList (pairs : List (String × α)) : List (String × α) :=
  pairs.foldl (fun entries (k, v) => insert k v entries) []

/-- The entries of `base` overridden by those of `changes`. -/
def override (base changes : List (String × α)) : List (String × α) :=
  changes.foldl (fun entries (k, v) => insert k v entries) base

@[simp] theorem find?_nil (name : String) : find? (α := α) name [] = none := rfl

theorem find?_cons (name k : String) (v : α) (rest : List (String × α)) :
    find? name ((k, v) :: rest) = if k = name then some v else find? name rest := rfl

/-- After an insertion the new value is found under its name, and nothing else has changed. -/
theorem find?_insert (name other : String) (value : α) (entries : List (String × α)) :
    find? other (insert name value entries)
      = if name = other then some value else find? other entries := by
  induction entries with
  | nil => rfl
  | cons e rest ih =>
    obtain ⟨k, v⟩ := e
    by_cases hlt : name < k
    · simp [insert, hlt, find?_cons]
    · by_cases heq : k = name
      · subst heq
        simp only [insert, hlt, if_false, if_true, find?_cons]
        split <;> rfl
      · simp only [insert, hlt, heq, if_false, find?_cons, ih]
        by_cases hk : k = other
        · subst hk
          simp [Ne.symm heq]
        · simp [hk]

/-- Of the changes the last of a name is found, and without one what was there. -/
theorem find?_override (name : String) (base changes : List (String × α)) :
    find? name (override base changes) = (find? name changes.reverse).or (find? name base) := by
  induction changes generalizing base with
  | nil => rfl
  | cons e changes ih =>
    obtain ⟨k, v⟩ := e
    have happend : ∀ xs : List (String × α),
        find? name (xs ++ [(k, v)]) = (find? name xs).or (if k = name then some v else none) := by
      intro xs
      induction xs with
      | nil => rfl
      | cons e xs ih =>
        rw [List.cons_append, find?_cons, find?_cons, ih]
        split <;> rfl
    rw [List.reverse_cons, happend, Option.or_assoc]
    refine (ih _).trans ?_
    rw [find?_insert]
    split <;> simp

/-- In the entries of any list of pairs the last of a name is found. -/
theorem find?_ofList (name : String) (pairs : List (String × α)) :
    find? name (ofList pairs) = find? name pairs.reverse :=
  (find?_override name [] pairs).trans (Option.or_none ..)

theorem mem_insert {name : String} {value : α} {entries : List (String × α)} {e : String × α}
    (h : e ∈ insert name value entries) : e = (name, value) ∨ e ∈ entries := by
  induction entries with
  | nil => simpa [insert] using h
  | cons e' rest ih =>
    obtain ⟨k, v⟩ := e'
    simp only [insert] at h
    split at h
    · simpa using h
    · split at h
      · rcases List.mem_cons.1 h with h | h
        · exact .inl h
        · exact .inr (List.mem_cons_of_mem _ h)
      · rcases List.mem_cons.1 h with h | h
        · exact .inr (h ▸ List.mem_cons_self ..)
        · rcases ih h with h | h
          · exact .inl h
          · exact .inr (List.mem_cons_of_mem _ h)

/-- An insertion keeps the order. -/
theorem sorted_insert {name : String} {value : α} {entries : List (String × α)}
    (h : Sorted entries) : Sorted (insert name value entries) := by
  induction entries with
  | nil => simp [insert, Sorted]
  | cons e rest ih =>
    obtain ⟨k, v⟩ := e
    have hk := List.pairwise_cons.1 h
    simp only [insert]
    split
    · next hlt =>
      refine List.pairwise_cons.2 ⟨?_, h⟩
      intro e he
      rcases List.mem_cons.1 he with rfl | he
      · exact hlt
      · exact String.lt_trans hlt (hk.1 e he)
    · next hlt =>
      split
      · next heq =>
        subst heq
        exact List.pairwise_cons.2 ⟨hk.1, hk.2⟩
      · next heq =>
        refine List.pairwise_cons.2 ⟨?_, ih hk.2⟩
        intro e he
        rcases mem_insert he with rfl | he
        · rcases Classical.em (k < name) with hlt' | hlt'
          · exact hlt'
          · exact absurd (String.le_antisymm (String.not_lt.1 hlt) (String.not_lt.1 hlt')) heq
        · exact hk.1 e he

theorem sorted_override {base changes : List (String × α)} (h : Sorted base) :
    Sorted (override base changes) := by
  induction changes generalizing base with
  | nil => exact h
  | cons e changes ih => exact ih (sorted_insert h)

/-- The entries of any list of pairs are in order. -/
theorem sorted_ofList (pairs : List (String × α)) : Sorted (ofList pairs) :=
  @sorted_override α [] pairs List.Pairwise.nil

theorem find?_eq_none_of_lt {name : String} {entries : List (String × α)}
    (h : ∀ e ∈ entries, name < e.1) : find? name entries = none := by
  induction entries with
  | nil => rfl
  | cons e rest ih =>
    obtain ⟨k, v⟩ := e
    have hk : name < k := h (k, v) (List.mem_cons_self ..)
    have hne : k ≠ name := fun heq => String.lt_irrefl name (heq ▸ hk)
    rw [find?_cons, if_neg hne]
    exact ih fun e he => h e (List.mem_cons_of_mem _ he)

/-- Two lists in order that answer every look-up alike are equal. -/
theorem ext_find? {xs ys : List (String × α)} (hx : Sorted xs) (hy : Sorted ys)
    (h : ∀ name, find? name xs = find? name ys) : xs = ys := by
  induction xs generalizing ys with
  | nil =>
    cases ys with
    | nil => rfl
    | cons e ys =>
      obtain ⟨k, v⟩ := e
      simpa [find?_cons] using h k
  | cons e xs ih =>
    obtain ⟨k, v⟩ := e
    cases ys with
    | nil => simpa [find?_cons] using h k
    | cons e' ys =>
      obtain ⟨k', v'⟩ := e'
      have hxk := List.pairwise_cons.1 hx
      have hyk := List.pairwise_cons.1 hy
      have hkk : k = k' := by
        have h1 := h k
        have h2 := h k'
        rw [find?_cons, find?_cons, if_pos rfl] at h1
        rw [find?_cons, find?_cons, if_pos rfl] at h2
        rcases Classical.em (k = k') with heq | hne
        · exact heq
        rw [if_neg (Ne.symm hne)] at h1
        rw [if_neg hne] at h2
        rcases Classical.em (k < k') with hlt | hlt
        · rw [find?_eq_none_of_lt fun e he => String.lt_trans hlt (hyk.1 e he)] at h1
          cases h1
        · have hgt : k' < k := by
            rcases Classical.em (k' < k) with hgt | hgt
            · exact hgt
            · exact absurd (String.le_antisymm (String.not_lt.1 hgt) (String.not_lt.1 hlt)) hne
          rw [find?_eq_none_of_lt fun e he => String.lt_trans hgt (hxk.1 e he)] at h2
          cases h2
      subst hkk
      have hv : v = v' := by simpa [find?_cons] using h k
      subst hv
      congr 1
      refine ih hxk.2 hyk.2 fun name => ?_
      have hn := h name
      rw [find?_cons, find?_cons] at hn
      by_cases hk : k = name
      · subst hk
        rw [find?_eq_none_of_lt hxk.1, find?_eq_none_of_lt hyk.1]
      · simpa [hk] using hn

end Entries

/-- A map from names to texts, its entries in ascending order of their names. -/
structure StringMap where
  entries : List (String × String)
  sorted : Entries.Sorted entries
deriving DecidableEq

namespace StringMap

/-- The map without entries. -/
def empty : StringMap := ⟨[], List.Pairwise.nil⟩

instance : Inhabited StringMap := ⟨empty⟩

/-- Whether there is no entry. -/
def isEmpty (m : StringMap) : Bool := m.entries.isEmpty

/-- The text under the name. -/
def find? (m : StringMap) (name : String) : Option String := Entries.find? name m.entries

/-- The map with the text set under the name. -/
def insert (m : StringMap) (name text : String) : StringMap :=
  ⟨Entries.insert name text m.entries, Entries.sorted_insert m.sorted⟩

/-- The map of a list of pairs; of several texts of one name the last. -/
def ofList (pairs : List (String × String)) : StringMap :=
  ⟨Entries.ofList pairs, Entries.sorted_ofList pairs⟩

/-- The entries of `m` overridden by those of `changes`. -/
def override (m changes : StringMap) : StringMap :=
  ⟨Entries.override m.entries changes.entries, Entries.sorted_override m.sorted⟩

theorem find?_insert (m : StringMap) (name other text : String) :
    (m.insert name text).find? other = if name = other then some text else m.find? other :=
  Entries.find?_insert ..

/-- Two maps that answer every look-up alike are equal. -/
theorem ext_find? {m n : StringMap} (h : ∀ name, m.find? name = n.find? name) : m = n := by
  cases m with
  | mk xs hx =>
    cases n with
    | mk ys hy =>
      have : xs = ys := Entries.ext_find? hx hy h
      subst this
      rfl

end StringMap

end Sidecar
