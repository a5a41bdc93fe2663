/-
**Which texts are patterns.**

The text of a pattern is read in two passes, first brace by brace and then piece by piece.  Here the
same texts are described by rules: a character that is no brace stands for itself, a brace written
twice for one brace, and a hole is a name between braces, before a slash or at the end.  Both agree,
on which texts are patterns as well as on the pattern that a text writes.

Main definitions:

* `Sidecar.Http.Pattern.SpellsName`, `Sidecar.Http.Pattern.Spells` — how names of holes and patterns
  are written;
* `Sidecar.Http.Pattern.Written` — the text is that of a pattern.

Main results:

* `Sidecar.Http.Pattern.holeName_of_spellsName`, `Sidecar.Http.Pattern.spellsName_of_holeName` — the
  names of holes that are read;
* `Sidecar.Http.Pattern.pieces?_eq_some_iff`, `Sidecar.Http.Pattern.parse?_eq_some_iff` — **the
  patterns that are read are those that are written.**
-/

import Sidecar.Http.Pattern

set_option autoImplicit false

namespace Sidecar.Http.Pattern

/-! ### Rules of writing -/

/-- The braces. -/
def braces : List Char := ['{', '}']

/-- How the name of a hole is written after its first character: a brace twice, or an opening one
once before another character, and neither an asterisk nor a slash. -/
inductive SpellsName : List Char → List Char → Prop
  | nil : SpellsName [] []
  | plain {c : Char} {cs name : List Char} (hc : c ∉ braces) (hstop : c ∉ ['*', '/'])
      (h : SpellsName cs name) : SpellsName (c :: cs) (c :: name)
  | brace {c : Char} {cs name : List Char} (hc : c ∈ braces) (h : SpellsName cs name) :
      SpellsName (c :: c :: cs) (c :: name)
  | opening {cs name : List Char} (hcs : cs.head? ≠ some '{') (h : SpellsName cs name) :
      SpellsName ('{' :: cs) ('{' :: name)

/-- How a pattern is written. -/
inductive Spells : List Char → Pattern → Prop
  | nil : Spells [] []
  | plain {c : Char} {cs : List Char} {p : Pattern} (hc : c ∉ braces) (h : Spells cs p) :
      Spells (c :: cs) (.literal c :: p)
  | brace {c : Char} {cs : List Char} {p : Pattern} (hc : c ∈ braces) (h : Spells cs p) :
      Spells (c :: c :: cs) (.literal c :: p)
  | segment {c : Char} {spelled name cs : List Char} {p : Pattern} (hc : c ∉ braces)
      (hstar : c ≠ '*') (hname : SpellsName spelled name) (hcs : ∀ d ∈ cs.head?, d = '/')
      (h : Spells cs p) :
      Spells ('{' :: c :: (spelled ++ '}' :: cs)) (.segment (String.ofList (c :: name)) :: p)
  | rest {spelled name : List Char} (hname : SpellsName spelled name) (hne : name ≠ []) :
      Spells ('{' :: '*' :: (spelled ++ ['}'])) [.rest (String.ofList name)]

/-- No part of the text between slashes starts with a colon or an asterisk. -/
def PlainStarts (cs : List Char) : Prop :=
  ∀ part ∈ segments cs, ∀ c ∈ part.head?, c ∉ [':', '*']

instance (cs : List Char) : Decidable (PlainStarts cs) :=
  decidable_of_iff ((segments cs).all fun part => part.head?.all (· ∉ [':', '*'])) <| by
    simp [PlainStarts, Option.all_eq_true]

/-- The text is that of a pattern: its parts start as they may, and it is written by the rules. -/
structure Written (text : String) (p : Pattern) : Prop where
  starts : PlainStarts text.toList
  spelled : Spells text.toList p

/-! ### Marks -/

theorem marks_plain {c : Char} (hc : c ∉ braces) (cs : List Char) :
    marks (c :: cs) = .plain c :: marks cs := by
  have hne : c ≠ '{' ∧ c ≠ '}' := by
    simpa [braces] using hc
  rw [marks]
  all_goals
    intros
    first
      | exact hne.1 ‹_›
      | exact hne.2 ‹_›

theorem marks_brace {c : Char} (hc : c ∈ braces) (cs : List Char) :
    marks (c :: c :: cs) = .plain c :: marks cs := by
  simp only [braces, List.mem_cons, List.not_mem_nil, or_false] at hc
  rcases hc with rfl | rfl
  · rw [marks]
  · rw [marks]

theorem marks_opening {cs : List Char} (hcs : cs.head? ≠ some '{') :
    marks ('{' :: cs) = .opening :: marks cs := by
  rw [marks]
  rintro ds rfl
  exact hcs rfl

theorem marks_closing {cs : List Char} (hcs : cs.head? ≠ some '}') :
    marks ('}' :: cs) = .closing :: marks cs := by
  rw [marks]
  rintro ds rfl
  exact hcs rfl

/-- How the marks of a text begin. -/
theorem marks_cases (cs : List Char) :
    cs = []
      ∨ (∃ c ds, cs = c :: ds ∧ c ∉ braces ∧ marks cs = .plain c :: marks ds)
      ∨ (∃ c ds, cs = c :: c :: ds ∧ c ∈ braces ∧ marks cs = .plain c :: marks ds)
      ∨ (∃ ds, cs = '{' :: ds ∧ ds.head? ≠ some '{' ∧ marks cs = .opening :: marks ds)
      ∨ ∃ ds, cs = '}' :: ds ∧ ds.head? ≠ some '}' ∧ marks cs = .closing :: marks ds := by
  cases cs with
  | nil => exact .inl rfl
  | cons c ds =>
      refine .inr ?_
      by_cases hc : c ∈ braces
      · refine .inr ?_
        by_cases htwice : ds.head? = some c
        · obtain ⟨es, rfl⟩ : ∃ es, ds = c :: es := List.head?_eq_some_iff.1 htwice
          exact .inl ⟨c, es, rfl, hc, marks_brace hc es⟩
        · refine .inr ?_
          simp only [braces, List.mem_cons, List.not_mem_nil, or_false] at hc
          rcases hc with rfl | rfl
          · exact .inl ⟨ds, rfl, htwice, marks_opening htwice⟩
          · exact .inr ⟨ds, rfl, htwice, marks_closing htwice⟩
      · exact .inl ⟨c, ds, rfl, hc, marks_plain hc ds⟩

theorem marks_eq_nil_iff {cs : List Char} : marks cs = [] ↔ cs = [] := by
  constructor
  · intro h
    rcases marks_cases cs with hnil | ⟨_, _, _, _, hm⟩ | ⟨_, _, _, _, hm⟩ | ⟨_, _, _, hm⟩
      | ⟨_, _, _, hm⟩
    · exact hnil
    all_goals
      rw [hm] at h
      cases h
  · rintro rfl
    rfl

/-- A slash among the marks is one in the text. -/
theorem exists_of_marks_eq_slash {cs : List Char} {ms : List Mark}
    (h : marks cs = .plain '/' :: ms) : ∃ ds, cs = '/' :: ds ∧ ms = marks ds := by
  rcases marks_cases cs with rfl | ⟨c, ds, rfl, _, hm⟩ | ⟨c, ds, rfl, hc, hm⟩ | ⟨ds, _, _, hm⟩
    | ⟨ds, _, _, hm⟩
  · cases h
  · rw [hm] at h
    cases h
    exact ⟨ds, rfl, rfl⟩
  · rw [hm] at h
    cases h
    exact absurd hc (by decide)
  all_goals
    rw [hm] at h
    cases h

/-! ### Names of holes -/

theorem holeName_of_spellsName {spelled name : List Char} (h : SpellsName spelled name)
    {rest : List Char} (hrest : rest.head? ≠ some '}') :
    holeName (marks (spelled ++ '}' :: rest)) = some (name, marks rest) := by
  induction h with
  | nil =>
      rw [List.nil_append, marks_closing hrest]
      rfl
  | plain hc hstop _ ih =>
      rw [List.cons_append, marks_plain hc, holeName, if_neg (by simpa using hstop), ih]
      rfl
  | @brace c _ _ hc _ ih =>
      have hstop : ∀ d ∈ braces, ¬ (d = '*' ∨ d = '/') := by simp [braces]
      rw [List.cons_append, List.cons_append, marks_brace hc, holeName, if_neg (hstop c hc), ih]
      rfl
  | @opening cs _ hcs _ ih =>
      have hhead : (cs ++ '}' :: rest).head? ≠ some '{' := by
        cases cs with
        | nil => simp
        | cons d ds => simpa using hcs
      rw [List.cons_append, marks_opening hhead, holeName, ih]
      rfl

theorem spellsName_of_holeName {cs name : List Char} {ms : List Mark}
    (h : holeName (marks cs) = some (name, ms)) :
    ∃ spelled rest, cs = spelled ++ '}' :: rest ∧ rest.head? ≠ some '}' ∧ SpellsName spelled name
      ∧ ms = marks rest := by
  -- by induction on the text, each step of which takes one mark
  induction hn : cs.length using Nat.strongRecOn generalizing cs name with
  | ind n ih =>
      subst hn
      rcases marks_cases cs with rfl | ⟨c, ds, rfl, hc, hm⟩ | ⟨c, ds, rfl, hc, hm⟩
        | ⟨ds, rfl, hds, hm⟩ | ⟨ds, rfl, hds, hm⟩
      · cases h
      · rw [hm, holeName] at h
        split at h
        · cases h
        · next hstop =>
          obtain ⟨⟨name, ms⟩, hname, heq⟩ := Option.map_eq_some_iff.1 h
          cases heq
          obtain ⟨spelled, rest, rfl, hrest, hspelled, rfl⟩ := ih _ (by simp) hname rfl
          exact ⟨c :: spelled, rest, rfl, hrest, .plain hc (by simpa using hstop) hspelled, rfl⟩
      · rw [hm, holeName] at h
        split at h
        · cases h
        · obtain ⟨⟨name, ms⟩, hname, heq⟩ := Option.map_eq_some_iff.1 h
          cases heq
          have hshorter : ds.length < (c :: c :: ds).length := by
            simp only [List.length_cons]
            omega
          obtain ⟨spelled, rest, rfl, hrest, hspelled, rfl⟩ := ih _ hshorter hname rfl
          exact ⟨c :: c :: spelled, rest, rfl, hrest, .brace hc hspelled, rfl⟩
      · rw [hm, holeName] at h
        obtain ⟨⟨name, ms⟩, hname, heq⟩ := Option.map_eq_some_iff.1 h
        cases heq
        obtain ⟨spelled, rest, rfl, hrest, hspelled, rfl⟩ := ih _ (by simp) hname rfl
        have hhead : spelled.head? ≠ some '{' := by
          cases spelled with
          | nil => simp
          | cons d ds => simpa using hds
        exact ⟨'{' :: spelled, rest, rfl, hrest, .opening hhead hspelled, rfl⟩
      · rw [hm] at h
        cases h
        exact ⟨[], ds, rfl, hds, .nil, rfl⟩

/-- A name takes at least the brace after it. -/
theorem length_lt_of_holeName {ms ms' : List Mark} {name : List Char}
    (h : holeName ms = some (name, ms')) : ms'.length < ms.length := by
  induction ms generalizing name with
  | nil => cases h
  | cons m ms ih =>
      cases m with
      | closing =>
          cases h
          simp
      | opening =>
          rw [holeName] at h
          obtain ⟨⟨name, ms⟩, hname, heq⟩ := Option.map_eq_some_iff.1 h
          cases heq
          exact Nat.lt_succ_of_lt (ih hname)
      | plain c =>
          rw [holeName] at h
          split at h
          · cases h
          · obtain ⟨⟨name, ms⟩, hname, heq⟩ := Option.map_eq_some_iff.1 h
            cases heq
            exact Nat.lt_succ_of_lt (ih hname)

/-! ### Holes -/

theorem hole?_of_spellsName {c : Char} (hc : c ∉ braces) (hstar : c ≠ '*')
    {spelled name : List Char} (hname : SpellsName spelled name) {rest : List Char}
    (hrest : ∀ d ∈ rest.head?, d = '/') :
    hole? (marks (c :: (spelled ++ '}' :: rest)))
      = some (.segment (String.ofList (c :: name)), marks rest) := by
  have hclosing : c ≠ '}' := by
    rintro rfl
    exact hc (by decide)
  have hhead : rest.head? ≠ some '}' := fun h => absurd (hrest _ h) (by decide)
  have hread := holeName_of_spellsName hname hhead
  have hafter : hole?.after c (marks (spelled ++ '}' :: rest))
      = some (.segment (String.ofList (c :: name)), marks rest) := by
    rw [hole?.after, hread]
    cases rest with
    | nil => rfl
    | cons d ds =>
        obtain rfl := hrest d rfl
        rw [marks_plain (by decide)]
        rfl
  rw [marks_plain hc, hole?]
  · exact hafter
  · exact hclosing
  · exact hstar

theorem hole?_of_spellsName_rest {spelled name : List Char} (hname : SpellsName spelled name)
    (hne : name ≠ []) :
    hole? (marks ('*' :: (spelled ++ ['}']))) = some (.rest (String.ofList name), []) := by
  have hhead : ([] : List Char).head? ≠ some '}' := by simp
  have hread := holeName_of_spellsName hname hhead
  rw [marks_plain (by decide), hole?, hread]
  simp [marks, hne]

/-- A hole that is read is written by the rules. -/
theorem spells_of_hole? {cs : List Char} (hcs : cs.head? ≠ some '{') {piece : Piece}
    {ms : List Mark} (h : hole? (marks cs) = some (piece, ms)) :
    ∃ rest, ms = marks rest ∧ ms.length < (marks cs).length
      ∧ ∀ p, Spells rest p → Spells ('{' :: cs) (piece :: p) := by
  rcases marks_cases cs with rfl | ⟨c, ds, rfl, hc, hm⟩ | ⟨c, ds, rfl, hc, hm⟩ | ⟨ds, rfl, _, _⟩
    | ⟨ds, rfl, _, hm⟩
  · cases h
  · rw [hm] at h ⊢
    by_cases hstar : c = '*'
    · subst hstar
      rw [hole?] at h
      split at h
      · next name hname =>
        split at h
        · cases h
        · next hne =>
          cases h
          obtain ⟨spelled, rest, rfl, _, hspelled, hrest⟩ := spellsName_of_holeName hname
          obtain rfl := marks_eq_nil_iff.1 hrest.symm
          refine ⟨[], rfl, by simp, ?_⟩
          rintro p ⟨⟩
          exact .rest hspelled (by simpa using hne)
      · cases h
    · have hclosing : c ≠ '}' := by
        rintro rfl
        exact hc (by decide)
      rw [hole?] at h
      · rw [hole?.after] at h
        split at h
        · next name hname =>
          cases h
          obtain ⟨spelled, rest, rfl, _, hspelled, hrest⟩ := spellsName_of_holeName hname
          obtain rfl := marks_eq_nil_iff.1 hrest.symm
          exact ⟨[], rfl, by simp, fun p hp => .segment hc hstar hspelled (by simp) hp⟩
        · next name ms' hname =>
          cases h
          have hlength := length_lt_of_holeName hname
          obtain ⟨spelled, rest, rfl, _, hspelled, hrest⟩ := spellsName_of_holeName hname
          obtain ⟨es, rfl, _⟩ := exists_of_marks_eq_slash hrest.symm
          refine ⟨'/' :: es, hrest, Nat.lt_succ_of_lt hlength, fun p hp => ?_⟩
          exact .segment hc hstar hspelled (by simp) hp
        · cases h
      · exact hclosing
      · exact hstar
  · -- a hole cannot begin with a brace written twice
    rw [hm] at h
    simp only [braces, List.mem_cons, List.not_mem_nil, or_false] at hc
    rcases hc with rfl | rfl
    · exact absurd rfl hcs
    · cases h
  · exact absurd rfl hcs
  · rw [hm] at h
    cases h

/-! ### Patterns -/

theorem piecesOf_of_spells {cs : List Char} {p : Pattern} (h : Spells cs p) :
    ∀ fuel, (marks cs).length ≤ fuel → piecesOf fuel (marks cs) = some p := by
  induction h with
  | nil =>
      intro fuel _
      cases fuel <;> rfl
  | plain hc _ ih =>
      intro fuel hfuel
      rw [marks_plain hc] at hfuel ⊢
      obtain ⟨fuel, rfl⟩ := Nat.exists_eq_add_one_of_ne_zero (Nat.ne_zero_of_lt hfuel)
      rw [piecesOf, ih fuel (Nat.le_of_succ_le_succ hfuel)]
      rfl
  | brace hc _ ih =>
      intro fuel hfuel
      rw [marks_brace hc] at hfuel ⊢
      obtain ⟨fuel, rfl⟩ := Nat.exists_eq_add_one_of_ne_zero (Nat.ne_zero_of_lt hfuel)
      rw [piecesOf, ih fuel (Nat.le_of_succ_le_succ hfuel)]
      rfl
  | @segment c spelled name cs p hc hstar hname hcs _ ih =>
      intro fuel hfuel
      have hhead : (c :: (spelled ++ '}' :: cs)).head? ≠ some '{' := by
        rintro ⟨⟩
        exact hc (by decide)
      have hhole := hole?_of_spellsName hc hstar hname hcs
      rw [marks_opening hhead] at hfuel ⊢
      obtain ⟨fuel, rfl⟩ := Nat.exists_eq_add_one_of_ne_zero (Nat.ne_zero_of_lt hfuel)
      obtain ⟨_, _, hlength, _⟩ := spells_of_hole? hhead hhole
      rw [List.length_cons] at hfuel
      rw [piecesOf, hhole]
      simp only [ih fuel (by omega), Option.map_some]
  | rest hname hne =>
      intro fuel hfuel
      rw [marks_opening (by simp)] at hfuel ⊢
      obtain ⟨fuel, rfl⟩ := Nat.exists_eq_add_one_of_ne_zero (Nat.ne_zero_of_lt hfuel)
      rw [piecesOf, hole?_of_spellsName_rest hname hne]
      cases fuel <;> rfl

theorem spells_of_piecesOf : ∀ (fuel : Nat) {cs : List Char} {p : Pattern},
    piecesOf fuel (marks cs) = some p → Spells cs p := by
  intro fuel
  induction fuel with
  | zero =>
      intro cs p h
      rcases marks_cases cs with rfl | ⟨_, _, _, _, hm⟩ | ⟨_, _, _, _, hm⟩ | ⟨_, _, _, hm⟩
        | ⟨_, _, _, hm⟩
      · cases h
        exact .nil
      all_goals
        rw [hm] at h
        cases h
  | succ fuel ih =>
      intro cs p h
      rcases marks_cases cs with rfl | ⟨c, ds, rfl, hc, hm⟩ | ⟨c, ds, rfl, hc, hm⟩
        | ⟨ds, rfl, hds, hm⟩ | ⟨_, _, _, hm⟩
      · cases h
        exact .nil
      · rw [hm, piecesOf] at h
        obtain ⟨q, hq, rfl⟩ := Option.map_eq_some_iff.1 h
        exact .plain hc (ih hq)
      · rw [hm, piecesOf] at h
        obtain ⟨q, hq, rfl⟩ := Option.map_eq_some_iff.1 h
        exact .brace hc (ih hq)
      · rw [hm, piecesOf] at h
        split at h
        · next piece ms hhole =>
          obtain ⟨q, hq, rfl⟩ := Option.map_eq_some_iff.1 h
          obtain ⟨rest, rfl, _, hspells⟩ := spells_of_hole? hds hhole
          exact hspells q (ih hq)
        · cases h
      · rw [hm] at h
        cases h

/-- **The pieces that are read are those that are written.** -/
theorem pieces?_eq_some_iff {cs : List Char} {p : Pattern} : pieces? cs = some p ↔ Spells cs p :=
  ⟨spells_of_piecesOf _, fun h => piecesOf_of_spells h _ (Nat.le_refl _)⟩

/-- **The patterns that are read are those that are written**, from the root. -/
theorem parse?_eq_some_iff {text : String} {p : Pattern} :
    parse? text = some p ↔ text.toList.head? = some '/' ∧ Written text p := by
  have hstarts : ((segments text.toList).any fun s => s.head? = some ':' || s.head? = some '*')
        = false
      ↔ PlainStarts text.toList := by
    rw [List.any_eq_false, PlainStarts]
    refine forall₂_congr fun part _ => ?_
    cases part.head? with
    | none => simp
    | some c => simp
  unfold parse?
  by_cases hroot : text.toList.head? = some '/'
  · rw [if_neg (not_not_intro hroot)]
    split
    · next hany =>
      refine iff_of_false (by simp) ?_
      rintro ⟨_, hwritten⟩
      rw [hstarts.2 hwritten.starts] at hany
      cases hany
    · next hany =>
      rw [Bool.not_eq_true, hstarts] at hany
      rw [pieces?_eq_some_iff]
      exact ⟨fun h => ⟨hroot, hany, h⟩, fun h => h.2.spelled⟩
  · rw [if_pos hroot]
    exact iff_of_false (by simp) fun h => hroot h.1

end Sidecar.Http.Pattern
