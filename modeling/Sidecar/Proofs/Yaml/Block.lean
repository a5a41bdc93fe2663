/-
**Literal blocks are read back.**

A literal block is a header and lines, each of them indented unless it is empty.  Its reader takes
the empty lines before a line together, and looks behind them for the column of the block.  What it
has in the end is the text up to its last line, the break of that, and the breaks of the empty lines
after it; the sign in the header says which of these breaks count.

Main definitions:

* `Sidecar.Yaml.Scalar.indented` — the lines of a block;
* `Sidecar.Yaml.Scalar.AreRead` — the reader of lines has a text from them;
* `Sidecar.Yaml.Scalar.StartsBlock` — so has the reader of a block, from the beginning of its lines.

Main results:

* `Sidecar.Yaml.Scalar.areRead_indented` — **the lines of a block are read back**;
* `Sidecar.Yaml.Scalar.block?_literal` — so is a literal block, whatever breaks it ends with.
-/

import Mathlib.Data.List.Basic
import Sidecar.Proofs.Yaml.Place

set_option autoImplicit false

namespace Sidecar.Yaml.Scalar

/-! ### Lines -/

/-- The lines of a text, in a line that has just begun or goes on, each indented unless it is
empty. -/
def indented (indent : Nat) : (atStart : Bool) → List Char → List Char
  | _, [] => []
  | atStart, x :: cs =>
    if isBreak x then x :: indented indent true cs
    else (if atStart then List.replicate indent ' ' else []) ++ x :: indented indent false cs

theorem toList_indentLines (indent : Nat) (atStart : Bool) (cs : List Char) :
    (Printer.indentLines indent atStart cs).toList = indented indent atStart cs := by
  induction cs generalizing atStart with
  | nil => rfl
  | cons x cs ih =>
    cases hbreak : isBreak x <;> cases atStart <;>
      simp [Printer.indentLines, indented, hbreak, ih]

variable {indent fuel : Nat} {w cs breaks text rest next : List Char} {c : Cursor}

theorem indented_line (indent : Nat) (cs : List Char) (hw : ∀ x ∈ w, isBreak x = false) :
    indented indent false (w ++ cs) = w ++ indented indent false cs := by
  induction w with
  | nil => rfl
  | cons x w ih =>
    rw [List.forall_mem_cons] at hw
    simp [indented, hw.1, ih hw.2]

theorem indented_breaks (indent : Nat) (cs : List Char) (hbreaks : ∀ x ∈ breaks, isBreak x = true) :
    indented indent true (breaks ++ cs) = breaks ++ indented indent true cs := by
  induction breaks with
  | nil => rfl
  | cons x breaks ih =>
    rw [List.forall_mem_cons] at hbreaks
    rw [List.cons_append, indented, if_pos hbreaks.1, ih hbreaks.2, List.cons_append]

theorem indented_start (indent : Nat) (hne : cs ≠ []) (h : ∀ x ∈ cs.head?, isBreak x = false) :
    indented indent true cs = List.replicate indent ' ' ++ indented indent false cs := by
  cases cs with
  | nil => exact absurd rfl hne
  | cons x cs => simp [indented, h x rfl]

theorem indented_ne_nil {atStart : Bool} (hne : cs ≠ []) : indented indent atStart cs ≠ [] := by
  cases cs with
  | nil => exact absurd rfl hne
  | cons x cs =>
    rw [indented]
    split
    · exact List.cons_ne_nil x _
    · exact List.append_ne_nil_of_right_ne_nil _ (List.cons_ne_nil x _)

theorem length_le_indented (indent : Nat) (atStart : Bool) (cs : List Char) :
    cs.length ≤ (indented indent atStart cs).length := by
  induction cs generalizing atStart with
  | nil => exact Nat.le_refl _
  | cons x cs ih =>
    rw [indented]
    split
    · exact Nat.succ_le_succ (ih true)
    · rw [List.length_append, List.length_cons, List.length_cons]
      exact Nat.le_trans (Nat.succ_le_succ (ih false)) (Nat.le_add_left ..)

theorem indented_lineFeed (indent : Nat) (atStart : Bool) (cs : List Char) :
    indented indent atStart (cs ++ ['\n']) = indented indent atStart cs ++ ['\n'] := by
  induction cs generalizing atStart with
  | nil => simp [indented, show isBreak '\n' = true by decide]
  | cons x cs ih =>
    rw [List.cons_append, indented, indented]
    split
    · rw [ih, List.cons_append]
    · rw [ih, List.append_assoc, List.cons_append]

theorem indented_lineEnd (indent : Nat) (atStart : Bool) (cs : List Char) :
    indented indent atStart (cs ++ lineEnd cs) = indented indent atStart cs ++ lineEnd cs := by
  unfold lineEnd
  split
  · simp
  · exact indented_lineFeed indent atStart cs

/-- The lines begin as the text does. -/
theorem head?_indented (indent : Nat) (h : ∀ x ∈ cs.head?, isBreak x = false) :
    (indented indent false cs).head? = cs.head? := by
  cases cs with
  | nil => rfl
  | cons x cs => simp [indented, h x rfl]

/-- They end as it does. -/
theorem getLast?_indented (indent : Nat) (atStart : Bool) (cs : List Char) :
    (indented indent atStart cs).getLast? = cs.getLast? := by
  induction cs generalizing atStart with
  | nil => rfl
  | cons x cs ih =>
    have hcons : ∀ more : List Char, more.getLast? = cs.getLast? →
        (x :: more).getLast? = (x :: cs).getLast? := by
      intro more hmore
      rw [List.getLast?_cons, List.getLast?_cons, hmore]
    rw [indented]
    split
    · exact hcons _ (ih true)
    · rw [List.getLast?_append_of_ne_nil _ (List.cons_ne_nil x _)]
      exact hcons _ (ih false)

/-- The lines begin as the text does, whatever comes after them. -/
theorem head?_indented_append (indent : Nat) (rest : List Char) (hne : cs ≠ [])
    (h : ∀ x ∈ cs.head?, isBreak x = false) :
    (indented indent false cs ++ rest).head? = cs.head? := by
  rw [List.head?_append_of_ne_nil _ (indented_ne_nil hne), head?_indented indent h]

/-! ### What a line begins with -/

/-- A gap is what a break, a tab or a space begins. -/
theorem head?_of_isGap (h : ∀ x ∈ cs.head?, isGap x = false) :
    (∀ x ∈ cs.head?, isBreak x = false ∧ x ≠ '\t') ∧ cs.head? ≠ some ' ' := by
  refine ⟨fun x hx => ⟨isBreak_eq_false_of_isGap (h x hx), ?_⟩,
    fun hx => absurd (h _ hx) (by decide)⟩
  rintro rfl
  exact absurd (h _ hx) (by decide)

/-- What is printed has no tab. -/
theorem head?_of_isPrintable (hprint : ∀ x ∈ cs, isPrintable x = true)
    (h : ∀ x ∈ cs.head?, isBreak x = false) : ∀ x ∈ cs.head?, isBreak x = false ∧ x ≠ '\t' := by
  refine fun x hx => ⟨h x hx, ?_⟩
  rintro rfl
  exact absurd (hprint '\t' (List.mem_of_head? hx)) (by decide)

/-! ### Empty lines -/

/-- Spaces at the head of a text. -/
theorem takeWhile_spaces (n : Nat) (h : cs.head? ≠ some ' ') :
    (List.replicate n ' ' ++ cs).takeWhile (· = ' ') = List.replicate n ' ' := by
  rw [List.takeWhile_append_of_pos (by simp +contextual)]
  cases cs with
  | nil => simp
  | cons x cs =>
    have hx : x ≠ ' ' := fun hx => h (hx ▸ rfl)
    simp [hx]

/-- The indentation that is passed over before a line: all of it, unless the column of the block is
known and reached first. -/
theorem min_spaces {n : Nat} (hcolumn : c.column = 0)
    (hrest : c.rest = List.replicate n ' ' ++ rest)
    (h : n = indent ∧ indent ≠ 0 ∨ rest.head? ≠ some ' ' ∧ (indent = 0 ∨ n ≤ indent)) :
    (if indent = 0 then (c.rest.takeWhile (· = ' ')).length
      else min (c.rest.takeWhile (· = ' ')).length (indent - c.column)) = n := by
  rcases h with ⟨rfl, hne⟩ | ⟨hhead, hle⟩
  · have hlength : n ≤ (c.rest.takeWhile (· = ' ')).length := by
      rw [hrest, List.takeWhile_append_of_pos (by simp +contextual), List.length_append,
        List.length_replicate]
      exact Nat.le_add_right ..
    rw [if_neg hne, hcolumn, Nat.sub_zero]
    exact Nat.min_eq_right hlength
  · have hlength : (c.rest.takeWhile (· = ' ')).length = n := by
      rw [hrest, takeWhile_spaces n hhead, List.length_replicate]
    rw [hlength, hcolumn]
    split
    · rfl
    · omega

/-- Empty lines are taken, and the indentation of the line after them. -/
theorem emptyLines?_eq {n deepest : Nat} {read : List Char} (hcolumn : c.column = 0)
    (hbreaks : ∀ x ∈ breaks, isBreak x = true ∧ isPrintable x = true)
    (hrest : c.rest = breaks ++ (List.replicate n ' ' ++ rest))
    (hrestHead : ∀ x ∈ rest.head?, isBreak x = false ∧ x ≠ '\t')
    (h : n = indent ∧ indent ≠ 0 ∨ rest.head? ≠ some ' ' ∧ (indent = 0 ∨ n ≤ indent))
    (hfuel : breaks.length < fuel) :
    emptyLines? indent fuel read deepest c
      = some (read ++ breaks, max deepest n, c.after (breaks ++ List.replicate n ' ')) := by
  induction breaks generalizing c fuel read with
  | nil =>
    obtain ⟨fuel, rfl⟩ := Nat.exists_eq_succ_of_ne_zero (Nat.ne_of_gt (Nat.zero_lt_of_lt hfuel))
    have hskip : c.skip n = c.after (List.replicate n ' ') := by
      rw [Cursor.after_eq_skip fun x hx => List.eq_of_mem_replicate hx ▸ by decide,
        List.length_replicate]
    have hplace : (c.skip n).column = n := by simp [Cursor.skip, hcolumn]
    have hnext : (c.skip n).rest = rest := by
      rw [hskip]
      exact Cursor.rest_after hrest
    rw [emptyLines?]
    simp only [min_spaces hcolumn hrest h, hplace, hnext]
    cases rest with
    | nil => simp [hskip]
    | cons x rest =>
      obtain ⟨hbreak, htab⟩ := hrestHead x rfl
      simp [hbreak, htab, hskip]
  | cons x breaks ih =>
    obtain ⟨fuel, rfl⟩ := Nat.exists_eq_succ_of_ne_zero (Nat.ne_of_gt (Nat.zero_lt_of_lt hfuel))
    rw [List.forall_mem_cons] at hbreaks
    obtain ⟨⟨hbreak, hprint⟩, hbreaks⟩ := hbreaks
    have hhead : x ≠ ' ' ∧ x ≠ '\t' := by
      rcases eq_of_isBreak hbreak hprint with rfl | rfl | rfl <;> decide
    have hskip : c.skip 0 = c := rfl
    have hzero : (if indent = 0 then (c.rest.takeWhile (· = ' ')).length
        else min (c.rest.takeWhile (· = ' ')).length (indent - c.column)) = 0 := by
      simp [hrest, hhead.1]
    have hnext : (c.after [x]).rest = breaks ++ (List.replicate n ' ' ++ rest) :=
      Cursor.rest_after (by rw [hrest]; rfl)
    have hplace : (c.after [x]).column = 0 :=
      Cursor.column_after_line hbreak (List.forall_mem_nil _) c []
    rw [List.length_cons] at hfuel
    rw [emptyLines?]
    simp only [hzero, hskip]
    simp only [hrest, List.cons_append, hhead.2, and_false, if_false, hbreak, if_true,
      Cursor.lineBreak_eq hrest hbreak hprint, hcolumn, Nat.max_zero]
    rw [ih hplace hbreaks hnext (by omega), Cursor.after_after]
    simp

/-! ### The lines of a block -/

/-- A line is read with its break, the empty lines after it, and the indentation of the next. -/
theorem blockLines?_line {n : Nat} {x : Char} {lineBreak read : List Char} {blank : Bool}
    (hcolumn : c.column = indent) (hw : ∀ y ∈ w, isBreak y = false)
    (hx : isBreak x = true ∧ isPrintable x = true)
    (hbreaks : ∀ y ∈ breaks, isBreak y = true ∧ isPrintable y = true)
    (hrest : c.rest = w ++ x :: (breaks ++ (List.replicate n ' ' ++ rest)))
    (hrestHead : ∀ y ∈ rest.head?, isBreak y = false ∧ y ≠ '\t')
    (h : n = indent ∧ indent ≠ 0 ∨ rest.head? ≠ some ' ' ∧ (indent = 0 ∨ n ≤ indent)) :
    blockLines? true indent (fuel + 1) text lineBreak read blank c
      = blockLines? true indent fuel (text ++ (lineBreak ++ read) ++ w) [x] breaks
        (c.rest.head?.any isBlank) (c.after (w ++ x :: (breaks ++ List.replicate n ' '))) := by
  have hne : c.rest.isEmpty = false := by simp [hrest]
  have hspan : c.span (!isBreak ·) = (w, c.after w) :=
    Cursor.span_eq hrest (fun y hy => by simp [hw y hy]) (by simp [hx.1]) hw
  have hline : (c.after w).rest = x :: (breaks ++ (List.replicate n ' ' ++ rest)) :=
    Cursor.rest_after hrest
  have hbreak : (c.after w).lineBreak = ([x], c.after (w ++ [x])) := by
    rw [Cursor.lineBreak_eq hline hx.1 hx.2, Cursor.after_after]
  have hplace : (c.after (w ++ [x])).column = 0 :=
    Cursor.column_after_line hx.1 (List.forall_mem_nil _) c w
  have hafter : (c.after (w ++ [x])).rest = breaks ++ (List.replicate n ' ' ++ rest) :=
    Cursor.rest_after (by simp [hrest])
  have hempty : emptyLines? indent ((c.after (w ++ [x])).rest.length + 1) [] 0 (c.after (w ++ [x]))
      = some (breaks, max 0 n, c.after (w ++ x :: (breaks ++ List.replicate n ' '))) := by
    rw [emptyLines?_eq hplace hbreaks hafter hrestHead h
      (by rw [hafter, List.length_append]; omega), Cursor.after_after]
    simp
  rw [blockLines?]
  simp only [hcolumn, hne, Bool.not_false, and_self, if_true, Bool.not_true, Bool.false_and,
    Bool.false_eq_true, if_false, hspan, hbreak, hempty, Option.bind_eq_bind, Option.bind_some]

/-- Before text in another column the block ends. -/
theorem blockLines?_stop {lineBreak read : List Char} {blank : Bool} (hcolumn : c.column ≠ indent) :
    blockLines? true indent (fuel + 1) text lineBreak read blank c
      = some (text, lineBreak, read, c) := by
  rw [blockLines?, if_neg fun h => hcolumn h.1]

/-- The lines of a text are read, up to the column of what comes next: what is read up to the last
line, the break of that, and the breaks after it are the text. -/
def AreRead (indent column : Nat) (next cs : List Char) : Prop :=
  ∃ body x breaks, cs = body ++ x :: breaks ∧ (∀ y ∈ x :: breaks, isBreak y = true)
    ∧ body ≠ [] ∧ (∀ y ∈ body.getLast?, isBreak y = false)
    ∧ ∀ (fuel : Nat) (text lineBreak read : List Char) (blank : Bool) (c : Cursor),
      c.column = indent →
      c.rest = indented indent false cs ++ (List.replicate column ' ' ++ next) →
      cs.length < fuel →
      blockLines? true indent fuel text lineBreak read blank c
        = some (text ++ lineBreak ++ read ++ body, [x], breaks,
          c.after (indented indent false cs ++ List.replicate column ' '))

section Lines

variable {column : Nat} {x : Char} (hw : ∀ y ∈ w, isBreak y = false)
  (hx : isBreak x = true ∧ isPrintable x = true)
  (hbreaks : ∀ y ∈ breaks, isBreak y = true ∧ isPrintable y = true)

include hw hx hbreaks

/-- The last line, with the empty ones after it. -/
theorem areRead_last (hwne : w ≠ []) (hcolumn : column < indent)
    (hnext : ∀ y ∈ next.head?, isGap y = false) :
    AreRead indent column next (w ++ x :: breaks) := by
  have hgap : ∀ y ∈ x :: breaks, isBreak y = true :=
    List.forall_mem_cons.2 ⟨hx.1, fun y hy => (hbreaks y hy).1⟩
  have hlines : indented indent false (w ++ x :: breaks) = w ++ x :: breaks := by
    have hempty := indented_breaks indent [] fun y hy => (hbreaks y hy).1
    rw [List.append_nil] at hempty
    rw [indented_line indent _ hw, indented, if_pos hx.1, hempty, indented, List.append_nil]
  refine ⟨w, x, breaks, rfl, hgap, hwne, fun y hy => hw y (List.mem_of_getLast? hy), ?_⟩
  intro fuel text lineBreak read blank c hat hrest hfuel
  rw [List.length_append, List.length_cons] at hfuel
  obtain ⟨fuel, rfl⟩ : ∃ n, fuel = n + 2 := ⟨fuel - 2, by
    have := List.length_pos_iff.2 hwne
    omega⟩
  have hsplit : c.rest = w ++ x :: (breaks ++ (List.replicate column ' ' ++ next)) := by
    rw [hrest, hlines]
    simp
  obtain ⟨hhead, hspace⟩ := head?_of_isGap hnext
  rw [blockLines?_line hat hw hx hbreaks hsplit hhead (.inr ⟨hspace, .inr hcolumn.le⟩),
    blockLines?_stop, hlines]
  · simp
  · rw [← List.cons_append, Cursor.column_after_breaks (List.cons_ne_nil x breaks) hgap]
    exact hcolumn.ne

/-- A line before others, with the empty ones after it. -/
theorem AreRead.line (hcolumn : column < indent) (hne : cs ≠ [])
    (hprint : ∀ y ∈ cs, isPrintable y = true) (hcs : ∀ y ∈ cs.head?, isBreak y = false)
    (h : AreRead indent column next cs) :
    AreRead indent column next (w ++ (x :: breaks ++ cs)) := by
  obtain ⟨body, z, more, hsplit, hmore, hbody, hlast, hread⟩ := h
  have hgap : ∀ y ∈ x :: breaks, isBreak y = true :=
    List.forall_mem_cons.2 ⟨hx.1, fun y hy => (hbreaks y hy).1⟩
  have hlines : indented indent false (w ++ (x :: breaks ++ cs)) = w ++ x :: (breaks
      ++ (List.replicate indent ' ' ++ indented indent false cs)) := by
    rw [indented_line indent _ hw, List.cons_append, indented, if_pos hx.1,
      indented_breaks indent cs fun y hy => (hbreaks y hy).1, indented_start indent hne hcs]
  refine ⟨w ++ (x :: breaks ++ body), z, more, by simp [hsplit], hmore, by simp, ?_, ?_⟩
  · rw [← List.append_assoc, List.getLast?_append_of_ne_nil _ hbody]
    exact hlast
  intro fuel text lineBreak read blank c hat hrest hfuel
  obtain ⟨fuel, rfl⟩ := Nat.exists_eq_succ_of_ne_zero (Nat.ne_of_gt (Nat.zero_lt_of_lt hfuel))
  have hrest' : c.rest = w ++ x :: (breaks ++ (List.replicate indent ' '
      ++ (indented indent false cs ++ (List.replicate column ' ' ++ next)))) := by
    rw [hrest, hlines]
    simp
  have hat' : (c.after (w ++ x :: (breaks ++ List.replicate indent ' '))).column = indent := by
    rw [← List.cons_append, Cursor.column_after_breaks (List.cons_ne_nil x breaks) hgap]
  have hfuel' : cs.length < fuel := by
    simp only [List.length_append, List.length_cons] at hfuel
    omega
  have hhead : ∀ y ∈ (indented indent false cs ++ (List.replicate column ' ' ++ next)).head?,
      isBreak y = false ∧ y ≠ '\t' := by
    rw [head?_indented_append _ _ hne hcs]
    exact head?_of_isPrintable hprint hcs
  rw [blockLines?_line hat hw hx hbreaks hrest' hhead
    (.inl ⟨rfl, Nat.ne_of_gt (Nat.zero_lt_of_lt hcolumn)⟩),
    hread _ _ _ _ _ _ hat' (Cursor.rest_after (by simp [hrest'])) hfuel', hlines]
  simp

end Lines

/-- **The lines of a block are read back.** -/
theorem areRead_indented {column : Nat} (hcolumn : column < indent)
    (hnext : ∀ x ∈ next.head?, isGap x = false) (cs : List Char) (hne : cs ≠ [])
    (hprint : ∀ x ∈ cs, isPrintable x = true) (hfirst : ∀ x ∈ cs.head?, isBreak x = false)
    (hlast : ∀ x ∈ cs.getLast?, isBreak x = true) : AreRead indent column next cs := by
  induction cs using wordInduction isBreak with
  | word w hw =>
    -- a text without breaks does not end with one
    obtain ⟨x, hx⟩ : ∃ x, w.getLast? = some x := ⟨_, List.getLast?_eq_some_getLast hne⟩
    have hbreak := hlast x hx
    rw [hw x (List.mem_of_getLast? hx)] at hbreak
    cases hbreak
  | gap w g cs hw hg hgap hcs ih =>
    obtain ⟨x, breaks, rfl⟩ := List.exists_cons_of_ne_nil hg
    rw [List.forall_mem_cons] at hgap
    have hwne : w ≠ [] := by
      rintro rfl
      have hbreak := hfirst x rfl
      rw [hgap.1] at hbreak
      cases hbreak
    have hx : isBreak x = true ∧ isPrintable x = true := ⟨hgap.1, hprint x (by simp)⟩
    have hbreaks : ∀ y ∈ breaks, isBreak y = true ∧ isPrintable y = true := fun y hy =>
      ⟨hgap.2 y hy, hprint y (by simp [hy])⟩
    by_cases hcsne : cs = []
    · subst hcsne
      rw [List.append_nil]
      exact areRead_last hw hx hbreaks hwne hcolumn hnext
    · have hcsLast : ∀ y ∈ cs.getLast?, isBreak y = true := fun y hy => hlast y (by
        rw [← List.append_assoc, List.getLast?_append_of_ne_nil _ hcsne]
        exact hy)
      have hcsPrint : ∀ y ∈ cs, isPrintable y = true := fun y hy => hprint y (by simp [hy])
      exact .line hw hx hbreaks hcolumn hcsne hcsPrint hcs (ih hcsne hcsPrint hcs hcsLast)

/-! ### Breaks at the end -/

/-- The breaks at the end of a text are determined. -/
theorem eq_of_append_breaks {body more other others : List Char}
    (h : body ++ more = other ++ others) (hmore : ∀ x ∈ more, isBreak x = true)
    (hothers : ∀ x ∈ others, isBreak x = true) (hbody : ∀ x ∈ body.getLast?, isBreak x = false)
    (hother : ∀ x ∈ other.getLast?, isBreak x = false) : body = other ∧ more = others := by
  have htake : ∀ {body more : List Char}, (∀ x ∈ more, isBreak x = true) →
      (∀ x ∈ body.getLast?, isBreak x = false) →
      ((body ++ more).reverse.takeWhile isBreak) = more.reverse := by
    intro body more hmore hbody
    rw [List.reverse_append,
      List.takeWhile_append_of_pos fun x hx => hmore x (List.mem_reverse.1 hx)]
    cases hrest : body.reverse with
    | nil => simp
    | cons x rest =>
      have hx : x ∈ body.getLast? := by
        rw [← List.head?_reverse, hrest]
        rfl
      simp [hbody x hx]
  have hreverse : more.reverse = others.reverse := by
    rw [← htake hmore hbody, h, htake hothers hother]
  obtain rfl := List.reverse_inj.1 hreverse
  exact ⟨List.append_cancel_right h, rfl⟩

/-- What a reader of a block has of its lines: empty lines only, or the text up to the last line
that is not empty, the break of that, and the breaks after it. -/
def Ends (cs text lineBreak breaks : List Char) : Prop :=
  (text = [] ∧ lineBreak = [] ∧ cs = breaks ∧ ∀ x ∈ breaks, isBreak x = true)
    ∨ ∃ x, lineBreak = [x] ∧ cs = text ++ x :: breaks ∧ (∀ y ∈ x :: breaks, isBreak y = true)
      ∧ text ≠ [] ∧ ∀ y ∈ text.getLast?, isBreak y = false

/-- The breaks at the end that a chomping keeps. -/
def Chomping.kept (lineBreak breaks : List Char) : Chomping → List Char
  | .strip => []
  | .clip => lineBreak
  | .keep => lineBreak ++ breaks

/-- The sign of a chomping. -/
def Chomping.sign : Chomping → List Char
  | .strip => ['-']
  | .clip => []
  | .keep => ['+']

/-- A header is read back: a hint for the column or none, and a sign. -/
theorem blockHeader?_eq (chomping : Chomping) {hint : List Char} (hhint : hint = [] ∨ hint = ['2'])
    (hrest : c.rest = hint ++ chomping.sign ++ '\n' :: rest) :
    blockHeader? c
      = some (chomping, if hint = [] then 0 else 2, c.after (hint ++ chomping.sign)) := by
  have hbreak : isBreak '-' = false ∧ isBreak '+' = false ∧ isBreak '2' = false := by decide
  rcases hhint with rfl | rfl <;> cases chomping <;>
    simp [blockHeader?, hrest, Chomping.sign, Chomping.ofChar?, Cursor.after, Cursor.step, hbreak]

/-- The chomping that the printer writes for a text keeps the text. -/
theorem exists_chomping {cs : List Char} (hne : cs ≠ []) :
    ∃ chomping : Chomping, (Printer.chomping cs).toList = chomping.sign
      ∧ ∀ text lineBreak breaks, Ends (cs ++ lineEnd cs) text lineBreak breaks →
        text ++ chomping.kept lineBreak breaks = cs := by
  obtain ⟨before, x, rfl⟩ := (List.eq_nil_or_concat cs).resolve_left hne
  rw [List.concat_eq_append]
  cases hx : isBreak x with
  | false =>
    -- the last line goes on, so its break is not part of the text
    have hend : lineEnd (before ++ [x]) = ['\n'] := by simp [lineEnd, hx]
    have hsign : Printer.chomping (before ++ [x]) = "-" := by
      rw [Printer.chomping, List.reverse_append]
      cases before.reverse <;> simp [hx]
    refine ⟨.strip, by rw [hsign]; rfl, ?_⟩
    rintro text lineBreak breaks (⟨-, -, hbreaks, hall⟩ | ⟨y, -, hsplit, hall, -, htext⟩)
    · have hmem := hall x (hbreaks ▸ by simp)
      rw [hx] at hmem
      cases hmem
    · rw [hend] at hsplit
      rw [Chomping.kept, List.append_nil]
      exact (eq_of_append_breaks hsplit (List.forall_mem_singleton.2 (by decide)) hall
        (by simp [hx]) htext).1.symm
  | true =>
    have hend : lineEnd (before ++ [x]) = [] := by simp [lineEnd, hx]
    rw [hend, List.append_nil]
    have hkeep : ∀ text lineBreak breaks, Ends (before ++ [x]) text lineBreak breaks →
        text ++ (lineBreak ++ breaks) = before ++ [x] := by
      rintro text lineBreak breaks (⟨rfl, rfl, hbreaks, -⟩ | ⟨y, rfl, hsplit, -, -, -⟩)
      · simpa using hbreaks.symm
      · simpa using hsplit.symm
    rcases List.eq_nil_or_concat before with rfl | ⟨start, y, rfl⟩
    · exact ⟨.keep, by simp [Printer.chomping, hx, Chomping.sign], hkeep⟩
    rw [List.concat_eq_append] at hkeep ⊢
    cases hy : isBreak y with
    | true => exact ⟨.keep, by simp [Printer.chomping, hx, hy, Chomping.sign], hkeep⟩
    | false =>
      refine ⟨.clip, by simp [Printer.chomping, hx, hy, Chomping.sign], ?_⟩
      rintro text lineBreak breaks (⟨-, -, hbreaks, hall⟩ | ⟨z, rfl, hsplit, hall, -, htext⟩)
      · have hmem := hall y (hbreaks ▸ by simp)
        rw [hy] at hmem
        cases hmem
      · obtain ⟨rfl, hone⟩ := eq_of_append_breaks hsplit (List.forall_mem_singleton.2 hx) hall
          (by simp [hy]) htext
        rw [Chomping.kept, (List.cons.inj hone).1]

/-! ### Blocks -/

/-- From the beginning of its first line, a block has a text: `given` is the column of the block if
the header gives it, and zero if the first line is to show it. -/
def StartsBlock (given indent column : Nat) (cs : List Char) (c : Cursor) : Prop :=
  ∃ breaks deepest c' text lineBreak more,
    emptyLines? given (c.rest.length + 1) [] 0 c = some (breaks, deepest, c')
      ∧ (given = 0 → deepest = indent)
      ∧ blockLines? true indent (c'.rest.length + 1) [] [] breaks false c'
        = some (text, lineBreak, more,
          c.after (indented indent true cs ++ List.replicate column ' '))
      ∧ Ends cs text lineBreak more

section Start

variable {given column : Nat} (hcolumn : column < indent)
  (hnext : ∀ x ∈ next.head?, isGap x = false)
  (hread : ∀ x ∈ breaks, isBreak x = true ∧ isPrintable x = true)

include hcolumn hnext hread

/-- There are empty lines only, so the header gives the column. -/
theorem startsBlock_emptyLines (hat : c.column = 0)
    (hrest : c.rest = breaks ++ (List.replicate column ' ' ++ next)) :
    StartsBlock indent indent column breaks c := by
  have hbreaks : ∀ x ∈ breaks, isBreak x = true := fun x hx => (hread x hx).1
  have hlines : indented indent true breaks = breaks := by
    have hlines := indented_breaks indent [] hbreaks
    rwa [List.append_nil, indented, List.append_nil] at hlines
  obtain ⟨hhead, hspace⟩ := head?_of_isGap hnext
  have hfuel : breaks.length < c.rest.length + 1 := by
    rw [hrest, List.length_append]
    omega
  refine ⟨breaks, max 0 column, _, [], [], breaks, emptyLines?_eq hat hread hrest hhead
      (.inr ⟨hspace, .inr hcolumn.le⟩) hfuel,
    fun hzero => absurd hzero (Nat.ne_of_gt (Nat.zero_lt_of_lt hcolumn)), ?_,
    .inl ⟨rfl, rfl, rfl, hbreaks⟩⟩
  rw [blockLines?_stop, hlines]
  rw [Cursor.column_after_emptyLines hat hbreaks]
  exact hcolumn.ne

/-- Behind the empty lines there is text, and its first line shows the column where the header does
not give it. -/
theorem startsBlock_append (hne : cs ≠ []) (hprint : ∀ x ∈ cs, isPrintable x = true)
    (hcs : ∀ x ∈ cs.head?, isBreak x = false) (hlast : ∀ x ∈ cs.getLast?, isBreak x = true)
    (hgiven : given = indent ∨ given = 0 ∧ cs.head? ≠ some ' ') (hat : c.column = 0)
    (hrest : c.rest = breaks ++ (List.replicate indent ' '
      ++ (indented indent false cs ++ (List.replicate column ' ' ++ next)))) :
    StartsBlock given indent column (breaks ++ cs) c := by
  have hbreaks : ∀ x ∈ breaks, isBreak x = true := fun x hx => (hread x hx).1
  obtain ⟨body, x, more, hsplit, hmore, hbody, hbodyLast, hlines⟩ :=
    areRead_indented hcolumn hnext cs hne hprint hcs hlast
  have hhead := head?_indented_append indent (List.replicate column ' ' ++ next) hne hcs
  have hshown : indent = given ∧ given ≠ 0
      ∨ (indented indent false cs ++ (List.replicate column ' ' ++ next)).head? ≠ some ' '
        ∧ (given = 0 ∨ indent ≤ given) := by
    rw [hhead]
    rcases hgiven with rfl | ⟨rfl, hfirst⟩
    · exact .inl ⟨rfl, Nat.ne_of_gt (Nat.zero_lt_of_lt hcolumn)⟩
    · exact .inr ⟨hfirst, .inl rfl⟩
  have hempty : emptyLines? given (c.rest.length + 1) [] 0 c
      = some ([] ++ breaks, max 0 indent, c.after (breaks ++ List.replicate indent ' ')) :=
    emptyLines?_eq hat hread hrest (hhead ▸ head?_of_isPrintable hprint hcs) hshown
      (by rw [hrest, List.length_append]; omega)
  have hnextRest : (c.after (breaks ++ List.replicate indent ' ')).rest
      = indented indent false cs ++ (List.replicate column ' ' ++ next) :=
    Cursor.rest_after (by simp [hrest])
  have hfuel : cs.length < (c.after (breaks ++ List.replicate indent ' ')).rest.length + 1 := by
    have hlength := length_le_indented indent false cs
    rw [hnextRest, List.length_append]
    omega
  refine ⟨breaks, max 0 indent, c.after (breaks ++ List.replicate indent ' '), breaks ++ body, [x],
    more, hempty, fun _ => Nat.max_eq_right (Nat.zero_le _), ?_,
    .inr ⟨x, rfl, by simp [hsplit], hmore, by simp [hbody], ?_⟩⟩
  · rw [hlines _ _ _ _ _ _ (Cursor.column_after_emptyLines hat hbreaks indent) hnextRest hfuel,
      indented_breaks indent cs hbreaks, indented_start indent hne hcs]
    simp
  · rw [List.getLast?_append_of_ne_nil _ hbody]
    exact hbodyLast

end Start

/-- **The lines of a block are read from the beginning of the first**, in a column that the header
gives or the first line shows. -/
theorem startsBlock_indented {given column : Nat} (hcolumn : column < indent)
    (hnext : ∀ x ∈ next.head?, isGap x = false) (hne : cs ≠ [])
    (hprint : ∀ x ∈ cs, isPrintable x = true) (hlast : ∀ x ∈ cs.getLast?, isBreak x = true)
    (hgiven : given = indent ∨ given = 0 ∧ ∀ x ∈ cs.head?, x ≠ ' ' ∧ isBreak x = false)
    (hat : c.column = 0)
    (hrest : c.rest = indented indent true cs ++ (List.replicate column ' ' ++ next)) :
    StartsBlock given indent column cs c := by
  obtain ⟨breaks, t, rfl, hbreaks, ht⟩ : ∃ breaks t, cs = breaks ++ t
      ∧ (∀ x ∈ breaks, isBreak x = true) ∧ ∀ x ∈ t.head?, isBreak x = false := by
    refine ⟨cs.takeWhile isBreak, cs.dropWhile isBreak, List.takeWhile_append_dropWhile.symm,
      fun x hx => List.mem_takeWhile_imp hx, fun x hx => ?_⟩
    have hhead := List.head?_dropWhile_not isBreak cs
    rw [Option.mem_def] at hx
    rw [hx] at hhead
    exact hhead
  have hread : ∀ x ∈ breaks, isBreak x = true ∧ isPrintable x = true := fun x hx =>
    ⟨hbreaks x hx, hprint x (List.mem_append_left _ hx)⟩
  -- if a break comes first, the first line does not show the column
  have hshown : given = 0 → breaks = [] := by
    rintro rfl
    obtain hzero | ⟨-, hfirst⟩ := hgiven
    · omega
    cases breaks with
    | nil => rfl
    | cons x breaks =>
      have hx := (hfirst x rfl).2
      rw [hbreaks x List.mem_cons_self] at hx
      cases hx
  rw [indented_breaks indent t hbreaks] at hrest
  by_cases htne : t = []
  · subst htne
    rw [List.append_nil] at hne ⊢
    obtain rfl : given = indent := hgiven.resolve_right fun hzero => hne (hshown hzero.1)
    rw [indented, List.append_nil] at hrest
    exact startsBlock_emptyLines hcolumn hnext hread hat hrest
  · rw [indented_start indent htne ht] at hrest
    refine startsBlock_append hcolumn hnext hread htne
      (fun x hx => hprint x (List.mem_append_right _ hx)) ht (fun x hx => hlast x ?_) ?_ hat
      (by simp [hrest])
    · rw [List.getLast?_append_of_ne_nil _ htne]
      exact hx
    · refine hgiven.imp_right fun ⟨hzero, hfirst⟩ => ⟨hzero, fun hx => ?_⟩
      rw [hshown hzero] at hfirst
      exact (hfirst ' ' hx).1 rfl

/-- The hint for the column in the header: it is needed where the first line does not show it. -/
def hint (cs : List Char) : List Char :=
  if cs.head?.any fun x => x = ' ' || isBreak x then ['2'] else []

theorem toList_literal (indent : Nat) (cs : List Char) :
    (Printer.literal indent cs).toList
      = '|' :: (hint cs ++ (Printer.chomping cs).toList ++ '\n' :: indented indent true cs) := by
  have hhint : (if cs.head?.any fun x => x = ' ' || isBreak x then "2" else "").toList
      = hint cs := by
    unfold hint
    split <;> rfl
  simp only [Printer.literal, String.toList_append, toList_indentLines, hhint]
  simp

theorem hint_eq (cs : List Char) : hint cs = [] ∨ hint cs = ['2'] := by
  unfold hint
  split
  · exact .inr rfl
  · exact .inl rfl

/-- Where there is no hint the first line shows the column. -/
theorem head?_of_hint (hne : cs ≠ []) (hnone : hint cs = []) :
    ∀ x ∈ (cs ++ rest).head?, x ≠ ' ' ∧ isBreak x = false := by
  intro x hx
  rw [List.head?_append_of_ne_nil _ hne, Option.mem_def] at hx
  simpa [hint, hx] using hnone

/-- Behind its header a block is read line by line, from a column that the header gives or the first
line shows. -/
theorem block?_of_lines {margin increment given deepest : Nat} {chomping : Chomping}
    {lineBreak more : List Char} {c' start stop : Cursor}
    (hheader : blockHeader? c = some (chomping, increment, c')) (hline : c'.rest = '\n' :: rest)
    (hgiven : (if increment = 0 then 0 else margin - 1 + increment) = given)
    (hempty : emptyLines? given ((c'.after ['\n']).rest.length + 1) [] 0 (c'.after ['\n'])
      = some (breaks, deepest, start))
    (hindent : (if given = 0 then max deepest (max margin 1) else given) = indent)
    (hblock : blockLines? true indent (start.rest.length + 1) [] [] breaks false start
      = some (text, lineBreak, more, stop)) :
    block? true margin c = some (text ++ chomping.kept lineBreak more, stop) := by
  have hblank : c'.skipWhile isBlank = c' := by
    have hnone : isBlank '\n' = false := by decide
    have hskip : c'.skip 0 = c' := rfl
    simp [Cursor.skipWhile, Cursor.span, hline, hnone, hskip]
  have hcomment : c'.skipComment = c' := by simp [Cursor.skipComment, hline]
  have hend : atLineEnd ('\n' :: rest) = true := by
    rw [atLineEnd_cons]
    decide
  rw [block?, hheader]
  simp only [Option.bind_eq_bind, Option.bind_some, hblank, hcomment, hline, hend, Bool.not_true,
    Bool.false_eq_true, if_false, Cursor.lineBreak_eq hline (by decide) (by decide), hgiven, hempty,
    hindent, hblock]
  cases chomping <;> rfl

/-- **A literal block is read back**, in the column that belongs to the collection around it. -/
theorem block?_literal {margin column : Nat} (hindent : indent = margin - 1 + 2)
    (hcolumn : column < indent) (hnext : ∀ x ∈ next.head?, isGap x = false) (hne : cs ≠ [])
    (hprint : ∀ x ∈ cs, isPrintable x = true)
    (hrest : c.rest = (Printer.literal indent cs).toList
      ++ (lineEnd cs ++ (List.replicate column ' ' ++ next))) :
    block? true margin (c.skip 1)
      = some (cs, c.after ((Printer.literal indent cs).toList
        ++ (lineEnd cs ++ List.replicate column ' '))) := by
  obtain ⟨chomping, hsign, htext⟩ := exists_chomping hne
  have hlines : (Printer.literal indent cs).toList ++ lineEnd cs
      = '|' :: (hint cs ++ chomping.sign ++ '\n' :: indented indent true (cs ++ lineEnd cs)) := by
    rw [toList_literal, hsign, indented_lineEnd]
    simp
  rw [← List.append_assoc, hlines] at hrest ⊢
  have hbar : c.skip 1 = c.after ['|'] := by
    rw [Cursor.after_eq_skip (List.forall_mem_singleton.2 (by decide))]
    rfl
  have hheader : (c.after ['|']).rest = hint cs ++ chomping.sign ++ '\n' ::
      (indented indent true (cs ++ lineEnd cs) ++ (List.replicate column ' ' ++ next)) :=
    Cursor.rest_after (by simp [hrest])
  have hline : ((c.after ['|']).after (hint cs ++ chomping.sign)).rest = '\n' ::
      (indented indent true (cs ++ lineEnd cs) ++ (List.replicate column ' ' ++ next)) :=
    Cursor.rest_after hheader
  have hstart : (((c.after ['|']).after (hint cs ++ chomping.sign)).after ['\n']).rest
      = indented indent true (cs ++ lineEnd cs) ++ (List.replicate column ' ' ++ next) :=
    Cursor.rest_after hline
  have hplace : (((c.after ['|']).after (hint cs ++ chomping.sign)).after ['\n']).column = 0 :=
    Cursor.column_after_line (by decide) (List.forall_mem_nil _) _ []
  have hshown : (if hint cs = [] then 0 else indent) = indent
      ∨ (if hint cs = [] then 0 else indent) = 0
        ∧ ∀ x ∈ (cs ++ lineEnd cs).head?, x ≠ ' ' ∧ isBreak x = false := by
    by_cases hnone : hint cs = []
    · exact .inr ⟨if_pos hnone, head?_of_hint hne hnone⟩
    · exact .inl (if_neg hnone)
  obtain ⟨breaks, deepest, c', text, lineBreak, more, hempty, hdeepest, hblock, hends⟩ :=
    startsBlock_indented hcolumn hnext (List.append_ne_nil_of_left_ne_nil hne _)
      (isPrintable_lineEnd hprint) isBreak_getLast?_lineEnd hshown hplace hstart
  have hgiven : (if (if hint cs = [] then 0 else 2) = 0 then 0
      else margin - 1 + if hint cs = [] then 0 else 2) = if hint cs = [] then 0 else indent := by
    split <;> simp_all
  have hcolumns : (if (if hint cs = [] then 0 else indent) = 0 then max deepest (max margin 1)
      else if hint cs = [] then 0 else indent) = indent := by
    by_cases hnone : hint cs = []
    · rw [if_pos hnone, if_pos rfl, hdeepest (if_pos hnone)]
      omega
    · rw [if_neg hnone, if_neg (by omega)]
  have hheader' := blockHeader?_eq chomping (hint_eq cs) hheader
  rw [hbar, block?_of_lines hheader' hline hgiven hempty hcolumns hblock, htext _ _ _ hends]
  simp

end Sidecar.Yaml.Scalar
