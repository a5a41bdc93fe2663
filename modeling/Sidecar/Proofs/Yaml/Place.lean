/-
**Going on in a text.**

A reader of YAML goes through a text by places, and what it makes of a place depends on the line
and the column of that.  All of these follow from the text between two places.  So a reader of a
printed text is described by the text that it takes, with all of what follows in view: it goes from
a place to the place after that text.

Main definitions:

* `Sidecar.Yaml.Cursor.after` — the place after a text;
* `Sidecar.Yaml.StartsToken` — a text whose head is no gap, comment or byte order mark.

Main results:

* `Sidecar.Yaml.Cursor.column_after_line` — the column in a line that has just begun;
* `Sidecar.Yaml.Gap.scan?_spaces`, `Sidecar.Yaml.Gap.scan?_breaks` — how a gap is taken.
-/

import Mathlib.Data.List.TakeWhile
import Sidecar.Yaml.Printer
import Sidecar.Yaml.Scalar

set_option autoImplicit false

namespace Sidecar.Yaml

/-! ### Characters -/

/-- The breaks that may be written as themselves. -/
theorem eq_of_isBreak {x : Char} (hbreak : isBreak x = true) (hprint : isPrintable x = true) :
    x = '\n' ∨ x = '\u2028' ∨ x = '\u2029' := by
  simp only [isBreak, Bool.or_eq_true, decide_eq_true_eq] at hbreak
  rcases hbreak with (((rfl | rfl) | rfl) | h) | h
  · exact .inl rfl
  · cases hprint
  · cases hprint
  · exact .inr (.inl h)
  · exact .inr (.inr h)

/-- Where nothing must be escaped, everything may be written as itself. -/
theorem Printer.isPrintable_of_mem {cs : List Char} (h : cs.any isSpecial = false) :
    ∀ x ∈ cs, isPrintable x = true := fun x hx => by
  simpa [isSpecial] using List.any_eq_false.1 h x hx

theorem isBreak_eq_false_of_isGap {x : Char} (h : isGap x = false) : isBreak x = false :=
  (Bool.or_eq_false_iff.1 h).2

/-- The one blank that may be written as itself is the space. -/
theorem eq_space_of_isGap {x : Char} (hgap : isGap x = true) (hprint : isPrintable x = true)
    (hbreak : isBreak x = false) : x = ' ' := by
  rw [isGap, hbreak, Bool.or_false, isBlank, Bool.or_eq_true, decide_eq_true_eq,
    decide_eq_true_eq] at hgap
  rcases hgap with rfl | rfl
  · rfl
  · cases hprint

/-- A text whose head is no gap, comment or byte order mark. -/
def StartsToken (cs : List Char) : Prop :=
  ∀ x ∈ cs.head?, isGap x = false ∧ x ≠ '#' ∧ x ≠ '\ufeff'

theorem StartsToken.nil : StartsToken [] := by
  simp [StartsToken]

theorem startsToken_cons {x : Char} {cs : List Char} :
    StartsToken (x :: cs) ↔ isGap x = false ∧ x ≠ '#' ∧ x ≠ '\ufeff' := by
  simp [StartsToken]

/-- What ends the last line of a text, if that goes on. -/
def lineEnd (cs : List Char) : List Char :=
  if cs.getLast?.any isBreak then [] else ['\n']

/-- A text and what ends its last line end with a break. -/
theorem isBreak_getLast?_lineEnd {cs : List Char} :
    ∀ x ∈ (cs ++ lineEnd cs).getLast?, isBreak x = true := by
  intro x hx
  unfold lineEnd at hx
  split at hx
  · next hbreak =>
    rw [List.append_nil, Option.mem_def] at hx
    simpa [hx] using hbreak
  · rw [List.getLast?_concat, Option.mem_some] at hx
    exact hx ▸ by decide

theorem isPrintable_lineEnd {cs : List Char} (h : ∀ x ∈ cs, isPrintable x = true) :
    ∀ x ∈ cs ++ lineEnd cs, isPrintable x = true := by
  intro x hx
  rcases List.mem_append.1 hx with hx | hx
  · exact h x hx
  · unfold lineEnd at hx
    split at hx
    · cases hx
    · exact List.eq_of_mem_singleton hx ▸ by decide

@[simp] theorem toList_spaces (n : Nat) : (Printer.spaces n).toList = List.replicate n ' ' :=
  String.toList_ofList ..

theorem toList_endLine (written : String) :
    (Printer.endLine written).toList = written.toList ++ lineEnd written.toList := by
  unfold Printer.endLine lineEnd
  split
  · simp
  · simp

/-- A text is a word, or a word, a gap and another text.  So what is to be shown of every text needs
to be shown of words, and of what is put together in this way. -/
@[elab_as_elim]
theorem wordInduction (isGap : Char → Bool) {motive : List Char → Prop}
    (word : ∀ w, (∀ x ∈ w, isGap x = false) → motive w)
    (gap : ∀ w g cs, (∀ x ∈ w, isGap x = false) → g ≠ [] → (∀ x ∈ g, isGap x = true) →
      (∀ x ∈ cs.head?, isGap x = false) → motive cs → motive (w ++ (g ++ cs)))
    (cs : List Char) : motive cs := by
  induction hn : cs.length using Nat.strongRecOn generalizing cs with
  | ind n ih =>
    have hsplit : cs.takeWhile (!isGap ·) ++ cs.dropWhile (!isGap ·) = cs :=
      List.takeWhile_append_dropWhile
    have hword : ∀ x ∈ cs.takeWhile (!isGap ·), isGap x = false := fun x hx => by
      simpa using List.mem_takeWhile_imp hx
    cases hrest : cs.dropWhile (!isGap ·) with
    | nil =>
      rw [hrest, List.append_nil] at hsplit
      exact hsplit ▸ word _ hword
    | cons x rest =>
      have hx : isGap x = true := by
        have hhead := List.head?_dropWhile_not (!isGap ·) cs
        rw [hrest] at hhead
        simpa using hhead
      have hlength : (x :: rest).length ≤ cs.length := by
        rw [← hrest]
        exact (List.dropWhile_sublist _).length_le
      have hgap : (x :: rest).takeWhile isGap ++ (x :: rest).dropWhile isGap = x :: rest :=
        List.takeWhile_append_dropWhile
      rw [← hsplit, hrest, ← hgap]
      have hdrop : ((x :: rest).dropWhile isGap).length ≤ rest.length := by
        rw [List.dropWhile_cons_of_pos hx]
        exact (List.dropWhile_sublist _).length_le
      refine gap _ _ _ hword (by simp [hx]) (fun y hy => List.mem_takeWhile_imp hy)
        (fun y hy => ?_) (ih _ ?_ _ rfl)
      · have hhead := List.head?_dropWhile_not isGap (x :: rest)
        rw [Option.mem_def] at hy
        rw [hy] at hhead
        exact hhead
      · rw [List.length_cons] at hlength
        omega

/-! ### Places -/

namespace Cursor

/-- The place after a character. -/
def step (c : Cursor) (x : Char) : Cursor :=
  if isBreak x then ⟨c.rest.drop 1, c.index + 1, c.line + 1, 0⟩ else c.skip 1

/-- The place after a text. -/
def after (c : Cursor) (text : List Char) : Cursor :=
  text.foldl step c

variable {c : Cursor} {x : Char} {text more rest : List Char}

@[simp] theorem after_nil (c : Cursor) : c.after [] = c := rfl

theorem after_cons (c : Cursor) (x : Char) (text : List Char) :
    c.after (x :: text) = (c.step x).after text := rfl

@[simp] theorem after_after (c : Cursor) (text more : List Char) :
    (c.after text).after more = c.after (text ++ more) :=
  List.foldl_append.symm

theorem rest_step (c : Cursor) (x : Char) : (c.step x).rest = c.rest.drop 1 := by
  unfold step
  split <;> rfl

theorem rest_after (h : c.rest = text ++ rest) : (c.after text).rest = rest := by
  induction text generalizing c with
  | nil => exact h
  | cons x text ih => exact ih (by rw [rest_step, h]; rfl)

theorem index_after (c : Cursor) (text : List Char) :
    (c.after text).index = c.index + text.length := by
  induction text generalizing c with
  | nil => rfl
  | cons x text ih =>
    have hstep : (c.step x).index = c.index + 1 := by
      unfold step
      split <;> rfl
    rw [after_cons, ih, hstep, List.length_cons]
    omega

theorem skip_skip (c : Cursor) (m n : Nat) : (c.skip m).skip n = c.skip (m + n) := by
  simp only [skip, List.drop_drop, Nat.add_assoc]

/-- Within a line the place after a text is that many characters further. -/
theorem after_eq_skip (h : ∀ x ∈ text, isBreak x = false) (c : Cursor) :
    c.after text = c.skip text.length := by
  induction text generalizing c with
  | nil => rfl
  | cons x text ih =>
    rw [List.forall_mem_cons] at h
    have hstep : c.step x = c.skip 1 := by simp [step, h.1]
    rw [after_cons, hstep, ih h.2, skip_skip, List.length_cons, Nat.add_comm]

theorem line_after (h : ∀ x ∈ text, isBreak x = false) (c : Cursor) :
    (c.after text).line = c.line := by
  rw [after_eq_skip h]
  rfl

theorem column_after (h : ∀ x ∈ text, isBreak x = false) (c : Cursor) :
    (c.after text).column = c.column + text.length := by
  rw [after_eq_skip h]
  rfl

/-- In a line that has just begun the column is the number of characters. -/
theorem column_after_line (hbreak : isBreak x = true) (h : ∀ y ∈ more, isBreak y = false)
    (c : Cursor) (text : List Char) : (c.after (text ++ x :: more)).column = more.length := by
  have hstep : ((c.after text).step x).column = 0 := by simp [step, hbreak]
  rw [← after_after, after_cons, column_after h, hstep, Nat.zero_add]

theorem column_after_breaks {breaks : List Char} (hne : breaks ≠ [])
    (hbreaks : ∀ x ∈ breaks, isBreak x = true) (c : Cursor) (text : List Char) (n : Nat) :
    (c.after (text ++ (breaks ++ List.replicate n ' '))).column = n := by
  obtain ⟨before, x, rfl⟩ := (List.eq_nil_or_concat breaks).resolve_left hne
  have hx : isBreak x = true := hbreaks x (by simp)
  have hspaces : ∀ y ∈ List.replicate n ' ', isBreak y = false := fun y hy =>
    List.eq_of_mem_replicate hy ▸ by decide
  have hsplit : text ++ (before.concat x ++ List.replicate n ' ')
      = text ++ before ++ x :: List.replicate n ' ' := by simp
  rw [hsplit, column_after_line hx hspaces, List.length_replicate]

/-- At the beginning of a line, breaks lead to the beginning of another one. -/
theorem column_after_emptyLines (hcolumn : c.column = 0) {breaks : List Char}
    (hbreaks : ∀ x ∈ breaks, isBreak x = true) (n : Nat) :
    (c.after (breaks ++ List.replicate n ' ')).column = n := by
  by_cases hne : breaks = []
  · have hspaces : ∀ y ∈ List.replicate n ' ', isBreak y = false := fun y hy =>
      List.eq_of_mem_replicate hy ▸ by decide
    rw [hne, List.nil_append, column_after hspaces, hcolumn, List.length_replicate, Nat.zero_add]
  · exact column_after_breaks hne hbreaks c [] n

theorem line_le_after (c : Cursor) (text : List Char) : c.line ≤ (c.after text).line := by
  induction text generalizing c with
  | nil => exact Nat.le_refl _
  | cons x text ih =>
    refine Nat.le_trans ?_ (ih (c.step x))
    unfold step
    split
    · exact Nat.le_succ _
    · exact Nat.le_refl _

theorem line_lt_after (hbreak : isBreak x = true) (c : Cursor) (text more : List Char) :
    c.line < (c.after (text ++ x :: more)).line := by
  have hstep : ((c.after text).step x).line = (c.after text).line + 1 := by simp [step, hbreak]
  rw [← after_after, after_cons]
  calc c.line ≤ (c.after text).line := line_le_after c text
    _ < ((c.after text).step x).line := by omega
    _ ≤ (((c.after text).step x).after more).line := line_le_after _ more

/-- A break that may be written as itself is read as itself. -/
theorem lineBreak_eq (hrest : c.rest = x :: rest) (hbreak : isBreak x = true)
    (hprint : isPrintable x = true) : c.lineBreak = ([x], c.after [x]) := by
  have hstep : c.step x = ⟨rest, c.index + 1, c.line + 1, 0⟩ := by simp [step, hbreak, hrest]
  rw [after_cons, hstep, after_nil]
  rcases eq_of_isBreak hbreak hprint with rfl | rfl | rfl <;> simp [lineBreak, hrest, isBreak]

/-- The characters that pass the test, where the text goes on with one that does not. -/
theorem span_eq {test : Char → Bool} (hrest : c.rest = text ++ rest)
    (htext : ∀ x ∈ text, test x = true) (hstop : ∀ x ∈ rest.head?, test x = false)
    (hline : ∀ x ∈ text, isBreak x = false) : c.span test = (text, c.after text) := by
  have htake : c.rest.takeWhile test = text := by
    rw [hrest, List.takeWhile_append_of_pos htext]
    cases rest with
    | nil => simp
    | cons x rest => simp [hstop x rfl]
  rw [span, htake, after_eq_skip hline]

theorem atMark_of_column_ne (h : c.column ≠ 0) : c.atMark = false := by
  simp [atMark, h]

end Cursor

/-! ### Gaps -/

namespace Gap

variable {margin fuel n : Nat} {c : Cursor} {rest : List Char}

theorem isBlank_space : isBlank ' ' = true := by decide

/-- A gap ends where none goes on. -/
theorem scan?_stop (hfuel : 0 < fuel) (h : ∀ x ∈ c.rest.head?, isGap x = false) (gap : Gap) :
    gap.scan? margin fuel c = some (gap, c) := by
  obtain ⟨fuel, rfl⟩ := Nat.exists_eq_succ_of_ne_zero (Nat.ne_of_gt hfuel)
  cases hrest : c.rest with
  | nil => simp [scan?, hrest]
  | cons x rest =>
    have hx : isGap x = false := h x (by simp [hrest])
    obtain ⟨hblank, hbreak⟩ := Bool.or_eq_false_iff.1 hx
    simp [scan?, hrest, hblank, hbreak]

theorem after_space (c : Cursor) : c.skip 1 = c.after [' '] := by
  rw [Cursor.after_eq_skip (List.forall_mem_singleton.2 (by decide))]
  rfl

/-- Spaces in a line that goes on are what the gap is read as. -/
theorem scan?_spaces (hrest : c.rest = List.replicate n ' ' ++ rest)
    (hstop : ∀ x ∈ rest.head?, isGap x = false) (hfuel : n < fuel) (blanks : List Char) :
    scan? margin fuel ⟨blanks, [], [], false⟩ c
      = some (⟨blanks ++ List.replicate n ' ', [], [], false⟩,
        c.after (List.replicate n ' ')) := by
  induction n generalizing c fuel blanks with
  | zero =>
    have hsame : c.rest = rest := hrest
    rw [scan?_stop hfuel (hsame ▸ hstop)]
    simp
  | succ n ih =>
    obtain ⟨fuel, rfl⟩ := Nat.exists_eq_succ_of_ne_zero (Nat.ne_of_gt (Nat.zero_lt_of_lt hfuel))
    have hnext : (c.skip 1).rest = List.replicate n ' ' ++ rest := by
      simp [hrest, List.replicate_succ]
    rw [scan?]
    simp only [hrest, List.replicate_succ, List.cons_append, isBlank_space, Bool.false_and,
      Bool.false_eq_true, if_false, if_true]
    rw [ih hnext (by omega), after_space, Cursor.after_after]
    simp

/-- Spaces at the beginning of a line are passed over. -/
theorem scan?_indent {gap : Gap} (hbroken : gap.broken = true)
    (hrest : c.rest = List.replicate n ' ' ++ rest)
    (hstop : ∀ x ∈ rest.head?, isGap x = false) (hfuel : n < fuel) :
    gap.scan? margin fuel c = some (gap, c.after (List.replicate n ' ')) := by
  induction n generalizing c fuel with
  | zero =>
    have hsame : c.rest = rest := hrest
    exact scan?_stop hfuel (hsame ▸ hstop) gap
  | succ n ih =>
    obtain ⟨fuel, rfl⟩ := Nat.exists_eq_succ_of_ne_zero (Nat.ne_of_gt (Nat.zero_lt_of_lt hfuel))
    have hnext : (c.skip 1).rest = List.replicate n ' ' ++ rest := by
      simp [hrest, List.replicate_succ]
    have htab : (' ' == '\t') = false := by decide
    rw [scan?]
    simp only [hrest, List.replicate_succ, List.cons_append, isBlank_space, hbroken, htab,
      Bool.and_false, Bool.false_eq_true, if_false, if_true]
    rw [ih hnext (by omega), after_space, Cursor.after_after]
    rfl

/-- Further breaks are kept. -/
theorem scan?_further {blanks first further breaks : List Char}
    (hbreaks : ∀ x ∈ breaks, isBreak x = true ∧ isPrintable x = true)
    (hrest : c.rest = breaks ++ (List.replicate n ' ' ++ rest))
    (hstop : ∀ x ∈ rest.head?, isGap x = false) (hfuel : breaks.length + n < fuel) :
    scan? margin fuel ⟨blanks, first, further, true⟩ c
      = some (⟨blanks, first, further ++ breaks, true⟩,
        c.after (breaks ++ List.replicate n ' ')) := by
  induction breaks generalizing c fuel further with
  | nil =>
    rw [scan?_indent rfl hrest hstop (by simpa using hfuel)]
    simp
  | cons x breaks ih =>
    obtain ⟨fuel, rfl⟩ := Nat.exists_eq_succ_of_ne_zero (Nat.ne_of_gt (Nat.zero_lt_of_lt hfuel))
    rw [List.forall_mem_cons] at hbreaks
    obtain ⟨⟨hbreak, hprint⟩, hbreaks⟩ := hbreaks
    have hblank : isBlank x = false := by
      rcases eq_of_isBreak hbreak hprint with rfl | rfl | rfl <;> decide
    have hnext : (c.after [x]).rest = breaks ++ (List.replicate n ' ' ++ rest) :=
      Cursor.rest_after (by rw [hrest]; rfl)
    rw [List.length_cons] at hfuel
    rw [scan?]
    simp only [hrest, List.cons_append, hblank, hbreak, Bool.false_eq_true, if_false, if_true,
      Cursor.lineBreak_eq hrest hbreak hprint]
    rw [ih hbreaks hnext (by omega)]
    simp

/-- Where lines end, the gap holds their breaks. -/
theorem scan?_breaks {x : Char} {breaks : List Char}
    (hbreaks : ∀ y ∈ x :: breaks, isBreak y = true ∧ isPrintable y = true)
    (hrest : c.rest = x :: breaks ++ (List.replicate n ' ' ++ rest))
    (hstop : ∀ x ∈ rest.head?, isGap x = false) (hfuel : breaks.length + 1 + n < fuel) :
    empty.scan? margin fuel c
      = some (⟨[], [x], breaks, true⟩, c.after (x :: breaks ++ List.replicate n ' ')) := by
  obtain ⟨fuel, rfl⟩ := Nat.exists_eq_succ_of_ne_zero (Nat.ne_of_gt (Nat.zero_lt_of_lt hfuel))
  rw [List.forall_mem_cons] at hbreaks
  obtain ⟨⟨hbreak, hprint⟩, hbreaks⟩ := hbreaks
  have hblank : isBlank x = false := by
    rcases eq_of_isBreak hbreak hprint with rfl | rfl | rfl <;> decide
  have hnext : (c.after [x]).rest = breaks ++ (List.replicate n ' ' ++ rest) :=
    Cursor.rest_after (by rw [hrest]; rfl)
  rw [scan?]
  simp only [empty, hrest, List.cons_append, hblank, hbreak, Bool.false_eq_true, if_false, if_true,
    Cursor.lineBreak_eq hrest hbreak hprint]
  rw [scan?_further hbreaks hnext hstop (by omega)]
  simp

end Gap

end Sidecar.Yaml
