/-
**Plain scalars are read back.**

A plain scalar is read word by word.  It ends before a colon that a gap follows, or where a line
begins that is indented too little.  Whether a text may be written plain is decided by pairs of
neighbours in it; what these pairs come to is that it is a phrase: words between spaces, none of
which begins with a number sign or ends with a colon.

Main definitions: `Sidecar.Yaml.Scalar.IsWord`, `Sidecar.Yaml.Scalar.IsPhrase`.

Main results:

* `Sidecar.Yaml.Scalar.FitsPlain.isPhrase` — what may be written plain is a phrase;
* `Sidecar.Yaml.Scalar.plain?_key`, `Sidecar.Yaml.Scalar.plain?_line` — **a phrase is read back**
  before a colon, and at the end of a line.
-/

import Mathlib.Data.List.Basic
import Mathlib.Data.List.Chain
import Sidecar.Proofs.Yaml.Place

set_option autoImplicit false

namespace Sidecar.Yaml

/-! ### Neighbours -/

/-- No two neighbours pass the tests. -/
theorem Printer.adjacent_eq_false_iff {first second : Char → Bool} {cs : List Char} :
    adjacent first second cs = false
      ↔ cs.IsChain fun a b => first a = true → second b = false := by
  unfold adjacent
  induction cs with
  | nil => simp
  | cons a cs ih =>
    cases cs with
    | nil => simp
    | cons b cs =>
      rw [List.tail_cons] at ih
      rw [List.isChain_cons_cons, ← ih]
      simp [List.zip_cons_cons]

namespace Scalar

/-! ### Words and phrases -/

/-- A word of a plain scalar. -/
structure IsWord (w : List Char) : Prop where
  ne_nil : w ≠ []
  solid : ∀ x ∈ w, isGap x = false
  head_ne : w.head? ≠ some '#'
  last_ne : w.getLast? ≠ some ':'

/-- Words between spaces. -/
inductive IsPhrase : List Char → Prop
  | word {w : List Char} : IsWord w → IsPhrase w
  | cons {w cs : List Char} (n : Nat) : IsWord w → IsPhrase cs →
      IsPhrase (w ++ (List.replicate (n + 1) ' ' ++ cs))

theorem IsWord.isGap_head {w : List Char} (h : IsWord w) (more : List Char) :
    ∀ x ∈ (w ++ more).head?, isGap x = false := by
  intro x hx
  cases hw : w with
  | nil => exact absurd hw h.ne_nil
  | cons y w =>
    subst hw
    cases hx
    exact h.solid x List.mem_cons_self

theorem IsPhrase.isGap_head {cs : List Char} (h : IsPhrase cs) (more : List Char) :
    ∀ x ∈ (cs ++ more).head?, isGap x = false := by
  cases h with
  | word hw => exact hw.isGap_head more
  | cons n hw _ =>
    rw [List.append_assoc]
    exact hw.isGap_head _

/-- What may be written plain, said of the ends of a text and of neighbours in it. -/
structure FitsPlain (cs : List Char) : Prop where
  inLine : ∀ x ∈ cs, isPrintable x = true ∧ isBreak x = false
  head : ∀ x ∈ cs.head?, isGap x = false ∧ x ≠ '#'
  last : ∀ x ∈ cs.getLast?, isGap x = false ∧ x ≠ ':'
  colon : cs.IsChain fun a b => a = ':' → isGap b = false
  sign : cs.IsChain fun a b => isGap a = true → b ≠ '#'

/-- A text of spaces only. -/
theorem eq_replicate_of_isGap {g : List Char} (hgap : ∀ x ∈ g, isGap x = true)
    (hline : ∀ x ∈ g, isPrintable x = true ∧ isBreak x = false) :
    g = List.replicate g.length ' ' :=
  List.eq_replicate_iff.2 ⟨rfl, fun x hx =>
    eq_space_of_isGap (hgap x hx) (hline x hx).1 (hline x hx).2⟩

/-- What fits is a phrase. -/
theorem FitsPlain.isPhrase {cs : List Char} (h : FitsPlain cs) (hne : cs ≠ []) : IsPhrase cs := by
  induction cs using wordInduction isGap with
  | word w hw => exact .word ⟨hne, hw, fun hx => (h.head _ hx).2 rfl, fun hx => (h.last _ hx).2 rfl⟩
  | gap w g cs hw hg hgap hcs ih =>
    obtain ⟨hline, hhead, hlast, hcolon, hsign⟩ := h
    have hspaces := eq_replicate_of_isGap hgap fun x hx => hline x (by simp [hx])
    obtain ⟨n, hn⟩ : ∃ n, g.length = n + 1 :=
      Nat.exists_eq_succ_of_ne_zero fun h0 => hg (List.length_eq_zero_iff.1 h0)
    obtain ⟨x, hx⟩ : ∃ x, g.head? = some x := by
      cases g with
      | nil => exact absurd rfl hg
      | cons x g => exact ⟨x, rfl⟩
    obtain ⟨y, hy⟩ : ∃ y, g.getLast? = some y := ⟨_, List.getLast?_eq_some_getLast hg⟩
    -- a gap neither begins nor ends the text
    have hwne : w ≠ [] := by
      rintro rfl
      have hsolid := (hhead x (by simp [List.head?_append, hx])).1
      rw [hgap x (List.mem_of_head? hx)] at hsolid
      cases hsolid
    have hcsne : cs ≠ [] := by
      rintro rfl
      have hsolid := (hlast y (by simp [List.getLast?_append, hy])).1
      rw [hgap y (List.mem_of_getLast? hy)] at hsolid
      cases hsolid
    obtain ⟨-, hcolon, hseam⟩ := List.isChain_append.1 hcolon
    obtain ⟨-, hsign, -⟩ := List.isChain_append.1 hsign
    obtain ⟨-, hsign, hstart⟩ := List.isChain_append.1 hsign
    have hword : IsWord w := by
      refine ⟨hwne, hw, fun hz => ?_, fun hz => ?_⟩
      · exact (hhead _ (by simp [List.head?_append, hz])).2 rfl
      · have hsolid := hseam ':' hz x (by simp [List.head?_append, hx]) rfl
        rw [hgap x (List.mem_of_head? hx)] at hsolid
        cases hsolid
    rw [hspaces, hn]
    refine .cons n hword (ih ⟨fun z hz => hline z (by simp [hz]), fun z hz => ⟨hcs z hz, ?_⟩,
      fun z hz => hlast z ?_, (List.isChain_append.1 hcolon).2.1, hsign⟩ hcsne)
    · exact hstart y hy z hz (hgap y (List.mem_of_getLast? hy))
    · rw [← List.append_assoc, List.getLast?_append_of_ne_nil _ hcsne]
      exact hz

/-- What the printer writes plain fits. -/
theorem fitsPlain_of_allowsPlain {cs : List Char} (h : Printer.allowsPlain cs = true) :
    FitsPlain cs := by
  simp only [Printer.allowsPlain, Printer.needsEscapes, Printer.hasGapAtEnd, Printer.hasIndicator,
    Bool.not_eq_true', Bool.or_eq_false_iff] at h
  obtain ⟨⟨⟨⟨hhead, hlast⟩, hbreak⟩, -, hspecial⟩, ⟨⟨⟨-, hfirst⟩, hcolon⟩, hend⟩, hsign⟩ := h
  have hline : ∀ x ∈ cs, isPrintable x = true ∧ isBreak x = false := fun x hx =>
    ⟨Printer.isPrintable_of_mem hspecial x hx, by simpa using List.any_eq_false.1 hbreak x hx⟩
  have hsolid : ∀ x ∈ cs, x ≠ ' ' → isGap x = false := by
    intro x hx hne
    rw [← Bool.not_eq_true]
    exact fun hgap => hne (eq_space_of_isGap hgap (hline x hx).1 (hline x hx).2)
  refine ⟨hline, fun x hx => ?_, fun x hx => ?_, ?_, ?_⟩
  · rw [Option.mem_def] at hx
    have hne : x ≠ ' ' := by
      rintro rfl
      simp [hx] at hhead
    refine ⟨hsolid x (List.mem_of_head? hx) hne, ?_⟩
    rintro rfl
    obtain ⟨rest, rfl⟩ := List.head?_eq_some_iff.1 hx
    simp at hfirst
  · rw [Option.mem_def] at hx
    have hne : x ≠ ' ' := by
      rintro rfl
      simp [hx] at hlast
    refine ⟨hsolid x (List.mem_of_getLast? hx) hne, ?_⟩
    rintro rfl
    simp [hx] at hend
  · refine (Printer.adjacent_eq_false_iff.1 hcolon).imp fun a b hab ha => hab (by simpa using ha)
  · refine (Printer.adjacent_eq_false_iff.1 hsign).imp fun a b hab ha => by simpa using hab ha

/-! ### Reading -/

/-- A word is read up to a gap, or to a colon that a gap follows. -/
theorem word?_append {w stop : List Char} (hsolid : ∀ x ∈ w, isGap x = false)
    (hlast : w.getLast? ≠ some ':')
    (hstop : atGap stop = true ∨ ∃ rest, stop = ':' :: rest ∧ atGap rest = true) :
    word? false (w ++ stop) = some w := by
  induction w with
  | nil =>
    rcases hstop with hstop | ⟨rest, rfl, hrest⟩
    · cases stop with
      | nil => rfl
      | cons x rest =>
        have hx : isGap x = true := hstop
        simp [word?, hx]
    · have hx : isGap ':' = false := by decide
      simp [word?, hx, hrest]
  | cons x w ih =>
    rw [List.forall_mem_cons] at hsolid
    have hgoes : ¬ (x = ':' ∧ atGap (w ++ stop) = true) := by
      rintro ⟨rfl, hgap⟩
      cases w with
      | nil => exact hlast rfl
      | cons y w =>
        have hy : isGap y = true := hgap
        rw [hsolid.2 y List.mem_cons_self] at hy
        cases hy
    have htail : w.getLast? ≠ some ':' := by
      cases w with
      | nil => simp
      | cons y w => simpa using hlast
    rw [List.cons_append, word?]
    simp only [hsolid.1, Bool.false_and, Bool.false_eq_true, if_false, hgoes, ih hsolid.2 htail,
      Option.map_some]

variable {margin fuel : Nat} {text cs w stop : List Char} {gap : Gap} {c : Cursor}

/-- With a word its reader takes what the gap before it is read as, and goes on as the text after
the word wants it. -/
theorem plainRest?_word (hw : IsWord w) (hrest : c.rest = w ++ stop) (hmark : c.atMark = false)
    (hstop : atGap stop = true ∨ ∃ rest, stop = ':' :: rest ∧ atGap rest = true) :
    plainRest? false margin (fuel + 1) text gap c
      = match stop with
        | [] => some (text ++ gap.text ++ w, false, c.after w)
        | x :: _ =>
          if isGap x then
            (Gap.scan? margin (stop.length + 1) .empty (c.after w)).bind fun (next, c) =>
              if c.column < margin then some (text ++ gap.text ++ w, next.broken, c)
              else plainRest? false margin fuel (text ++ gap.text ++ w) next c
          else some (text ++ gap.text ++ w, false, c.after w) := by
  have hsign : c.startsWith '#' = false := by
    have hhead : c.rest.head? = w.head? := by
      rw [hrest]
      cases hcs : w with
      | nil => exact absurd hcs hw.ne_nil
      | cons x w => rfl
    simpa [Cursor.startsWith, hhead] using hw.head_ne
  have hline : ∀ x ∈ w, isBreak x = false := fun x hx => isBreak_eq_false_of_isGap (hw.solid x hx)
  have hempty : w.isEmpty = false := by simpa using hw.ne_nil
  rw [plainRest?]
  simp only [hmark, hsign, Bool.or_self, Bool.false_eq_true, if_false, hrest,
    word?_append hw.solid hw.last_ne hstop, Option.bind_eq_bind, Option.bind_some, hempty,
    ← Cursor.after_eq_skip hline c, Cursor.rest_after hrest]
  cases stop with
  | nil => rfl
  | cons x rest => simp [Gap.empty]

/-- At the end of the text a plain scalar ends. -/
theorem plainRest?_nil (hrest : c.rest = []) :
    plainRest? false margin (fuel + 1) text gap c = some (text, gap.broken, c) := by
  have hmark : c.atMark = false := by simp [Cursor.atMark, hrest, startsWithMark]
  have hskip : c.skip 0 = c := rfl
  rw [plainRest?]
  simp [hmark, Cursor.startsWith, hrest, word?, hskip]

/-- Spaces after a word are the gap before the next one, and the place behind them is no mark. -/
theorem plainRest?_spaces (fuel : Nat) (text : List Char) (gap : Gap) {n : Nat}
    {next : List Char} (hw : IsWord w)
    (hrest : c.rest = w ++ (List.replicate (n + 1) ' ' ++ next))
    (hnext : ∀ x ∈ next.head?, isGap x = false) (hmark : c.atMark = false)
    (hcolumn : margin ≤ c.column + 1) :
    plainRest? false margin (fuel + 1) text gap c
        = plainRest? false margin fuel (text ++ gap.text ++ w)
          ⟨List.replicate (n + 1) ' ', [], [], false⟩
          (c.after (w ++ List.replicate (n + 1) ' '))
      ∧ (c.after (w ++ List.replicate (n + 1) ' ')).atMark = false
      ∧ margin ≤ (c.after (w ++ List.replicate (n + 1) ' ')).column + 1 := by
  have hspaces : ∀ x ∈ w ++ List.replicate (n + 1) ' ', isBreak x = false := by
    intro x hx
    rcases List.mem_append.1 hx with hx | hx
    · exact isBreak_eq_false_of_isGap (hw.solid x hx)
    · rw [List.eq_of_mem_replicate hx]
      decide
  have hplace : (c.after (w ++ List.replicate (n + 1) ' ')).column
      = c.column + (w ++ List.replicate (n + 1) ' ').length := Cursor.column_after hspaces c
  have hpos : 0 < (w ++ List.replicate (n + 1) ' ').length :=
    List.length_pos_iff.2 (List.append_ne_nil_of_left_ne_nil hw.ne_nil _)
  refine ⟨?_, Cursor.atMark_of_column_ne (by omega), by omega⟩
  have hgap : (c.after w).rest = List.replicate (n + 1) ' ' ++ next := Cursor.rest_after hrest
  have hnot : ¬ (c.after (w ++ List.replicate (n + 1) ' ')).column < margin := by omega
  rw [plainRest?_word hw hrest hmark (.inl (by simp [List.replicate_succ]; decide))]
  simp only [List.replicate_succ, List.cons_append, show isGap ' ' = true by decide, if_true]
  rw [Gap.empty, Gap.scan?_spaces (n := n + 1) hgap hnext
    (by rw [List.length_cons, List.length_append, List.length_replicate]; omega)]
  simp [← List.replicate_succ, hnot]

/-- A phrase is read up to its last word. -/
theorem exists_last_word (h : IsPhrase cs) :
    ∃ before w, cs = before ++ w ∧ IsWord w ∧ ∀ (margin fuel : Nat) (text stop : List Char)
      (gap : Gap) (c : Cursor), c.rest = cs ++ stop → c.atMark = false → margin ≤ c.column + 1 →
      c.rest.length < fuel → ∃ fuel' text' gap', (w ++ stop).length < fuel'
        ∧ text' ++ gap'.text = text ++ gap.text ++ before ∧ (c.after before).atMark = false
        ∧ plainRest? false margin fuel text gap c
          = plainRest? false margin fuel' text' gap' (c.after before) := by
  induction h with
  | @word w hw =>
    refine ⟨[], w, rfl, hw, fun margin fuel text stop gap c hrest hmark _ hfuel => ?_⟩
    exact ⟨fuel, text, gap, by rwa [← hrest], by simp, hmark, rfl⟩
  | @cons w cs n hw hcs ih =>
    obtain ⟨before, v, rfl, hv, hread⟩ := ih
    refine ⟨w ++ (List.replicate (n + 1) ' ' ++ before), v, by simp, hv, ?_⟩
    intro margin fuel text stop gap c hrest hmark hcolumn hfuel
    obtain ⟨fuel, rfl⟩ := Nat.exists_eq_succ_of_ne_zero (Nat.ne_of_gt (Nat.zero_lt_of_lt hfuel))
    have hsplit : c.rest = w ++ (List.replicate (n + 1) ' ' ++ (before ++ v ++ stop)) := by
      simp [hrest]
    obtain ⟨hstep, hmark', hcolumn'⟩ :=
      plainRest?_spaces fuel text gap hw hsplit (hcs.isGap_head stop) hmark hcolumn
    have hphrase : (c.after (w ++ List.replicate (n + 1) ' ')).rest = before ++ v ++ stop :=
      Cursor.rest_after (by simp [hrest])
    have hlength : (c.after (w ++ List.replicate (n + 1) ' ')).rest.length < fuel := by
      rw [hphrase]
      rw [hsplit] at hfuel
      simp only [List.length_append, List.length_replicate] at hfuel ⊢
      omega
    obtain ⟨fuel', text', gap', hfuel', htext, hmark', hread⟩ :=
      hread margin fuel (text ++ gap.text ++ w) stop ⟨List.replicate (n + 1) ' ', [], [], false⟩
        (c.after (w ++ List.replicate (n + 1) ' ')) hphrase hmark' hcolumn' hlength
    rw [Cursor.after_after] at hmark' hread
    refine ⟨fuel', text', gap', hfuel', ?_, ?_, ?_⟩
    · rw [htext]
      simp [Gap.text]
    · simpa using hmark'
    · rw [hstep, hread]
      simp

/-- **A phrase is read back** before a colon that a gap follows. -/
theorem plain?_key {rest : List Char} (h : IsPhrase cs) (hrest : c.rest = cs ++ ':' :: rest)
    (hgap : atGap rest = true) (hmark : c.atMark = false) (hcolumn : margin ≤ c.column + 1) :
    plain? false margin c = some (cs, false, c.after cs) := by
  obtain ⟨before, w, rfl, hw, hread⟩ := exists_last_word h
  obtain ⟨fuel, text, gap, hfuel, htext, hmark, hread⟩ :=
    hread margin _ [] _ .empty c hrest hmark hcolumn (Nat.lt_succ_self _)
  obtain ⟨fuel, rfl⟩ := Nat.exists_eq_succ_of_ne_zero (Nat.ne_of_gt (Nat.zero_lt_of_lt hfuel))
  have hword : (c.after before).rest = w ++ ':' :: rest :=
    Cursor.rest_after (by rw [hrest, List.append_assoc])
  rw [plain?, hread, plainRest?_word hw hword hmark (.inr ⟨rest, rfl, hgap⟩)]
  simp [show isGap ':' = false by decide, htext]

/-- **A phrase is read back** at the end of a line, if the next line is indented too little or there
is none. -/
theorem plain?_line {column : Nat} {next : List Char} (h : IsPhrase cs)
    (hrest : c.rest = cs ++ '\n' :: (List.replicate column ' ' ++ next))
    (hnext : ∀ x ∈ next.head?, isGap x = false) (hend : column < margin ∨ next = [])
    (hmark : c.atMark = false) (hcolumn : margin ≤ c.column + 1) :
    plain? false margin c
      = some (cs, true, c.after (cs ++ '\n' :: List.replicate column ' ')) := by
  obtain ⟨before, w, rfl, hw, hread⟩ := exists_last_word h
  obtain ⟨fuel, text, gap, hfuel, htext, hmark, hread⟩ :=
    hread margin _ [] _ .empty c hrest hmark hcolumn (Nat.lt_succ_self _)
  obtain ⟨fuel, rfl⟩ := Nat.exists_eq_succ_of_ne_zero (Nat.ne_of_gt (Nat.zero_lt_of_lt hfuel))
  have hword : (c.after before).rest = w ++ '\n' :: (List.replicate column ' ' ++ next) :=
    Cursor.rest_after (by rw [hrest, List.append_assoc])
  have hline : ((c.after before).after w).rest
      = '\n' :: [] ++ (List.replicate column ' ' ++ next) := Cursor.rest_after hword
  have hscan : Gap.empty.scan? margin (('\n' :: (List.replicate column ' ' ++ next)).length + 1)
        ((c.after before).after w)
      = some (⟨[], ['\n'], [], true⟩, _) :=
    Gap.scan?_breaks (List.forall_mem_singleton.2 ⟨by decide, by decide⟩) hline hnext
      (by simp; omega)
  have hat : ((c.after before).after w).after ('\n' :: [] ++ List.replicate column ' ')
      = c.after (before ++ w ++ '\n' :: List.replicate column ' ') := by
    simp
  have hplace : (c.after (before ++ w ++ '\n' :: List.replicate column ' ')).column = column := by
    rw [Cursor.column_after_line (by decide)
      (fun x hx => List.eq_of_mem_replicate hx ▸ by decide), List.length_replicate]
  rw [plain?, hread, plainRest?_word hw hword hmark (.inl rfl)]
  simp only [show isGap '\n' = true by decide, if_true, hscan, hat, Option.bind_some, hplace,
    htext]
  by_cases hless : column < margin
  · simp [hless]
  · -- the text ends, so there is no next line that could belong to the scalar
    obtain rfl := hend.resolve_left hless
    have hlast : (c.after (before ++ w ++ '\n' :: List.replicate column ' ')).rest = [] :=
      Cursor.rest_after (by rw [hrest, List.append_nil, List.append_nil])
    simp only [List.length_append, List.length_cons] at hfuel
    obtain ⟨fuel, rfl⟩ := Nat.exists_eq_succ_of_ne_zero (n := fuel) (by omega)
    rw [if_neg hless, plainRest?_nil hlast]
    simp

end Scalar

end Sidecar.Yaml
