/-
**Scalars as they are printed.**

Whatever its style, a scalar that is printed begins a token, consists of characters that may be
written as themselves, and is long only if its text is.

Main definition: `Sidecar.Yaml.Written` — what is written for a text in a style.

Main results:

* `Sidecar.Yaml.written_scalar`, `Sidecar.Yaml.written_toString` — what the printer writes for texts
  and numbers is written in a style;
* `Sidecar.Yaml.Written.startsToken`, `Sidecar.Yaml.Written.isPrintable` — **it begins a token and
  may be written**;
* `Sidecar.Yaml.Written.inLine` — if its text is one line it is one, and at most six times as long,
  beside the quotes.
-/

import Mathlib.Data.String.Basic
import Sidecar.Proofs.Yaml.Block
import Sidecar.Proofs.Yaml.Quoted
import Sidecar.Proofs.Yaml.ReadBack

set_option autoImplicit false

namespace Sidecar.Yaml

/-! ### Characters that are written -/

namespace Scalar

theorem isPrintable_replicate (n : Nat) : ∀ x ∈ List.replicate n ' ', isPrintable x = true :=
  fun _ hx => List.eq_of_mem_replicate hx ▸ by decide

theorem isPrintable_written {double : Bool} {x : Char}
    (h : double = false → isPrintable x = true) : ∀ y ∈ written double x, isPrintable y = true := by
  cases double with
  | true =>
    cases hescaped : isEscaped x with
    | true =>
      obtain ⟨e, hwritten, he⟩ := escapes_escape hescaped
      simp only [written, hescaped, if_true, hwritten, List.forall_mem_cons]
      exact ⟨by decide, fun y hy => (he.inLine y hy).1⟩
    | false =>
      simp only [isEscaped, Bool.or_eq_false_iff, Printer.isSpecial, Bool.not_eq_false'] at hescaped
      have hsame : written true x = [x] := by
        simp [written, isEscaped, Printer.isSpecial, hescaped.1.1.1, hescaped.1.1.2, hescaped.1.2,
          hescaped.2]
      exact hsame ▸ List.forall_mem_singleton.2 hescaped.1.1.1
  | false =>
    by_cases hquote : x = '\''
    · simp only [written, hquote, Bool.false_eq_true, if_false, if_true]
      exact List.forall_mem_cons.2 ⟨by decide, List.forall_mem_singleton.2 (by decide)⟩
    · simpa [written, hquote] using h rfl

theorem length_written_le (double : Bool) (x : Char) : (written double x).length ≤ 6 := by
  cases double with
  | true =>
    cases hescaped : isEscaped x with
    | true =>
      obtain ⟨e, hwritten, he⟩ := escapes_escape hescaped
      rw [written, if_pos rfl, if_pos hescaped, hwritten, List.length_cons]
      exact Nat.succ_le_succ he.length_le
    | false => simp [written, hescaped]
  | false =>
    rw [written, if_neg Bool.false_ne_true]
    split <;> simp

/-- Between its quotes a text of one line is in one line. -/
theorem isBreak_quoted (quote : Char) (hquote : isBreak quote = false) {double : Bool}
    {cs : List Char} (h : ∀ x ∈ cs, double = false → isBreak x = false) :
    ∀ y ∈ quote :: cs.flatMap (written double) ++ [quote], isBreak y = false := by
  rw [List.cons_append, List.forall_mem_cons, List.forall_mem_append]
  refine ⟨hquote, fun y hy => ?_, List.forall_mem_singleton.2 hquote⟩
  obtain ⟨x, hx, hy⟩ := List.mem_flatMap.1 hy
  exact isBreak_written (h x hx) y hy

theorem length_quoted_le (quote : Char) (double : Bool) (cs : List Char) :
    (quote :: cs.flatMap (written double) ++ [quote]).length ≤ 6 * cs.length + 2 := by
  have hwritten : (cs.flatMap (written double)).length ≤ 6 * cs.length := by
    induction cs with
    | nil => exact Nat.le_refl _
    | cons x cs ih =>
      have hx := length_written_le double x
      rw [List.flatMap_cons, List.length_append, List.length_cons]
      omega
  rw [List.length_append, List.length_cons, List.length_singleton]
  omega

theorem isPrintable_quotedLines {cs : List Char} (h : ∀ x ∈ cs, isPrintable x = true)
    (indent : Nat) (atStart : Bool) :
    ∀ x ∈ quotedLines indent atStart cs, isPrintable x = true := by
  induction cs generalizing atStart with
  | nil =>
    rw [quotedLines]
    split
    · exact isPrintable_replicate indent
    · exact List.forall_mem_nil _
  | cons x cs ih =>
    rw [List.forall_mem_cons] at h
    rw [quotedLines]
    split
    · exact List.forall_mem_cons.2 ⟨h.1, ih h.2 true⟩
    · rw [List.forall_mem_append, List.forall_mem_append]
      refine ⟨⟨?_, isPrintable_written fun _ => h.1⟩, ih h.2 false⟩
      split
      · exact isPrintable_replicate indent
      · exact List.forall_mem_nil _

theorem isPrintable_indented {cs : List Char} (h : ∀ x ∈ cs, isPrintable x = true)
    (indent : Nat) (atStart : Bool) : ∀ x ∈ indented indent atStart cs, isPrintable x = true := by
  induction cs generalizing atStart with
  | nil => exact List.forall_mem_nil _
  | cons x cs ih =>
    rw [List.forall_mem_cons] at h
    rw [indented]
    split
    · exact List.forall_mem_cons.2 ⟨h.1, ih h.2 true⟩
    · rw [List.forall_mem_append]
      refine ⟨?_, List.forall_mem_cons.2 ⟨h.1, ih h.2 false⟩⟩
      split
      · exact isPrintable_replicate indent
      · exact List.forall_mem_nil _

end Scalar

/-! ### Scalars -/

/-- What is written for a text in a style, with further lines in the column `indent`. -/
inductive Written (indent : Nat) : (text : List Char) → Style → (cs : List Char) → Prop
  | plain {cs : List Char} : Printer.allowsPlain cs = true → cs ≠ [] → Written indent cs .plain cs
  | singleQuoted {cs : List Char} : Scalar.FitsQuotes cs →
      Written indent (Printer.singleQuoted indent cs).toList .singleQuoted cs
  | doubleQuoted (cs : List Char) :
      Written indent (Printer.doubleQuoted cs).toList .doubleQuoted cs
  | literal {cs : List Char} : '\n' ∈ cs → (∀ x ∈ cs, isPrintable x = true) →
      Written indent (Printer.literal indent cs).toList .literal cs

/-- The printer writes a text in its style. -/
theorem written_scalar (indent : Nat) (s : String) :
    Written indent (Printer.scalar indent s).toList (Printer.style s) s.toList := by
  rw [Printer.scalar]
  generalize hstyle : Printer.style s = style
  rw [Printer.style] at hstyle
  split at hstyle
  · next hfeed =>
    split at hstyle
    · next hliteral =>
      subst hstyle
      simp only [Printer.allowsLiteral, Printer.needsEscapes, Bool.not_eq_true',
        Bool.or_eq_false_iff] at hliteral
      exact .literal (by simpa using hfeed) (Printer.isPrintable_of_mem hliteral.2.2)
    · subst hstyle
      exact .doubleQuoted _
  · next hfeed =>
    split at hstyle
    · next hplain =>
      subst hstyle
      rw [Bool.and_eq_true] at hplain
      refine .plain hplain.2 fun hnil => ?_
      simp [Plain.isText, hnil] at hplain
    · split at hstyle
      · next hquoted =>
        subst hstyle
        simp only [Printer.allowsSingleQuoted, Printer.needsEscapes, Bool.not_eq_true',
          Bool.or_eq_false_iff] at hquoted
        obtain ⟨hline, hspace, hspecial⟩ := hquoted
        refine .singleQuoted ⟨fun x hx => ⟨Printer.isPrintable_of_mem hspecial x hx, ?_⟩, ?_, ?_⟩
        · rintro rfl
          exact hfeed (by simpa using hx)
        · exact (Printer.adjacent_eq_false_iff.1 hspace).imp fun a b hab ha =>
            hab (by simpa using ha)
        · refine (Printer.adjacent_eq_false_iff.1 hline).imp fun a b hab ha => by simpa using hab ha
      · subst hstyle
        exact .doubleQuoted _

variable {indent : Nat} {text cs : List Char} {style : Style}

theorem Written.isPrintable (h : Written indent text style cs) :
    ∀ x ∈ text, isPrintable x = true := by
  cases h with
  | plain hplain _ => exact fun x hx => ((Scalar.fitsPlain_of_allowsPlain hplain).inLine x hx).1
  | singleQuoted hfits =>
    rw [Scalar.toList_singleQuoted, List.cons_append, List.forall_mem_cons, List.forall_mem_append]
    exact ⟨by decide, Scalar.isPrintable_quotedLines (fun x hx => (hfits.printable x hx).1) _ _,
      List.forall_mem_singleton.2 (by decide)⟩
  | doubleQuoted cs =>
    rw [Scalar.toList_doubleQuoted, List.cons_append, List.forall_mem_cons, List.forall_mem_append]
    refine ⟨by decide, fun x hx => ?_, List.forall_mem_singleton.2 (by decide)⟩
    obtain ⟨y, -, hy⟩ := List.mem_flatMap.1 hx
    exact Scalar.isPrintable_written (by simp) x hy
  | literal hfeed hprint =>
    obtain ⟨chomping, hsign, -⟩ := Scalar.exists_chomping (List.ne_nil_of_mem hfeed)
    rw [Scalar.toList_literal, hsign, List.forall_mem_cons, List.forall_mem_append,
      List.forall_mem_append, List.forall_mem_cons]
    refine ⟨by decide, ⟨?_, ?_⟩, by decide, Scalar.isPrintable_indented hprint _ _⟩
    · unfold Scalar.hint
      split
      · exact List.forall_mem_singleton.2 (by decide)
      · exact List.forall_mem_nil _
    · cases chomping
      · exact List.forall_mem_singleton.2 (by decide)
      · exact List.forall_mem_nil _
      · exact List.forall_mem_singleton.2 (by decide)

/-- A text that begins a token does so whatever follows it. -/
theorem StartsToken.append (h : StartsToken text) (hne : text ≠ []) (more : List Char) :
    StartsToken (text ++ more) := by
  rw [StartsToken, List.head?_append_of_ne_nil _ hne]
  exact h

theorem Written.ne_nil (h : Written indent text style cs) : text ≠ [] := by
  cases h with
  | plain _ hne => exact hne
  | singleQuoted _ => simp [Scalar.toList_singleQuoted]
  | doubleQuoted cs => simp [Scalar.toList_doubleQuoted]
  | literal _ _ => simp [Scalar.toList_literal]

/-- **What is written begins a token.** -/
theorem Written.startsToken (h : Written indent text style cs) : StartsToken text := by
  intro x hx
  have hmark : x ≠ '\ufeff' := by
    rintro rfl
    exact absurd (h.isPrintable _ (List.mem_of_head? hx)) (by decide)
  cases h with
  | plain hplain _ =>
    have hhead := (Scalar.fitsPlain_of_allowsPlain hplain).head x hx
    exact ⟨hhead.1, hhead.2, hmark⟩
  | singleQuoted _ =>
    rw [Scalar.toList_singleQuoted] at hx
    cases hx
    decide
  | doubleQuoted cs =>
    rw [Scalar.toList_doubleQuoted] at hx
    cases hx
    decide
  | literal _ _ =>
    rw [Scalar.toList_literal] at hx
    cases hx
    decide

/-! ### Texts of one line -/

/-- A text of one line is written in one line, and no character takes more than six. -/
theorem Written.inLine (h : Written indent text style cs) (hline : ∀ x ∈ cs, isBreak x = false) :
    (∀ x ∈ text, isBreak x = false) ∧ text.length ≤ 6 * cs.length + 2 ∧ style ≠ .literal := by
  cases h with
  | plain _ _ => exact ⟨hline, by omega, by simp⟩
  | singleQuoted hfits =>
    have hlines : Scalar.quotedLines indent false cs = cs.flatMap (Scalar.written false) := by
      have hword := Scalar.quotedLines_word indent [] hline
      simpa [Scalar.quotedLines] using hword
    rw [Scalar.toList_singleQuoted, hlines]
    exact ⟨Scalar.isBreak_quoted '\'' (by decide) fun x hx _ => hline x hx,
      Scalar.length_quoted_le '\'' false cs, by simp⟩
  | doubleQuoted cs =>
    rw [Scalar.toList_doubleQuoted]
    exact ⟨Scalar.isBreak_quoted '"' (by decide) fun x _ h => absurd h (by simp),
      Scalar.length_quoted_le '"' true cs, by simp⟩
  | literal hfeed _ => exact absurd (hline '\n' hfeed) (by decide)

/-- A text has at least as many bytes as characters. -/
theorem length_le_utf8ByteSize (s : String) : s.toList.length ≤ s.utf8ByteSize := by
  rw [← String.utf8Len_toList]
  induction s.toList with
  | nil => exact Nat.le_refl _
  | cons x cs ih =>
    have hpos := x.utf8Size_pos
    rw [String.utf8Len_cons, List.length_cons]
    omega

/-- A simple key is short enough to be met as a key. -/
theorem Written.of_simpleKey {s : String} (h : Written indent text style s.toList)
    (hkey : Printer.isComplexKey s = false) :
    (∀ x ∈ text, isBreak x = false) ∧ text.length ≤ 1024 ∧ style ≠ .literal := by
  simp only [Printer.isComplexKey, Bool.or_eq_false_iff, decide_eq_false_iff_not,
    Nat.not_lt] at hkey
  have hsize := length_le_utf8ByteSize s
  obtain ⟨hbreak, hlength, hstyle⟩ := h.inLine fun x hx => by
    simpa using List.any_eq_false.1 hkey.1 x hx
  exact ⟨hbreak, by omega, hstyle⟩

/-! ### Numbers, truth values and null -/

/-- A digit is no gap, may be written as itself, and is no indicator. -/
theorem solid_of_isDigit {x : Char} (h : x.isDigit = true) :
    isGap x = false ∧ isPrintable x = true
      ∧ ("#,[]\x7b\x7d&*!|>'\"%@`?:-.".toList.contains x) = false := by
  have hall : ∀ d : Fin 10, isGap (Char.ofNat (48 + d)) = false
      ∧ isPrintable (Char.ofNat (48 + d)) = true
      ∧ ("#,[]\x7b\x7d&*!|>'\"%@`?:-.".toList.contains (Char.ofNat (48 + d))) = false := by decide
  obtain ⟨hlow, hhigh⟩ := Char.isDigit_iff_toNat.1 h
  have hzero : '0'.toNat = 48 := rfl
  have hnine : '9'.toNat = 57 := rfl
  have hx : Char.ofNat (48 + (x.toNat - 48)) = x := by
    rw [Nat.add_sub_cancel' (by omega), Char.ofNat_toNat]
  exact hx ▸ hall ⟨x.toNat - 48, by omega⟩

theorem adjacent_eq_false {first second : Char → Bool} (h : ∀ x ∈ cs, first x = false) :
    Printer.adjacent first second cs = false := by
  rw [Printer.adjacent, List.any_eq_false]
  rintro ⟨x, y⟩ hmem
  simp [h x (List.of_mem_zip hmem).1]

/-- A single word without a colon may be plain if its head is no indicator. -/
theorem allowsPlain_of_solid {x : Char} {rest : List Char}
    (h : ∀ y ∈ x :: rest, isGap y = false ∧ isPrintable y = true ∧ y ≠ ':')
    (hmark : startsWithMark (x :: rest) = false)
    (hfirst : ("#,[]\x7b\x7d&*!|>'\"%@`".toList.contains x
      || (atGap rest && (x == '?' || x == ':' || x == '-'))) = false) :
    Printer.allowsPlain (x :: rest) = true := by
  have houter : ∀ y ∈ x :: rest, (decide (y = ' ') || isBreak y) = false := by
    intro y hy
    have hgap := (h y hy).1
    have hspace : y ≠ ' ' := by
      rintro rfl
      exact absurd hgap (by decide)
    simp [hspace, isBreak_eq_false_of_isGap hgap]
  have hany : ∀ {p : Char → Bool} {o : Option Char}, (∀ y ∈ o, p y = false) → o.any p = false := by
    intro p o ho
    cases o with
    | none => rfl
    | some y => exact ho y rfl
  simp only [Printer.allowsPlain, Printer.hasGapAtEnd, Printer.needsEscapes, Printer.hasIndicator,
    Bool.not_eq_true', Bool.or_eq_false_iff, hmark, true_and]
  refine ⟨⟨⟨⟨?_, ?_⟩, ?_⟩, ?_, ?_⟩, ⟨⟨?_, ?_⟩, ?_⟩, ?_⟩
  · exact hany fun y hy => houter y (List.mem_of_head? hy)
  · exact hany fun y hy => houter y (List.mem_of_getLast? hy)
  · exact List.any_eq_false.2 fun y hy => by simp [isBreak_eq_false_of_isGap (h y hy).1]
  · exact adjacent_eq_false fun y hy => (Bool.or_eq_false_iff.1 (houter y hy)).1
  · exact List.any_eq_false.2 fun y hy => by simp [Printer.isSpecial, (h y hy).2.1]
  · simpa using hfirst
  · exact adjacent_eq_false fun y hy => by simp [(h y hy).2.2]
  · rw [beq_eq_false_iff_ne]
    exact fun hlast => (h ':' (List.mem_of_getLast? hlast)).2.2 rfl
  · exact adjacent_eq_false fun y hy => (h y hy).1

/-- Digits may be plain, also after a minus sign. -/
theorem allowsPlain_of_isDigit {digits : List Char} (h : ∀ x ∈ digits, x.isDigit = true)
    (hne : digits ≠ []) :
    Printer.allowsPlain digits = true ∧ Printer.allowsPlain ('-' :: digits) = true := by
  obtain ⟨x, rest, rfl⟩ := List.exists_cons_of_ne_nil hne
  have hsolid : ∀ y ∈ x :: rest, isGap y = false ∧ isPrintable y = true ∧ y ≠ ':' := by
    intro y hy
    obtain ⟨hgap, hprint, hcontains⟩ := solid_of_isDigit (h y hy)
    refine ⟨hgap, hprint, ?_⟩
    rintro rfl
    exact absurd hcontains (by decide)
  obtain ⟨hgap, -, hcontains⟩ := solid_of_isDigit (h x List.mem_cons_self)
  have hx : x ≠ '-' ∧ x ≠ '.' := by
    constructor
    · rintro rfl
      exact absurd hcontains (by decide)
    · rintro rfl
      exact absurd hcontains (by decide)
  refine ⟨allowsPlain_of_solid hsolid ?_ ?_, allowsPlain_of_solid ?_ ?_ ?_⟩
  · simp [startsWithMark, hx]
  · simp at hcontains ⊢
    tauto
  · exact List.forall_mem_cons.2 ⟨by decide, hsolid⟩
  · simp [startsWithMark, hx]
  · simp [hgap]

/-- **A number is written plain.** -/
theorem written_toString (indent : Nat) (n : Int) :
    Written indent (toString n).toList .plain (toString n).toList := by
  cases n with
  | ofNat n =>
    rw [Plain.toList_toString_ofNat]
    exact .plain (allowsPlain_of_isDigit Plain.isDigit_of_mem_toDigits Nat.toDigits_ne_nil).1
      Nat.toDigits_ne_nil
  | negSucc n =>
    rw [Plain.toList_toString_negSucc]
    exact .plain (allowsPlain_of_isDigit Plain.isDigit_of_mem_toDigits Nat.toDigits_ne_nil).2
      (List.cons_ne_nil '-' _)

end Sidecar.Yaml
