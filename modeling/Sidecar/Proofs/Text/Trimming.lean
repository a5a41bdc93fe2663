/-
**What trimming takes off, and what it leaves.**

Trimming takes blanks off both ends of a text: what it takes off are blanks, it gives back what
stands between them if that has none, and no character that is not blank is lost.

Main results:

* `Sidecar.Text.exists_trimChars`, `Sidecar.Text.trimChars_of_blanks` — a trimmed text stood between
  blanks, and what has no blanks is left of a text in which it stands between blanks;
* `Sidecar.Text.mem_trimChars` — what is not blank stays;
* `Sidecar.Text.isBlank_of_isDecimalDigit` — the digits of no script are blanks.
-/

import Mathlib.Data.List.TakeWhile
import Sidecar.Text.Blank
import Sidecar.Text.DecimalDigit

set_option autoImplicit false

namespace Sidecar.Text

/-- Blanks at both ends are trimmed off what has none. -/
theorem trimChars_of_blanks {before after : List Char} (hbefore : ∀ c ∈ before, isBlank c = true)
    (hafter : ∀ c ∈ after, isBlank c = true) {cs : List Char}
    (hcs : ∀ c ∈ cs, isBlank c = false) : trimChars (before ++ cs ++ after) = cs := by
  have hdrop : ∀ blanks rest : List Char, (∀ c ∈ blanks, isBlank c = true) →
      (blanks ++ rest).dropWhile isBlank = rest.dropWhile isBlank := by
    intro blanks rest hblanks
    rw [List.dropWhile_append, List.dropWhile_eq_nil_iff.2 hblanks]
    rfl
  have hkeep : ∀ ds : List Char, (∀ c ∈ ds, isBlank c = false) → ds.dropWhile isBlank = ds := by
    intro ds hds
    cases ds with
    | nil => rfl
    | cons d ds => rw [List.dropWhile_cons_of_neg (by simp [hds d (List.mem_cons_self ..)])]
  cases cs with
  | nil =>
    have hall : ∀ c ∈ before ++ after, isBlank c = true := fun c hc =>
      (List.mem_append.1 hc).elim (hbefore c) (hafter c)
    rw [trimChars, List.append_nil, List.dropWhile_eq_nil_iff.2 hall]
    rfl
  | cons c cs =>
    have hc := hcs c (List.mem_cons_self ..)
    rw [trimChars, List.append_assoc, hdrop _ _ hbefore, List.cons_append,
      List.dropWhile_cons_of_neg (by simp [hc]), ← List.cons_append, List.reverse_append,
      hdrop _ _ (fun d hd => hafter d (List.mem_reverse.1 hd)),
      hkeep _ (fun d hd => hcs d (List.mem_reverse.1 hd)), List.reverse_reverse]

theorem toList_trim_of_blanks {text : String} {before cs after : List Char}
    (htext : text.toList = before ++ cs ++ after) (hbefore : ∀ c ∈ before, isBlank c = true)
    (hafter : ∀ c ∈ after, isBlank c = true) (hcs : ∀ c ∈ cs, isBlank c = false) :
    (trim text).toList = cs := by
  rw [trim, String.toList_ofList, htext, trimChars_of_blanks hbefore hafter hcs]

/-- What is trimmed off a text are blanks. -/
theorem exists_trimChars (cs : List Char) :
    ∃ before after, cs = before ++ trimChars cs ++ after ∧ (∀ c ∈ before, isBlank c = true)
      ∧ ∀ c ∈ after, isBlank c = true := by
  refine ⟨cs.takeWhile isBlank, ((cs.dropWhile isBlank).reverse.takeWhile isBlank).reverse, ?_,
    fun c hc => List.mem_takeWhile_imp hc,
    fun c hc => List.mem_takeWhile_imp (List.mem_reverse.1 hc)⟩
  rw [trimChars, List.append_assoc, ← List.reverse_append, List.takeWhile_append_dropWhile,
    List.reverse_reverse, List.takeWhile_append_dropWhile]

/-- What is not blank stays. -/
theorem mem_trimChars {c : Char} {cs : List Char} (hc : c ∈ cs) (hb : isBlank c = false) :
    c ∈ trimChars cs := by
  obtain ⟨before, after, hcs, hbefore, hafter⟩ := exists_trimChars cs
  rw [hcs, List.mem_append, List.mem_append] at hc
  rcases hc with (hc | hc) | hc
  · rw [hbefore c hc] at hb
    cases hb
  · exact hc
  · rw [hafter c hc] at hb
    cases hb

/-- A digit of any script is not blank: no range of blanks meets one of digits. -/
theorem isBlank_of_isDecimalDigit {c : Char} (h : isDecimalDigit c = true) : isBlank c = false := by
  have hapart : ∀ r ∈ blanks.ranges, ∀ s ∈ decimalDigits.ranges, r.2 < s.1 ∨ s.2 < r.1 := by
    decide
  obtain ⟨s, hs, hlow, hhigh⟩ := (CodeRanges.has_iff _ _).1 h
  rw [Bool.eq_false_iff, ne_eq, isBlank, CodeRanges.has_iff]
  rintro ⟨r, hr, hlow', hhigh'⟩
  rcases hapart r hr s hs with hlt | hlt <;> omega

end Sidecar.Text
