/-
**The grammar of quantities.**

A quantity is an optional sign, a number and a scale.  The grammar is written down here rule by
rule, over any notion of a digit: over the digits of all scripts it is what the reader of quantities
accepts, over the ten digits of ASCII it is what the cluster accepts.  The two differ in one thing
only, a character beyond ASCII, which can only be a digit of another script.

Main definitions:

* `Sidecar.Quantity.IsSign`, `Sidecar.Quantity.AreDigits`, `Sidecar.Quantity.IsNumber`,
  `Sidecar.Quantity.IsScale` — the parts of a quantity;
* `Sidecar.Quantity.InGrammar` — the grammar.

Main results:

* `Sidecar.Quantity.isQuantity_iff` — **the reader accepts the grammar over the digits of all
  scripts**;
* `Sidecar.Quantity.inGrammar_isDigit_iff` — what is in both grammars;
* `Sidecar.Quantity.accepts_grammar` — **what is accepted, and when the cluster accepts it**;
* `Sidecar.Quantity.accepts_digit_of_other_script` — a quantity that is in no cluster's grammar.
-/

import Sidecar.Proofs.Text.Trimming
import Sidecar.Rule.Quantity

set_option autoImplicit false

namespace Sidecar.Quantity

/-! ### The grammar -/

/-- A sign, or nothing. -/
inductive IsSign : List Char → Prop
  | none : IsSign []
  | plus : IsSign ['+']
  | minus : IsSign ['-']

/-- The letters for powers of ten. -/
def decimalLetters : List Char := ['n', 'u', 'm', 'k', 'M', 'G', 'T', 'P', 'E']

/-- The letters that an `i` follows for powers of two. -/
def binaryLetters : List Char := ['K', 'M', 'G', 'T', 'P', 'E']

/-- The letters that an exponent follows. -/
def exponentLetters : List Char := ['e', 'E']

section Grammar

variable (digit : Char → Bool)

/-- One digit or more. -/
def AreDigits (cs : List Char) : Prop :=
  cs ≠ [] ∧ ∀ c ∈ cs, digit c = true

/-- Digits with at most one point before, between or after them. -/
inductive IsNumber : List Char → Prop
  | whole {ds : List Char} (hds : AreDigits digit ds) : IsNumber ds
  | pointed {before after : List Char} (hds : AreDigits digit (before ++ after)) :
      IsNumber (before ++ '.' :: after)

/-- Nothing, a letter for a power of ten, two letters for a power of two, or an exponent. -/
inductive IsScale : List Char → Prop
  | none : IsScale []
  | decimal {c : Char} (hc : c ∈ decimalLetters) : IsScale [c]
  | binary {c : Char} (hc : c ∈ binaryLetters) : IsScale [c, 'i']
  | exponent {c : Char} {sign ds : List Char} (hc : c ∈ exponentLetters) (hsign : IsSign sign)
      (hds : AreDigits digit ds) : IsScale (c :: (sign ++ ds))

/-- A sign, a number and a scale. -/
def InGrammar (cs : List Char) : Prop :=
  ∃ sign number scale, IsSign sign ∧ IsNumber digit number ∧ IsScale digit scale
    ∧ cs = sign ++ number ++ scale

end Grammar

/-! ### Characters of a quantity -/

/-- The letters with which a scale starts. -/
def letters : List Char :=
  decimalLetters ++ binaryLetters ++ exponentLetters

/-- The characters beside digits that a quantity may have. -/
def marks : List Char :=
  '+' :: '-' :: '.' :: 'i' :: letters

/-- A mark is a character of ASCII and not blank. -/
theorem of_mem_marks : ∀ c ∈ marks, c.toNat < 128 ∧ Text.isBlank c = false := by
  have hall : (marks.all fun c => c.toNat < 128 && !Text.isBlank c) = true := by
    decide
  simpa using hall

/-- A letter is neither a digit of any script nor a point. -/
theorem of_mem_letters : ∀ c ∈ letters, Text.isDecimalDigit c = false ∧ c ≠ '.' := by
  have hall : (letters.all fun c => !Text.isDecimalDigit c && c != '.') = true := by
    decide
  simpa using hall

theorem mem_marks_of_mem_letters {c : Char} (h : c ∈ letters) : c ∈ marks := by
  simp [marks, h]

section Grammar

variable {digit digit' : Char → Bool} {cs : List Char}

theorem IsSign.mem_marks (h : IsSign cs) : ∀ c ∈ cs, c ∈ marks := by
  cases h <;> simp [marks]

theorem IsNumber.mem_or (h : IsNumber digit cs) : ∀ c ∈ cs, digit c = true ∨ c ∈ marks := by
  intro c hc
  cases h with
  | whole hds => exact .inl (hds.2 c hc)
  | pointed hds =>
      rcases List.mem_append.1 hc with hc | hc
      · exact .inl (hds.2 c (List.mem_append_left _ hc))
      · rcases List.mem_cons.1 hc with rfl | hc
        · exact .inr (by decide)
        · exact .inl (hds.2 c (List.mem_append_right _ hc))

/-- A scale is empty, or starts with a letter. -/
theorem IsScale.mem_letters (h : IsScale digit cs) : ∀ c ∈ cs.head?, c ∈ letters := by
  intro c hc
  cases h with
  | none => cases hc
  | decimal hd =>
      cases hc
      exact List.mem_append_left _ (List.mem_append_left _ hd)
  | binary hd =>
      cases hc
      exact List.mem_append_left _ (List.mem_append_right _ hd)
  | exponent hd _ _ =>
      cases hc
      exact List.mem_append_right _ hd

theorem IsScale.mem_or (h : IsScale digit cs) : ∀ c ∈ cs, digit c = true ∨ c ∈ marks := by
  have hhead : ∀ c ∈ cs.head?, digit c = true ∨ c ∈ marks := fun c hc =>
    .inr (mem_marks_of_mem_letters (h.mem_letters c hc))
  intro d hd
  cases h with
  | none => cases hd
  | decimal _ => exact hhead d (List.mem_singleton.1 hd ▸ rfl)
  | binary _ =>
      rcases List.mem_cons.1 hd with rfl | hd
      · exact hhead d rfl
      · exact .inr (List.mem_singleton.1 hd ▸ by decide)
  | exponent _ hsign hds =>
      rcases List.mem_cons.1 hd with rfl | hd
      · exact hhead d rfl
      · rcases List.mem_append.1 hd with hd | hd
        · exact .inr (hsign.mem_marks d hd)
        · exact .inl (hds.2 d hd)

/-- A character of a quantity is a digit or a mark. -/
theorem InGrammar.mem_or (h : InGrammar digit cs) : ∀ c ∈ cs, digit c = true ∨ c ∈ marks := by
  obtain ⟨sign, number, scale, hsign, hnumber, hscale, rfl⟩ := h
  intro c hc
  rcases List.mem_append.1 hc with hc | hc
  · rcases List.mem_append.1 hc with hc | hc
    · exact .inr (hsign.mem_marks c hc)
    · exact hnumber.mem_or c hc
  · exact hscale.mem_or c hc

theorem AreDigits.imp (h : AreDigits digit cs)
    (himp : ∀ c ∈ cs, digit c = true → digit' c = true) : AreDigits digit' cs :=
  ⟨h.1, fun c hc => himp c hc (h.2 c hc)⟩

theorem IsNumber.imp (h : IsNumber digit cs)
    (himp : ∀ c ∈ cs, digit c = true → digit' c = true) : IsNumber digit' cs := by
  cases h with
  | whole hds => exact .whole (hds.imp himp)
  | pointed hds =>
      refine .pointed (hds.imp fun c hc => himp c ?_)
      rcases List.mem_append.1 hc with hc | hc
      · exact List.mem_append_left _ hc
      · exact List.mem_append_right _ (List.mem_cons_of_mem _ hc)

theorem IsScale.imp (h : IsScale digit cs)
    (himp : ∀ c ∈ cs, digit c = true → digit' c = true) : IsScale digit' cs := by
  cases h with
  | none => exact .none
  | decimal hc => exact .decimal hc
  | binary hc => exact .binary hc
  | exponent hc hsign hds =>
      exact .exponent hc hsign
        (hds.imp fun d hd => himp d (List.mem_cons_of_mem _ (List.mem_append_right _ hd)))

/-- The grammar grows with the digits that occur. -/
theorem InGrammar.imp (h : InGrammar digit cs)
    (himp : ∀ c ∈ cs, digit c = true → digit' c = true) : InGrammar digit' cs := by
  obtain ⟨sign, number, scale, hsign, hnumber, hscale, rfl⟩ := h
  refine ⟨sign, number, scale, hsign, hnumber.imp fun c hc => himp c ?_,
    hscale.imp fun c hc => himp c ?_, rfl⟩
  · exact List.mem_append_left _ (List.mem_append_right _ hc)
  · exact List.mem_append_right _ hc

end Grammar

/-! ### The reader -/

/-- The digits at the beginning of a text, and the text after them, given that they end there. -/
theorem span_digits {ds rest : List Char} (hds : ∀ c ∈ ds, Text.isDecimalDigit c = true)
    (hrest : ∀ c ∈ rest.head?, Text.isDecimalDigit c = false) :
    (ds ++ rest).takeWhile Text.isDecimalDigit = ds
      ∧ (ds ++ rest).dropWhile Text.isDecimalDigit = rest := by
  rw [List.takeWhile_append_of_pos hds, List.dropWhile_append_of_pos hds]
  cases rest with
  | nil => simp
  | cons c rest => simp [hrest c rfl]

theorem isDigits_iff {cs : List Char} : isDigits cs = true ↔ AreDigits Text.isDecimalDigit cs := by
  simp [isDigits, AreDigits]

/-- What is dropped is a sign. -/
theorem exists_dropSign (cs : List Char) : ∃ sign, IsSign sign ∧ cs = sign ++ dropSign cs := by
  unfold dropSign
  split
  · exact ⟨['+'], .plus, rfl⟩
  · exact ⟨['-'], .minus, rfl⟩
  · exact ⟨[], .none, rfl⟩

/-- A sign is dropped from what does not start with one. -/
theorem dropSign_append {sign rest : List Char} (h : IsSign sign)
    (hrest : ∀ c ∈ rest.head?, c ∉ ['+', '-']) : dropSign (sign ++ rest) = rest := by
  cases h with
  | none =>
      rw [List.nil_append]
      unfold dropSign
      split
      · exact absurd (hrest '+' rfl) (by decide)
      · exact absurd (hrest '-' rfl) (by decide)
      · rfl
  | plus => rfl
  | minus => rfl

/-- A text whose first character is a digit or a point does not start with a sign. -/
theorem notMem_signs {c : Char} (h : Text.isDecimalDigit c = true ∨ c = '.') : c ∉ ['+', '-'] := by
  intro hc
  simp only [List.mem_cons, List.not_mem_nil, or_false] at hc
  rcases hc with rfl | rfl
  · exact absurd h (by decide)
  · exact absurd h (by decide)

theorem isSuffix_of_isScale {cs : List Char} (h : IsScale Text.isDecimalDigit cs) :
    isSuffix cs = true := by
  cases h with
  | none => rfl
  | decimal hc => simpa [isSuffix, decimalLetters] using hc
  | binary hc =>
      rw [binaryLetters] at hc
      simp [isSuffix, hc]
  | @exponent c sign ds hc hsign hds =>
      obtain ⟨d, ds, rfl⟩ := List.exists_cons_of_ne_nil hds.1
      have hd := hds.2 d (List.mem_cons_self ..)
      have hdrop : dropSign (sign ++ d :: ds) = d :: ds := by
        refine dropSign_append hsign ?_
        rintro e ⟨⟩
        exact notMem_signs (.inl hd)
      obtain ⟨e, rest, hcons⟩ : ∃ e rest, sign ++ d :: ds = e :: rest :=
        List.exists_cons_of_ne_nil (by simp)
      rw [hcons] at hdrop ⊢
      simp only [isSuffix, Bool.or_eq_true, Bool.and_eq_true, decide_eq_true_eq]
      exact .inr ⟨hc, by rw [hdrop]; exact isDigits_iff.2 hds⟩

theorem isScale_of_isSuffix {cs : List Char} (h : isSuffix cs = true) :
    IsScale Text.isDecimalDigit cs := by
  match cs, h with
  | [], _ => exact .none
  | [c], h => exact .decimal (by simpa [isSuffix, decimalLetters] using h)
  | c :: d :: rest, h =>
      simp only [isSuffix, Bool.or_eq_true, Bool.and_eq_true, decide_eq_true_eq] at h
      rcases h with ⟨hrest, hc⟩ | ⟨hc, hdigits⟩
      · rw [hrest]
        exact .binary hc
      · obtain ⟨sign, hsign, hsplit⟩ := exists_dropSign (d :: rest)
        rw [hsplit]
        exact .exponent hc hsign (isDigits_iff.1 hdigits)

/-- A scale is what may follow a number. -/
theorem isSuffix_iff {cs : List Char} : isSuffix cs = true ↔ IsScale Text.isDecimalDigit cs :=
  ⟨isScale_of_isSuffix, isSuffix_of_isScale⟩

theorem isUnsigned_of_isNumber {number scale : List Char}
    (hnumber : IsNumber Text.isDecimalDigit number) (hscale : IsScale Text.isDecimalDigit scale) :
    isUnsigned (number ++ scale) = true := by
  have hletter : ∀ c ∈ scale.head?, Text.isDecimalDigit c = false ∧ c ≠ '.' := fun c hc =>
    of_mem_letters c (hscale.mem_letters c hc)
  have hhead : ∀ c ∈ scale.head?, Text.isDecimalDigit c = false := fun c hc => (hletter c hc).1
  have hsuffix := isSuffix_iff.2 hscale
  cases hnumber with
  | whole hds =>
      obtain ⟨htake, hdrop⟩ := span_digits hds.2 hhead
      unfold isUnsigned
      rw [htake, hdrop]
      split
      · exact absurd rfl (hletter '.' rfl).2
      · simpa [hsuffix] using hds.1
  | @pointed before after hds =>
      have hpoint : ∀ c ∈ ('.' :: (after ++ scale)).head?, Text.isDecimalDigit c = false := by
        rintro c ⟨⟩
        decide
      obtain ⟨htake, hdrop⟩ :=
        span_digits (fun c hc => hds.2 c (List.mem_append_left _ hc)) hpoint
      obtain ⟨htake', hdrop'⟩ :=
        span_digits (fun c hc => hds.2 c (List.mem_append_right _ hc)) hhead
      rw [List.append_assoc, List.cons_append]
      unfold isUnsigned
      rw [htake, hdrop]
      simp only [htake', hdrop', hsuffix, Bool.and_true, Bool.not_eq_true', Bool.and_eq_false_iff,
        List.isEmpty_eq_false_iff]
      by_cases hbefore : before = []
      · exact .inr fun hafter => hds.1 (by rw [hbefore, hafter]; rfl)
      · exact .inl hbefore

theorem exists_of_isUnsigned {cs : List Char} (h : isUnsigned cs = true) :
    ∃ number scale, IsNumber Text.isDecimalDigit number ∧ IsScale Text.isDecimalDigit scale
      ∧ cs = number ++ scale := by
  have hdigits : ∀ ds : List Char, ∀ c ∈ ds.takeWhile Text.isDecimalDigit,
      Text.isDecimalDigit c = true := fun _ _ => List.mem_takeWhile_imp
  have hsplit := (List.takeWhile_append_dropWhile (p := Text.isDecimalDigit) (l := cs)).symm
  unfold isUnsigned at h
  split at h
  · next rest hrest =>
    rw [Bool.and_eq_true, Bool.not_eq_true', Bool.and_eq_false_iff] at h
    have hne : cs.takeWhile Text.isDecimalDigit ++ rest.takeWhile Text.isDecimalDigit ≠ [] := by
      simp only [List.isEmpty_eq_false_iff] at h
      rcases h.1 with h | h <;> simp [h]
    refine ⟨_, rest.dropWhile Text.isDecimalDigit, .pointed ⟨hne, ?_⟩, isSuffix_iff.1 h.2, ?_⟩
    · intro c hc
      exact (List.mem_append.1 hc).elim (hdigits _ c) (hdigits _ c)
    · rw [List.append_assoc, List.cons_append, List.takeWhile_append_dropWhile, ← hrest]
      exact hsplit
  · rw [Bool.and_eq_true, Bool.not_eq_true', List.isEmpty_eq_false_iff] at h
    exact ⟨_, _, .whole ⟨h.1, hdigits cs⟩, isSuffix_iff.1 h.2, hsplit⟩

/-- A number starts with a digit or a point. -/
theorem IsNumber.exists_cons {number : List Char} (h : IsNumber Text.isDecimalDigit number) :
    ∃ c cs, number = c :: cs ∧ (Text.isDecimalDigit c = true ∨ c = '.') := by
  cases h with
  | whole hds =>
      obtain ⟨c, cs, rfl⟩ := List.exists_cons_of_ne_nil hds.1
      exact ⟨c, cs, rfl, .inl (hds.2 c (List.mem_cons_self ..))⟩
  | @pointed before after hds =>
      cases before with
      | nil => exact ⟨'.', after, rfl, .inr rfl⟩
      | cons c cs => exact ⟨c, _, rfl, .inl (hds.2 c (List.mem_cons_self ..))⟩

/-- **The reader accepts the grammar over the digits of all scripts.** -/
theorem isQuantity_iff {cs : List Char} :
    isQuantity cs = true ↔ InGrammar Text.isDecimalDigit cs := by
  constructor
  · intro h
    obtain ⟨sign, hsign, hsplit⟩ := exists_dropSign cs
    obtain ⟨number, scale, hnumber, hscale, hrest⟩ := exists_of_isUnsigned h
    refine ⟨sign, number, scale, hsign, hnumber, hscale, ?_⟩
    rw [List.append_assoc, ← hrest, ← hsplit]
  · rintro ⟨sign, number, scale, hsign, hnumber, hscale, rfl⟩
    have hhead : ∀ c ∈ (number ++ scale).head?, c ∉ ['+', '-'] := by
      obtain ⟨d, ds, rfl, hd⟩ := hnumber.exists_cons
      rintro c ⟨⟩
      exact notMem_signs hd
    rw [isQuantity, List.append_assoc, dropSign_append hsign hhead]
    exact isUnsigned_of_isNumber hnumber hscale

/-! ### The two grammars -/

/-- A digit of ASCII is one of the ten. -/
theorem isDigit_of_isDecimalDigit {c : Char} (h : Text.isDecimalDigit c = true)
    (hc : c.toNat < 128) : c.isDigit = true := by
  have hbeyond : ∀ r ∈ Text.decimalDigits.ranges, r.1 < 128 → 0x30 ≤ r.1 ∧ r.2 ≤ 0x39 := by decide
  obtain ⟨r, hr, hlow, hhigh⟩ := (Text.CodeRanges.has_iff _ _).1 h
  obtain ⟨hfirst, hlast⟩ := hbeyond r hr (by omega)
  simp only [Char.isDigit, Bool.and_eq_true, decide_eq_true_eq, ge_iff_le, UInt32.le_iff_toNat_le]
  exact ⟨Nat.le_trans hfirst hlow, Nat.le_trans hhigh hlast⟩

/-- What is a quantity for the cluster is one for the reader and has no character beyond ASCII, and
the other way round. -/
theorem inGrammar_isDigit_iff {cs : List Char} :
    InGrammar Char.isDigit cs
      ↔ InGrammar Text.isDecimalDigit cs ∧ ∀ c ∈ cs, c.toNat < 128 := by
  constructor
  · intro h
    refine ⟨h.imp fun c _ => Text.isDecimalDigit_of_isDigit c, ?_⟩
    intro c hc
    rcases h.mem_or c hc with hdigit | hmark
    · simp only [Char.isDigit, Bool.and_eq_true, decide_eq_true_eq, UInt32.le_iff_toNat_le]
        at hdigit
      exact Nat.lt_of_le_of_lt hdigit.2 (by decide)
    · exact (of_mem_marks c hmark).1
  · rintro ⟨h, hascii⟩
    exact h.imp fun c hc hdigit => isDigit_of_isDecimalDigit hdigit (hascii c hc)

/-- A quantity has no blanks. -/
theorem InGrammar.isBlank_eq_false {cs : List Char} (h : InGrammar Text.isDecimalDigit cs) :
    ∀ c ∈ cs, Text.isBlank c = false := by
  intro c hc
  rcases h.mem_or c hc with hdigit | hmark
  · exact Text.isBlank_of_isDecimalDigit hdigit
  · exact (of_mem_marks c hmark).2

/-- Between blanks every quantity is accepted, and the result is the quantity. -/
theorem parse_of_inGrammar {quantity before after : String}
    (h : InGrammar Text.isDecimalDigit quantity.toList)
    (hbefore : ∀ c ∈ before.toList, Text.isBlank c = true)
    (hafter : ∀ c ∈ after.toList, Text.isBlank c = true) :
    parse (before ++ quantity ++ after) = .ok quantity := by
  have htrim : (Text.trim (before ++ quantity ++ after)).toList = quantity.toList :=
    Text.toList_trim_of_blanks (by simp) hbefore hafter h.isBlank_eq_false
  rw [parse_eq_ok_iff, htrim]
  exact ⟨(String.toList_inj.1 htrim).symm, isQuantity_iff.2 h⟩

/-- **What is accepted, and when the cluster accepts it.**  The reader accepts a text exactly if,
trimmed, it is a quantity written with the digits of any scripts.  What it returns is a quantity for
the cluster exactly if no character of it is beyond ASCII, and it returns every quantity of the
cluster's, whatever blanks stand before and after it. -/
theorem accepts_grammar (text quantity : String) :
    (parse text = .ok quantity
        ↔ quantity = Text.trim text ∧ InGrammar Text.isDecimalDigit quantity.toList)
      ∧ (parse text = .ok quantity →
        (InGrammar Char.isDigit quantity.toList ↔ ∀ c ∈ quantity.toList, c.toNat < 128))
      ∧ ∀ before after : String, InGrammar Char.isDigit quantity.toList →
        (∀ c ∈ before.toList, Text.isBlank c = true) →
        (∀ c ∈ after.toList, Text.isBlank c = true) →
        parse (before ++ quantity ++ after) = .ok quantity := by
  have haccepted : parse text = .ok quantity
      ↔ quantity = Text.trim text ∧ InGrammar Text.isDecimalDigit quantity.toList := by
    rw [parse_eq_ok_iff, isQuantity_iff]
    constructor
    · rintro ⟨rfl, h⟩
      exact ⟨rfl, h⟩
    · rintro ⟨rfl, h⟩
      exact ⟨rfl, h⟩
  refine ⟨haccepted, ?_, ?_⟩
  · intro h
    obtain ⟨_, hgrammar⟩ := haccepted.1 h
    rw [inGrammar_isDigit_iff]
    exact ⟨And.right, fun hascii => ⟨hgrammar, hascii⟩⟩
  · intro before after h hbefore hafter
    exact parse_of_inGrammar (inGrammar_isDigit_iff.1 h).1 hbefore hafter

/-- A quantity with an exponent is accepted between a line feed and a blank that is not of ASCII. -/
theorem accepts_grammar_of_exponent :
    InGrammar Char.isDigit "-.5E+3".toList ∧ parse "\n-.5E+3\u2003" = .ok "-.5E+3"
      ∧ ∀ c ∈ "-.5E+3".toList, c.toNat < 128 := by
  have hnumber : IsNumber Char.isDigit ['.', '5'] :=
    @IsNumber.pointed Char.isDigit [] ['5'] ⟨by decide, List.all_eq_true.1 (by decide)⟩
  have hscale : IsScale Char.isDigit ['E', '+', '3'] :=
    @IsScale.exponent Char.isDigit 'E' ['+'] ['3'] (by decide) .plus
      ⟨by decide, List.all_eq_true.1 (by decide)⟩
  have hgrammar : InGrammar Char.isDigit "-.5E+3".toList :=
    ⟨['-'], ['.', '5'], ['E', '+', '3'], .minus, hnumber, hscale, by decide⟩
  obtain ⟨_, hascii, hblanks⟩ := accepts_grammar "\n-.5E+3\u2003" "-.5E+3"
  have hparse : parse "\n-.5E+3\u2003" = .ok "-.5E+3" :=
    hblanks "\n" "\u2003" hgrammar (List.all_eq_true.1 (by decide)) (List.all_eq_true.1 (by decide))
  exact ⟨hgrammar, hparse, (hascii hparse).1 hgrammar⟩

/-- A digit of another script is accepted as a quantity, though not by the cluster. -/
theorem accepts_digit_of_other_script :
    parse "\u0663Mi" = .ok "\u0663Mi" ∧ ¬ InGrammar Char.isDigit "\u0663Mi".toList := by
  refine ⟨by decide +kernel, ?_⟩
  rw [inGrammar_isDigit_iff]
  rintro ⟨_, hascii⟩
  exact absurd (hascii '\u0663' (by decide)) (by decide)

end Sidecar.Quantity
