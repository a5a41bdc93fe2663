/-
**Quoted scalars are read back.**

Between quotes a scalar is read word by word as well, and the words and the gaps between them are
what it holds.  In double quotes everything but the space is a word, for what would be none is
escaped.  In single quotes a quote is written twice, and lines may end: a line that begins is
indented, and its reader passes over that.

Main definitions: `Sidecar.Yaml.Scalar.written`, `Sidecar.Yaml.Scalar.quotedLines` — what is written
for a character, and for a text in single quotes.

Main results:

* `Sidecar.Yaml.Scalar.escapes_escape` — an escape stands for its character;
* `Sidecar.Yaml.Scalar.quoted?_doubleQuoted`, `Sidecar.Yaml.Scalar.quoted?_singleQuoted` — **what is
  written in quotes is read back.**
-/

import Mathlib.Algebra.Group.Nat.Defs
import Mathlib.Data.List.Basic
import Mathlib.Data.List.Chain
import Sidecar.Proofs.Yaml.Plain

set_option autoImplicit false

namespace Sidecar.Yaml.Scalar

/-! ### Escapes -/

/-- A digit of a hexadecimal number. -/
def hexDigit (d : Nat) : Char :=
  if d < 10 then Char.ofNat ('0'.toNat + d) else Char.ofNat ('A'.toNat + (d - 10))

theorem hexValue?_hexDigit {d : Nat} (h : d < 16) : Text.hexValue? (hexDigit d) = some d := by
  have hall : ∀ d : Fin 16, Text.hexValue? (hexDigit d) = some d.val := by decide
  exact hall ⟨d, h⟩

theorem toList_hex (width n : Nat) :
    (Printer.hex width n).toList
      = (List.range width).reverse.map fun i => hexDigit (n >>> (4 * i) % 16) :=
  String.toList_ofList ..

/-- The digits of a number are put together again. -/
theorem foldl_digits (width n acc : Nat) :
    ((List.range width).reverse.map fun i => n >>> (4 * i) % 16).foldl (· * 16 + ·) acc
      = acc * 16 ^ width + n % 16 ^ width := by
  induction width generalizing acc with
  | zero => simp [Nat.mod_one]
  | succ width ih =>
    have hdigit : n >>> (4 * width) = n / 16 ^ width := by
      rw [Nat.shiftRight_eq_div_pow, Nat.pow_mul]
    rw [List.range_succ, List.reverse_append, List.reverse_singleton, List.singleton_append,
      List.map_cons, List.foldl_cons, ih, hdigit, Nat.mod_pow_succ, Nat.pow_succ, Nat.add_mul,
      Nat.mul_assoc, Nat.mul_comm 16, Nat.mul_comm (n / 16 ^ width % 16)]
    omega

/-- The number of a character, written in hexadecimal digits, stands for the character. -/
theorem codePoint?_hex {width : Nat} {x : Char} (h : x.toNat < 16 ^ width) (rest : List Char) :
    codePoint? width ((Printer.hex width x.toNat).toList ++ rest) = some (x, width + 2) := by
  have htake : ((Printer.hex width x.toNat).toList ++ rest).take width
      = (Printer.hex width x.toNat).toList :=
    List.take_left' (by simp [toList_hex])
  have hvalues : (Printer.hex width x.toNat).toList.mapM Text.hexValue?
      = some ((List.range width).reverse.map fun i => x.toNat >>> (4 * i) % 16) := by
    rw [toList_hex]
    generalize (List.range width).reverse = is
    induction is with
    | nil => rfl
    | cons i is ih =>
      rw [List.map_cons, List.mapM_cons, ih, hexValue?_hexDigit (Nat.mod_lt _ (by decide))]
      rfl
  have hlength : (Printer.hex width x.toNat).toList.length = width := by simp [toList_hex]
  have hvalid : x.toNat.isValidChar := x.valid
  rw [codePoint?, htake, hvalues]
  simp only [Option.bind_eq_bind, Option.bind_some, foldl_digits, Nat.zero_mul, Nat.zero_add,
    Nat.mod_eq_of_lt h, hlength, hvalid, and_self, if_true, Char.ofNat_toNat]

/-- What is escaped: what cannot be written as itself, breaks, the quote and the backslash. -/
def isEscaped (x : Char) : Bool :=
  Printer.isSpecial x || isBreak x || x = '"' || x = '\\'

theorem toNat_lt_of_isEscaped {x : Char} (h : isEscaped x = true) : x.toNat < 0x10000 := by
  simp only [isEscaped, Printer.isSpecial, isBreak, Bool.or_eq_true, Bool.not_eq_true',
    decide_eq_true_eq] at h
  rcases h with ((h | (((rfl | rfl) | rfl) | rfl) | rfl) | rfl) | rfl
  · rw [isPrintable, Bool.or_eq_false_iff, decide_eq_false_iff_not] at h
    omega
  all_goals decide

/-- What follows the backslash of an escape: it stands for the character whatever comes then. -/
structure Escapes (e : List Char) (x : Char) : Prop where
  inLine : ∀ y ∈ e, isPrintable y = true ∧ isBreak y = false
  ne_nil : e ≠ []
  length_le : e.length ≤ 5
  read : ∀ rest, escape? (e ++ rest) = some (x, e.length + 1)

theorem inLine_of_all {e : List Char}
    (h : (e.all fun y => isPrintable y && !isBreak y) = true) :
    ∀ y ∈ e, isPrintable y = true ∧ isBreak y = false := by
  simpa using h

/-- An escape by a number. -/
theorem escapes_hex (mark : Char) {width : Nat} {x : Char}
    (hmark : isPrintable mark = true ∧ isBreak mark = false) (hwidth : width ≤ 4)
    (hread : ∀ rest, escape? (mark :: rest) = codePoint? width rest)
    (hlt : x.toNat < 16 ^ width) : Escapes (mark :: (Printer.hex width x.toNat).toList) x where
  inLine := by
    have hdigit : ∀ d : Fin 16,
        isPrintable (hexDigit d) = true ∧ isBreak (hexDigit d) = false := by decide
    rw [List.forall_mem_cons]
    refine ⟨hmark, fun y hy => ?_⟩
    rw [toList_hex] at hy
    obtain ⟨i, -, rfl⟩ := List.mem_map.1 hy
    exact hdigit ⟨x.toNat >>> (4 * i) % 16, Nat.mod_lt _ (by decide)⟩
  ne_nil := List.cons_ne_nil mark _
  length_le := by
    rw [List.length_cons, toList_hex, List.length_map, List.length_reverse, List.length_range]
    omega
  read rest := by
    rw [List.cons_append, hread, codePoint?_hex hlt]
    simp [toList_hex]

/-- **An escape stands for its character.** -/
theorem escapes_escape {x : Char} (h : isEscaped x = true) :
    ∃ e, (Printer.escape x).toList = '\\' :: e ∧ Escapes e x := by
  have hlt := toNat_lt_of_isEscaped h
  unfold Printer.escape
  split
  case h_15 =>
    split
    · next hsmall =>
      exact ⟨_, String.toList_append, escapes_hex 'x' (by decide) (by decide) (fun _ => rfl)
        (by simpa using hsmall)⟩
    · exact ⟨_, String.toList_append, escapes_hex 'u' (by decide) (by decide) (fun _ => rfl)
        (by simpa using hlt)⟩
  all_goals exact ⟨_, rfl, inLine_of_all (by decide), by decide, by decide, fun _ => rfl⟩

/-! ### Words in quotes -/

/-- What is written for a character in double or single quotes. -/
def written (double : Bool) (x : Char) : List Char :=
  if double then if isEscaped x then (Printer.escape x).toList else [x]
  else if x = '\'' then ['\'', '\''] else [x]

/-- Whether a character stands between words: only spaces can in double quotes, where everything
else that is none is escaped. -/
def isBetween (double : Bool) (x : Char) : Bool :=
  if double then x = ' ' else isGap x

/-- The quote. -/
def quote (double : Bool) : Char :=
  if double then '"' else '\''

/-- Whether a word in quotes ends here: at a gap or the closing quote. -/
def EndsWord (double : Bool) (stop : List Char) : Prop :=
  (∃ x rest, stop = x :: rest ∧ isGap x = true)
    ∨ ∃ rest, stop = quote double :: rest ∧ (double = false → rest.head? ≠ some '\'')

variable {double : Bool} {fuel : Nat} {x : Char} {w text stop rest : List Char} {c : Cursor}

theorem isBreak_of_isBetween (h : isBetween double x = false) (hsingle : double = false) :
    isBreak x = false := by
  subst hsingle
  exact isBreak_eq_false_of_isGap h

/-- What is written for a character stays in the line, unless the character is a break itself. -/
theorem isBreak_written (h : double = false → isBreak x = false) :
    ∀ y ∈ written double x, isBreak y = false := by
  cases double with
  | true =>
    cases hescaped : isEscaped x with
    | true =>
      obtain ⟨e, hwritten, he⟩ := escapes_escape hescaped
      simp only [written, hescaped, if_true, hwritten, List.forall_mem_cons]
      exact ⟨by decide, fun y hy => (he.inLine y hy).2⟩
    | false =>
      have hbreak : isBreak x = false := by
        simp only [isEscaped, Bool.or_eq_false_iff] at hescaped
        exact hescaped.1.1.2
      simp [written, hescaped, hbreak]
  | false =>
    by_cases hquote : x = '\''
    · simp only [written, hquote, Bool.false_eq_true, if_false, if_true]
      exact List.forall_mem_cons.2 ⟨by decide, List.forall_mem_singleton.2 (by decide)⟩
    · simp [written, hquote, h rfl]

theorem isBreak_words (hw : ∀ x ∈ w, isBetween double x = false) (n : Nat) :
    ∀ y ∈ w.flatMap (written double) ++ List.replicate n ' ', isBreak y = false := by
  intro y hy
  rcases List.mem_append.1 hy with hy | hy
  · obtain ⟨x, hx, hy⟩ := List.mem_flatMap.1 hy
    exact isBreak_written (isBreak_of_isBetween (hw x hx)) y hy
  · exact List.eq_of_mem_replicate hy ▸ by decide

theorem isGap_eq_false_of_isBetween (h : isBetween true x = false)
    (hescaped : isEscaped x = false) : isGap x = false := by
  simp only [isEscaped, Bool.or_eq_false_iff, Printer.isSpecial, Bool.not_eq_false'] at hescaped
  rw [← Bool.not_eq_true]
  intro hgap
  obtain rfl := eq_space_of_isGap hgap hescaped.1.1.1 hescaped.1.1.2
  cases h

/-- A character of a word is read, and the word goes on behind it. -/
theorem quotedWord?_written (h : isBetween double x = false)
    (hrest : c.rest = written double x ++ rest) :
    quotedWord? double (fuel + 1) c
      = (quotedWord? double fuel (c.after (written double x))).map
        fun (xs, rest) => (x :: xs, rest) := by
  rw [Cursor.after_eq_skip (isBreak_written (isBreak_of_isBetween h)), quotedWord?]
  cases double with
  | true =>
    cases hescaped : isEscaped x with
    | true =>
      obtain ⟨e, hwritten, he⟩ := escapes_escape hescaped
      have hsame : written true x = '\\' :: e := by simp [written, hescaped, hwritten]
      have hbreak : (e ++ rest).head?.any isBreak = false := by
        cases e with
        | nil => exact absurd rfl he.ne_nil
        | cons y e => simpa using (he.inLine y List.mem_cons_self).2
      have hgap : isGap '\\' = false := by decide
      have hquote : '\\' ≠ '"' := by decide
      simp only [hrest, hsame, List.cons_append, hgap, Bool.false_eq_true, if_false, if_true,
        hquote, hbreak, he.read, Option.bind_some, List.length_cons]
    | false =>
      have hsame : written true x = [x] := by simp [written, hescaped]
      have hgap := isGap_eq_false_of_isBetween h hescaped
      simp only [isEscaped, Bool.or_eq_false_iff, decide_eq_false_iff_not] at hescaped
      simp [hrest, hsame, hgap, hescaped.1.2, hescaped.2]
  | false =>
    have hgap : isGap x = false := h
    by_cases hquote : x = '\''
    · subst hquote
      have hsame : written false '\'' = ['\'', '\''] := by decide
      simp [hrest, hsame, hgap]
    · have hsame : written false x = [x] := by simp [written, hquote]
      simp [hrest, hsame, hgap, hquote]

theorem quotedWord?_stop (h : EndsWord double stop) (hrest : c.rest = stop) :
    quotedWord? double (fuel + 1) c = some ([], .empty, c) := by
  rw [quotedWord?]
  rcases h with ⟨x, rest, rfl, hgap⟩ | ⟨rest, rfl, hone⟩
  · simp [hrest, hgap]
  · cases double with
    | true => simp [hrest, quote, show isGap '"' = false by decide]
    | false => simp [hrest, quote, show isGap '\'' = false by decide, hone rfl]

/-- A word is read up to its end. -/
theorem quotedWord?_append (hw : ∀ x ∈ w, isBetween double x = false)
    (hrest : c.rest = w.flatMap (written double) ++ stop) (hstop : EndsWord double stop)
    (hfuel : w.length < fuel) :
    quotedWord? double fuel c = some (w, .empty, c.after (w.flatMap (written double))) := by
  induction w generalizing c fuel with
  | nil =>
    obtain ⟨fuel, rfl⟩ := Nat.exists_eq_succ_of_ne_zero (Nat.ne_of_gt hfuel)
    exact quotedWord?_stop hstop hrest
  | cons x w ih =>
    obtain ⟨fuel, rfl⟩ := Nat.exists_eq_succ_of_ne_zero (Nat.ne_of_gt (Nat.zero_lt_of_lt hfuel))
    rw [List.forall_mem_cons] at hw
    have hsplit : c.rest = written double x ++ (w.flatMap (written double) ++ stop) := by
      simp [hrest]
    rw [quotedWord?_written hw.1 hsplit,
      ih hw.2 (Cursor.rest_after hsplit) (Nat.lt_of_succ_lt_succ hfuel)]
    simp

/-! ### Texts in quotes -/

theorem written_ne_nil (double : Bool) (x : Char) : written double x ≠ [] := by
  cases double with
  | true =>
    cases hescaped : isEscaped x with
    | true =>
      obtain ⟨e, hwritten, -⟩ := escapes_escape hescaped
      simp [written, hescaped, hwritten]
    | false => simp [written, hescaped]
  | false => by_cases hquote : x = '\'' <;> simp [written, hquote]

theorem length_le_flatMap_written (double : Bool) (w : List Char) :
    w.length ≤ (w.flatMap (written double)).length := by
  induction w with
  | nil => exact Nat.le_refl _
  | cons x w ih =>
    have hpos := List.length_pos_iff.2 (written_ne_nil double x)
    rw [List.flatMap_cons, List.length_append, List.length_cons]
    omega

/-- With a word the reader of a text in quotes comes to the closing quote, or to a gap that it
takes. -/
theorem quotedRest?_word (hw : ∀ x ∈ w, isBetween double x = false)
    (hrest : c.rest = w.flatMap (written double) ++ stop) (hstop : EndsWord double stop)
    (hcolumn : c.column ≠ 0) :
    quotedRest? double (fuel + 1) text c
      = if stop.head? = some (quote double) then
          some (text ++ w, (c.after (w.flatMap (written double))).skip 1)
        else
          (Gap.empty.scan? 0 (stop.length + 1) (c.after (w.flatMap (written double)))).bind
            fun (gap, c) => quotedRest? double fuel (text ++ w ++ gap.text) c := by
  have hstopne : stop ≠ [] := by
    rcases hstop with ⟨x, rest, rfl, -⟩ | ⟨rest, rfl, -⟩ <;> simp
  have hne : c.rest.isEmpty = false := by simp [hrest, hstopne]
  have hlength : w.length < c.rest.length + 1 := by
    have hword := length_le_flatMap_written double w
    rw [hrest, List.length_append]
    omega
  have hquote : (if double = true then '"' else '\'') = quote double := rfl
  rw [quotedRest?]
  simp only [Cursor.atMark_of_column_ne hcolumn, hne, Bool.or_self, Bool.false_eq_true, if_false,
    quotedWord?_append hw hrest hstop hlength, Option.bind_eq_bind, Option.bind_some,
    Cursor.startsWith, Cursor.rest_after hrest, hquote, beq_iff_eq]

/-- Behind its last word a text in quotes ends. -/
theorem quotedRest?_last (hw : ∀ x ∈ w, isBetween double x = false)
    (hrest : c.rest = w.flatMap (written double) ++ quote double :: rest)
    (hone : double = false → rest.head? ≠ some '\'') (hcolumn : c.column ≠ 0) :
    quotedRest? double (fuel + 1) text c
      = some (text ++ w, c.after (w.flatMap (written double) ++ [quote double])) := by
  have hquote : isBreak (quote double) = false := by cases double <;> decide
  rw [quotedRest?_word hw hrest (.inr ⟨rest, rfl, hone⟩) hcolumn, List.head?_cons, if_pos rfl,
    ← Cursor.after_after, Cursor.after_eq_skip (List.forall_mem_singleton.2 hquote)]
  rfl

/-- Behind a gap a text in quotes goes on. -/
theorem quotedRest?_gap {g more : List Char} (gap : Gap) {c' : Cursor}
    (hw : ∀ x ∈ w, isBetween double x = false)
    (hrest : c.rest = w.flatMap (written double) ++ (g ++ more)) (hg : g ≠ [])
    (hgap : ∀ x ∈ g, isGap x = true) (hcolumn : c.column ≠ 0)
    (hscan : ∀ fuel, (g ++ more).length < fuel →
      Gap.empty.scan? 0 fuel (c.after (w.flatMap (written double))) = some (gap, c')) :
    quotedRest? double (fuel + 1) text c = quotedRest? double fuel (text ++ w ++ gap.text) c' := by
  cases g with
  | nil => exact absurd rfl hg
  | cons x g =>
    have hx : isGap x = true := hgap x List.mem_cons_self
    have hquote : ¬ (x :: g ++ more).head? = some (quote double) := by
      intro h
      obtain rfl := Option.some.inj h
      cases double <;> exact absurd hx (by decide)
    rw [quotedRest?_word hw hrest (.inl ⟨x, g ++ more, rfl, hx⟩) hcolumn, if_neg hquote,
      hscan _ (Nat.lt_succ_self _), Option.bind_some]

/-- Spaces between words stay what they are. -/
theorem quotedRest?_spaces {n : Nat} {more : List Char}
    (hw : ∀ x ∈ w, isBetween double x = false)
    (hrest : c.rest = w.flatMap (written double) ++ (List.replicate (n + 1) ' ' ++ more))
    (hmore : ∀ x ∈ more.head?, isGap x = false) (hcolumn : c.column ≠ 0) :
    quotedRest? double (fuel + 1) text c
      = quotedRest? double fuel (text ++ w ++ List.replicate (n + 1) ' ')
        (c.after (w.flatMap (written double) ++ List.replicate (n + 1) ' ')) := by
  refine quotedRest?_gap ⟨List.replicate (n + 1) ' ', [], [], false⟩ hw hrest (by simp)
    (fun x hx => List.eq_of_mem_replicate hx ▸ by decide) hcolumn fun fuel hfuel => ?_
  rw [Gap.empty, Gap.scan?_spaces (Cursor.rest_after hrest) hmore, List.nil_append,
    Cursor.after_after]
  rw [List.length_append, List.length_replicate] at hfuel
  omega

/-- Breaks between words stay what they are, unless they are line feeds, and what indents the next
line is passed over. -/
theorem quotedRest?_breaks {n : Nat} {breaks more : List Char}
    (hw : ∀ x ∈ w, isBetween double x = false)
    (hrest : c.rest = w.flatMap (written double) ++ (breaks ++ (List.replicate n ' ' ++ more)))
    (hne : breaks ≠ []) (hbreaks : ∀ y ∈ breaks, isBreak y = true ∧ isPrintable y = true)
    (hfeed : '\n' ∉ breaks) (hmore : ∀ x ∈ more.head?, isGap x = false) (hcolumn : c.column ≠ 0) :
    quotedRest? double (fuel + 1) text c
      = quotedRest? double fuel (text ++ w ++ breaks)
        (c.after (w.flatMap (written double) ++ (breaks ++ List.replicate n ' '))) := by
  cases breaks with
  | nil => exact absurd rfl hne
  | cons x breaks =>
    have hx : x ≠ '\n' := fun h => hfeed (h ▸ List.mem_cons_self)
    have htext : (⟨[], [x], breaks, true⟩ : Gap).text = x :: breaks := by
      simp [Gap.text, Gap.folded, hx]
    have hgap : ∀ y ∈ x :: breaks, isGap y = true := fun y hy => by simp [isGap, (hbreaks y hy).1]
    rw [quotedRest?_gap ⟨[], [x], breaks, true⟩ hw hrest hne hgap hcolumn fun fuel hfuel => ?_,
      htext]
    rw [Gap.scan?_breaks hbreaks (Cursor.rest_after hrest) hmore, Cursor.after_after]
    simp only [List.length_append, List.length_cons, List.length_replicate] at hfuel
    omega

/-- What is written for a word, and the closing quote, begin with no gap. -/
theorem isGap_head_written {cs : List Char} (hcs : ∀ x ∈ cs.head?, isBetween double x = false)
    (rest : List Char) :
    ∀ x ∈ (cs.flatMap (written double) ++ quote double :: rest).head?, isGap x = false := by
  cases cs with
  | nil =>
    intro x hx
    cases hx
    cases double <;> decide
  | cons y cs =>
    have hy : isBetween double y = false := hcs y rfl
    have hhead : ∀ x ∈ (written double y).head?, isGap x = false := by
      cases double with
      | true =>
        cases hescaped : isEscaped y with
        | true =>
          obtain ⟨e, hwritten, -⟩ := escapes_escape hescaped
          simp only [written, hescaped, if_true, hwritten]
          rintro x ⟨⟩
          decide
        | false => simp [written, hescaped, isGap_eq_false_of_isBetween hy hescaped]
      | false =>
        have hgap : isGap y = false := hy
        by_cases hquote : y = '\''
        · simp only [written, hquote, Bool.false_eq_true, if_false, if_true]
          rintro x ⟨⟩
          decide
        · simp [written, hquote, hgap]
    rw [List.flatMap_cons, List.append_assoc,
      List.head?_append_of_ne_nil _ (written_ne_nil double y)]
    exact hhead

/-! ### Double quotes -/

theorem toList_doubleQuoted (cs : List Char) :
    (Printer.doubleQuoted cs).toList = '"' :: cs.flatMap (written true) ++ ['"'] := by
  have hchar : ∀ x, (if Printer.isSpecial x || isBreak x || x = '"' || x = '\\' then
      Printer.escape x else x.toString).toList = written true x := by
    intro x
    rw [written, if_pos rfl, isEscaped]
    split <;> simp
  simp only [Printer.doubleQuoted, String.toList_append, String.toList_join, List.flatMap_map,
    hchar]
  rfl

theorem quotedRest?_double (cs : List Char) : ∀ {fuel : Nat} {text : List Char} {c : Cursor},
    c.rest = cs.flatMap (written true) ++ '"' :: rest → c.column ≠ 0 → cs.length < fuel →
    quotedRest? true fuel text c
      = some (text ++ cs, c.after (cs.flatMap (written true) ++ ['"'])) := by
  induction cs using wordInduction (isBetween true) with
  | word w hw =>
    intro fuel text c hrest hcolumn hfuel
    obtain ⟨fuel, rfl⟩ := Nat.exists_eq_succ_of_ne_zero (Nat.ne_of_gt (Nat.zero_lt_of_lt hfuel))
    exact quotedRest?_last hw hrest nofun hcolumn
  | gap w g cs hw hg hgap hcs ih =>
    intro fuel text c hrest hcolumn hfuel
    obtain ⟨fuel, rfl⟩ := Nat.exists_eq_succ_of_ne_zero (Nat.ne_of_gt (Nat.zero_lt_of_lt hfuel))
    obtain ⟨n, rfl⟩ : ∃ n, g = List.replicate (n + 1) ' ' := by
      obtain ⟨n, hn⟩ := Nat.exists_eq_succ_of_ne_zero (mt List.length_eq_zero_iff.1 hg)
      exact ⟨n, List.eq_replicate_iff.2 ⟨hn, fun x hx => by simpa [isBetween] using hgap x hx⟩⟩
    have hspaces : (List.replicate (n + 1) ' ').flatMap (written true)
        = List.replicate (n + 1) ' ' := by
      have hspace : written true ' ' = [' '] := by decide
      simp [List.flatMap_replicate, hspace]
    have hsplit : c.rest = w.flatMap (written true)
        ++ (List.replicate (n + 1) ' ' ++ (cs.flatMap (written true) ++ '"' :: rest)) := by
      rw [hrest, List.flatMap_append, List.flatMap_append, hspaces]
      simp
    have hnext : (c.after (w.flatMap (written true) ++ List.replicate (n + 1) ' ')).rest
        = cs.flatMap (written true) ++ '"' :: rest := Cursor.rest_after (by simp [hsplit])
    rw [quotedRest?_spaces hw hsplit (isGap_head_written hcs rest) hcolumn, ih hnext ?_ ?_]
    · simp [hspaces, List.flatMap_append]
    · rw [Cursor.column_after (isBreak_words hw _), List.length_append, List.length_replicate]
      omega
    · simp only [List.length_append, List.length_replicate] at hfuel
      omega

/-- **A text in double quotes is read back.** -/
theorem quoted?_doubleQuoted {cs : List Char}
    (hrest : c.rest = (Printer.doubleQuoted cs).toList ++ rest) :
    quoted? true c = some (cs, c.after (Printer.doubleQuoted cs).toList) := by
  rw [toList_doubleQuoted] at hrest ⊢
  have hquote : c.skip 1 = c.after ['"'] := by
    rw [Cursor.after_eq_skip (List.forall_mem_singleton.2 (by decide))]
    rfl
  have hsplit : c.rest = ['"'] ++ (cs.flatMap (written true) ++ '"' :: rest) := by simp [hrest]
  have hcolumn : (c.after ['"']).column = c.column + 1 :=
    Cursor.column_after (List.forall_mem_singleton.2 (by decide)) c
  rw [quoted?, hquote, quotedRest?_double cs (Cursor.rest_after hsplit) (by omega)]
  · simp
  · have hlength := length_le_flatMap_written true cs
    rw [hsplit]
    simp only [List.length_append, List.length_cons]
    omega

/-! ### Single quotes -/

/-- What is written in single quotes for a text, in a line that has just begun or that goes on: a
line that has begun is indented, unless it is empty and not the last. -/
def quotedLines (indent : Nat) : (atStart : Bool) → List Char → List Char
  | atStart, [] => if atStart then List.replicate indent ' ' else []
  | atStart, x :: cs =>
    if isBreak x then x :: quotedLines indent true cs
    else (if atStart then List.replicate indent ' ' else []) ++ written false x
      ++ quotedLines indent false cs

theorem toList_indentLines_quoted (indent : Nat) (atStart : Bool) (cs : List Char) :
    (Printer.indentLines indent atStart
        (cs.flatMap fun x => if x = '\'' then ['\'', '\''] else [x])).toList
      ++ (if (if cs = [] then atStart else cs.getLast?.any isBreak) then
        List.replicate indent ' ' else [])
      = quotedLines indent atStart cs := by
  induction cs generalizing atStart with
  | nil => simp [Printer.indentLines, quotedLines]
  | cons x cs ih =>
    have hlast : (x :: cs).getLast?.any isBreak
        = if cs = [] then isBreak x else cs.getLast?.any isBreak := by
      cases cs with
      | nil => simp
      | cons y cs => simp [List.getLast?_cons_cons]
    rw [quotedLines, if_neg (List.cons_ne_nil x cs), hlast, ← ih, ← ih]
    by_cases hquote : x = '\''
    · subst hquote
      have hbreak : isBreak '\'' = false := by decide
      cases atStart <;> simp [Printer.indentLines, hbreak, written]
    · cases hbreak : isBreak x <;> cases atStart <;>
        simp [Printer.indentLines, hbreak, hquote, written]

theorem toList_singleQuoted (indent : Nat) (cs : List Char) :
    (Printer.singleQuoted indent cs).toList = '\'' :: quotedLines indent false cs ++ ['\''] := by
  have htail : (if cs.getLast?.any isBreak then Printer.spaces indent else "").toList
      = if (if cs = [] then false else cs.getLast?.any isBreak) then List.replicate indent ' '
        else [] := by
    cases cs with
    | nil => rfl
    | cons x cs => cases hlast : (x :: cs).getLast?.any isBreak <;> simp
  rw [← toList_indentLines_quoted, ← htail]
  simp [Printer.singleQuoted]

/-- What may be written in single quotes without line feeds, said of neighbours. -/
structure FitsQuotes (cs : List Char) : Prop where
  printable : ∀ x ∈ cs, isPrintable x = true ∧ x ≠ '\n'
  space : cs.IsChain fun a b => a = ' ' → isBreak b = false
  line : cs.IsChain fun a b => isBreak a = true → b ≠ ' '

theorem FitsQuotes.of_append {before cs : List Char} (h : FitsQuotes (before ++ cs)) :
    FitsQuotes cs :=
  ⟨fun x hx => h.printable x (List.mem_append_right _ hx), h.space.right_of_append,
    h.line.right_of_append⟩

/-- A gap in such a text holds spaces only, or breaks only. -/
theorem FitsQuotes.gap_cases {g cs : List Char} (h : FitsQuotes (g ++ cs))
    (hgap : ∀ x ∈ g, isGap x = true) (hne : g ≠ []) :
    (∃ n, g = List.replicate (n + 1) ' ') ∨ ∀ x ∈ g, isBreak x = true := by
  have hspace := List.IsChain.left_of_append h.space
  have hline := List.IsChain.left_of_append h.line
  have hprint : ∀ x ∈ g, isPrintable x = true := fun x hx => (h.printable x (by simp [hx])).1
  clear h
  induction g with
  | nil => exact absurd rfl hne
  | cons x g ih =>
    rw [List.forall_mem_cons] at hgap hprint
    cases hg : g with
    | nil =>
      cases hx : isBreak x with
      | true => exact .inr (List.forall_mem_singleton.2 hx)
      | false => exact .inl ⟨0, by rw [eq_space_of_isGap hgap.1 hprint.1 hx]; rfl⟩
    | cons y ys =>
      subst hg
      rw [List.isChain_cons_cons] at hspace hline
      rcases ih hgap.2 (List.cons_ne_nil y ys) hspace.2 hline.2 hprint.2 with ⟨n, hn⟩ | hall
      · have hy : y = ' ' := by
          rw [List.replicate_succ] at hn
          exact (List.cons.inj hn).1
        have hx : isBreak x = false := by
          rw [← Bool.not_eq_true]
          exact fun hx => hline.1 hx hy
        refine .inl ⟨n + 1, ?_⟩
        rw [hn, eq_space_of_isGap hgap.1 hprint.1 hx]
        rfl
      · refine .inr (List.forall_mem_cons.2 ⟨?_, hall⟩)
        rw [← Bool.not_eq_false]
        intro hx
        have hfalse := hspace.1 (eq_space_of_isGap hgap.1 hprint.1 hx)
        rw [hall y List.mem_cons_self] at hfalse
        cases hfalse

theorem quotedLines_word (indent : Nat) (cs : List Char) (hw : ∀ x ∈ w, isBreak x = false) :
    quotedLines indent false (w ++ cs)
      = w.flatMap (written false) ++ quotedLines indent false cs := by
  induction w with
  | nil => rfl
  | cons x w ih =>
    rw [List.forall_mem_cons] at hw
    simp [quotedLines, hw.1, ih hw.2]

theorem quotedLines_breaks (indent : Nat) {breaks : List Char} (cs : List Char) {atStart : Bool}
    (hne : breaks ≠ []) (hbreaks : ∀ x ∈ breaks, isBreak x = true) :
    quotedLines indent atStart (breaks ++ cs) = breaks ++ quotedLines indent true cs := by
  induction breaks generalizing atStart with
  | nil => exact absurd rfl hne
  | cons x breaks ih =>
    rw [List.forall_mem_cons] at hbreaks
    rw [List.cons_append, quotedLines, if_pos hbreaks.1]
    cases breaks with
    | nil => rfl
    | cons y breaks => rw [ih (List.cons_ne_nil y breaks) hbreaks.2, ← List.cons_append]

/-- A line that begins with a word is indented, and goes on as it would without. -/
theorem quotedLines_start (indent : Nat) {cs : List Char} (h : ∀ x ∈ cs.head?, isBreak x = false) :
    quotedLines indent true cs = List.replicate indent ' ' ++ quotedLines indent false cs := by
  cases cs with
  | nil => simp [quotedLines]
  | cons x cs => simp [quotedLines, h x rfl]

theorem isGap_head_quotedLines (indent : Nat) {cs : List Char}
    (h : ∀ x ∈ cs.head?, isGap x = false) (rest : List Char) :
    ∀ x ∈ (quotedLines indent false cs ++ '\'' :: rest).head?, isGap x = false := by
  cases cs with
  | nil =>
    rintro x ⟨⟩
    decide
  | cons y cs =>
    have hy : isGap y = false := h y rfl
    have hbreak := isBreak_eq_false_of_isGap hy
    by_cases hquote : y = '\''
    · subst hquote
      rintro x ⟨⟩
      exact hy
    · simp [quotedLines, hbreak, written, hquote, hy]

theorem length_le_quotedLines (indent : Nat) (atStart : Bool) (cs : List Char) :
    cs.length ≤ (quotedLines indent atStart cs).length := by
  induction cs generalizing atStart with
  | nil => exact Nat.zero_le _
  | cons x cs ih =>
    rw [quotedLines]
    split
    · exact Nat.succ_le_succ (ih true)
    · have hpos := List.length_pos_iff.2 (written_ne_nil false x)
      have hcs := ih false
      simp only [List.length_append, List.length_cons]
      omega

/-- The lines of a word and spaces after it. -/
theorem quotedLines_word_spaces (indent n : Nat) (cs : List Char)
    (hw : ∀ x ∈ w, isBreak x = false) :
    quotedLines indent false (w ++ (List.replicate n ' ' ++ cs))
      = w.flatMap (written false) ++ (List.replicate n ' ' ++ quotedLines indent false cs) := by
  have hspaces : ∀ x ∈ List.replicate n ' ', isBreak x = false := fun x hx =>
    List.eq_of_mem_replicate hx ▸ by decide
  have hspace : written false ' ' = [' '] := by decide
  rw [quotedLines_word indent _ hw, quotedLines_word indent _ hspaces, List.flatMap_replicate,
    hspace, List.flatten_replicate_singleton]

/-- The lines of a word and breaks after it. -/
theorem quotedLines_word_breaks (indent : Nat) {g cs : List Char}
    (hw : ∀ x ∈ w, isBreak x = false) (hg : g ≠ []) (hbreaks : ∀ x ∈ g, isBreak x = true)
    (hcs : ∀ x ∈ cs.head?, isBreak x = false) :
    quotedLines indent false (w ++ (g ++ cs))
      = w.flatMap (written false)
        ++ (g ++ (List.replicate indent ' ' ++ quotedLines indent false cs)) := by
  rw [quotedLines_word indent _ hw, quotedLines_breaks indent _ hg hbreaks,
    quotedLines_start indent hcs]

/-- A text in single quotes is read line by line, up to the closing quote. -/
theorem quotedRest?_single {indent : Nat} (hindent : indent ≠ 0) (hone : rest.head? ≠ some '\'')
    (cs : List Char) (h : FitsQuotes cs) : ∀ {fuel : Nat} {text : List Char} {c : Cursor},
    c.rest = quotedLines indent false cs ++ '\'' :: rest → c.column ≠ 0 → cs.length < fuel →
    quotedRest? false fuel text c
      = some (text ++ cs, c.after (quotedLines indent false cs ++ ['\''])) := by
  induction cs using wordInduction isGap with
  | word w hw =>
    intro fuel text c hrest hcolumn hfuel
    obtain ⟨fuel, rfl⟩ := Nat.exists_eq_succ_of_ne_zero (Nat.ne_of_gt (Nat.zero_lt_of_lt hfuel))
    have hline : quotedLines indent false w = w.flatMap (written false) := by
      have happend := quotedLines_word indent [] fun x hx => isBreak_eq_false_of_isGap (hw x hx)
      simpa [quotedLines] using happend
    rw [hline] at hrest ⊢
    exact quotedRest?_last hw hrest (fun _ => hone) hcolumn
  | gap w g cs hw hg hgap hcs ih =>
    intro fuel text c hrest hcolumn hfuel
    obtain ⟨fuel, rfl⟩ := Nat.exists_eq_succ_of_ne_zero (Nat.ne_of_gt (Nat.zero_lt_of_lt hfuel))
    have hwline : ∀ x ∈ w, isBreak x = false := fun x hx => isBreak_eq_false_of_isGap (hw x hx)
    have hlength : cs.length < fuel := by
      have hpos := List.length_pos_iff.2 hg
      simp only [List.length_append] at hfuel
      omega
    have hmore := isGap_head_quotedLines indent hcs rest
    have hfits : FitsQuotes cs := h.of_append.of_append
    rcases h.of_append.gap_cases hgap hg with ⟨n, rfl⟩ | hbreaks
    · -- spaces in a line
      have hlines := quotedLines_word_spaces indent (n + 1) cs hwline
      have hsplit : c.rest = w.flatMap (written false)
          ++ (List.replicate (n + 1) ' ' ++ (quotedLines indent false cs ++ '\'' :: rest)) := by
        rw [hrest, hlines]
        simp
      have hnext : (c.after (w.flatMap (written false) ++ List.replicate (n + 1) ' ')).rest
          = quotedLines indent false cs ++ '\'' :: rest := Cursor.rest_after (by simp [hsplit])
      rw [quotedRest?_spaces hw hsplit hmore hcolumn, ih hfits hnext ?_ hlength, hlines]
      · simp
      · rw [Cursor.column_after (isBreak_words hw _), List.length_append, List.length_replicate]
        omega
    · -- lines end, and the next one is indented
      have hlines := quotedLines_word_breaks indent hwline hg hbreaks
        fun x hx => isBreak_eq_false_of_isGap (hcs x hx)
      have hsplit : c.rest = w.flatMap (written false) ++ (g ++ (List.replicate indent ' '
          ++ (quotedLines indent false cs ++ '\'' :: rest))) := by
        rw [hrest, hlines]
        simp
      have hprint : ∀ y ∈ g, isBreak y = true ∧ isPrintable y = true := fun y hy =>
        ⟨hbreaks y hy, (h.printable y (by simp [hy])).1⟩
      have hfeed : '\n' ∉ g := fun hy => (h.printable _ (by simp [hy])).2 rfl
      have hnext : (c.after (w.flatMap (written false) ++ (g ++ List.replicate indent ' '))).rest
          = quotedLines indent false cs ++ '\'' :: rest := Cursor.rest_after (by simp [hsplit])
      rw [quotedRest?_breaks hw hsplit hg hprint hfeed hmore hcolumn, ih hfits hnext ?_ hlength,
        hlines]
      · simp
      · rw [Cursor.column_after_breaks hg hbreaks]
        exact hindent

/-- **A text in single quotes is read back.** -/
theorem quoted?_singleQuoted {indent : Nat} {cs : List Char} (h : FitsQuotes cs)
    (hindent : indent ≠ 0) (hone : rest.head? ≠ some '\'')
    (hrest : c.rest = (Printer.singleQuoted indent cs).toList ++ rest) :
    quoted? false c = some (cs, c.after (Printer.singleQuoted indent cs).toList) := by
  rw [toList_singleQuoted] at hrest ⊢
  have hquote : c.skip 1 = c.after ['\''] := by
    rw [Cursor.after_eq_skip (List.forall_mem_singleton.2 (by decide))]
    rfl
  have hsplit : c.rest = ['\''] ++ (quotedLines indent false cs ++ '\'' :: rest) := by simp [hrest]
  have hcolumn : (c.after ['\'']).column = c.column + 1 :=
    Cursor.column_after (List.forall_mem_singleton.2 (by decide)) c
  rw [quoted?, hquote,
    quotedRest?_single hindent hone cs h (Cursor.rest_after hsplit) (by omega)]
  · simp
  · have hlength := length_le_quotedLines indent false cs
    rw [hsplit]
    simp only [List.length_append, List.length_cons]
    omega

end Sidecar.Yaml.Scalar
