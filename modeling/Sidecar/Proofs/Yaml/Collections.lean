/-
**Collections as they are printed.**

A collection is printed as lines in one column, each of which is an item or an entry and may itself
be many lines further to the right.  What a reader needs to know of such a block is where it begins
and that what comes next is not further to the right than that; it then reads the tokens of the
lines, and ends what does not go on.  Lines that are read so can be put one below the other.

After a simple key a sequence stands in the column of the mapping, so it has neither a start nor an
end of its own.

Main definitions:

* `Sidecar.Json.HasNoFloats` — documents without floating numbers;
* `Sidecar.Yaml.tokensOf`, `Sidecar.Yaml.loosen` — the tokens of a document, and of one that stands
  after a simple key;
* `Sidecar.Yaml.Scan.Line`, `Sidecar.Yaml.Scan.EndsAt`, `Sidecar.Yaml.Scan.IsBlock` — a text and
  what follows it, where its reader gets, and texts that are read as lines of a collection.

Main results:

* `Sidecar.Yaml.Scan.IsBlock.stack` — lines that are put one below the other are read;
* `Sidecar.Yaml.Scan.isReadInLines` — **the lines of a collection are read**;
* `Sidecar.Yaml.Token.scan?_render` — **a document that is printed is scanned.**
-/

import Sidecar.Proofs.Yaml.Tokens

set_option autoImplicit false

namespace Sidecar

/-- Documents without floating numbers. -/
inductive Json.HasNoFloats : Json → Prop
  | null : HasNoFloats .null
  | bool (value : Bool) : HasNoFloats (.bool value)
  | int (value : Int) : HasNoFloats (.int value)
  | str (value : String) : HasNoFloats (.str value)
  | arr {items : List Json} : (∀ x ∈ items, HasNoFloats x) → HasNoFloats (.arr items)
  | obj {members : List (String × Json)} : (∀ e ∈ members, HasNoFloats e.2) →
      HasNoFloats (.obj members)

namespace Yaml

/-! ### Tokens of documents -/

/-- The tokens of a sequence without its start and its end. -/
def loosen : List Token → List Token
  | .blockSequence :: tokens => tokens.dropLast
  | tokens => tokens

mutual

/-- The tokens of a document. -/
def tokensOf : Json → List Token
  | .null => [.scalar .plain "null"]
  | .bool b => [.scalar .plain (if b then "true" else "false")]
  | .int n => [.scalar .plain (toString n)]
  | .float _ => []
  | .str s => [.scalar (Printer.style s) s]
  | .arr [] => [.openFlow .square, .closeFlow .square]
  | .arr (x :: xs) => .blockSequence :: (itemTokens (x :: xs) ++ [.blockEnd])
  | .obj [] => [.openFlow .curly, .closeFlow .curly]
  | .obj (e :: es) => .blockMapping :: (entryTokens (e :: es) ++ [.blockEnd])

/-- The tokens of the items of a sequence. -/
def itemTokens : List Json → List Token
  | [] => []
  | x :: xs => .entry :: (tokensOf x ++ itemTokens xs)

/-- The tokens of the entries of a mapping. -/
def entryTokens : List (String × Json) → List Token
  | [] => []
  | (k, x) :: es =>
    .key :: .scalar (Printer.style k) k :: .value
      :: ((if Printer.isComplexKey k then tokensOf x else loosen (tokensOf x)) ++ entryTokens es)

end

namespace Scan

variable {s s' : Scan} {c c' : Cursor} {tokens toks more : List Token} {indents : List Nat}
  {text w next : List Char} {d : Nat} {keyAllowed : Bool}

/-! ### Lines -/

/-- A text stands at a place, and behind the end of its last line the text goes on in the column
`d`. -/
structure Line (c : Cursor) (text : List Char) (d : Nat) (next : List Char) (c' : Cursor) :
    Prop where
  rest : c.rest = text ++ (lineEnd text ++ (List.replicate d ' ' ++ next))
  next : StartsToken next
  place : c.after (text ++ (lineEnd text ++ List.replicate d ' ')) = c'

theorem Line.rest_place (h : Line c text d next c') : c'.rest = next := by
  rw [← h.place]
  exact Cursor.rest_after (by rw [h.rest]; simp)

theorem Line.column_place (h : Line c text d next c') : c'.column = d := by
  have hspaces : ∀ x ∈ List.replicate d ' ', isBreak x = false := fun x hx =>
    List.eq_of_mem_replicate hx ▸ by decide
  obtain ⟨before, x, hsplit⟩ : ∃ before x, text ++ lineEnd text = before ++ [x] := by
    have hne : text ++ lineEnd text ≠ [] := by
      cases text with
      | nil => simp [lineEnd]
      | cons x text => simp
    exact ⟨_, _, (List.dropLast_append_getLast hne).symm⟩
  have hlast : ∀ y ∈ (text ++ lineEnd text).getLast?, isBreak y = true := isBreak_getLast?_lineEnd
  have hx : isBreak x = true := hlast x (by simp [hsplit])
  rw [← h.place, ← List.append_assoc, hsplit, List.append_assoc, List.singleton_append,
    Cursor.column_after_line hx hspaces, List.length_replicate]

/-- Nothing goes on beyond the column of what comes next. -/
theorem Line.limit_le (h : Line c text d next c') : limit c' ≤ d + 1 := by
  rw [limit, h.rest_place, h.column_place]
  split
  · exact Nat.zero_le _
  · exact Nat.le_refl _

/-- At the end of the text nothing goes on. -/
theorem Line.limit_eq_zero (h : Line c text d next c') (hnil : next = []) : limit c' = 0 := by
  rw [limit, h.rest_place, hnil]
  rfl

/-- The rest of a text is followed by the same. -/
theorem Line.drop (h : Line c (w ++ text) d next c') (hne : text ≠ []) :
    Line (c.after w) text d next c' where
  rest := by
    refine Cursor.rest_after ?_
    rw [h.rest, lineEnd_append hne, List.append_assoc]
  next := h.next
  place := by
    rw [← h.place, lineEnd_append hne, Cursor.after_after, List.append_assoc]

/-- The first of two texts that stand one below the other. -/
theorem Line.first {a b : List Char} {column : Nat}
    (h : Line c (a ++ (lineEnd a ++ (List.replicate column ' ' ++ b))) d next c') (hne : b ≠ [])
    (hstart : StartsToken b) :
    Line c a column (b ++ (lineEnd b ++ (List.replicate d ' ' ++ next)))
      (c.after (a ++ (lineEnd a ++ List.replicate column ' '))) where
  rest := by
    have hend : lineEnd (a ++ (lineEnd a ++ (List.replicate column ' ' ++ b))) = lineEnd b := by
      rw [← List.append_assoc, ← List.append_assoc, lineEnd_append hne]
    rw [h.rest, hend]
    simp
  next := hstart.append hne _
  place := rfl

/-- The second of them. -/
theorem Line.second {a b : List Char} {column : Nat}
    (h : Line c (a ++ (lineEnd a ++ (List.replicate column ' ' ++ b))) d next c') (hne : b ≠ []) :
    Line (c.after (a ++ (lineEnd a ++ List.replicate column ' '))) b d next c' := by
  have hsplit : a ++ (lineEnd a ++ (List.replicate column ' ' ++ b))
      = a ++ (lineEnd a ++ List.replicate column ' ') ++ b := by simp
  rw [hsplit] at h
  exact h.drop hne

/-- A text that begins a token and may be written. -/
structure IsText (text : List Char) : Prop where
  ne_nil : text ≠ []
  startsToken : StartsToken text
  isPrintable : ∀ x ∈ text, isPrintable x = true

theorem IsText.append (h : IsText text) {more : List Char}
    (hmore : ∀ x ∈ more, Yaml.isPrintable x = true) : IsText (text ++ more) where
  ne_nil := List.append_ne_nil_of_left_ne_nil h.ne_nil more
  startsToken := h.startsToken.append h.ne_nil more
  isPrintable := List.forall_mem_append.2 ⟨h.isPrintable, hmore⟩

theorem isText_cons {x : Char} (hx : (!isGap x && x != '#' && isPrintable x) = true)
    (htext : ∀ y ∈ text, isPrintable y = true) : IsText (x :: text) where
  ne_nil := List.cons_ne_nil x text
  startsToken := by
    simp only [Bool.and_eq_true, Bool.not_eq_true', bne_iff_ne] at hx
    refine startsToken_cons.2 ⟨hx.1.1, hx.1.2, ?_⟩
    rintro rfl
    exact absurd hx.2 (by decide)
  isPrintable := List.forall_mem_cons.2 ⟨(Bool.and_eq_true_iff.1 hx).2, htext⟩

theorem isText_of_written {indent : Nat} {style : Style} {cs : List Char}
    (h : Written indent text style cs) : IsText text :=
  ⟨h.ne_nil, h.startsToken, h.isPrintable⟩

/-- Spaces and the end of a line may be written. -/
theorem isPrintable_lineEnd_spaces (a : List Char) (n : Nat)
    (h : ∀ x ∈ text, isPrintable x = true) :
    ∀ x ∈ lineEnd a ++ (List.replicate n ' ' ++ text), isPrintable x = true := by
  rw [List.forall_mem_append, List.forall_mem_append]
  refine ⟨fun x hx => ?_, Scalar.isPrintable_replicate n, h⟩
  unfold lineEnd at hx
  split at hx
  · cases hx
  · exact List.eq_of_mem_singleton hx ▸ by decide

/-! ### Where a reader gets -/

/-- Steps lead to a place; there the collections that do not go on have ended. -/
def EndsAt (s : Scan) (c : Cursor) (tokens : List Token) (indents : List Nat) : Prop :=
  ∃ s', Reaches s s' ∧ s'.IsAt c (tokens ++ List.replicate (ended (limit c) indents) .blockEnd)
    (left (limit c) indents) true

theorem EndsAt.of_reaches (hs : Reaches s s') (h : s'.EndsAt c tokens indents) :
    s.EndsAt c tokens indents := by
  obtain ⟨s'', hs'', hat⟩ := h
  exact ⟨s'', Relation.ReflTransGen.trans hs hs'', hat⟩

theorem EndsAt.of_step (hs : Step s s') (h : s'.EndsAt c tokens indents) :
    s.EndsAt c tokens indents :=
  .of_reaches (Relation.ReflTransGen.single hs) h

/-- Where all collections go on, none has ended. -/
theorem EndsAt.exists_isAt (h : s.EndsAt c tokens indents) (htop : top indents ≤ limit c) :
    ∃ s', Reaches s s' ∧ s'.IsAt c tokens indents true := by
  obtain ⟨s', hs', hat⟩ := h
  rw [ended_eq_zero htop, left_eq_self htop, List.replicate_zero, List.append_nil] at hat
  exact ⟨s', hs', hat⟩

/-- A collection of which no line goes on has its end among the tokens. -/
theorem EndsAt.close {column : Nat} (h : s.EndsAt c tokens (column :: indents))
    (hlimit : limit c ≤ column) : s.EndsAt c (tokens ++ [.blockEnd]) indents := by
  obtain ⟨s', hs', hat⟩ := h
  rw [ended_cons indents hlimit, left_cons indents hlimit, List.replicate_succ] at hat
  exact ⟨s', hs', by simpa using hat⟩

/-! ### Blocks -/

/-- A text that is read as lines of a collection in a column, if what comes next is not further to
the right. -/
structure IsBlock (column : Nat) (start : Token) (text : List Char) (toks : List Token) :
    Prop extends IsText text where
  endsAt : ∀ {s : Scan} {c c' : Cursor} {tokens : List Token} {indents : List Nat} {d : Nat}
    {next : List Char}, s.IsAt c tokens indents true → c.column = column →
    top indents ≤ column + 1 → Line c text d next c' → d ≤ column →
    s.EndsAt c' (tokens ++ opening start column indents ++ toks) (opened column indents)

/-- **Lines that are put one below the other are read.** -/
theorem IsBlock.append {column : Nat} {start : Token} {a b : List Char}
    (ha : IsBlock column start a toks) (hb : IsBlock column start b more) :
    IsBlock column start (a ++ (lineEnd a ++ (List.replicate column ' ' ++ b))) (toks ++ more) where
  toIsText := ha.toIsText.append (isPrintable_lineEnd_spaces a column hb.isPrintable)
  endsAt {s c c' tokens indents d next} hs hcolumn htop hline hd := by
    have hfirst := hline.first hb.ne_nil hb.startsToken
    have hsecond := hline.second hb.ne_nil
    have hlimit : top (opened column indents)
        ≤ limit (c.after (a ++ (lineEnd a ++ List.replicate column ' '))) := by
      rw [top_opened htop, limit_eq hfirst.rest_place
        (List.append_ne_nil_of_left_ne_nil hb.ne_nil _), hfirst.column_place]
    obtain ⟨s', hs', hat⟩ := (ha.endsAt hs hcolumn htop hfirst (Nat.le_refl _)).exists_isAt hlimit
    have hend := hb.endsAt hat hfirst.column_place (top_opened htop).le hsecond hd
    rw [opening_opened, opened_opened] at hend
    exact .of_reaches hs' (by simpa using hend)

/-! ### Values -/

/-- The text of a value: the lines of a collection, or what stands in the line. -/
def valueText (column : Nat) (json : Json) : List Char :=
  (if (Printer.lines (column + 2) json).isEmpty then Printer.inline column json
    else Printer.stack (column + 2) (Printer.lines (column + 2) json)).toList

/-- The token for the start of a collection. -/
def startOf : Json → Token
  | .arr _ => .blockSequence
  | _ => .blockMapping

/-- The tokens between the start and the end of a collection. -/
def bodyOf : Json → List Token
  | .arr items => itemTokens items
  | .obj members => entryTokens members
  | _ => []

/-- The lines of the document are read, in whatever column they are. -/
def IsReadInLines (json : Json) : Prop :=
  ∀ column, Printer.lines column json ≠ [] →
    IsBlock column (startOf json) (Printer.stack column (Printer.lines column json)).toList
      (bodyOf json)

/-- To the right of the collections that are open, nothing requires a key. -/
theorem head?_ne {column : Nat} (h : top indents ≤ column) : indents.head? ≠ some column := by
  rintro heq
  obtain ⟨indents, rfl⟩ := List.head?_eq_some_iff.1 heq
  exact Nat.not_succ_le_self column h

/-- What stands in the line of a key or indicator is a scalar or a pair of brackets. -/
theorem inline_cases {json : Json} {column : Nat} (hjson : json.HasNoFloats)
    (hlines : Printer.lines column json = []) (indent : Nat) :
    (∃ style text, Written (indent + 2) (Printer.inline indent json).toList style text.toList
        ∧ tokensOf json = [.scalar style text])
      ∨ ∃ b, (Printer.inline indent json).toList = [openChar b, closeChar b]
        ∧ tokensOf json = [.openFlow b, .closeFlow b] := by
  have hword : ∀ {word : String} {style : Style}, Printer.inline indent json = word →
      Written (indent + 2) word.toList style word.toList → tokensOf json = [.scalar style word] →
      ∃ style text, Written (indent + 2) (Printer.inline indent json).toList style text.toList
        ∧ tokensOf json = [.scalar style text] := fun hinline hw htokens =>
    ⟨_, _, hinline ▸ hw, htokens⟩
  cases hjson with
  | null =>
    exact .inl (hword (by simp [Printer.inline, Json.render, Json.Printer.write])
      (.plain (by decide) (by decide)) rfl)
  | bool b =>
    refine .inl (hword (by simp [Printer.inline, Json.render, Json.Printer.write]) ?_ rfl)
    cases b <;> exact .plain (by decide) (by decide)
  | int n =>
    exact .inl (hword (by simp [Printer.inline, Json.render, Json.Printer.write])
      (written_toString _ n) rfl)
  | str value => exact .inl ⟨_, value, written_scalar _ value, rfl⟩
  | @arr items _ =>
    cases items with
    | nil => exact .inr ⟨.square, by simp [Printer.inline, openChar, closeChar], rfl⟩
    | cons x xs => simp [Printer.lines, Printer.itemLines] at hlines
  | @obj members _ =>
    cases members with
    | nil => exact .inr ⟨.curly, by simp [Printer.inline, openChar, closeChar], rfl⟩
    | cons e es => simp [Printer.lines, Printer.entryLines] at hlines

theorem isText_inline {json : Json} {column : Nat} (hjson : json.HasNoFloats)
    (hlines : Printer.lines column json = []) (indent : Nat) :
    IsText (Printer.inline indent json).toList := by
  rcases inline_cases hjson hlines indent with ⟨style, text, hw, -⟩ | ⟨b, htext, -⟩
  · exact isText_of_written hw
  · rw [htext]
    cases b with
    | square => exact isText_cons (by decide) (List.forall_mem_singleton.2 (by decide))
    | curly => exact isText_cons (by decide) (List.forall_mem_singleton.2 (by decide))

/-- **What stands in the line of a key or indicator is read.** -/
theorem endsAt_inline {json : Json} {indent column : Nat} (hjson : json.HasNoFloats)
    (hlines : Printer.lines column json = []) (hs : s.IsAt c tokens indents keyAllowed)
    (hindent : indent = top indents - 1) (htop : top indents ≤ c.column + 1)
    (hkey : keyAllowed = true → indents.head? ≠ some c.column)
    (hline : Line c (Printer.inline indent json).toList d next c')
    (hend : d < top indents ∨ next = [] ∧ d = 0) :
    s.EndsAt c' (tokens ++ tokensOf json) indents := by
  rcases inline_cases hjson hlines indent with ⟨style, text, hw, htokens⟩ | ⟨b, htext, htokens⟩
  · obtain ⟨s', hstep, hat⟩ := exists_scalar hs hw (by rw [hindent]) htop hkey hline.rest hline.next
      hend hline.place
    rw [String.ofList_toList, ← htokens] at hat
    exact .of_step hstep ⟨s', .refl, hat⟩
  · rw [htext] at hline
    have hfeed : lineEnd [openChar b, closeChar b] = ['\n'] := by cases b <;> decide
    have hrest := hline.rest
    have hplace := hline.place
    rw [hfeed] at hrest hplace
    obtain ⟨s', hs', hat⟩ := exists_brackets b hs hkey hrest hline.next hplace
    rw [← htokens] at hat
    exact .of_reaches hs' ⟨s', .refl, hat⟩

theorem tokensOf_eq {json : Json} {column : Nat} (hlines : Printer.lines column json ≠ []) :
    tokensOf json = startOf json :: (bodyOf json ++ [.blockEnd]) := by
  cases json with
  | arr items =>
    cases items with
    | nil => exact absurd rfl hlines
    | cons x xs => rfl
  | obj members =>
    cases members with
    | nil => exact absurd rfl hlines
    | cons e es => rfl
  | _ => exact absurd rfl hlines

/-- The lines of a collection that starts further to the right than those around it. -/
theorem endsAt_nested {json : Json} {column : Nat} (hread : IsReadInLines json)
    (hlines : Printer.lines column json ≠ []) (hs : s.IsAt c tokens indents true)
    (hcolumn : c.column = column) (htop : top indents ≤ column)
    (hline : Line c (Printer.stack column (Printer.lines column json)).toList d next c')
    (hd : d < column ∨ next = []) (hle : d ≤ column) :
    s.EndsAt c' (tokens ++ tokensOf json) indents := by
  have hend := (hread column hlines).endsAt hs hcolumn (by omega) hline hle
  have hlimit : limit c' ≤ column := by
    rcases hd with hd | hnil
    · exact Nat.le_trans hline.limit_le hd
    · exact hline.limit_eq_zero hnil ▸ Nat.zero_le column
  rw [opened, if_pos htop, opening, if_pos htop] at hend
  simpa [tokensOf_eq hlines] using hend.close hlimit

theorem isText_valueText {json : Json} (hjson : json.HasNoFloats) (hread : IsReadInLines json)
    (column : Nat) : IsText (valueText column json) := by
  unfold valueText
  split
  · next hlines => exact isText_inline hjson (List.isEmpty_iff.1 hlines) column
  · next hlines => exact (hread _ fun hnil => hlines (List.isEmpty_iff.2 hnil)).toIsText

/-- **A value behind an indicator is read.** -/
theorem endsAt_value {json : Json} {column : Nat} (hjson : json.HasNoFloats)
    (hread : IsReadInLines json) (hs : s.IsAt c tokens indents true)
    (htop : top indents = column + 1) (hcolumn : c.column = column + 2)
    (hline : Line c (valueText column json) d next c') (hd : d ≤ column) :
    s.EndsAt c' (tokens ++ tokensOf json) indents := by
  unfold valueText at hline
  split at hline
  · next hlines =>
    exact endsAt_inline hjson (List.isEmpty_iff.1 hlines) hs (by omega) (by omega)
      (fun _ => head?_ne (by omega)) hline (.inl (by omega))
  · next hlines =>
    exact endsAt_nested hread (fun hnil => hlines (List.isEmpty_iff.2 hnil)) hs hcolumn
      (by omega) hline (.inl (by omega)) (by omega)

/-! ### Items and entries -/

/-- What is written behind an indicator. -/
theorem toList_follow_false (column : Nat) (json : Json) :
    (Printer.follow column false json
      (Printer.lines (Printer.columnOf column false json) json)).toList
      = ' ' :: valueText column json := by
  have hcolumn : Printer.columnOf column false json = column + 2 := by
    cases json <;> simp [Printer.columnOf]
  rw [Printer.follow, hcolumn, valueText]
  split <;> simp

/-- **An item is read.** -/
theorem isBlock_item {json : Json} (hjson : json.HasNoFloats) (hread : IsReadInLines json)
    (column : Nat) :
    IsBlock column .blockSequence ('-' :: ' ' :: valueText column json)
      (.entry :: tokensOf json) where
  toIsText := isText_cons (by decide)
    (List.forall_mem_cons.2 ⟨by decide, (isText_valueText hjson hread column).isPrintable⟩)
  endsAt {s c c' tokens indents d next} hs hcolumn htop hline hd := by
    subst hcolumn
    have htext := isText_valueText hjson hread c.column
    have hvalue : Line (c.after ['-', ' ']) (valueText c.column json) d next c' :=
      hline.drop htext.ne_nil
    obtain ⟨s', hstep, hat⟩ := exists_entry hs htop hline.rest
      (htext.startsToken.append htext.ne_nil _) (List.append_ne_nil_of_left_ne_nil htext.ne_nil _)
    have hplace : (c.after ['-', ' ']).column = c.column + 2 :=
      Cursor.column_after (List.forall_mem_cons.2
        ⟨by decide, List.forall_mem_singleton.2 (by decide)⟩) c
    have hend := endsAt_value hjson hread hat (top_opened htop) hplace hvalue hd
    exact .of_step hstep (by simpa using hend)

/-- The first line of an entry whose key has an indicator. -/
def keyLine (column : Nat) (k : String) : List Char :=
  '?' :: ' ' :: (Printer.scalar (column + 2) k).toList

/-- **An entry whose key has an indicator is read.** -/
theorem isBlock_complexEntry {json : Json} (hjson : json.HasNoFloats) (hread : IsReadInLines json)
    (column : Nat) (k : String) :
    IsBlock column .blockMapping
      (keyLine column k ++ (lineEnd (keyLine column k)
        ++ (List.replicate column ' ' ++ ':' :: ' ' :: valueText column json)))
      (.key :: .scalar (Printer.style k) k :: .value :: tokensOf json) where
  toIsText := by
    have hkey := (written_scalar (column + 2) k).isPrintable
    have hvalue := (isText_valueText hjson hread column).isPrintable
    have hline : IsText (keyLine column k) :=
      isText_cons (by decide) (List.forall_mem_cons.2 ⟨by decide, hkey⟩)
    exact hline.append (isPrintable_lineEnd_spaces _ column
      (List.forall_mem_cons.2 ⟨by decide, List.forall_mem_cons.2 ⟨by decide, hvalue⟩⟩))
  endsAt {s c c' tokens indents d next} hs hcolumn htop hline hd := by
    subst hcolumn
    have hw := written_scalar (c.column + 2) k
    have htext := isText_valueText hjson hread c.column
    have hopened := top_opened htop
    have hfirst := hline.first (List.cons_ne_nil ':' _)
      (startsToken_cons.2 ⟨by decide, by decide, by decide⟩)
    have hsecond := hline.second (List.cons_ne_nil ':' _)
    generalize hc₁ : c.after (keyLine c.column k
      ++ (lineEnd (keyLine c.column k) ++ List.replicate c.column ' ')) = c₁ at hfirst hsecond
    -- the key
    have hkey : Line (c.after ['?', ' ']) _ c.column _ c₁ := hfirst.drop hw.ne_nil
    have hkeyColumn : (c.after ['?', ' ']).column = c.column + 2 :=
      Cursor.column_after (List.forall_mem_cons.2
        ⟨by decide, List.forall_mem_singleton.2 (by decide)⟩) c
    obtain ⟨s₁, hstep₁, hat₁⟩ := exists_question hs htop hfirst.rest
      (hw.startsToken.append hw.ne_nil _) (List.append_ne_nil_of_left_ne_nil hw.ne_nil _)
    obtain ⟨s₂, hstep₂, hat₂⟩ := exists_scalar hat₁ hw (by rw [hopened]; rfl) (by omega)
      (fun _ => head?_ne (by omega)) hkey.rest hkey.next (.inl (by omega)) hkey.place
    have hlimit : top (opened c.column indents) ≤ limit c₁ := by
      rw [hopened, limit_eq hfirst.rest_place (List.cons_ne_nil ':' _), hfirst.column_place]
    rw [ended_eq_zero hlimit, left_eq_self hlimit] at hat₂
    -- the colon and the value
    obtain ⟨s₃, hstep₃, hat₃⟩ := exists_colon hat₂ (by rw [hopened, hfirst.column_place])
      hsecond.rest (htext.startsToken.append htext.ne_nil _)
      (List.append_ne_nil_of_left_ne_nil htext.ne_nil _)
    have hvalue : Line (c₁.after [':', ' ']) _ d next c' := hsecond.drop htext.ne_nil
    have hvalueColumn : (c₁.after [':', ' ']).column = c.column + 2 := by
      rw [Cursor.column_after (List.forall_mem_cons.2
        ⟨by decide, List.forall_mem_singleton.2 (by decide)⟩), hfirst.column_place]
      rfl
    have hend := endsAt_value hjson hread hat₃ hopened hvalueColumn hvalue hd
    refine .of_step hstep₁ (.of_step hstep₂ (.of_step hstep₃ ?_))
    simpa using hend

/-- What is written behind the colon of a simple key: a value in its line, or the lines of a
collection. -/
def afterColon (column : Nat) (json : Json) : List Char :=
  (Printer.follow column true json
    (Printer.lines (Printer.columnOf column true json) json)).toList

/-- A value in the line of its key is read as it is. -/
theorem loosen_inline {json : Json} {column : Nat} (hjson : json.HasNoFloats)
    (hlines : Printer.lines column json = []) : loosen (tokensOf json) = tokensOf json := by
  rcases inline_cases hjson hlines 0 with ⟨style, text, -, htokens⟩ | ⟨b, -, htokens⟩
  · rw [htokens]
    rfl
  · rw [htokens]
    rfl

/-- The lines of a collection below its key: a sequence in the column of the key is read without
start and end. -/
theorem endsAt_below {json : Json} {column : Nat} (hread : IsReadInLines json)
    (hlines : Printer.lines (Printer.columnOf column true json) json ≠ [])
    (hs : s.IsAt c tokens indents true) (htop : top indents = column + 1)
    (hcolumn : c.column = Printer.columnOf column true json)
    (hline : Line c (Printer.stack (Printer.columnOf column true json)
      (Printer.lines (Printer.columnOf column true json) json)).toList d next c')
    (hd : d ≤ column) : s.EndsAt c' (tokens ++ loosen (tokensOf json)) indents := by
  cases json with
  | arr items =>
    have hsame : Printer.columnOf column true (.arr items) = column := by simp [Printer.columnOf]
    rw [hsame] at hcolumn hline hlines
    have hnot : ¬ top indents ≤ column := by omega
    have hend := (hread column hlines).endsAt hs hcolumn (by omega) hline hd
    rw [opened, if_neg hnot, opening, if_neg hnot, List.append_nil] at hend
    simpa [tokensOf_eq hlines, startOf, loosen] using hend
  | obj members =>
    have hnext : Printer.columnOf column true (.obj members) = column + 2 := rfl
    rw [hnext] at hcolumn hline hlines
    have hloose : loosen (tokensOf (.obj members)) = tokensOf (.obj members) := by
      rw [tokensOf_eq hlines]
      rfl
    rw [hloose]
    exact endsAt_nested hread hlines hs hcolumn (by omega) hline (.inl (by omega)) (by omega)
  | _ => exact absurd rfl hlines

/-- What is written behind a colon is a gap and a text that is read. -/
theorem exists_afterColon {json : Json} (hjson : json.HasNoFloats) (hread : IsReadInLines json)
    (column : Nat) :
    ∃ broken n text, afterColon column json = between broken n ++ text ∧ IsText text
      ∧ (∀ more, atGap (between broken n ++ more) = true) ∧ (broken = true → column ≤ n)
      ∧ ∀ {s : Scan} {c c' : Cursor} {tokens : List Token} {indents : List Nat} {d : Nat}
        {next : List Char}, s.IsAt c tokens indents broken → top indents = column + 1 →
        (broken = true → c.column = n) → column ≤ c.column → Line c text d next c' → d ≤ column →
        s.EndsAt c' (tokens ++ loosen (tokensOf json)) indents := by
  by_cases hlines : Printer.lines (Printer.columnOf column true json) json = []
  · refine ⟨false, 1, (Printer.inline column json).toList, ?_, isText_inline hjson hlines column,
      fun _ => show isGap ' ' = true by decide, by simp, ?_⟩
    · simp [afterColon, Printer.follow, hlines, between]
    · intro s c c' tokens indents d next hs htop _ hcolumn hline hd
      rw [loosen_inline hjson hlines]
      exact endsAt_inline hjson hlines hs (by omega) (by omega) (by simp) hline (.inl (by omega))
  · refine ⟨true, Printer.columnOf column true json,
      (Printer.stack (Printer.columnOf column true json)
        (Printer.lines (Printer.columnOf column true json) json)).toList, ?_,
      (hread _ hlines).toIsText, fun _ => show isGap '\n' = true by decide, fun _ => ?_, ?_⟩
    · have hempty : (Printer.lines (Printer.columnOf column true json) json).isEmpty = false := by
        simpa using hlines
      simp [afterColon, Printer.follow, hempty, between]
    · cases json <;> simp [Printer.columnOf]
    · intro s c c' tokens indents d next hs htop hplace _ hline hd
      exact endsAt_below hread hlines hs htop (hplace rfl) hline hd

/-- Behind a key and its colon the column is that of the next line, or further to the right. -/
theorem column_after_key {key : List Char} (broken : Bool) (n : Nat)
    (hkey : ∀ x ∈ key, isBreak x = false) (c : Cursor) :
    (broken = true → (c.after (key ++ ':' :: between broken n)).column = n)
      ∧ ((broken = true → c.column ≤ n) →
        c.column ≤ (c.after (key ++ ':' :: between broken n)).column) := by
  have hspaces : ∀ x ∈ List.replicate n ' ', isBreak x = false := fun x hx =>
    List.eq_of_mem_replicate hx ▸ by decide
  cases broken with
  | true =>
    have hsplit : key ++ ':' :: between true n = key ++ [':'] ++ '\n' :: List.replicate n ' ' := by
      simp [between]
    have hcolumn : (c.after (key ++ ':' :: between true n)).column = n := by
      rw [hsplit, Cursor.column_after_line (by decide) hspaces, List.length_replicate]
    refine ⟨fun _ => hcolumn, fun h => ?_⟩
    rw [hcolumn]
    exact h rfl
  | false =>
    have hline : ∀ x ∈ key ++ ':' :: between false n, isBreak x = false := by
      rw [List.forall_mem_append, List.forall_mem_cons]
      exact ⟨hkey, by decide, by simpa [between] using hspaces⟩
    refine ⟨by simp, fun _ => ?_⟩
    rw [Cursor.column_after hline]
    exact Nat.le_add_right _ _

/-- **An entry with a simple key is read.** -/
theorem isBlock_simpleEntry {json : Json} (hjson : json.HasNoFloats) (hread : IsReadInLines json)
    (column : Nat) {k : String} (hk : Printer.isComplexKey k = false) :
    IsBlock column .blockMapping
      ((Printer.scalar (column + 2) k).toList ++ ':' :: afterColon column json)
      (.key :: .scalar (Printer.style k) k :: .value :: loosen (tokensOf json)) := by
  have hw := written_scalar (column + 2) k
  obtain ⟨hbreak, hlength, hstyle⟩ := hw.of_simpleKey hk
  obtain ⟨broken, n, text, hsplit, htext, hgap, hcolumnLe, hvalue⟩ :=
    exists_afterColon hjson hread column
  have hbetween : ∀ x ∈ between broken n, isPrintable x = true := by
    rw [between, List.forall_mem_append]
    refine ⟨?_, Scalar.isPrintable_replicate n⟩
    cases broken with
    | false => exact List.forall_mem_nil _
    | true => exact List.forall_mem_singleton.2 (by decide)
  rw [hsplit]
  refine ⟨(isText_of_written hw).append (List.forall_mem_cons.2
    ⟨by decide, List.forall_mem_append.2 ⟨hbetween, htext.isPrintable⟩⟩), ?_⟩
  intro s c c' tokens indents d next hs hcolumn htop hline hd
  subst hcolumn
  have hparts : (Printer.scalar (c.column + 2) k).toList ++ ':' :: (between broken n ++ text)
      = ((Printer.scalar (c.column + 2) k).toList ++ ':' :: between broken n) ++ text := by simp
  rw [hparts] at hline
  have hrest := hline.rest
  have hvalueLine := hline.drop htext.ne_nil
  have hvalueRest := hvalueLine.rest
  generalize hc₁ : c.after ((Printer.scalar (c.column + 2) k).toList ++ ':' :: between broken n)
    = c₁ at hvalueLine hvalueRest
  have hcolumn₁ := column_after_key broken n hbreak c
  rw [hc₁] at hcolumn₁
  have hkeyRest : c.rest = (Printer.scalar (c.column + 2) k).toList ++ ':' :: (between broken n
      ++ (text ++ (lineEnd text ++ (List.replicate d ' ' ++ next)))) := by
    rw [hrest, lineEnd_append htext.ne_nil]
    simp
  have hlimit : c.column + 1 ≤ limit c₁ := by
    rw [limit_eq hvalueRest (List.append_ne_nil_of_left_ne_nil htext.ne_nil _)]
    exact Nat.succ_le_succ (hcolumn₁.2 hcolumnLe)
  obtain ⟨s', hs', hat⟩ := exists_key broken hs hw hstyle (by omega) hbreak hlength htop hkeyRest
    (hgap _) (htext.startsToken.append htext.ne_nil _) (hc₁ ▸ hlimit)
  rw [hc₁] at hat
  have hend := hvalue hat (top_opened htop) hcolumn₁.1 (hcolumn₁.2 hcolumnLe) hvalueLine hd
  rw [String.ofList_toList] at hend
  exact .of_reaches hs' (by simpa using hend)

/-! ### Lines of collections -/

/-- **Lines that are read one by one are read one below the other.** -/
theorem IsBlock.stack {column : Nat} {start : Token} {lines : List String}
    {toks : List (List Token)}
    (h : List.Forall₂ (fun line ts => IsBlock column start line.toList ts) lines toks)
    (hne : lines ≠ []) :
    IsBlock column start (Printer.stack column lines).toList toks.flatten := by
  induction h with
  | nil => exact absurd rfl hne
  | @cons line ts lines toks hline hlines ih =>
    cases hlines with
    | nil => simpa [Printer.stack] using hline
    | @cons line' ts' lines toks hline' hlines =>
      have hstack : (Printer.stack column (line :: line' :: lines)).toList
          = line.toList ++ (lineEnd line.toList ++ (List.replicate column ' '
            ++ (Printer.stack column (line' :: lines)).toList)) := by
        simp [Printer.stack, toList_endLine]
      rw [hstack, List.flatten_cons]
      exact hline.append (ih (List.cons_ne_nil _ _))

/-- The line of an item. -/
theorem toList_itemLine (column : Nat) (json : Json) :
    ("-" ++ Printer.follow column false json
        (Printer.lines (Printer.columnOf column false json) json)).toList
      = '-' :: ' ' :: valueText column json := by
  rw [String.toList_append, toList_follow_false]
  rfl

theorem isBlock_items {items : List Json} (hitems : ∀ x ∈ items, x.HasNoFloats)
    (hread : ∀ x ∈ items, IsReadInLines x) (column : Nat) :
    List.Forall₂ (fun line ts => IsBlock column .blockSequence line.toList ts)
      (Printer.itemLines column items) (items.map fun x => .entry :: tokensOf x) := by
  induction items with
  | nil => exact .nil
  | cons x xs ih =>
    rw [List.forall_mem_cons] at hitems hread
    refine .cons ?_ (ih hitems.2 hread.2)
    rw [toList_itemLine]
    exact isBlock_item hitems.1 hread.1 column

theorem itemTokens_eq (items : List Json) :
    itemTokens items = (items.map fun x => .entry :: tokensOf x).flatten := by
  induction items with
  | nil => rfl
  | cons x xs ih => simp [itemTokens, ih]

/-- The tokens of an entry. -/
def tokensOfEntry (k : String) (json : Json) : List Token :=
  .key :: .scalar (Printer.style k) k :: .value
    :: (if Printer.isComplexKey k then tokensOf json else loosen (tokensOf json))

theorem entryTokens_eq (members : List (String × Json)) :
    entryTokens members = (members.map fun e => tokensOfEntry e.1 e.2).flatten := by
  induction members with
  | nil => rfl
  | cons e es ih => simp [entryTokens, tokensOfEntry, ih]

theorem isBlock_entries {members : List (String × Json)} (hmembers : ∀ e ∈ members, e.2.HasNoFloats)
    (hread : ∀ e ∈ members, IsReadInLines e.2) (column : Nat) :
    List.Forall₂ (fun line ts => IsBlock column .blockMapping line.toList ts)
      (Printer.entryLines column members) (members.map fun e => tokensOfEntry e.1 e.2) := by
  induction members with
  | nil => exact .nil
  | cons e es ih =>
    rw [List.forall_mem_cons] at hmembers hread
    refine .cons ?_ (ih hmembers.2 hread.2)
    obtain ⟨k, json⟩ := e
    cases hk : Printer.isComplexKey k with
    | true =>
      have hline : (Printer.key column k ++ Printer.follow column false json
          (Printer.lines (Printer.columnOf column false json) json)).toList
          = keyLine column k ++ (lineEnd (keyLine column k)
            ++ (List.replicate column ' ' ++ ':' :: ' ' :: valueText column json)) := by
        rw [String.toList_append, toList_follow_false]
        simp [Printer.key, hk, toList_endLine, keyLine]
      simp only [hk, Bool.not_true, tokensOfEntry, if_true]
      rw [hline]
      exact isBlock_complexEntry hmembers.1 hread.1 column k
    | false =>
      have hline : (Printer.key column k ++ Printer.follow column true json
          (Printer.lines (Printer.columnOf column true json) json)).toList
          = (Printer.scalar (column + 2) k).toList ++ ':' :: afterColon column json := by
        simp [Printer.key, hk, afterColon]
      simp only [hk, Bool.not_false, tokensOfEntry, Bool.false_eq_true, if_false]
      rw [hline]
      exact isBlock_simpleEntry hmembers.1 hread.1 column hk

/-- **The lines of a collection are read**, whatever is in it. -/
theorem isReadInLines {json : Json} (h : json.HasNoFloats) : IsReadInLines json := by
  induction h with
  | @arr items hitems ih =>
    intro column hlines
    rw [bodyOf, itemTokens_eq]
    exact .stack (isBlock_items hitems ih column) hlines
  | @obj members hmembers ih =>
    intro column hlines
    rw [bodyOf, entryTokens_eq]
    exact .stack (isBlock_entries hmembers ih column) hlines
  | _ => exact fun _ hlines => absurd rfl hlines

/-! ### Documents -/

/-- The text of a document up to the end of its last line. -/
def rootText (json : Json) : List Char :=
  (if (Printer.lines 0 json).isEmpty then Printer.inline 0 json
    else Printer.stack 0 (Printer.lines 0 json)).toList

theorem toList_render (json : Json) :
    (render json).toList = rootText json ++ lineEnd (rootText json) :=
  toList_endLine _

theorem isText_rootText {json : Json} (h : json.HasNoFloats) : IsText (rootText json) := by
  unfold rootText
  split
  · next hlines => exact isText_inline h (List.isEmpty_iff.1 hlines) 0
  · next hlines =>
    exact (isReadInLines h 0 fun hnil => hlines (List.isEmpty_iff.2 hnil)).toIsText

/-- **A document is read up to the end of the text.** -/
theorem endsAt_root {json : Json} (h : json.HasNoFloats) (hs : s.IsAt c tokens [] true)
    (hcolumn : c.column = 0) (hline : Line c (rootText json) 0 [] c') :
    s.EndsAt c' (tokens ++ tokensOf json) [] := by
  unfold rootText at hline
  split at hline
  · next hlines =>
    exact endsAt_inline h (List.isEmpty_iff.1 hlines) hs rfl (Nat.zero_le _) (by simp) hline
      (.inr ⟨rfl, rfl⟩)
  · next hlines =>
    exact endsAt_nested (isReadInLines h) (fun hnil => hlines (List.isEmpty_iff.2 hnil)) hs hcolumn
      (Nat.le_refl 0) hline (.inr rfl) (Nat.le_refl 0)

/-- The beginning of a text. -/
theorem isAt_start {cs : List Char} (hstart : StartsToken cs) :
    (start cs).settle? = some (start cs) ∧ (start cs).IsAt (.ofText cs) [] [] true := by
  have hrest : (start cs).cursor.rest = between false 0 ++ cs := rfl
  refine ⟨?_, rfl, Reads.start, rfl, rfl, rfl, rfl⟩
  rw [settle?_between false rfl hrest hstart rfl rfl]
  rfl

/-- The mark that starts a document. -/
theorem exists_documentStart {cs : List Char} (hs : s.IsAt c [] [] true) (hcolumn : c.column = 0)
    (hrest : c.rest = "---\n".toList ++ cs) (hstart : StartsToken cs) :
    ∃ s', Step s s' ∧ s'.IsAt (c.after "---\n".toList) [.documentStart] [] true := by
  obtain ⟨pieces, filled, slots, rfl, hreads⟩ := hs.exists_eq
  have hline : ∀ x ∈ List.replicate 3 '-', isBreak x = false := fun x hx =>
    List.eq_of_mem_replicate hx ▸ by decide
  have hskip : c.skip 3 = c.after "---".toList := (Cursor.after_eq_skip hline c).symm
  have hread : read? ⟨c, pieces, filled, slots, [], none, [], true⟩
      = some ⟨c.after "---".toList, .token .documentStart :: pieces, filled, slots, [], none, [],
        false⟩ := by
    have hdashes : c.rest = '-' :: '-' :: '-' :: '\n' :: cs := hrest
    have hmark : c.atMark = true := by
      simp [Cursor.atMark, hcolumn, hdashes, startsWithMark]
      decide
    rw [read?_eq hdashes]
    simp [token?, hmark, documentToken?, dedentAll, pushEnds, dropCandidate?, push, move, hskip]
  have hsplit : c.rest = "---".toList ++ (between true 0 ++ cs) := hrest
  obtain ⟨s', hstep, hat⟩ := exists_step true 0 hread hsplit (by decide) hstart rfl rfl rfl rfl
    (hreads.push .documentStart)
  exact ⟨s', hstep, hat⟩

/-- Steps through a document lead to the end of its text. -/
theorem toEnd?_root {json : Json} (h : json.HasNoFloats) {s₀ : Scan} (hsettle : s₀.settle? = some s)
    (hs : Reaches s s') (hat : s'.IsAt c tokens [] true) (hcolumn : c.column = 0)
    (hrest : c.rest = (render json).toList) {fuel : Nat} (hfuel : s.cursor.rest.length < fuel) :
    (s₀.toEnd? fuel).map (·.tokens) = some (tokens ++ tokensOf json) := by
  have hline : Line c (rootText json) 0 [] (c.after (rootText json ++ (lineEnd (rootText json)
      ++ List.replicate 0 ' '))) := ⟨by simpa [toList_render] using hrest, .nil, rfl⟩
  obtain ⟨t, ht, htat⟩ := endsAt_root h hat hcolumn hline
  have hend : t.cursor.rest = [] := by rw [htat.cursor, hline.rest_place]
  rw [toEnd?_of_reaches (Relation.ReflTransGen.trans hs ht) hend htat.indents htat.candidate fuel s₀
    hsettle hfuel, Option.map_some, htat.tokens_eq]
  simp [ended]

end Scan

/-- **A document that is printed is scanned**, with or without the mark that starts a document. -/
theorem Token.scan?_render {json : Json} (h : json.HasNoFloats) :
    Token.scan? (render json) = some (tokensOf json)
      ∧ Token.scan? ("---\n" ++ render json) = some (.documentStart :: tokensOf json) := by
  have htext : Scan.IsText (render json).toList := by
    have hroot := Scan.isText_rootText h
    have hprint := Scan.isPrintable_lineEnd_spaces (Scan.rootText json) 0 (List.forall_mem_nil _)
    rw [Scan.toList_render]
    exact hroot.append (by simpa using hprint)
  have hallowed : (render json).toList.all isAllowed = true :=
    List.all_eq_true.2 fun x hx => isAllowed_of_isPrintable (htext.isPrintable x hx)
  constructor
  · obtain ⟨hsettle, hat⟩ := Scan.isAt_start htext.startsToken
    rw [Token.scan?, if_pos hallowed]
    exact Scan.toEnd?_root h hsettle .refl hat rfl rfl (Nat.lt_succ_self _)
  · have hsplit : ("---\n" ++ render json).toList = "---\n".toList ++ (render json).toList :=
      String.toList_append
    have hstart : StartsToken ("---\n" ++ render json).toList := by
      rw [hsplit]
      exact startsToken_cons.2 ⟨by decide, by decide, by decide⟩
    obtain ⟨hsettle, hat⟩ := Scan.isAt_start hstart
    obtain ⟨s', hstep, hat'⟩ := Scan.exists_documentStart hat rfl hsplit htext.startsToken
    have hall : ("---\n" ++ render json).toList.all isAllowed = true := by
      rw [hsplit, List.all_append, hallowed]
      decide
    rw [Token.scan?, if_pos hall]
    exact Scan.toEnd?_root h hsettle (Relation.ReflTransGen.single hstep) hat' rfl
      (Cursor.rest_after hsplit) (Nat.lt_succ_self _)

end Yaml

end Sidecar
