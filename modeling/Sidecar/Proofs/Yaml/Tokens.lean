/-
**Tokens as they are printed.**

What the printer writes of a collection is a sequence of indicators, keys, scalars and empty
brackets, each with a gap behind it.  For each of these there is a step, or there are two: to which
place it leads, which tokens it reads, and which collections are open then.

Main definitions:

* `Sidecar.Yaml.Scan.opened`, `Sidecar.Yaml.Scan.opening` — the collections that are open once one
  of that column is, and the token if it starts there;
* `Sidecar.Yaml.Scan.behindKey`, `Sidecar.Yaml.Scan.within` — the states between the two steps of a
  simple key and of an empty collection.

Main results:

* `Sidecar.Yaml.Scan.exists_indicator`, `Sidecar.Yaml.Scan.exists_colon` — the indicators;
* `Sidecar.Yaml.Scan.exists_key` — **a simple key with its colon**;
* `Sidecar.Yaml.Scan.exists_scalar`, `Sidecar.Yaml.Scan.exists_brackets` — **what ends a line**: a
  scalar and an empty collection.
-/

import Sidecar.Proofs.Yaml.Scan
import Sidecar.Proofs.Yaml.Written

set_option autoImplicit false

namespace Sidecar.Yaml.Scan

variable {s : Scan} {c : Cursor} {tokens : List Token} {indents : List Nat} {next : List Char}

/-! ### Indicators -/

/-- The open collections, once one of that column is. -/
def opened (column : Nat) (indents : List Nat) : List Nat :=
  if top indents ≤ column then column :: indents else indents

/-- The token for the start of a collection in that column, unless it is open. -/
def opening (t : Token) (column : Nat) (indents : List Nat) : List Token :=
  if top indents ≤ column then [t] else []

theorem top_opened {column : Nat} (h : top indents ≤ column + 1) :
    top (opened column indents) = column + 1 := by
  unfold opened
  split
  · rfl
  · omega

theorem opened_opened (column : Nat) (indents : List Nat) :
    opened column (opened column indents) = opened column indents := by
  unfold opened
  split
  · simp [top]
  · rfl

theorem opening_opened (t : Token) (column : Nat) (indents : List Nat) :
    opening t column (opened column indents) = [] := by
  unfold opening opened
  split
  · simp [top]
  · rfl

theorem Reads.opening {pieces : List Piece} {filled : List (Nat × List Token)} {slots : Nat}
    (h : Reads pieces filled slots tokens) (t : Token) (column : Nat) (indents : List Nat) :
    Reads ((opening t column indents).map .token ++ pieces) filled slots
      (tokens ++ Scan.opening t column indents) := by
  unfold Scan.opening
  split
  · exact h.push t
  · simpa using h

/-- The place where a next token is at hand is within its line. -/
theorem limit_eq (hrest : c.rest = next) (hne : next ≠ []) : limit c = c.column + 1 := by
  simp [limit, hrest, hne]

/-- A token of one character and a space behind it do not leave the line, so nothing ends. -/
theorem exists_step_space {s₁ : Scan} {x : Char} (hrest : s.cursor.rest = x :: ' ' :: next)
    (hnext : StartsToken next) (hne : next ≠ []) (hline : isBreak x = false)
    (hread : s.read? = some s₁) (hcursor : s₁.cursor = s.cursor.after [x]) (houter : s₁.outer = [])
    (hcandidate : s₁.candidate = none) (htop : top s₁.indents ≤ s.cursor.column + 1)
    (hreads : Reads s₁.pieces s₁.filled s₁.slots tokens) :
    ∃ s', Step s s' ∧ s'.IsAt (s.cursor.after [x, ' ']) tokens s₁.indents s₁.keyAllowed := by
  have hcolumn : (s.cursor.after [x, ' ']).column = s.cursor.column + 2 :=
    Cursor.column_after (List.forall_mem_cons.2 ⟨hline, List.forall_mem_singleton.2 (by decide)⟩) _
  have hlimit : top s₁.indents ≤ limit (s.cursor.after [x, ' ']) := by
    rw [limit_eq (Cursor.rest_after (by rw [hrest]; rfl)) hne, hcolumn]
    omega
  obtain ⟨s', hstep, hat⟩ := exists_step (w := [x]) false 1 hread hrest (List.cons_ne_nil x [])
    hnext hcursor rfl houter (by rw [hcandidate]; rfl) hreads
  rw [show [x] ++ between false 1 = [x, ' '] from rfl, ended_eq_zero hlimit,
    left_eq_self hlimit] at hat
  exact ⟨s', hstep, by simpa using hat⟩

theorem skip_one {x : Char} (hline : isBreak x = false) (c : Cursor) : c.skip 1 = c.after [x] :=
  (Cursor.after_eq_skip (List.forall_mem_singleton.2 hline) c).symm

/-- The indicator of an entry or of a key, before the first token of that. -/
theorem exists_indicator {x : Char} {start t : Token} (hs : s.IsAt c tokens indents true)
    (htop : top indents ≤ c.column + 1) (hrest : c.rest = x :: ' ' :: next)
    (hnext : StartsToken next) (hne : next ≠ []) (hline : isBreak x = false)
    (htoken : s.token? x (' ' :: next) = s.indicator? start t true) :
    ∃ s', Step s s' ∧ s'.IsAt (c.after [x, ' ']) (tokens ++ opening start c.column indents ++ [t])
      (opened c.column indents) true := by
  obtain ⟨pieces, filled, slots, rfl, hreads⟩ := hs.exists_eq
  have hread : read? ⟨c, pieces, filled, slots, indents, none, [], true⟩
      = some ⟨c.after [x], .token t :: ((opening start c.column indents).map .token ++ pieces),
        filled, slots, opened c.column indents, none, [], true⟩ := by
    rw [read?_eq hrest, htoken]
    by_cases hstarts : top indents ≤ c.column <;>
      simp [indicator?, indentTo, inFlow, margin_eq, opening, opened, hstarts, push, move,
        dropCandidate?, skip_one hline]
  exact exists_step_space hrest hnext hne hline hread rfl rfl rfl (top_opened htop).le
    ((hreads.opening start c.column indents).push t)

/-- The indicator of an entry. -/
theorem exists_entry (hs : s.IsAt c tokens indents true) (htop : top indents ≤ c.column + 1)
    (hrest : c.rest = '-' :: ' ' :: next) (hnext : StartsToken next) (hne : next ≠ []) :
    ∃ s', Step s s' ∧ s'.IsAt (c.after ['-', ' '])
      (tokens ++ opening .blockSequence c.column indents ++ [.entry])
      (opened c.column indents) true := by
  have hmark : s.cursor.atMark = false := by
    simp [Cursor.atMark, hs.cursor, hrest, startsWithMark]
  refine exists_indicator hs htop hrest hnext hne (by decide) ?_
  simp [token?, hmark, show isGap ' ' = true by decide]

/-- The indicator of a key. -/
theorem exists_question (hs : s.IsAt c tokens indents true) (htop : top indents ≤ c.column + 1)
    (hrest : c.rest = '?' :: ' ' :: next) (hnext : StartsToken next) (hne : next ≠ []) :
    ∃ s', Step s s' ∧ s'.IsAt (c.after ['?', ' '])
      (tokens ++ opening .blockMapping c.column indents ++ [.key])
      (opened c.column indents) true := by
  have hmark : s.cursor.atMark = false := by
    simp [Cursor.atMark, hs.cursor, hrest, startsWithMark]
  refine exists_indicator hs htop hrest hnext hne (by decide) ?_
  simp [token?, hmark, show isGap ' ' = true by decide, inFlow, hs.outer]

/-- The colon after a key that has an indicator. -/
theorem exists_colon (hs : s.IsAt c tokens indents true) (htop : top indents = c.column + 1)
    (hrest : c.rest = ':' :: ' ' :: next) (hnext : StartsToken next) (hne : next ≠ []) :
    ∃ s', Step s s' ∧ s'.IsAt (c.after [':', ' ']) (tokens ++ [.value]) indents true := by
  obtain ⟨pieces, filled, slots, rfl, hreads⟩ := hs.exists_eq
  have hline : isBreak ':' = false := by decide
  have hmark : c.atMark = false := by simp [Cursor.atMark, hrest, startsWithMark]
  have hread : read? ⟨c, pieces, filled, slots, indents, none, [], true⟩
      = some ⟨c.after [':'], .token .value :: pieces, filled, slots, indents, none, [], true⟩ := by
    rw [read?_eq hrest]
    simp [token?, hmark, show isGap ' ' = true by decide, value?, inFlow, indentTo, margin_eq, htop,
      push, move, skip_one hline]
  exact exists_step_space hrest hnext hne hline hread rfl rfl rfl htop.le (hreads.push .value)

/-! ### Scalars -/

theorem startsWithMark_iff {cs : List Char} :
    startsWithMark cs = true ↔ ∃ x rest, (x = '-' ∨ x = '.') ∧ cs = x :: x :: x :: rest := by
  constructor
  · intro h
    unfold startsWithMark at h
    split at h
    · exact ⟨'-', _, .inl rfl, rfl⟩
    · exact ⟨'.', _, .inr rfl, rfl⟩
    · cases h
  · rintro ⟨x, rest, rfl | rfl, rfl⟩ <;> rfl

/-- Where a text begins like no mark between documents, none stands. -/
theorem startsWithMark_append {cs more : List Char} (h : startsWithMark cs = false) (hne : cs ≠ [])
    (hmore : ∀ x ∈ more.head?, x ≠ '-' ∧ x ≠ '.') : startsWithMark (cs ++ more) = false := by
  rw [← Bool.not_eq_true, startsWithMark_iff]
  rintro ⟨x, rest, hx, heq⟩
  have hhead : ∀ rest, more ≠ x :: rest := by
    rintro rest rfl
    exact hx.elim (hmore x rfl).1 (hmore x rfl).2
  rcases cs with - | ⟨y, - | ⟨z, - | ⟨w, cs⟩⟩⟩
  · exact hne rfl
  · exact hhead _ (List.cons.inj heq).2
  · exact hhead _ (List.cons.inj (List.cons.inj heq).2).2
  · simp only [List.cons_append, List.cons.injEq] at heq
    obtain ⟨rfl, rfl, rfl, -⟩ := heq
    rw [startsWithMark_iff.2 ⟨_, cs, hx, rfl⟩] at h
    cases h

/-- A text that may be plain is taken for a plain scalar. -/
theorem read?_plain {cs more : List Char} (hplain : Printer.allowsPlain cs = true) (hne : cs ≠ [])
    (hmore : ∀ x ∈ more.head?, x ≠ '-' ∧ x ≠ '.') (hrest : s.cursor.rest = cs ++ more)
    (houter : s.outer = []) : s.cursor.atMark = false ∧ s.read? = s.plainToken? := by
  obtain ⟨x, cs, rfl⟩ := List.exists_cons_of_ne_nil hne
  have hgap := ((Scalar.fitsPlain_of_allowsPlain hplain).head x rfl).1
  simp only [Printer.allowsPlain, Printer.hasIndicator, Bool.not_eq_true',
    Bool.or_eq_false_iff] at hplain
  obtain ⟨-, ⟨⟨⟨hstart, hcontains, hfirst⟩, -⟩, -⟩, -⟩ := hplain
  have hmark : s.cursor.atMark = false := by
    rw [Cursor.atMark, hrest, startsWithMark_append hstart hne hmore]
    simp
  have hafter : x = '-' ∨ x = '?' ∨ x = ':' → atGap (cs ++ more) = false := by
    intro hx
    have hgap : atGap cs = false := by
      rcases hx with rfl | rfl | rfl <;> simpa using hfirst
    cases cs with
    | nil => cases hgap
    | cons y cs => exact hgap
  simp at hcontains
  refine ⟨hmark, ?_⟩
  rw [read?_eq hrest]
  by_cases hdash : x = '-'
  · subst hdash
    have hhead := hafter (.inl rfl)
    have hblank : (cs ++ more).head?.any isBlank = false := by
      cases hsplit : cs ++ more with
      | nil => rfl
      | cons y rest =>
        rw [hsplit] at hhead
        exact (Bool.or_eq_false_iff.1 hhead).1
    rw [List.head?_append] at hblank
    simp [token?, hmark, hhead, startsPlain, hblank]
  by_cases hquestion : x = '?'
  · subst hquestion
    have hhead := hafter (.inr (.inl rfl))
    simp [token?, hmark, hhead, startsPlain, inFlow, houter]
  by_cases hcolon : x = ':'
  · subst hcolon
    have hhead := hafter (.inr (.inr rfl))
    simp [token?, hmark, hhead, startsPlain, inFlow, houter]
  · simp [token?, hmark, hcontains, startsPlain, hdash, hquestion, hcolon, hgap]

/-- A quote begins a scalar in quotes. -/
theorem read?_quote (double : Bool) (hrest : s.cursor.rest = Scalar.quote double :: next) :
    s.read? = s.content? (quotedToken? double) := by
  rw [read?_eq hrest]
  cases double <;> simp [token?, Cursor.atMark, hrest, Scalar.quote, startsWithMark]

/-- A bar begins a literal block. -/
theorem read?_bar (hrest : s.cursor.rest = '|' :: next) (houter : s.outer = []) :
    s.read? = s.blockToken? true := by
  rw [read?_eq hrest]
  simp [token?, Cursor.atMark, hrest, startsWithMark, inFlow, houter]

/-- A state in which the next token is a candidate, if it may be a key. -/
def offered (c : Cursor) (pieces : List Piece) (filled : List (Nat × List Token)) (slots : Nat)
    (indents : List Nat) (keyAllowed : Bool) : Scan :=
  if keyAllowed then
    ⟨c, .slot slots :: pieces, filled, slots + 1, indents,
      some ⟨slots, indents.head? == some c.column, c⟩, [], keyAllowed⟩
  else ⟨c, pieces, filled, slots, indents, none, [], keyAllowed⟩

variable {pieces : List Piece} {filled : List (Nat × List Token)} {slots : Nat}

theorem offer?_eq (keyAllowed : Bool) :
    offer? ⟨c, pieces, filled, slots, indents, none, [], keyAllowed⟩
      = some (offered c pieces filled slots indents keyAllowed) := by
  cases keyAllowed <;> simp [offer?, offered, dropCandidate?, inFlow]

@[simp] theorem cursor_offered (keyAllowed : Bool) :
    (offered c pieces filled slots indents keyAllowed).cursor = c := by
  cases keyAllowed <;> rfl

@[simp] theorem indents_offered (keyAllowed : Bool) :
    (offered c pieces filled slots indents keyAllowed).indents = indents := by
  cases keyAllowed <;> rfl

@[simp] theorem outer_offered (keyAllowed : Bool) :
    (offered c pieces filled slots indents keyAllowed).outer = [] := by
  cases keyAllowed <;> rfl

/-- A scalar in its line is read as a token that is a candidate if a key may begin: in quotes, or
plain before a colon. -/
theorem read?_inLine {indent : Nat} {text cs : List Char} {style : Style} (keyAllowed : Bool)
    (hw : Written indent text style cs) (hstyle : style ≠ .literal) (hindent : indent ≠ 0)
    (htop : top indents ≤ c.column + 1) (hrest : c.rest = text ++ ':' :: next)
    (hgap : atGap next = true) :
    read? ⟨c, pieces, filled, slots, indents, none, [], keyAllowed⟩
      = some { (offered c pieces filled slots indents keyAllowed).push
          (.scalar style (String.ofList cs)) with
        cursor := c.after text, keyAllowed := false } := by
  cases hw with
  | plain hplain hne =>
    have hphrase := (Scalar.fitsPlain_of_allowsPlain hplain).isPhrase hne
    obtain ⟨hmark, hread⟩ := read?_plain (s := ⟨c, pieces, filled, slots, indents, none, [],
      keyAllowed⟩) hplain hne (by simp) hrest rfl
    have hscalar := Scalar.plain?_key hphrase hrest hgap hmark htop
    simp [hread, plainToken?, offer?_eq, inFlow, margin_eq, hscalar, push, move]
  | singleQuoted hfits =>
    have hscalar := Scalar.quoted?_singleQuoted hfits hindent (by simp) hrest
    rw [Scalar.toList_singleQuoted] at hrest
    have hread : read? ⟨c, pieces, filled, slots, indents, none, [], keyAllowed⟩ = _ :=
      read?_quote false hrest
    simp [hread, content?, offer?_eq, quotedToken?, hscalar, push, move]
  | doubleQuoted cs =>
    have hscalar := Scalar.quoted?_doubleQuoted hrest
    rw [Scalar.toList_doubleQuoted] at hrest
    have hread : read? ⟨c, pieces, filled, slots, indents, none, [], keyAllowed⟩ = _ :=
      read?_quote true hrest
    simp [hread, content?, offer?_eq, quotedToken?, hscalar, push, move]
  | literal _ _ => exact absurd rfl hstyle

/-- The state behind a scalar in its line that is a candidate for a key. -/
def behindKey (c : Cursor) (text : List Char) (scalar : Token) (pieces : List Piece)
    (filled : List (Nat × List Token)) (slots : Nat) (indents : List Nat) : Scan :=
  ⟨c.after text, .token scalar :: .slot slots :: pieces, filled, slots + 1, indents,
    some ⟨slots, indents.head? == some c.column, c⟩, [], false⟩

/-- At a colon in the same line, and not too far behind its beginning, the candidate stands. -/
theorem step_behindKey (pieces : List Piece) (filled : List (Nat × List Token)) (slots : Nat)
    {indent : Nat} {text cs : List Char} {style : Style} (hw : Written indent text style cs)
    (hstyle : style ≠ .literal) (hindent : indent ≠ 0) (hline : ∀ x ∈ text, isBreak x = false)
    (hlength : text.length ≤ 1024) (htop : top indents ≤ c.column + 1)
    (hrest : c.rest = text ++ ':' :: next) (hgap : atGap next = true) :
    Step ⟨c, pieces, filled, slots, indents, none, [], true⟩
      (behindKey c text (.scalar style (String.ofList cs)) pieces filled slots indents) := by
  have hcolon : (c.after text).rest = ':' :: next := Cursor.rest_after hrest
  have hstay : top indents ≤ limit (c.after text) := by
    rw [limit_eq hcolon (List.cons_ne_nil _ _), Cursor.column_after hline]
    omega
  have hfresh : fresh? (c.after text) (some ⟨slots, indents.head? == some c.column, c⟩)
      = some (some ⟨slots, indents.head? == some c.column, c⟩) := by
    have hnot : ¬ (c.line < (c.after text).line ∨ c.index + 1024 < (c.after text).index) := by
      rw [Cursor.line_after hline, Cursor.index_after]
      omega
    rw [fresh?, if_neg hnot]
  have hsettle : settle? { (offered c pieces filled slots indents true).push
        (.scalar style (String.ofList cs)) with cursor := c.after text, keyAllowed := false }
      = some (behindKey c text (.scalar style (String.ofList cs)) pieces filled slots indents) := by
    have hplace : (c.after text).after (between false 0) = c.after text := rfl
    rw [settle?_between false rfl hcolon
      (startsToken_cons.2 ⟨by decide, by decide, by decide⟩) hplace hfresh]
    simp [behindKey, offered, push, ended_eq_zero hstay, left_eq_self hstay]
  refine ⟨_, read?_inLine true hw hstyle hindent htop hrest hgap, hsettle, ?_⟩
  have hpos := List.length_pos_iff.2 hw.ne_nil
  simp only [behindKey, hcolon, hrest, List.length_append]
  omega

/-- The colon makes the candidate a key. -/
theorem read?_behindKey (pieces : List Piece) (filled : List (Nat × List Token)) (slots : Nat)
    (indents : List Nat) {text : List Char} (scalar : Token)
    (hcolon : (c.after text).rest = ':' :: next) (hgap : atGap next = true) :
    read? (behindKey c text scalar pieces filled slots indents)
      = some ⟨(c.after text).after [':'],
        .token .value :: .token scalar :: .slot slots :: pieces,
        (slots, opening .blockMapping c.column indents ++ [.key]) :: filled, slots + 1,
        opened c.column indents, none, [], false⟩ := by
  have hmark : (c.after text).atMark = false := by
    simp [Cursor.atMark, hcolon, startsWithMark]
  rw [behindKey, read?_eq hcolon]
  by_cases hstarts : top indents ≤ c.column <;>
    simp [token?, hmark, hgap, value?, indentTo, inFlow, margin_eq, opening, opened, hstarts, push,
      move, skip_one (show isBreak ':' = false by decide)]

/-- **A simple key with its colon** is read as the key that its candidate was offered for. -/
theorem exists_key {indent n : Nat} {text cs : List Char} {style : Style} (broken : Bool)
    (hs : s.IsAt c tokens indents true) (hw : Written indent text style cs)
    (hstyle : style ≠ .literal) (hindent : indent ≠ 0) (hline : ∀ x ∈ text, isBreak x = false)
    (hlength : text.length ≤ 1024) (htop : top indents ≤ c.column + 1)
    (hrest : c.rest = text ++ ':' :: (between broken n ++ next))
    (hgap : atGap (between broken n ++ next) = true) (hnext : StartsToken next)
    (hlimit : c.column + 1 ≤ limit (c.after (text ++ ':' :: between broken n))) :
    ∃ s', Reaches s s' ∧ s'.IsAt (c.after (text ++ ':' :: between broken n))
      (tokens ++ (opening .blockMapping c.column indents ++ [.key])
        ++ [.scalar style (String.ofList cs), .value])
      (opened c.column indents) broken := by
  obtain ⟨pieces, filled, slots, rfl, hreads⟩ := hs.exists_eq
  have hcolon : (c.after text).rest = ':' :: (between broken n ++ next) := Cursor.rest_after hrest
  have hfirst := step_behindKey pieces filled slots hw hstyle hindent hline hlength htop hrest hgap
  have hread := read?_behindKey pieces filled slots indents (.scalar style (String.ofList cs))
    hcolon hgap
  have hplace : (c.after text).after ([':'] ++ between broken n)
      = c.after (text ++ ':' :: between broken n) := by simp
  obtain ⟨s', hstep, hat⟩ := exists_step (w := [':']) broken n hread hcolon
    (List.cons_ne_nil ':' []) hnext rfl hplace rfl rfl
    (hreads.fill _ (.scalar style (String.ofList cs)))
  have hopen : top (opened c.column indents)
      ≤ limit (c.after (text ++ ':' :: between broken n)) := (top_opened htop).le.trans hlimit
  rw [ended_eq_zero hopen, left_eq_self hopen] at hat
  exact ⟨s', (Relation.ReflTransGen.single hfirst).tail hstep, by simpa using hat⟩

/-! ### Ends of lines -/

theorem lineEnd_append {text more : List Char} (hne : more ≠ []) :
    lineEnd (text ++ more) = lineEnd more := by
  rw [lineEnd, lineEnd, List.getLast?_append_of_ne_nil _ hne]

theorem lineEnd_eq {text : List Char} (h : ∀ x ∈ text.getLast?, isBreak x = false) :
    lineEnd text = ['\n'] := by
  rw [lineEnd, if_neg]
  cases hlast : text.getLast? with
  | none => simp
  | some x => simp [h x hlast]

theorem lineEnd_quoted (double : Bool) (inner : List Char) :
    lineEnd (Scalar.quote double :: inner ++ [Scalar.quote double]) = ['\n'] := by
  refine lineEnd_eq fun x hx => ?_
  rw [List.getLast?_concat] at hx
  cases hx
  cases double <;> decide

/-- A candidate for a scalar in an earlier line is stale, and nothing requires it. -/
theorem fresh?_offered {c' : Cursor} {keyAllowed : Bool}
    (hkey : keyAllowed = true → indents.head? ≠ some c.column) (hline : c.line < c'.line) :
    fresh? c' (offered c pieces filled slots indents keyAllowed).candidate = some none := by
  cases keyAllowed with
  | false => rfl
  | true =>
    have hrequired : (indents.head? == some c.column) = false := beq_eq_false_iff_ne.2 (hkey rfl)
    simp [offered, fresh?, hline, hrequired]

theorem reads_offered (hreads : Reads pieces filled slots tokens) (keyAllowed : Bool) :
    Reads (offered c pieces filled slots indents keyAllowed).pieces
      (offered c pieces filled slots indents keyAllowed).filled
      (offered c pieces filled slots indents keyAllowed).slots tokens := by
  cases keyAllowed with
  | false => exact hreads
  | true => exact hreads.offer

variable {indent d : Nat} {text cs : List Char} {style : Style} {keyAllowed : Bool}

/-- A scalar in quotes at the end of a line. -/
theorem exists_quoted (double : Bool) (hs : s.IsAt c tokens indents keyAllowed)
    (hkey : keyAllowed = true → indents.head? ≠ some c.column)
    (hscalar : quotedToken? double c = some (.scalar style (String.ofList cs), c.after text))
    (hquotes : ∃ inner, text = Scalar.quote double :: inner ++ [Scalar.quote double])
    (hrest : c.rest = text ++ (lineEnd text ++ (List.replicate d ' ' ++ next)))
    (hnext : StartsToken next) {c' : Cursor}
    (hc : c.after (text ++ (lineEnd text ++ List.replicate d ' ')) = c') :
    ∃ s', Step s s' ∧ s'.IsAt c'
      (tokens ++ [.scalar style (String.ofList cs)]
        ++ List.replicate (ended (limit c') indents) .blockEnd) (left (limit c') indents) true := by
  obtain ⟨pieces, filled, slots, rfl, hreads⟩ := hs.exists_eq
  obtain ⟨inner, rfl⟩ := hquotes
  rw [lineEnd_quoted double inner] at hrest hc
  have hread : read? ⟨c, pieces, filled, slots, indents, none, [], keyAllowed⟩
      = some { (offered c pieces filled slots indents keyAllowed).push
          (.scalar style (String.ofList cs)) with
        cursor := c.after (Scalar.quote double :: inner ++ [Scalar.quote double])
        keyAllowed := false } := by
    rw [read?_quote double hrest]
    simp [content?, offer?_eq, hscalar, push, move]
  have hlt : c.line < c'.line := hc ▸ Cursor.line_lt_after (by decide) c _ _
  obtain ⟨s', hstep, hat⟩ := exists_step true d hread hrest (by simp) hnext rfl hc
    (outer_offered keyAllowed) (fresh?_offered hkey hlt)
    ((reads_offered hreads keyAllowed).push (.scalar style (String.ofList cs)))
  exact ⟨s', hstep, by simpa [push] using hat⟩

/-- A plain scalar at the end of a line: its reader has passed over the break already. -/
theorem exists_plain (hs : s.IsAt c tokens indents keyAllowed)
    (hplain : Printer.allowsPlain cs = true) (hne : cs ≠ []) (htop : top indents ≤ c.column + 1)
    (hkey : keyAllowed = true → indents.head? ≠ some c.column)
    (hrest : c.rest = cs ++ (lineEnd cs ++ (List.replicate d ' ' ++ next)))
    (hnext : StartsToken next) (hend : d < top indents ∨ next = []) {c' : Cursor}
    (hc : c.after (cs ++ (lineEnd cs ++ List.replicate d ' ')) = c') :
    ∃ s', Step s s' ∧ s'.IsAt c'
      (tokens ++ [.scalar .plain (String.ofList cs)]
        ++ List.replicate (ended (limit c') indents) .blockEnd) (left (limit c') indents) true := by
  obtain ⟨pieces, filled, slots, rfl, hreads⟩ := hs.exists_eq
  have hfits := Scalar.fitsPlain_of_allowsPlain hplain
  have hline : lineEnd cs = ['\n'] :=
    lineEnd_eq fun x hx => isBreak_eq_false_of_isGap (hfits.last x hx).1
  rw [hline, List.singleton_append] at hrest hc
  obtain ⟨hmark, hread⟩ := read?_plain (s := ⟨c, pieces, filled, slots, indents, none, [],
    keyAllowed⟩) hplain hne (by simp) hrest rfl
  have hscalar := Scalar.plain?_line (hfits.isPhrase hne) hrest (fun x hx => (hnext x hx).1) hend
    hmark htop
  have hread : read? ⟨c, pieces, filled, slots, indents, none, [], keyAllowed⟩
      = some { (offered c pieces filled slots indents keyAllowed).push
          (.scalar .plain (String.ofList cs)) with
        cursor := c', keyAllowed := true } := by
    simp [hread, plainToken?, offer?_eq, inFlow, margin_eq, hscalar, push, move, hc]
  have hlt : c.line < c'.line := hc ▸ Cursor.line_lt_after (by decide) c cs _
  have hsplit : c.rest = (cs ++ '\n' :: List.replicate d ' ') ++ (between false 0 ++ next) := by
    rw [hrest]
    simp [between]
  obtain ⟨s', hstep, hat⟩ := exists_step false 0 hread hsplit (by simp) hnext hc.symm
    (by simpa [between] using hc) (outer_offered keyAllowed) (fresh?_offered hkey hlt)
    ((reads_offered hreads keyAllowed).push (.scalar .plain (String.ofList cs)))
  exact ⟨s', hstep, by simpa [push] using hat⟩

theorem lineEnd_literal (indent : Nat) (hne : cs ≠ []) :
    lineEnd (Printer.literal indent cs).toList = lineEnd cs := by
  have hsplit : (Printer.literal indent cs).toList
      = ('|' :: (Scalar.hint cs ++ (Printer.chomping cs).toList ++ ['\n']))
        ++ Scalar.indented indent true cs := by
    rw [Scalar.toList_literal]
    simp
  rw [hsplit, lineEnd_append (Scalar.indented_ne_nil hne), lineEnd, lineEnd,
    Scalar.getLast?_indented]

/-- A literal block, whose reader has passed over its last line and is no candidate for a key. -/
theorem exists_literal (hs : s.IsAt c tokens indents keyAllowed) (hne : cs ≠ [])
    (hprint : ∀ x ∈ cs, isPrintable x = true) (hindent : indent = top indents - 1 + 2)
    (hcolumn : d < indent)
    (hrest : c.rest = (Printer.literal indent cs).toList
      ++ (lineEnd (Printer.literal indent cs).toList ++ (List.replicate d ' ' ++ next)))
    (hnext : StartsToken next) {c' : Cursor}
    (hc : c.after ((Printer.literal indent cs).toList
      ++ (lineEnd (Printer.literal indent cs).toList ++ List.replicate d ' ')) = c') :
    ∃ s', Step s s' ∧ s'.IsAt c'
      (tokens ++ [.scalar .literal (String.ofList cs)]
        ++ List.replicate (ended (limit c') indents) .blockEnd) (left (limit c') indents) true := by
  obtain ⟨pieces, filled, slots, rfl, hreads⟩ := hs.exists_eq
  rw [lineEnd_literal indent hne] at hrest hc
  have hread : read? ⟨c, pieces, filled, slots, indents, none, [], keyAllowed⟩
      = some ⟨c', .token (.scalar .literal (String.ofList cs)) :: pieces, filled, slots, indents,
        none, [], true⟩ := by
    have hbar := hrest
    rw [Scalar.toList_literal, List.cons_append] at hbar
    have hscalar := Scalar.block?_literal hindent hcolumn (fun x hx => (hnext x hx).1) hne hprint
      hrest
    rw [read?_bar hbar rfl]
    simp [blockToken?, dropCandidate?, margin_eq, hscalar, push, move, hc]
  have hsplit : c.rest
      = ((Printer.literal indent cs).toList ++ (lineEnd cs ++ List.replicate d ' '))
      ++ (between false 0 ++ next) := by
    rw [hrest]
    simp [between]
  obtain ⟨s', hstep, hat⟩ := exists_step false 0 hread hsplit (by simp [Scalar.toList_literal])
    hnext hc.symm (by simpa [between] using hc) rfl rfl
    (hreads.push (.scalar .literal (String.ofList cs)))
  exact ⟨s', hstep, by simpa using hat⟩

/-- **A scalar at the end of a line** is read; the collections that do not go on in the next line
end. -/
theorem exists_scalar (hs : s.IsAt c tokens indents keyAllowed) (hw : Written indent text style cs)
    (hindent : indent = top indents - 1 + 2) (htop : top indents ≤ c.column + 1)
    (hkey : keyAllowed = true → indents.head? ≠ some c.column)
    (hrest : c.rest = text ++ (lineEnd text ++ (List.replicate d ' ' ++ next)))
    (hnext : StartsToken next) (hend : d < top indents ∨ next = [] ∧ d = 0) {c' : Cursor}
    (hc : c.after (text ++ (lineEnd text ++ List.replicate d ' ')) = c') :
    ∃ s', Step s s' ∧ s'.IsAt c'
      (tokens ++ [.scalar style (String.ofList cs)]
        ++ List.replicate (ended (limit c') indents) .blockEnd) (left (limit c') indents) true := by
  cases hw with
  | plain hplain hne =>
    exact exists_plain hs hplain hne htop hkey hrest hnext (hend.imp_right And.left) hc
  | singleQuoted hfits =>
    have hone : (lineEnd (Printer.singleQuoted indent cs).toList
        ++ (List.replicate d ' ' ++ next)).head? ≠ some '\'' := by
      have hline := lineEnd_quoted false (Scalar.quotedLines indent false cs)
      rw [Scalar.toList_singleQuoted, show '\'' = Scalar.quote false from rfl, hline]
      simp [Scalar.quote]
    have hscalar := Scalar.quoted?_singleQuoted hfits (by omega) hone hrest
    exact exists_quoted false hs hkey (by simp [quotedToken?, hscalar])
      ⟨_, Scalar.toList_singleQuoted indent cs⟩ hrest hnext hc
  | doubleQuoted cs =>
    exact exists_quoted true hs hkey (by simp [quotedToken?, Scalar.quoted?_doubleQuoted hrest])
      ⟨_, Scalar.toList_doubleQuoted cs⟩ hrest hnext hc
  | literal hfeed hprint =>
    exact exists_literal hs (List.ne_nil_of_mem hfeed) hprint hindent (by omega) hrest hnext hc

/-! ### Empty collections -/

/-- The opening bracket of a pair. -/
def openChar : Bracket → Char
  | .square => '['
  | .curly => '{'

/-- The closing bracket of a pair. -/
def closeChar : Bracket → Char
  | .square => ']'
  | .curly => '}'

/-- Inside brackets a token that stands right behind another one is settled, and the candidate for
the brackets stays fresh in its line. -/
theorem settle?_flow {k : Option Candidate} (hcandidate : s.candidate = none)
    (houter : s.outer = [k]) (hfresh : fresh? s.cursor k = some k)
    (hnext : StartsToken s.cursor.rest) (hne : s.cursor.rest ≠ []) : s.settle? = some s := by
  have hgap : s.toNext (s.cursor.rest.length + 1) = s := by
    have hspaces : s.cursor.rest = List.replicate 0 ' ' ++ s.cursor.rest := rfl
    rw [toNext_spaces hspaces hnext]
    rfl
  have hstale : s.dropStale? = some s := by
    obtain ⟨cursor, pieces, filled, slots, indents, candidate, outer, allowed⟩ := s
    subst hcandidate houter
    have hnone : fresh? cursor none = some none := rfl
    simp [dropStale?, hnone, hfresh]
  have hdedent : s.dedent = s := by simp [dedent, inFlow, houter]
  simp [settle?, hgap, hstale, hdedent, hne]

/-- The state between the brackets of an empty collection. -/
def within (b : Bracket) (c : Cursor) (pieces : List Piece) (filled : List (Nat × List Token))
    (slots : Nat) (indents : List Nat) (keyAllowed : Bool) : Scan :=
  { (offered c pieces filled slots indents keyAllowed).push (.openFlow b) with
    cursor := c.after [openChar b], candidate := none, keyAllowed := true
    outer := [(offered c pieces filled slots indents keyAllowed).candidate] }

/-- The opening bracket, with the closing one right behind it. -/
theorem step_within (b : Bracket) (pieces : List Piece) (filled : List (Nat × List Token))
    (slots : Nat) (indents : List Nat) (keyAllowed : Bool)
    (hrest : c.rest = openChar b :: closeChar b :: next) :
    Step ⟨c, pieces, filled, slots, indents, none, [], keyAllowed⟩
      (within b c pieces filled slots indents keyAllowed) := by
  have hline : isBreak (openChar b) = false := by cases b <;> decide
  have hclose : (c.after [openChar b]).rest = closeChar b :: next :=
    Cursor.rest_after (by rw [hrest]; rfl)
  have hmark : c.atMark = false := by
    cases b <;> simp [Cursor.atMark, hrest, startsWithMark, openChar]
  have hopened : read? ⟨c, pieces, filled, slots, indents, none, [], keyAllowed⟩
      = some (within b c pieces filled slots indents keyAllowed) := by
    have hskip := skip_one hline c
    rw [read?_eq hrest]
    cases b <;> simp [token?, hmark, openChar, openFlow?, offer?_eq, push, move, hskip, within]
  have hfresh : fresh? (c.after [openChar b])
      (offered c pieces filled slots indents keyAllowed).candidate
      = some (offered c pieces filled slots indents keyAllowed).candidate := by
    have hline := Cursor.line_after (List.forall_mem_singleton.2 hline) c
    have hindex := Cursor.index_after c [openChar b]
    cases keyAllowed with
    | false => rfl
    | true => simp [offered, fresh?, hline, hindex]
  have hstarts : StartsToken (c.after [openChar b]).rest :=
    hclose ▸ startsToken_cons.2 (by cases b <;> decide)
  exact ⟨_, hopened, settle?_flow rfl rfl hfresh hstarts (by simp [within, hclose]), by
    simp [within, hclose, hrest]⟩

/-- The closing bracket gives the candidate of the opening one back. -/
theorem read?_within (b : Bracket) (pieces : List Piece) (filled : List (Nat × List Token))
    (slots : Nat) (indents : List Nat) (keyAllowed : Bool)
    (hclose : (c.after [openChar b]).rest = closeChar b :: next) :
    read? (within b c pieces filled slots indents keyAllowed)
      = some { ((offered c pieces filled slots indents keyAllowed).push (.openFlow b)).push
          (.closeFlow b) with
        cursor := (c.after [openChar b]).after [closeChar b], keyAllowed := false } := by
  have hmark : (c.after [openChar b]).atMark = false := by
    cases b <;> simp [Cursor.atMark, hclose, startsWithMark, closeChar]
  have hskip := skip_one (show isBreak (closeChar b) = false by cases b <;> decide)
    (c.after [openChar b])
  rw [within, read?_eq hclose]
  cases b <;>
    simpa [token?, hmark, closeChar, closeFlow?, dropCandidate?, push, move] using hskip

/-- **An empty collection at the end of a line** is read as a scalar is. -/
theorem exists_brackets (b : Bracket) (hs : s.IsAt c tokens indents keyAllowed)
    (hkey : keyAllowed = true → indents.head? ≠ some c.column)
    (hrest : c.rest = [openChar b, closeChar b] ++ ('\n' :: (List.replicate d ' ' ++ next)))
    (hnext : StartsToken next) {c' : Cursor}
    (hc : c.after ([openChar b, closeChar b] ++ '\n' :: List.replicate d ' ') = c') :
    ∃ s', Reaches s s' ∧ s'.IsAt c'
      (tokens ++ [.openFlow b, .closeFlow b]
        ++ List.replicate (ended (limit c') indents) .blockEnd) (left (limit c') indents) true := by
  obtain ⟨pieces, filled, slots, rfl, hreads⟩ := hs.exists_eq
  have hclose : (c.after [openChar b]).rest
      = [closeChar b] ++ ('\n' :: (List.replicate d ' ' ++ next)) :=
    Cursor.rest_after (by rw [hrest]; rfl)
  have hfirst := step_within b pieces filled slots indents keyAllowed hrest
  have hread := read?_within b pieces filled slots indents keyAllowed hclose
  have hlt : c.line < c'.line := hc ▸ Cursor.line_lt_after (by decide) c _ _
  obtain ⟨s', hstep, hat⟩ := exists_step true d hread hclose (List.cons_ne_nil _ [])
    hnext rfl (by simpa [within, between] using hc) (outer_offered keyAllowed)
    (fresh?_offered hkey hlt)
    (((reads_offered hreads keyAllowed).push (.openFlow b)).push (.closeFlow b))
  exact ⟨s', (Relation.ReflTransGen.single hfirst).tail hstep, by simpa [push] using hat⟩

end Sidecar.Yaml.Scan
