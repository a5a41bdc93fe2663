/-
**Scanning a text, token by token.**

Between two tokens the scanner passes over a gap, forgets a candidate that is stale, and ends the
collections that are indented beyond the place it has come to.  A state in which this is done is
settled.  A token leads from a settled state to a settled one, and a text is scanned if such steps
lead from its beginning to its end.

How slots are numbered does not matter for what has been read, as long as each number is taken once.
So a settled state is described by its place, by the tokens read and by the columns of the
collections that are open.

Main definitions:

* `Sidecar.Yaml.Scan.settle?`, `Sidecar.Yaml.Scan.Step`, `Sidecar.Yaml.Scan.Reaches` — settling, and
  the steps between settled states;
* `Sidecar.Yaml.Scan.IsAt` — a settled state as it is described.

Main results:

* `Sidecar.Yaml.Scan.toEnd?_of_reaches` — a text is scanned if steps lead to its end;
* `Sidecar.Yaml.Scan.exists_step` — **a token leads to the place behind the gap after it**, and
  closes the collections that do not go on there.
-/

import Mathlib.Data.List.Basic
import Mathlib.Logic.Relation
import Sidecar.Proofs.Yaml.Place
import Sidecar.Yaml.Token

set_option autoImplicit false

namespace Sidecar.Yaml.Scan

/-! ### Gaps between tokens -/

/-- The end of a line or none, and spaces. -/
def between (broken : Bool) (n : Nat) : List Char :=
  (if broken then ['\n'] else []) ++ List.replicate n ' '

variable {s s' : Scan} {next rest w : List Char} {n fuel : Nat}

/-- Where a token begins, the scanner does not take a byte order mark or a comment away. -/
theorem not_startsWith {c : Cursor} {x : Char} (h : ∀ y ∈ c.rest.head?, y ≠ x) :
    c.startsWith x = false := by
  rw [Cursor.startsWith, beq_eq_false_iff_ne]
  exact fun hx => h x hx rfl

theorem skipComment_eq {c : Cursor} (h : ∀ x ∈ c.rest.head?, x ≠ '#') : c.skipComment = c := by
  unfold Cursor.skipComment
  split
  · next hrest => exact absurd rfl (h '#' (by simp [hrest]))
  · rfl

theorem head?_spaces (n : Nat) {p : Char → Prop} (hspace : p ' ')
    (hnext : ∀ x ∈ next.head?, p x) : ∀ x ∈ (List.replicate n ' ' ++ next).head?, p x := by
  cases n with
  | zero => exact hnext
  | succ n =>
    intro x hx
    cases hx
    exact hspace

/-- Spaces before a token are passed over. -/
theorem toNext_spaces (hrest : s.cursor.rest = List.replicate n ' ' ++ next)
    (hnext : StartsToken next) :
    s.toNext (fuel + 1) = s.move (s.cursor.after (List.replicate n ' ')) := by
  have hmark : s.cursor.startsWith '\ufeff' = false := not_startsWith <| by
    rw [hrest]
    exact head?_spaces n (by decide) fun x hx => (hnext x hx).2.2
  have hline : ∀ x ∈ List.replicate n ' ', isBreak x = false := fun x hx =>
    List.eq_of_mem_replicate hx ▸ by decide
  have hskip : (s.cursor.skipWhile fun x =>
      x = ' ' || ((s.inFlow || !s.keyAllowed) && x == '\t'))
      = s.cursor.after (List.replicate n ' ') := by
    rw [Cursor.skipWhile, Cursor.span_eq hrest (by simp +contextual) ?_ hline]
    intro x hx
    have hgap := (hnext x hx).1
    have hspace : x ≠ ' ' := by
      rintro rfl
      exact absurd hgap (by decide)
    have htab : x ≠ '\t' := by
      rintro rfl
      exact absurd hgap (by decide)
    simp [hspace, htab]
  have hafter : (s.cursor.after (List.replicate n ' ')).rest = next := Cursor.rest_after hrest
  have hcomment : (s.cursor.after (List.replicate n ' ')).skipComment
      = s.cursor.after (List.replicate n ' ') := skipComment_eq fun x hx => by
    rw [hafter] at hx
    exact (hnext x hx).2.1
  rw [toNext]
  simp only [hmark, Bool.false_eq_true, and_false, if_false, hskip, hcomment]
  cases next with
  | nil => simp only [hafter]
  | cons x next =>
    simp [hafter, isBreak_eq_false_of_isGap (startsToken_cons.1 hnext).1]

/-- So is the end of a line, after which a key may begin. -/
theorem toNext_line (houter : s.outer = [])
    (hrest : s.cursor.rest = '\n' :: (List.replicate n ' ' ++ next)) (hnext : StartsToken next) :
    s.toNext (fuel + 2)
      = { s with cursor := s.cursor.after ('\n' :: List.replicate n ' '), keyAllowed := true } := by
  have hmark : s.cursor.startsWith '\ufeff' = false := not_startsWith (by simp [hrest])
  have hskip : (s.cursor.skipWhile fun x =>
      x = ' ' || ((s.inFlow || !s.keyAllowed) && x == '\t')) = s.cursor := by
    have hskip : s.cursor.skip 0 = s.cursor := rfl
    simp [Cursor.skipWhile, Cursor.span, hrest, hskip]
  have hcomment : s.cursor.skipComment = s.cursor := skipComment_eq (by simp [hrest])
  have hbreak : s.cursor.lineBreak = (['\n'], s.cursor.after ['\n']) :=
    Cursor.lineBreak_eq hrest (by decide) (by decide)
  have hafter : (s.cursor.after ['\n']).rest = List.replicate n ' ' ++ next :=
    Cursor.rest_after (by rw [hrest]; rfl)
  rw [toNext]
  simp only [hmark, Bool.false_eq_true, and_false, if_false, hskip, hcomment, hrest,
    show isBreak '\n' = true by decide, if_true, hbreak]
  have hline : ({ s with
      cursor := s.cursor.after ['\n'], keyAllowed := s.keyAllowed || !s.inFlow } : Scan).cursor.rest
      = List.replicate n ' ' ++ next := hafter
  rw [toNext_spaces hline hnext]
  simp [move, inFlow, houter]

/-- A gap is passed over; a key may begin after it if one might before, or if a line ends. -/
theorem toNext_between (broken : Bool) (houter : s.outer = [])
    (hrest : s.cursor.rest = between broken n ++ next) (hnext : StartsToken next) :
    s.toNext (s.cursor.rest.length + 1)
      = { s with
          cursor := s.cursor.after (between broken n), keyAllowed := s.keyAllowed || broken } := by
  cases broken with
  | false =>
    rw [toNext_spaces hrest hnext]
    simp [between, move]
  | true =>
    rw [show s.cursor.rest.length = (List.replicate n ' ' ++ next).length + 1 by rw [hrest]; rfl,
      toNext_line houter hrest hnext]
    simp [between]

/-! ### Collections that are open -/

/-- The first column of text that belongs to the innermost of the collections. -/
def top : List Nat → Nat
  | [] => 0
  | indent :: _ => indent + 1

theorem margin_eq (s : Scan) : s.margin = top s.indents := by
  unfold margin top
  split <;> simp_all

/-- Up to which column collections go on at a place: none does at the end of the text. -/
def limit (c : Cursor) : Nat := if c.rest.isEmpty then 0 else c.column + 1

/-- How many collections end before the limit. -/
def ended (limit : Nat) (indents : List Nat) : Nat :=
  (indents.takeWhile (limit ≤ ·)).length

/-- The collections that go on. -/
def left (limit : Nat) (indents : List Nat) : List Nat :=
  indents.dropWhile (limit ≤ ·)

theorem ended_cons {limit indent : Nat} (indents : List Nat) (h : limit ≤ indent) :
    ended limit (indent :: indents) = ended limit indents + 1 := by
  simp [ended, h]

theorem left_cons {limit indent : Nat} (indents : List Nat) (h : limit ≤ indent) :
    left limit (indent :: indents) = left limit indents := by
  simp [left, h]

/-- Where the innermost collection goes on, no collection ends. -/
theorem ended_eq_zero {limit : Nat} {indents : List Nat} (h : top indents ≤ limit) :
    ended limit indents = 0 := by
  cases indents with
  | nil => rfl
  | cons indent indents => simp [ended, Nat.lt_of_succ_le h]

theorem left_eq_self {limit : Nat} {indents : List Nat} (h : top indents ≤ limit) :
    left limit indents = indents := by
  cases indents with
  | nil => rfl
  | cons indent indents => simp [left, Nat.lt_of_succ_le h]

theorem closing_eq (column : Nat) (indents : List Nat) :
    closing column indents = (ended (column + 1) indents, left (column + 1) indents) := by
  induction indents with
  | nil => rfl
  | cons indent indents ih =>
    rw [closing]
    split
    · next h => rw [ih, ended_cons indents h, left_cons indents h]
    · next h =>
      have htop : top (indent :: indents) ≤ column + 1 := Nat.succ_le_succ (Nat.le_of_not_lt h)
      rw [ended_eq_zero htop, left_eq_self htop]

/-! ### Settling -/

/-- The state at the next token, or at the end of the text, where all collections have ended. -/
def settle? (s : Scan) : Option Scan := do
  let s ← (s.toNext (s.cursor.rest.length + 1)).dropStale?
  let s := s.dedent
  some (if s.cursor.rest.isEmpty then s.dedentAll else s)

/-- The state after the token that stands here, and whether the text ends. -/
def dispatch? (s : Scan) : Option (Scan × Bool) :=
  match s.cursor.rest with
  | [] => s.dedentAll.dropCandidate?.map (·, true)
  | x :: rest => (s.token? x rest).map (·, false)

theorem dedentAll_dedentAll (s : Scan) : s.dedentAll.dedentAll = s.dedentAll := by
  unfold dedentAll inFlow
  split
  · rfl
  · next h => simp [h, pushEnds]

/-- A token is read from the settled state. -/
theorem next?_eq (s : Scan) : s.next? = s.settle?.bind dispatch? := by
  have hcursor : ∀ s : Scan, s.dedentAll.cursor = s.cursor := fun s => by
    unfold dedentAll
    split <;> rfl
  rw [next?, settle?]
  simp only [Option.bind_eq_bind, Option.bind_assoc, Option.bind_some]
  congr 1
  funext s
  cases hrest : s.dedent.cursor.rest with
  | nil =>
    simp only [List.isEmpty_nil, if_true, dispatch?, hcursor, hrest, dedentAll_dedentAll]
    cases s.dedent.dedentAll.dropCandidate? <;> rfl
  | cons x rest => simp [dispatch?, hrest]

/-- A gap is settled: a candidate that is stale by then is dropped, and the collections that do not
go on behind it end. -/
theorem settle?_between (broken : Bool) (houter : s.outer = [])
    (hrest : s.cursor.rest = between broken n ++ next) (hnext : StartsToken next)
    {c : Cursor} (hc : s.cursor.after (between broken n) = c) {candidate : Option Candidate}
    (hfresh : fresh? c s.candidate = some candidate) :
    s.settle? = some { s with
      cursor := c
      pieces := List.replicate (ended (limit c) s.indents) (.token .blockEnd) ++ s.pieces
      indents := left (limit c) s.indents
      candidate
      keyAllowed := s.keyAllowed || broken } := by
  obtain ⟨cursor, pieces, filled, slots, indents, candidate', outer, allowed⟩ := s
  subst hc houter
  have hafter : (cursor.after (between broken n)).rest = next := Cursor.rest_after hrest
  rw [settle?, toNext_between broken rfl hrest hnext]
  simp only at hfresh
  simp only [dropStale?, hfresh, List.mapM_nil, Option.pure_def, Option.bind_eq_bind,
    Option.bind_some, dedent, inFlow, List.isEmpty_nil, Bool.not_true, Bool.false_eq_true, if_false,
    closing_eq, pushEnds, hafter, limit]
  cases next with
  | cons x next => simp
  | nil =>
    have hall : ended 0 indents = indents.length := by
      rw [ended, List.takeWhile_eq_self_iff.2 (by simp)]
    have hnone : left 0 indents = [] := by simp [left]
    have hsum : (left (((cursor.after (between broken n)).column) + 1) indents).length
        + ended (((cursor.after (between broken n)).column) + 1) indents = indents.length := by
      rw [Nat.add_comm, ended, left, ← List.length_append, List.takeWhile_append_dropWhile]
    simp [dedentAll, inFlow, pushEnds, hall, hnone, ← List.append_assoc, hsum]

/-! ### Steps -/

/-- The state after the token that stands here. -/
def read? (s : Scan) : Option Scan :=
  match s.cursor.rest with
  | [] => none
  | x :: rest => s.token? x rest

theorem read?_eq {x : Char} (hrest : s.cursor.rest = x :: rest) : s.read? = s.token? x rest := by
  rw [read?, hrest]

/-- A token leads from a settled state to the next. -/
def Step (s s' : Scan) : Prop :=
  ∃ s₁, s.read? = some s₁ ∧ s₁.settle? = some s'
    ∧ s'.cursor.rest.length < s.cursor.rest.length

/-- Tokens lead from a settled state to another. -/
def Reaches : Scan → Scan → Prop := Relation.ReflTransGen Step

/-- **A text is scanned if steps lead to its end.** -/
theorem toEnd?_of_reaches (h : Reaches s s') (hend : s'.cursor.rest = [])
    (hindents : s'.indents = []) (hcandidate : s'.candidate = none) :
    ∀ (fuel : Nat) (s₀ : Scan), s₀.settle? = some s → s.cursor.rest.length < fuel →
      s₀.toEnd? fuel = some s' := by
  induction h using Relation.ReflTransGen.head_induction_on with
  | refl =>
    intro fuel s₀ hsettle hfuel
    obtain ⟨fuel, rfl⟩ := Nat.exists_eq_succ_of_ne_zero (Nat.ne_of_gt (Nat.zero_lt_of_lt hfuel))
    have hdone : s'.dedentAll.dropCandidate? = some s' := by
      obtain ⟨cursor, pieces, filled, slots, indents, candidate, outer, allowed⟩ := s'
      subst hindents hcandidate
      cases outer <;> simp [dedentAll, inFlow, pushEnds, dropCandidate?]
    simp [toEnd?, next?_eq, hsettle, dispatch?, hend, hdone]
  | @head s _ hstep _ ih =>
    intro fuel s₀ hsettle hfuel
    obtain ⟨s₁, hread, hnext, hlength⟩ := hstep
    obtain ⟨x, rest, hrest⟩ : ∃ x rest, s.cursor.rest = x :: rest :=
      List.exists_cons_of_ne_nil (List.length_pos_iff.1 (Nat.zero_lt_of_lt hlength))
    rw [read?_eq hrest] at hread
    obtain ⟨fuel, rfl⟩ := Nat.exists_eq_succ_of_ne_zero (Nat.ne_of_gt (Nat.zero_lt_of_lt hfuel))
    have hgoOn := ih fuel s₁ hnext (by omega)
    simp [toEnd?, next?_eq, hsettle, dispatch?, hrest, hread, hgoOn]

/-! ### What has been read -/

/-- Pieces of which these tokens come; each slot has a number of its own. -/
structure Reads (pieces : List Piece) (filled : List (Nat × List Token)) (slots : Nat)
    (tokens : List Token) : Prop where
  tokens_eq : (pieces.reverse.flatMap fun
    | .token t => [t]
    | .slot n => (filled.lookup n).getD []) = tokens
  piece_lt : ∀ n, Piece.slot n ∈ pieces → n < slots
  filled_lt : ∀ e ∈ filled, e.1 < slots

variable {pieces : List Piece} {filled : List (Nat × List Token)} {slots : Nat}
  {tokens : List Token}

theorem Reads.start : Reads [] [] 0 [] :=
  ⟨rfl, by simp, by simp⟩

theorem Reads.push (h : Reads pieces filled slots tokens) (t : Token) :
    Reads (.token t :: pieces) filled slots (tokens ++ [t]) where
  tokens_eq := by
    rw [List.reverse_cons, List.flatMap_append, h.tokens_eq]
    rfl
  piece_lt n hn := h.piece_lt n (by simpa using hn)
  filled_lt := h.filled_lt

theorem Reads.ends (h : Reads pieces filled slots tokens) (n : Nat) :
    Reads (List.replicate n (.token .blockEnd) ++ pieces) filled slots
      (tokens ++ List.replicate n .blockEnd) where
  tokens_eq := by
    rw [List.reverse_append, List.flatMap_append, h.tokens_eq, List.reverse_replicate,
      List.flatMap_replicate]
    simp
  piece_lt n hn := h.piece_lt n (by simpa [List.mem_replicate] using hn)
  filled_lt := h.filled_lt

/-- The next number is that of no slot that has been filled. -/
theorem Reads.lookup_slots (h : Reads pieces filled slots tokens) : filled.lookup slots = none := by
  rw [List.lookup_eq_none_iff]
  exact fun e he => bne_iff_ne.2 (Nat.ne_of_gt (h.filled_lt e he))

/-- A slot that is empty does not show. -/
theorem Reads.offer (h : Reads pieces filled slots tokens) :
    Reads (.slot slots :: pieces) filled (slots + 1) tokens where
  tokens_eq := by
    rw [List.reverse_cons, List.flatMap_append, h.tokens_eq]
    simp [h.lookup_slots]
  piece_lt n hn := by
    rcases List.mem_cons.1 hn with hn | hn
    · cases hn
      exact Nat.lt_succ_self _
    · exact Nat.lt_succ_of_lt (h.piece_lt n hn)
  filled_lt e he := Nat.lt_succ_of_lt (h.filled_lt e he)

/-- A slot that is filled shows where it was made. -/
theorem Reads.fill (h : Reads pieces filled slots tokens) (before : List Token) (t : Token) :
    Reads (.token .value :: .token t :: .slot slots :: pieces) ((slots, before) :: filled)
      (slots + 1) (tokens ++ before ++ [t, .value]) where
  tokens_eq := by
    have hsame : (pieces.reverse.flatMap fun
        | .token t => [t]
        | .slot n => ((((slots, before) :: filled).lookup n).getD [])) = tokens := by
      rw [← h.tokens_eq]
      refine List.flatMap_congr fun piece hpiece => ?_
      cases piece with
      | token t => rfl
      | slot n =>
        have hne : (n == slots) = false :=
          beq_eq_false_iff_ne.2 (Nat.ne_of_lt (h.piece_lt n (List.mem_reverse.1 hpiece)))
        simp [List.lookup_cons, hne]
    simp only [List.reverse_cons, List.flatMap_append, hsame]
    simp
  piece_lt n hn := by
    simp only [List.mem_cons, reduceCtorEq, false_or] at hn
    rcases hn with hn | hn
    · cases hn
      exact Nat.lt_succ_self _
    · exact Nat.lt_succ_of_lt (h.piece_lt n hn)
  filled_lt e he := by
    rcases List.mem_cons.1 he with rfl | he
    · exact Nat.lt_succ_self _
    · exact Nat.lt_succ_of_lt (h.filled_lt e he)

/-! ### Settled states -/

/-- A settled state outside brackets: its place, the tokens read, the columns of the collections
that are open, and whether a key may begin. -/
structure IsAt (s : Scan) (c : Cursor) (tokens : List Token) (indents : List Nat)
    (keyAllowed : Bool) : Prop where
  cursor : s.cursor = c
  reads : Reads s.pieces s.filled s.slots tokens
  indents : s.indents = indents
  candidate : s.candidate = none
  outer : s.outer = []
  keyAllowed : s.keyAllowed = keyAllowed

theorem IsAt.exists_eq {c : Cursor} {indents : List Nat} {keyAllowed : Bool}
    (h : s.IsAt c tokens indents keyAllowed) :
    ∃ pieces filled slots, s = ⟨c, pieces, filled, slots, indents, none, [], keyAllowed⟩
      ∧ Reads pieces filled slots tokens := by
  obtain ⟨cursor, pieces, filled, slots, indents', candidate, outer, allowed⟩ := s
  obtain ⟨hcursor, hreads, hindents, hcandidate, houter, hallowed⟩ := h
  exact ⟨pieces, filled, slots, by simp_all, hreads⟩

/-- The tokens of a text of which the scanner has come to the end. -/
theorem IsAt.tokens_eq {c : Cursor} {indents : List Nat} {keyAllowed : Bool}
    (h : s.IsAt c tokens indents keyAllowed) : s.tokens = tokens :=
  h.reads.tokens_eq

/-- **A token leads to the place behind the gap after it**, and closes the collections that do not
go on there. -/
theorem exists_step {s₁ : Scan} (broken : Bool) (n : Nat) (hread : s.read? = some s₁)
    (hsplit : s.cursor.rest = w ++ (between broken n ++ next)) (hne : w ≠ [])
    (hnext : StartsToken next) (hcursor : s₁.cursor = s.cursor.after w) {c : Cursor}
    (hc : s.cursor.after (w ++ between broken n) = c) (houter : s₁.outer = [])
    (hfresh : fresh? c s₁.candidate = some none)
    (hreads : Reads s₁.pieces s₁.filled s₁.slots tokens) :
    ∃ s', Step s s' ∧ s'.IsAt c
      (tokens ++ List.replicate (ended (limit c) s₁.indents) .blockEnd)
      (left (limit c) s₁.indents) (s₁.keyAllowed || broken) := by
  have hgap : s₁.cursor.rest = between broken n ++ next := by
    rw [hcursor]
    exact Cursor.rest_after hsplit
  have hplace : s₁.cursor.after (between broken n) = c := by
    rw [hcursor, Cursor.after_after, hc]
  have hafter : c.rest = next := by
    rw [← hplace]
    exact Cursor.rest_after hgap
  refine ⟨_, ⟨s₁, hread, settle?_between broken houter hgap hnext hplace hfresh, ?_⟩, rfl,
    hreads.ends _, rfl, rfl, houter, rfl⟩
  rw [hafter, hsplit, List.length_append, List.length_append]
  have hpos := List.length_pos_iff.2 hne
  omega

end Sidecar.Yaml.Scan
