/-
**Pointers in the words of the standard.**

RFC 6901 describes the text of a pointer by substitutions in whole texts: a segment is escaped by
writing `~0` for each tilde and then `~1` for each slash, and read by writing a slash for each `~1`
and then a tilde for each `~0`.  The library escapes and reads character by character instead.  The
two are the same: what one substitution writes the next one never takes for its own, as long as they
come in this order.  So the text of a pointer gives back its segments, whatever they hold, by either
way of reading, and no reader that knows the standard refuses it.

Main definitions:

* `Sidecar.Text.substitute` — a text with each occurrence of one text replaced by another;
* `Sidecar.Json.Pointer.unescape`, `Sidecar.Json.Pointer.ofText?` — the segments of a text as the
  standard has them.

Main results:

* `Sidecar.Json.Pointer.escapeChars_eq_substitute` — escaping is two substitutions in turn;
* `Sidecar.Json.Pointer.segments_eq_of_tildesMarked` — so is reading, between the slashes;
* `Sidecar.Json.Pointer.parse?_eq_some_iff` — **the library reads the pointers of the standard as
  the standard does**;
* `Sidecar.Json.Pointer.read_back_of_reader` — **every list of segments has a text of its own, which
  is never refused and is read back**.
-/

import Sidecar.Proofs.Injection.Pointers

set_option autoImplicit false

namespace Sidecar

/-! ### Substitutions -/

namespace Text

/-- The text with each occurrence of `old`, which is not empty, replaced by `new`, from the left and
without overlaps. -/
def substitute (old new : List Char) : List Char → List Char
  | [] => []
  | c :: rest =>
    if old.isPrefixOf (c :: rest) then new ++ substitute old new (rest.drop (old.length - 1))
    else c :: substitute old new rest
termination_by cs => cs.length
decreasing_by all_goals simp; try omega

variable {a b c d : Char} (new cs : List Char)

@[simp] theorem substitute_nil (old : List Char) : substitute old new [] = [] := by
  rw [substitute]

/-- A character that cannot start an occurrence stays. -/
theorem substitute_cons_of_ne (h : c ≠ a) (old : List Char) :
    substitute (a :: old) new (c :: cs) = c :: substitute (a :: old) new cs := by
  rw [substitute, if_neg]
  simp [h.symm]

/-- One character is replaced wherever it stands. -/
theorem substitute_singleton :
    substitute [a] new cs = cs.flatMap fun c => if c = a then new else [c] := by
  induction cs with
  | nil => exact substitute_nil new [a]
  | cons c cs ih =>
      by_cases h : c = a
      · rw [substitute, List.flatMap_cons, if_pos h, if_pos (by simp [h]), ← ih]
        rfl
      · rw [substitute_cons_of_ne new cs h, List.flatMap_cons, if_neg h, ih]
        rfl

/-- Two characters are replaced where they stand in turn. -/
theorem substitute_pair :
    substitute [a, b] new (a :: b :: cs) = new ++ substitute [a, b] new cs := by
  rw [substitute, if_pos (by simp)]
  rfl

/-- The first of them alone stays. -/
theorem substitute_pair_of_ne (h : d ≠ b) :
    substitute [a, b] new (a :: d :: cs) = a :: substitute [a, b] new (d :: cs) := by
  rw [substitute, if_neg]
  simp [h.symm]

end Text

namespace Json.Pointer

open Text

/-! ### Escaping -/

/-- **A segment is escaped by two substitutions in turn**, that of the tildes first. -/
theorem escapeChars_eq_substitute (cs : List Char) :
    escapeChars cs = substitute ['/'] ['~', '1'] (substitute ['~'] ['~', '0'] cs) := by
  rw [substitute_singleton, substitute_singleton, List.flatMap_assoc, escapeChars]
  congr 1
  funext c
  by_cases htilde : c = '~'
  · subst htilde
    rfl
  · rw [escapeChar, if_neg htilde, if_neg htilde]
    by_cases hslash : c = '/'
    · subst hslash
      rfl
    · simp [hslash]

/-! ### Reading -/

/-- A segment that is written, with a slash for each `~1` and then a tilde for each `~0`. -/
def unescape (cs : List Char) : List Char :=
  substitute ['~', '0'] ['~'] (substitute ['~', '1'] ['/'] cs)

/-- The pointer that a text writes by the standard: nothing for the whole document, else what stands
between the slashes behind the first. -/
def ofText? (text : String) : Option Pointer :=
  match text.toList with
  | [] => some []
  | '/' :: rest => some ((rest.splitOn '/').map fun token => String.ofList (unescape token))
  | _ => none

@[simp] theorem unescape_nil : unescape [] = [] := by
  rw [unescape, substitute_nil, substitute_nil]

theorem unescape_cons {c : Char} (h : c ≠ '~') (cs : List Char) :
    unescape (c :: cs) = c :: unescape cs := by
  rw [unescape, substitute_cons_of_ne _ _ h, substitute_cons_of_ne _ _ h, unescape]

/-- The mark of a tilde is left alone by the first substitution. -/
theorem unescape_zero (cs : List Char) : unescape ('~' :: '0' :: cs) = '~' :: unescape cs := by
  rw [unescape, substitute_pair_of_ne _ _ (by decide),
    substitute_cons_of_ne (c := '0') _ _ (by decide), substitute_pair, unescape]
  rfl

/-- What the first substitution writes is left alone by the second. -/
theorem unescape_one (cs : List Char) : unescape ('~' :: '1' :: cs) = '/' :: unescape cs := by
  rw [unescape, substitute_pair, List.singleton_append, substitute_cons_of_ne _ _ (by decide),
    unescape]

/-- Before a character that is no slash the first piece goes on. -/
theorem splitOn_cons_of_ne {c : Char} (h : c ≠ '/') {cs piece : List Char}
    {pieces : List (List Char)} (hcs : cs.splitOn '/' = piece :: pieces) :
    (c :: cs).splitOn '/' = (c :: piece) :: pieces := by
  rw [List.splitOn_eq_splitOnP] at hcs ⊢
  rw [List.splitOnP_cons_eq_if_modifyHead, hcs, if_neg (by simpa using h), List.modifyHead_cons]

/-- **A text with marked tildes is read as the standard reads it**, piece by piece between the
slashes.  The first piece goes on what has been read of it before. -/
theorem segments_eq_of_tildesMarked (read : List Char) {cs : List Char} (h : TildesMarked cs) :
    ∃ piece pieces, cs.splitOn '/' = piece :: pieces
      ∧ segments read cs = some (String.ofList (read.reverse ++ unescape piece)
        :: pieces.map fun token => String.ofList (unescape token)) := by
  induction read, cs using segments.induct with
  | case1 read => exact ⟨[], [], List.splitOn_nil _, by simp [segments]⟩
  | case2 read rest ih =>
      obtain ⟨piece, pieces, hsplit, hread⟩ := ih ((tildesMarked_cons (by decide) _).1 h)
      refine ⟨[], piece :: pieces, ?_, ?_⟩
      · rw [← hsplit]
        exact List.splitOn_append_cons_self [] rest
      · rw [segments, hread]
        simp
  | case3 read rest ih =>
      obtain ⟨piece, pieces, hsplit, hread⟩ := ih ((tildesMarked_tilde_cons _ _).1 h).2
      refine ⟨_, pieces, splitOn_cons_of_ne (by decide) (splitOn_cons_of_ne (by decide) hsplit), ?_⟩
      rw [segments, hread, unescape_zero]
      simp
  | case4 read rest ih =>
      obtain ⟨piece, pieces, hsplit, hread⟩ := ih ((tildesMarked_tilde_cons _ _).1 h).2
      refine ⟨_, pieces, splitOn_cons_of_ne (by decide) (splitOn_cons_of_ne (by decide) hsplit), ?_⟩
      rw [segments, hread, unescape_one]
      simp
  | case5 read rest _ hzero hone =>
      -- a tilde without a mark
      obtain ⟨c, rest', rfl, rfl | rfl⟩ := h [] rest rfl
      · exact absurd rfl (hzero rest' rfl)
      · exact absurd rfl (hone rest' rfl)
  | case6 read c rest hslash hzero hone hc ih =>
      obtain ⟨piece, pieces, hsplit, hread⟩ := ih ((tildesMarked_cons hc _).1 h)
      have hne : c ≠ '/' := fun heq => hslash heq
      refine ⟨_, pieces, splitOn_cons_of_ne hne hsplit, ?_⟩
      have hstep : segments read (c :: rest) = segments (c :: read) rest := by
        rw [segments]
        · rw [if_neg hc]
        · exact hslash
        · exact hzero
        · exact hone
      rw [hstep, hread, unescape_cons hc]
      simp

/-- **The library reads the pointers of the standard as the standard does**, and nothing else. -/
theorem parse?_eq_some_iff {text : String} {pointer : Pointer} :
    parse? text = some pointer ↔ WellFormed text ∧ ofText? text = some pointer := by
  have hread : WellFormed text → parse? text = ofText? text := by
    rintro ⟨hstart, htildes⟩
    rw [parse?, ofText?]
    cases hcs : text.toList with
    | nil => rfl
    | cons c rest =>
        obtain rfl := hstart c (by rw [hcs, List.head?_cons])
        rw [hcs, tildesMarked_cons (by decide)] at htildes
        obtain ⟨piece, pieces, hsplit, hread⟩ := segments_eq_of_tildesMarked [] htildes
        simp [hsplit, hread]
  constructor
  · intro h
    have hwell : WellFormed text := (isSome_parse?_iff text).1 (by rw [h]; rfl)
    exact ⟨hwell, hread hwell ▸ h⟩
  · rintro ⟨hwell, h⟩
    rw [hread hwell, h]

/-- Two lists of segments have one text only if they are one. -/
theorem render_injective : Function.Injective render := by
  intro p q h
  have hp := parse?_render p
  rw [h, parse?_render] at hp
  exact (Option.some.inj hp).symm

/-- **Every list of segments has a text of its own**, whatever the segments hold.  Let a reader
accept the texts that are empty or start with a slash, and have each tilde followed by a zero or a
one, and no other.  It refuses the text of no pointer; the standard's way of reading gives back the
segments of each, so that two pointers of one text are one; and every text that the reader accepts
the library reads as the standard does.  The text has a slash before each segment, in which first
the tildes and then the slashes have been replaced. -/
theorem read_back_of_reader {reader : Reader}
    (hreader : ∀ text, reader text = none ↔ WellFormed text) :
    (∀ pointer : Pointer, pointer.read reader = .ok () ∧ ofText? pointer.render = some pointer)
      ∧ Function.Injective render
      ∧ (∀ text pointer, parse? text = some pointer
        ↔ reader text = none ∧ ofText? text = some pointer)
      ∧ ∀ pointer : Pointer, pointer.render.toList = pointer.flatMap fun segment =>
        '/' :: substitute ['/'] ['~', '1'] (substitute ['~'] ['~', '0'] segment.toList) := by
  refine ⟨fun pointer => ⟨?_, ?_⟩, render_injective, fun text pointer => ?_, fun pointer => ?_⟩
  · exact read_eq_ok_iff.2 ((hreader _).2 pointer.wellFormed_render)
  · exact (parse?_eq_some_iff.1 (parse?_render pointer)).2
  · rw [parse?_eq_some_iff, hreader]
  · simp only [render, String.toList_ofList, renderChars, escapeChars_eq_substitute]

/-- The whole document, the member without a name, and members whose names hold a slash or a tilde
or look as if they had been escaped all have texts of their own, which the strictest reader
accepts. -/
theorem read_back_of_look_alikes :
    ([[], [""], ["", ""], ["/"], ["~1"], ["~01"], ["~", "1"], ["~0/1"]] : List Pointer).Pairwise
        (fun p q => p.render ≠ q.render)
      ∧ read Reader.strict ["~01", "a/b"] = .ok ()
      ∧ ofText? "/~001/a~1b" = some ["~01", "a/b"] := by
  obtain ⟨hread, hinjective, _⟩ := read_back_of_reader fun _ => Reader.strict_eq_none_iff
  refine ⟨?_, (hread _).1, (hread ["~01", "a/b"]).2⟩
  have hdistinct : ([[], [""], ["", ""], ["/"], ["~1"], ["~01"], ["~", "1"], ["~0/1"]] :
      List Pointer).Pairwise (· ≠ ·) := by
    decide
  exact hdistinct.imp fun hne heq => hne (hinjective heq)

end Json.Pointer

end Sidecar
