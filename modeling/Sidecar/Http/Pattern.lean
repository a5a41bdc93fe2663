/-
**Patterns of paths.**

A pattern is a path with holes.  A name in braces is a hole for one or more characters up to the
next slash, and a name after an asterisk in braces, at the end, is a hole for all the rest; a brace
written twice is a brace.  After a hole the pattern goes on with a slash or ends.

Two patterns conflict if they are equal up to the names of their holes, or if at the first place
where they differ both have holes: then none of them could be preferred.

Main definitions:

* `Sidecar.Http.Piece`, `Sidecar.Http.Pattern` — patterns;
* `Sidecar.Http.Pattern.parse?` — the pattern that a text writes;
* `Sidecar.Http.Pattern.match?` — what fills the holes if a path is of the pattern;
* `Sidecar.Http.Pattern.conflicts`, `Sidecar.Http.Pattern.precedes` — how two patterns compare.

Main results:

* `Sidecar.Http.Pattern.match?_literals` — a pattern without holes is a path of its own, and no
  other;
* `Sidecar.Http.Pattern.match?_literals_rest` — what fills a hole at the end of a path;
* `Sidecar.Http.Pattern.pieces?_of_noBraces` — a text without braces has no holes.
-/

set_option autoImplicit false

namespace Sidecar.Http

/-- A piece of a pattern. -/
inductive Piece where
  /-- A character that stands for itself. -/
  | literal (char : Char)
  /-- A hole up to the next slash. -/
  | segment (name : String)
  /-- A hole for all the rest. -/
  | rest (name : String)
deriving DecidableEq

/-- A path with holes. -/
abbrev Pattern := List Piece

namespace Pattern

/-! ### Writing -/

/-- A character of a pattern: a brace that opens or closes a hole, or one that does not. -/
inductive Mark where
  | opening
  | closing
  | plain (char : Char)
deriving DecidableEq

/-- The marks of a text; a brace written twice is a plain one. -/
def marks : List Char → List Mark
  | '{' :: '{' :: cs => .plain '{' :: marks cs
  | '}' :: '}' :: cs => .plain '}' :: marks cs
  | '{' :: cs => .opening :: marks cs
  | '}' :: cs => .closing :: marks cs
  | c :: cs => .plain c :: marks cs
  | [] => []

/-- The name of a hole after its first character, and the marks after the hole. -/
def holeName : List Mark → Option (List Char × List Mark)
  | [] => none
  | .closing :: ms => some ([], ms)
  | .opening :: ms => (holeName ms).map fun (name, ms) => ('{' :: name, ms)
  | .plain c :: ms =>
    if c = '*' ∨ c = '/' then none
    else (holeName ms).map fun (name, ms) => (c :: name, ms)

/-- A hole after its opening brace, and the marks after it. -/
def hole? : List Mark → Option (Piece × List Mark)
  | .plain '}' :: _ => none
  | .plain '*' :: ms =>
    match holeName ms with
    | some (name, []) => if name.isEmpty then none else some (.rest (String.ofList name), [])
    | _ => none
  | .plain c :: ms => after c ms
  | .opening :: ms => after '{' ms
  | _ => none
where
  /-- A hole whose name starts with the character; a slash or the end follows it. -/
  after (c : Char) (ms : List Mark) : Option (Piece × List Mark) :=
    match holeName ms with
    | some (name, []) => some (.segment (String.ofList (c :: name)), [])
    | some (name, .plain '/' :: ms) =>
      some (.segment (String.ofList (c :: name)), .plain '/' :: ms)
    | _ => none

/-- The pieces that marks write; every piece takes some of the fuel. -/
def piecesOf : Nat → List Mark → Option Pattern
  | _, [] => some []
  | fuel + 1, .plain c :: ms => (piecesOf fuel ms).map (.literal c :: ·)
  | fuel + 1, .opening :: ms =>
    match hole? ms with
    | some (piece, ms) => (piecesOf fuel ms).map (piece :: ·)
    | none => none
  | _, _ => none

/-- The pieces that a text writes. -/
def pieces? (cs : List Char) : Option Pattern :=
  let ms := marks cs
  piecesOf ms.length ms

/-- The parts of a path between slashes. -/
def segments (cs : List Char) : List (List Char) :=
  cs.splitOn '/'

/-- The pattern that a text writes.  It starts at the root, and no part of it starts with a colon or
an asterisk. -/
def parse? (text : String) : Option Pattern :=
  let cs := text.toList
  if cs.head? ≠ some '/' then none
  else if (segments cs).any fun s => s.head? = some ':' || s.head? = some '*' then none
  else pieces? cs

/-! ### Matching -/

/-- What fills the holes, by name, if the path is of the pattern. -/
def match? : Pattern → List Char → Option (List (String × String))
  | [], [] => some []
  | .literal c :: ps, d :: ds => if c = d then match? ps ds else none
  | .segment name :: ps, d :: ds =>
    let filling := (d :: ds).takeWhile (· ≠ '/')
    if filling.isEmpty then none
    else (match? ps ((d :: ds).dropWhile (· ≠ '/'))).map ((name, String.ofList filling) :: ·)
  | [.rest name], d :: ds => some [(name, String.ofList (d :: ds))]
  | _, _ => none

/-- Whether no router can tell the patterns apart. -/
def conflicts : Pattern → Pattern → Bool
  | [], [] => true
  | .literal c :: ps, .literal d :: qs => c = d && conflicts ps qs
  | .segment _ :: ps, .segment _ :: qs => conflicts ps qs
  | .segment _ :: _, .rest _ :: _ => true
  | .rest _ :: _, .segment _ :: _ => true
  | .rest _ :: _, .rest _ :: _ => true
  | _, _ => false

/-- Whether the first pattern is preferred where a path is of both: at the first place where they
differ it has a character for the other's hole, or the lesser hole. -/
def precedes : Pattern → Pattern → Bool
  | .literal _ :: ps, .literal _ :: qs => precedes ps qs
  | .segment _ :: ps, .segment _ :: qs => precedes ps qs
  | .literal _ :: _, .segment _ :: _ => true
  | .literal _ :: _, .rest _ :: _ => true
  | .segment _ :: _, .rest _ :: _ => true
  | _, _ => false

/-! ### Patterns with few holes -/

/-- The pattern of characters that stand for themselves. -/
def literals (cs : List Char) : Pattern :=
  cs.map .literal

/-- A pattern without holes is a path of its own, and no other. -/
theorem match?_literals (cs ds : List Char) :
    match? (literals cs) ds = if cs = ds then some [] else none := by
  induction cs generalizing ds with
  | nil => cases ds <;> simp [literals, match?]
  | cons c cs ih =>
    cases ds with
    | nil => simp [literals, match?]
    | cons d ds =>
      have := ih ds
      simp only [literals] at this
      by_cases h : c = d <;> simp [literals, match?, h, this]

/-- A hole at the end of a path is filled by what the path has beyond it, and that is not empty. -/
theorem match?_literals_rest (cs ds : List Char) (name : String) :
    match? (literals cs ++ [.rest name]) (cs ++ ds)
      = if ds.isEmpty then none else some [(name, String.ofList ds)] := by
  induction cs with
  | nil => cases ds <;> simp [literals, match?]
  | cons c cs ih =>
    simp only [literals] at ih
    simp [literals, match?, ih]

theorem marks_of_noBraces (cs more : List Char) (h : ∀ c ∈ cs, c ≠ '{' ∧ c ≠ '}') :
    marks (cs ++ more) = cs.map .plain ++ marks more := by
  induction cs with
  | nil => rfl
  | cons c cs ih =>
    have hc := h c (List.mem_cons_self ..)
    have ih := ih fun d hd => h d (List.mem_cons_of_mem _ hd)
    rw [List.cons_append, List.map_cons, List.cons_append, ← ih, marks]
    all_goals
      intros
      first
        | exact hc.1 ‹_›
        | exact hc.2 ‹_›

theorem piecesOf_plain (fuel : Nat) (cs : List Char) (ms : List Mark) :
    piecesOf (cs.length + fuel) (cs.map .plain ++ ms)
      = (piecesOf fuel ms).map (literals cs ++ ·) := by
  induction cs with
  | nil => simp [literals]
  | cons c cs ih =>
    have hfuel : (c :: cs).length + fuel = (cs.length + fuel) + 1 := by
      rw [List.length_cons]; omega
    rw [hfuel, List.map_cons, List.cons_append, piecesOf, ih]
    cases piecesOf fuel ms <;> simp [literals]

/-- A text without braces has no holes. -/
theorem pieces?_of_noBraces (cs : List Char) (h : ∀ c ∈ cs, c ≠ '{' ∧ c ≠ '}') :
    pieces? cs = some (literals cs) := by
  have hm : marks cs = cs.map .plain ++ [] := by
    simpa [marks] using marks_of_noBraces cs [] h
  have hp := piecesOf_plain 0 cs []
  rw [← hm] at hp
  simp only [pieces?]
  rw [show (marks cs).length = cs.length + 0 by simp [hm], hp]
  simp [piecesOf]

end Pattern

end Sidecar.Http
