/-
**Documents of YAML texts.**

A document is a tree of scalars, sequences and mappings.  A node may carry a tag, and an anchor by
which an alias refers to it.  Anchors are numbered: an anchor takes the number of names met before
it, and of the nodes with one number the last is the one that an alias of that number means.  A
name that is given a second time takes a new number.

Main definitions:

* `Sidecar.Yaml.Node` — the nodes;
* `Sidecar.Yaml.Document` — the root and the nodes that have anchors;
* `Sidecar.Yaml.Node.read?` — a node at the head of the tokens;
* `Sidecar.Yaml.Document.parse?` — the document of a text.
-/

import Sidecar.Yaml.Token

set_option autoImplicit false

namespace Sidecar.Yaml

/-- What a node carries beside its content. -/
structure Mark where
  /-- The number of the anchor. -/
  anchor : Option Nat
  /-- The tag with its handle expanded. -/
  tag : Option String
deriving DecidableEq

/-- A node of a document. -/
inductive Node where
  | scalar (mark : Mark) (style : Style) (text : String)
  | sequence (mark : Mark) (items : List Node)
  | mapping (mark : Mark) (entries : List (Node × Node))
  | alias (anchor : Nat)
deriving Inhabited

/-- A root and the nodes that have anchors, each under its number, the last of a number first. -/
structure Document where
  root : Node
  anchored : List (Nat × Node)

namespace Node

/-- A node that is not written. -/
def empty (mark : Mark) : Node := .scalar mark .plain ""

/-- The mark without anchor and tag. -/
def unmarked : Mark := ⟨none, none⟩

/-- What is left of the tokens, and the numbers of the anchors met so far. -/
structure Rest where
  tokens : List Token
  anchors : List (String × Nat)

namespace Rest

/-- Without the first token. -/
def drop (r : Rest) : Rest := { r with tokens := r.tokens.drop 1 }

/-- The number of a new anchor. -/
def bind (name : String) (r : Rest) : Nat × Rest :=
  let number := r.anchors.length
  (number, { r with anchors := (name, number) :: r.anchors.filter (·.1 ≠ name) })

end Rest

/-- A node as it is read: its place in a mapping or sequence decides which collections may stand
there. -/
structure Place where
  /-- Whether a collection written by indentation may stand here. -/
  block : Bool
  /-- Whether the entries of a sequence may stand here without indentation. -/
  indentless : Bool

/-- The tag of a handle and a suffix, by the handles declared. -/
def expand? (handles : List (String × String)) (handle suffix : String) : Option String :=
  if handle.isEmpty then some suffix else (handles.lookup handle).map (· ++ suffix)

/-- Anchor and tag before a node, in either order. -/
def mark? (handles : List (String × String)) (r : Rest) : Option (Mark × Rest) :=
  match r.tokens with
  | .anchor name :: .tag handle suffix :: _ | .tag handle suffix :: .anchor name :: _ => do
    let tag ← expand? handles handle suffix
    let (number, r) := r.bind name
    some (⟨some number, some tag⟩, r.drop.drop)
  | .anchor name :: _ =>
    let (number, r) := r.bind name
    some (⟨some number, none⟩, r.drop)
  | .tag handle suffix :: _ => do
    let tag ← expand? handles handle suffix
    some (⟨none, some tag⟩, r.drop)
  | _ => some (unmarked, r)

/-- A scalar, whose tag of a lone exclamation mark says nothing. -/
def ofScalar (mark : Mark) (style : Style) (text : String) : Node :=
  .scalar (if mark.tag = some "!" then { mark with tag := none } else mark) style text

/-- Whether the tokens go on with one of those that end an entry. -/
def endsEntry (r : Rest) (tokens : List Token) : Bool :=
  r.tokens.head?.any (tokens.contains ·)

mutual

/-- A node at the head of the tokens. -/
def read? (handles : List (String × String)) (fuel : Nat) (place : Place) (r : Rest) :
    Option (Node × Rest) :=
  match fuel with
  | 0 => none
  | fuel + 1 =>
    match r.tokens with
    | .alias name :: _ => (r.anchors.lookup name).map fun n => (.alias n, r.drop)
    | _ => do
      let (mark, r) ← mark? handles r
      match r.tokens with
      | .scalar style text :: _ => some (ofScalar mark style text, r.drop)
      | .openFlow .square :: _ =>
        let (items, r) ← flowItems? handles fuel true r.drop
        some (.sequence mark items, r)
      | .openFlow .curly :: _ =>
        let (entries, r) ← flowEntries? handles fuel true r.drop
        some (.mapping mark entries, r)
      | t :: _ =>
        if place.indentless && t == .entry then
          let (items, r) ← looseItems? handles fuel r
          some (.sequence mark items, r)
        else if place.block && t == .blockSequence then
          let (items, r) ← blockItems? handles fuel r.drop
          some (.sequence mark items, r)
        else if place.block && t == .blockMapping then
          let (entries, r) ← blockEntries? handles fuel r.drop
          some (.mapping mark entries, r)
        else if mark = unmarked then none
        else some (empty mark, r)
      | [] => if mark = unmarked then none else some (empty mark, r)

/-- A node, or an empty one if the tokens go on with one of `ends`. -/
def readOr? (handles : List (String × String)) (fuel : Nat) (place : Place) (ends : List Token)
    (r : Rest) : Option (Node × Rest) :=
  match fuel with
  | 0 => none
  | fuel + 1 => if endsEntry r ends then some (empty unmarked, r) else read? handles fuel place r

/-- The items of a sequence written by indentation, up to its end. -/
def blockItems? (handles : List (String × String)) (fuel : Nat) (r : Rest) :
    Option (List Node × Rest) :=
  match fuel with
  | 0 => none
  | fuel + 1 =>
    match r.tokens with
    | .entry :: _ => do
      let (x, r) ← readOr? handles fuel ⟨true, false⟩ [.entry, .blockEnd] r.drop
      let (xs, r) ← blockItems? handles fuel r
      some (x :: xs, r)
    | .blockEnd :: _ => some ([], r.drop)
    | _ => none

/-- The items of a sequence that is not indented beyond the mapping around it. -/
def looseItems? (handles : List (String × String)) (fuel : Nat) (r : Rest) :
    Option (List Node × Rest) :=
  match fuel with
  | 0 => none
  | fuel + 1 =>
    match r.tokens with
    | .entry :: _ => do
      let (x, r) ← readOr? handles fuel ⟨true, false⟩ [.entry, .key, .value, .blockEnd] r.drop
      let (xs, r) ← looseItems? handles fuel r
      some (x :: xs, r)
    | _ => some ([], r)

/-- The entries of a mapping written by indentation, up to its end. -/
def blockEntries? (handles : List (String × String)) (fuel : Nat) (r : Rest) :
    Option (List (Node × Node) × Rest) :=
  match fuel with
  | 0 => none
  | fuel + 1 =>
    match r.tokens with
    | .key :: _ => do
      let (k, r) ← readOr? handles fuel ⟨true, true⟩ [.key, .value, .blockEnd] r.drop
      let (x, r) ← match r.tokens with
        | .value :: _ => readOr? handles fuel ⟨true, true⟩ [.key, .value, .blockEnd] r.drop
        | _ => some (empty unmarked, r)
      let (xs, r) ← blockEntries? handles fuel r
      some ((k, x) :: xs, r)
    | .blockEnd :: _ => some ([], r.drop)
    | _ => none

/-- The items of a sequence in brackets, up to the closing bracket.  An item may be a single entry
of a mapping. -/
def flowItems? (handles : List (String × String)) (fuel : Nat) (first : Bool) (r : Rest) :
    Option (List Node × Rest) :=
  match fuel with
  | 0 => none
  | fuel + 1 =>
    match r.tokens with
    | .closeFlow .square :: _ => some ([], r.drop)
    | _ => do
      let r ← separated? first r
      match r.tokens with
      | .closeFlow .square :: _ => some ([], r.drop)
      | .key :: _ =>
        let (k, r) ←
          if endsEntry r.drop [.value, .comma, .closeFlow .square] then
            some (empty unmarked, r.drop.drop)
          else read? handles fuel ⟨false, false⟩ r.drop
        let (x, r) ← match r.tokens with
          | .value :: _ =>
            readOr? handles fuel ⟨false, false⟩ [.comma, .closeFlow .square] r.drop
          | _ => some (empty unmarked, r)
        let (xs, r) ← flowItems? handles fuel false r
        some (.mapping unmarked [(k, x)] :: xs, r)
      | _ =>
        let (x, r) ← read? handles fuel ⟨false, false⟩ r
        let (xs, r) ← flowItems? handles fuel false r
        some (x :: xs, r)

/-- The entries of a mapping in braces, up to the closing brace.  A key may stand alone. -/
def flowEntries? (handles : List (String × String)) (fuel : Nat) (first : Bool) (r : Rest) :
    Option (List (Node × Node) × Rest) :=
  match fuel with
  | 0 => none
  | fuel + 1 =>
    match r.tokens with
    | .closeFlow .curly :: _ => some ([], r.drop)
    | _ => do
      let r ← separated? first r
      match r.tokens with
      | .closeFlow .curly :: _ => some ([], r.drop)
      | .key :: _ =>
        let (k, r) ← readOr? handles fuel ⟨false, false⟩
          [.value, .comma, .closeFlow .curly] r.drop
        let (x, r) ← match r.tokens with
          | .value :: _ => readOr? handles fuel ⟨false, false⟩ [.comma, .closeFlow .curly] r.drop
          | _ => some (empty unmarked, r)
        let (xs, r) ← flowEntries? handles fuel false r
        some ((k, x) :: xs, r)
      | _ =>
        let (k, r) ← read? handles fuel ⟨false, false⟩ r
        let (xs, r) ← flowEntries? handles fuel false r
        some ((k, empty unmarked) :: xs, r)

/-- The tokens after the comma that must stand before every entry but the first. -/
def separated? (first : Bool) (r : Rest) : Option Rest :=
  if first then some r
  else match r.tokens with
    | .comma :: _ => some r.drop
    | _ => none

end

/-! ### Nodes with anchors -/

/-- The number and the node, if the mark has an anchor. -/
def anchorOf (mark : Mark) (node : Node) : List (Nat × Node) :=
  match mark.anchor with
  | some n => [(n, node)]
  | none => []

mutual

/-- The nodes with anchors, in the order of the text. -/
def anchored : Node → List (Nat × Node)
  | .scalar mark style text => anchorOf mark (.scalar mark style text)
  | .sequence mark items => anchorOf mark (.sequence mark items) ++ anchoredItems items
  | .mapping mark entries => anchorOf mark (.mapping mark entries) ++ anchoredEntries entries
  | .alias _ => []

/-- The nodes with anchors among the items of a sequence. -/
def anchoredItems : List Node → List (Nat × Node)
  | [] => []
  | x :: xs => anchored x ++ anchoredItems xs

/-- The nodes with anchors among the entries of a mapping. -/
def anchoredEntries : List (Node × Node) → List (Nat × Node)
  | [] => []
  | (k, x) :: xs => anchored k ++ anchored x ++ anchoredEntries xs

end

end Node

namespace Document

/-- The document whose root is the node. -/
def ofNode (root : Node) : Document := ⟨root, (Node.anchored root).reverse⟩

/-- The node that the given one stands for: for an alias, the last node with its number. -/
def resolve (document : Document) : Node → Node
  | .alias n => (document.anchored.lookup n).getD (.alias n)
  | node => node

/-- The directives at the head of the tokens: at most one version, which must be 1.1 or 1.2, and
each handle of tags once. -/
def directives? : (versioned : Bool) → List (String × String) → List Token →
    Option (List (String × String) × List Token)
  | versioned, handles, .version major minor :: rest =>
    if versioned || major ≠ 1 || (minor ≠ 1 && minor ≠ 2) then none
    else directives? true handles rest
  | versioned, handles, .tagHandle handle expansion :: rest =>
    if (handles.lookup handle).isSome then none
    else directives? versioned ((handle, expansion) :: handles) rest
  | _, handles, rest => some (handles, rest)

/-- The handles that every document has. -/
def commonHandles : List (String × String) :=
  [("!", "!"), ("!!", "tag:yaml.org,2002:")]

/-- A root that is written, and the tokens after it. -/
def root? (handles : List (String × String)) (tokens : List Token) :
    Option (Node × List Token) :=
  (Node.read? (handles ++ commonHandles) (3 * tokens.length + 3) ⟨true, false⟩ ⟨tokens, []⟩).map
    fun (node, r) => (node, r.tokens)

/-- The root after the mark that starts a document, which may lack it, and the tokens after it. -/
def content? (handles : List (String × String)) (tokens : List Token) :
    Option (Node × List Token) :=
  match tokens with
  | [] | .documentStart :: _ | .documentEnd :: _ | .version .. :: _ | .tagHandle .. :: _ =>
    some (.empty Node.unmarked, tokens)
  | _ => root? handles tokens

/-- The root of the first document and the tokens after it.  A document with directives must start
with a mark. -/
def first? (tokens : List Token) : Option (Node × List Token) := do
  let (handles, rest) ← directives? false [] tokens
  match rest with
  | .documentStart :: rest => content? handles rest
  | rest => if rest = tokens then root? [] rest else none

/-- The document of the tokens of a text, which holds at most one.  A text without tokens holds an
empty node. -/
def ofTokens? (tokens : List Token) : Option Document :=
  if tokens.isEmpty then some (ofNode (.empty Node.unmarked))
  else do
    let (root, rest) ← first? tokens
    if (rest.dropWhile (· == .documentEnd)).isEmpty then some (ofNode root) else none

/-- The document of a text. -/
def parse? (text : String) : Option Document :=
  (Token.scan? text).bind ofTokens?

end Document

end Sidecar.Yaml
