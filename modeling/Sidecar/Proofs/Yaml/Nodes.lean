/-
**What is printed is read back.**

The tokens of a document are read as the node they were written for: what starts and ends a
collection is among them, so how deep a reader must go is bounded by their number.  A sequence
without an end of its own goes on as long as entries follow, and behind it stands the next key of the
mapping or the end of that.

Together with the scanner this says that a document comes back from the text that is printed for it:
every scalar as the same text in the same style, every collection with the same items or entries.

Main definition: `Sidecar.Yaml.Node.Holds` — whether a node holds a document.

Main results:

* `Sidecar.Yaml.Node.isReadNode` — **the tokens of a document are read**;
* `Sidecar.Yaml.yields_render` — **a document without floating numbers is read back from its text**,
  with or without the mark that starts a document.
-/

import Sidecar.Proofs.Yaml.Collections

set_option autoImplicit false

namespace Sidecar.Yaml

namespace Node

/-- Whether the node holds the document, in whatever text it stands. -/
def Holds (node : Node) (json : Json) : Prop :=
  ∀ document : Document, (⟨document, node⟩ : Value).holds json = true

variable {handles : List (String × String)} {fuel : Nat} {anchors : List (String × Nat)}
  {rest : List Token}

/-- Tokens of which a node is read that holds the document. -/
def IsReadNode (json : Json) : Prop :=
  ∀ (handles : List (String × String)) (fuel : Nat) (indentless : Bool)
    (anchors : List (String × Nat)) (rest : List Token), 3 * (tokensOf json).length ≤ fuel →
    ∃ node : Node, node.Holds json
      ∧ read? handles fuel ⟨true, indentless⟩ ⟨tokensOf json ++ rest, anchors⟩
        = some (node, ⟨rest, anchors⟩)

/-- A scalar is a node of its own. -/
theorem read?_scalar (style : Style) (text : String) (place : Place) (hfuel : 3 ≤ fuel) :
    read? handles fuel place ⟨.scalar style text :: rest, anchors⟩
      = some (.scalar unmarked style text, ⟨rest, anchors⟩) := by
  obtain ⟨fuel, rfl⟩ := Nat.exists_eq_succ_of_ne_zero (n := fuel) (by omega)
  rw [read?]
  simp [mark?, ofScalar, unmarked, Rest.drop]

theorem holds_scalar {json : Json} {style : Style} {text : String}
    (h : ∀ v : Value, v.holds json = v.isScalar style text) :
    (scalar unmarked style text).Holds json := by
  intro document
  rw [h]
  simp [Value.isScalar, Value.content, Document.resolve, unmarked]

/-- The empty collection of a pair of brackets. -/
def emptyOf : Bracket → Node
  | .square => .sequence unmarked []
  | .curly => .mapping unmarked []

theorem read?_brackets (b : Bracket) (place : Place) (hfuel : 3 ≤ fuel) :
    read? handles fuel place ⟨.openFlow b :: .closeFlow b :: rest, anchors⟩
      = some (emptyOf b, ⟨rest, anchors⟩) := by
  obtain ⟨fuel, rfl⟩ := Nat.exists_eq_add_of_le' (m := 2) (n := fuel) (by omega)
  cases b with
  | square => simp [read?, mark?, flowItems?, Rest.drop, emptyOf]
  | curly => simp [read?, mark?, flowEntries?, Rest.drop, emptyOf]

/-! ### Where entries end -/

/-- The tokens that end an entry, of whatever collection. -/
def entryEnds : List Token := [.entry, .key, .value, .blockEnd]

/-- Whether a node of a printed document begins with the token. -/
def beginsNode : Token → Bool
  | .scalar .. | .openFlow _ | .blockSequence | .blockMapping => true
  | _ => false

theorem exists_tokensOf {json : Json} (h : json.HasNoFloats) :
    ∃ t more, tokensOf json = t :: more ∧ beginsNode t = true := by
  cases h with
  | @arr items _ => cases items <;> exact ⟨_, _, rfl, rfl⟩
  | @obj members _ => cases members <;> exact ⟨_, _, rfl, rfl⟩
  | _ => exact ⟨_, _, rfl, rfl⟩

/-- What begins a node does not end an entry. -/
theorem notMem_entryEnds {t : Token} (h : beginsNode t = true) : t ∉ entryEnds := by
  intro hmem
  simp only [entryEnds, List.mem_cons, List.not_mem_nil, or_false] at hmem
  rcases hmem with rfl | rfl | rfl | rfl <;> cases h

theorem endsEntry_cons {ends more : List Token} {t : Token} (ht : t ∉ ends) :
    endsEntry ⟨t :: more, anchors⟩ ends = false := by
  simpa [endsEntry] using ht

/-- What is read as a node is read where an entry might end. -/
theorem readOr?_eq {place : Place} {ends more : List Token} {t : Token} (ht : t ∉ ends) :
    readOr? handles (fuel + 1) place ends ⟨t :: more, anchors⟩
      = read? handles fuel place ⟨t :: more, anchors⟩ := by
  rw [readOr?, endsEntry_cons ht]
  rfl

theorem exists_readOr? (handles : List (String × String)) (anchors : List (String × Nat))
    (rest : List Token) {json : Json} (h : json.HasNoFloats) (hread : IsReadNode json)
    (indentless : Bool) {ends : List Token} (hends : ∀ t ∈ ends, t ∈ entryEnds) {fuel : Nat}
    (hfuel : 3 * (tokensOf json).length < fuel) :
    ∃ node : Node, node.Holds json
      ∧ readOr? handles fuel ⟨true, indentless⟩ ends ⟨tokensOf json ++ rest, anchors⟩
        = some (node, ⟨rest, anchors⟩) := by
  obtain ⟨fuel, rfl⟩ := Nat.exists_eq_succ_of_ne_zero (Nat.ne_of_gt (Nat.zero_lt_of_lt hfuel))
  obtain ⟨node, hholds, heq⟩ := hread handles fuel indentless anchors rest (Nat.le_of_lt_succ hfuel)
  obtain ⟨t, more, htokens, ht⟩ := exists_tokensOf h
  refine ⟨node, hholds, ?_⟩
  rw [htokens, List.cons_append] at heq ⊢
  rw [readOr?_eq fun hmem => notMem_entryEnds ht (hends t hmem), heq]

/-! ### Sequences -/

variable {items : List Json}

theorem holds_sequence {nodes : List Node} (h : List.Forall₂ Holds nodes items) :
    (sequence unmarked nodes).Holds (.arr items) := by
  intro document
  exact Value.holdsItems_iff.2 (h.imp fun _ _ hnode => hnode document)

/-- The items of a sequence are read up to its end. -/
theorem exists_blockItems? (handles : List (String × String)) (anchors : List (String × Nat))
    (rest : List Token) (hitems : ∀ x ∈ items, x.HasNoFloats)
    (hread : ∀ x ∈ items, IsReadNode x) (hfuel : 3 * (itemTokens items).length < fuel) :
    ∃ nodes, List.Forall₂ Holds nodes items
      ∧ blockItems? handles fuel ⟨itemTokens items ++ .blockEnd :: rest, anchors⟩
        = some (nodes, ⟨rest, anchors⟩) := by
  induction items generalizing fuel with
  | nil =>
    obtain ⟨fuel, rfl⟩ := Nat.exists_eq_succ_of_ne_zero (Nat.ne_of_gt (Nat.zero_lt_of_lt hfuel))
    exact ⟨[], .nil, by simp [blockItems?, itemTokens, Rest.drop]⟩
  | cons x xs ih =>
    obtain ⟨fuel, rfl⟩ := Nat.exists_eq_succ_of_ne_zero (Nat.ne_of_gt (Nat.zero_lt_of_lt hfuel))
    rw [List.forall_mem_cons] at hitems hread
    simp only [itemTokens, List.length_cons, List.length_append] at hfuel
    have hends : ∀ t ∈ [Token.entry, .blockEnd], t ∈ entryEnds := by decide
    have hfuel₁ : 3 * (tokensOf x).length < fuel := by omega
    have hfuel₂ : 3 * (itemTokens xs).length < fuel := by omega
    obtain ⟨node, hnode, hfirst⟩ := exists_readOr? handles anchors
      (itemTokens xs ++ .blockEnd :: rest) hitems.1 hread.1 false hends hfuel₁
    obtain ⟨nodes, hnodes, hothers⟩ := ih hitems.2 hread.2 hfuel₂
    refine ⟨node :: nodes, .cons hnode hnodes, ?_⟩
    simp [blockItems?, itemTokens, Rest.drop, hfirst, hothers]

/-- The items of a sequence without an end are read as long as entries follow. -/
theorem exists_looseItems? (handles : List (String × String)) (anchors : List (String × Nat))
    {rest : List Token} (hitems : ∀ x ∈ items, x.HasNoFloats)
    (hread : ∀ x ∈ items, IsReadNode x) (hrest : rest.head? ≠ some .entry)
    (hfuel : 3 * (itemTokens items).length < fuel) :
    ∃ nodes, List.Forall₂ Holds nodes items
      ∧ looseItems? handles fuel ⟨itemTokens items ++ rest, anchors⟩
        = some (nodes, ⟨rest, anchors⟩) := by
  induction items generalizing fuel with
  | nil =>
    obtain ⟨fuel, rfl⟩ := Nat.exists_eq_succ_of_ne_zero (Nat.ne_of_gt (Nat.zero_lt_of_lt hfuel))
    refine ⟨[], .nil, ?_⟩
    rw [looseItems?]
    split
    · next heq => exact absurd (congrArg List.head? heq) hrest
    · rfl
  | cons x xs ih =>
    obtain ⟨fuel, rfl⟩ := Nat.exists_eq_succ_of_ne_zero (Nat.ne_of_gt (Nat.zero_lt_of_lt hfuel))
    rw [List.forall_mem_cons] at hitems hread
    simp only [itemTokens, List.length_cons, List.length_append] at hfuel
    have hends : ∀ t ∈ [Token.entry, .key, .value, .blockEnd], t ∈ entryEnds := by decide
    have hfuel₁ : 3 * (tokensOf x).length < fuel := by omega
    have hfuel₂ : 3 * (itemTokens xs).length < fuel := by omega
    obtain ⟨node, hnode, hfirst⟩ := exists_readOr? handles anchors (itemTokens xs ++ rest)
      hitems.1 hread.1 false hends hfuel₁
    obtain ⟨nodes, hnodes, hothers⟩ := ih hitems.2 hread.2 hfuel₂
    refine ⟨node :: nodes, .cons hnode hnodes, ?_⟩
    simp [looseItems?, itemTokens, Rest.drop, hfirst, hothers]

/-! ### Mappings -/

/-- Tokens behind a simple key of which a node is read that holds the document. -/
def IsReadLoose (json : Json) : Prop :=
  ∀ (handles : List (String × String)) (fuel : Nat) (anchors : List (String × Nat))
    (rest : List Token), rest.head? ≠ some .entry →
    3 * (loosen (tokensOf json)).length + 3 ≤ fuel →
    ∃ node : Node, node.Holds json
      ∧ readOr? handles fuel ⟨true, true⟩ [.key, .value, .blockEnd]
        ⟨loosen (tokensOf json) ++ rest, anchors⟩ = some (node, ⟨rest, anchors⟩)

variable {members : List (String × Json)}

theorem holds_mapping {entries : List (Node × Node)}
    (h : List.Forall₂ (fun e m => e.1 = scalar unmarked (Printer.style m.1) m.1 ∧ e.2.Holds m.2)
      entries members) : (mapping unmarked entries).Holds (.obj members) := by
  intro document
  refine Value.holdsMembers_iff.2 (h.imp fun e m hentry => ⟨?_, hentry.2 document⟩)
  rw [hentry.1]
  simp [Value.isScalar, Value.withNode, Value.content, Document.resolve, unmarked]

/-- The entries of a mapping are read up to its end. -/
theorem exists_blockEntries? (handles : List (String × String)) (anchors : List (String × Nat))
    (rest : List Token) (hmembers : ∀ e ∈ members, e.2.HasNoFloats)
    (hread : ∀ e ∈ members, IsReadNode e.2 ∧ IsReadLoose e.2)
    (hfuel : 3 * (entryTokens members).length < fuel) :
    ∃ entries, List.Forall₂
        (fun e m => e.1 = scalar unmarked (Printer.style m.1) m.1 ∧ e.2.Holds m.2) entries members
      ∧ blockEntries? handles fuel ⟨entryTokens members ++ .blockEnd :: rest, anchors⟩
        = some (entries, ⟨rest, anchors⟩) := by
  induction members generalizing fuel with
  | nil =>
    obtain ⟨fuel, rfl⟩ := Nat.exists_eq_succ_of_ne_zero (Nat.ne_of_gt (Nat.zero_lt_of_lt hfuel))
    exact ⟨[], .nil, by simp [blockEntries?, entryTokens, Rest.drop]⟩
  | cons e es ih =>
    obtain ⟨fuel, rfl⟩ := Nat.exists_eq_succ_of_ne_zero (Nat.ne_of_gt (Nat.zero_lt_of_lt hfuel))
    obtain ⟨k, json⟩ := e
    rw [List.forall_mem_cons] at hmembers hread
    simp only [entryTokens, List.length_cons, List.length_append] at hfuel
    have hjson : json.HasNoFloats := hmembers.1
    have hvalueRead : IsReadNode json ∧ IsReadLoose json := hread.1
    have hends : ∀ t ∈ [Token.key, .value, .blockEnd], t ∈ entryEnds := by decide
    -- behind the value stands the next key or the end
    have hnext : (entryTokens es ++ .blockEnd :: rest).head? ≠ some .entry := by
      cases es <;> simp [entryTokens]
    have hkey : ∀ more, readOr? handles fuel ⟨true, true⟩ [.key, .value, .blockEnd]
        ⟨.scalar (Printer.style k) k :: more, anchors⟩
        = some (.scalar unmarked (Printer.style k) k, ⟨more, anchors⟩) := by
      intro more
      obtain ⟨fuel, rfl⟩ := Nat.exists_eq_succ_of_ne_zero (n := fuel) (by omega)
      rw [readOr?_eq (by simp), read?_scalar _ _ _ (by omega)]
    obtain ⟨node, hnode, hvalue⟩ : ∃ node : Node, node.Holds json
        ∧ readOr? handles fuel ⟨true, true⟩ [.key, .value, .blockEnd]
          ⟨(if Printer.isComplexKey k then tokensOf json else loosen (tokensOf json))
            ++ (entryTokens es ++ .blockEnd :: rest), anchors⟩
          = some (node, ⟨entryTokens es ++ .blockEnd :: rest, anchors⟩) := by
      split
      · next hk =>
        rw [if_pos hk] at hfuel
        exact exists_readOr? handles anchors _ hjson hvalueRead.1 true hends (by omega)
      · next hk =>
        rw [if_neg hk] at hfuel
        exact hvalueRead.2 handles fuel anchors _ hnext (by omega)
    have hfuel₂ : 3 * (entryTokens es).length < fuel := by omega
    obtain ⟨entries, hentries, hothers⟩ := ih hmembers.2 hread.2 hfuel₂
    refine ⟨(.scalar unmarked (Printer.style k) k, node) :: entries,
      .cons ⟨rfl, hnode⟩ hentries, ?_⟩
    simp [blockEntries?, entryTokens, Rest.drop, hkey, hvalue, hothers]

/-! ### Documents -/

/-- A value that reads as it stands also reads so behind a simple key. -/
theorem IsReadNode.loose {json : Json} (hjson : json.HasNoFloats) (h : IsReadNode json)
    (hloose : loosen (tokensOf json) = tokensOf json) : IsReadLoose json := by
  intro handles fuel anchors rest _ hfuel
  rw [hloose] at hfuel ⊢
  have hends : ∀ t ∈ [Token.key, .value, .blockEnd], t ∈ entryEnds := by decide
  exact exists_readOr? handles anchors rest hjson h true hends (by omega)

theorem isReadNode_scalar {json : Json} {style : Style} {text : String}
    (htokens : tokensOf json = [.scalar style text])
    (hholds : ∀ v : Value, v.holds json = v.isScalar style text) : IsReadNode json := by
  intro handles fuel indentless anchors rest hfuel
  rw [htokens] at hfuel ⊢
  exact ⟨_, holds_scalar hholds, read?_scalar _ _ _ hfuel⟩

theorem isReadNode_brackets {json : Json} (b : Bracket)
    (htokens : tokensOf json = [.openFlow b, .closeFlow b]) (hholds : (emptyOf b).Holds json) :
    IsReadNode json := by
  intro handles fuel indentless anchors rest hfuel
  rw [htokens] at hfuel ⊢
  exact ⟨emptyOf b, hholds, read?_brackets b _ (Nat.le_trans (by simp) hfuel)⟩

theorem isReadNode_arr (hitems : ∀ x ∈ items, x.HasNoFloats) (hread : ∀ x ∈ items, IsReadNode x) :
    IsReadNode (.arr items) ∧ IsReadLoose (.arr items) := by
  cases items with
  | nil =>
    have hnode : IsReadNode (.arr []) :=
      isReadNode_brackets .square rfl (holds_sequence .nil)
    exact ⟨hnode, hnode.loose (.arr hitems) rfl⟩
  | cons x xs =>
    constructor
    · intro handles fuel indentless anchors rest hfuel
      simp only [tokensOf, List.length_cons, List.length_append] at hfuel
      obtain ⟨fuel, rfl⟩ := Nat.exists_eq_succ_of_ne_zero (n := fuel) (by omega)
      have hfuel₁ : 3 * (itemTokens (x :: xs)).length < fuel := by omega
      obtain ⟨nodes, hnodes, hblock⟩ := exists_blockItems? handles anchors rest hitems hread hfuel₁
      refine ⟨_, holds_sequence hnodes, ?_⟩
      simp [tokensOf, read?, mark?, Rest.drop, hblock]
    · intro handles fuel anchors rest hrest hfuel
      have hloose : loosen (tokensOf (.arr (x :: xs))) = itemTokens (x :: xs) := by
        simp [tokensOf, loosen]
      rw [hloose] at hfuel ⊢
      obtain ⟨fuel, rfl⟩ := Nat.exists_eq_add_of_le' (m := 2) (n := fuel) (by omega)
      have hfuel₁ : 3 * (itemTokens (x :: xs)).length < fuel := by omega
      obtain ⟨nodes, hnodes, hblock⟩ := exists_looseItems? handles anchors hitems hread hrest hfuel₁
      refine ⟨_, holds_sequence hnodes, ?_⟩
      rw [itemTokens, List.cons_append, readOr?_eq (by simp)]
      simp only [itemTokens, List.cons_append, List.append_assoc] at hblock
      simp [read?, mark?, hblock]

theorem isReadNode_obj (hmembers : ∀ e ∈ members, e.2.HasNoFloats)
    (hread : ∀ e ∈ members, IsReadNode e.2 ∧ IsReadLoose e.2) : IsReadNode (.obj members) := by
  cases members with
  | nil => exact isReadNode_brackets .curly rfl (holds_mapping .nil)
  | cons e es =>
    intro handles fuel indentless anchors rest hfuel
    simp only [tokensOf, List.length_cons, List.length_append] at hfuel
    obtain ⟨fuel, rfl⟩ := Nat.exists_eq_succ_of_ne_zero (n := fuel) (by omega)
    have hfuel₁ : 3 * (entryTokens (e :: es)).length < fuel := by omega
    obtain ⟨entries, hentries, hblock⟩ :=
      exists_blockEntries? handles anchors rest hmembers hread hfuel₁
    refine ⟨_, holds_mapping hentries, ?_⟩
    simp [tokensOf, read?, mark?, Rest.drop, hblock]

/-- **The tokens of a document are read** as a node that holds it, also behind a simple key. -/
theorem isReadNode {json : Json} (h : json.HasNoFloats) : IsReadNode json ∧ IsReadLoose json := by
  have hscalar : ∀ {json : Json} {style : Style} {text : String}, json.HasNoFloats →
      tokensOf json = [.scalar style text] → (∀ v : Value, v.holds json = v.isScalar style text) →
      IsReadNode json ∧ IsReadLoose json := by
    intro json style text hjson htokens hholds
    have hnode := isReadNode_scalar htokens hholds
    exact ⟨hnode, hnode.loose hjson (by rw [htokens]; rfl)⟩
  induction h with
  | null => exact hscalar .null rfl fun v => by rw [Value.holds]
  | bool b => exact hscalar (.bool b) rfl fun v => by rw [Value.holds]
  | int n => exact hscalar (.int n) rfl fun v => by rw [Value.holds]
  | str s => exact hscalar (.str s) rfl fun v => by rw [Value.holds]
  | arr hitems ih => exact isReadNode_arr hitems fun x hx => (ih x hx).1
  | @obj members hmembers ih =>
    have hnode := isReadNode_obj hmembers ih
    refine ⟨hnode, hnode.loose (.obj hmembers) ?_⟩
    cases members <;> rfl

end Node

/-! ### Texts -/

/-- The tokens of a document, with or without the mark that starts it, make a document whose root
holds it. -/
theorem Document.exists_ofTokens? {json : Json} (h : json.HasNoFloats) :
    ∃ node : Node, node.Holds json ∧ Document.ofTokens? (tokensOf json) = some (.ofNode node)
      ∧ Document.ofTokens? (.documentStart :: tokensOf json) = some (.ofNode node) := by
  obtain ⟨node, hholds, hread⟩ := (Node.isReadNode h).1 ([] ++ commonHandles)
    (3 * (tokensOf json).length + 3) false [] [] (Nat.le_add_right _ 3)
  rw [List.append_nil] at hread
  have hroot : root? [] (tokensOf json) = some (node, []) := by
    rw [root?, hread]
    rfl
  obtain ⟨t, more, htokens, ht⟩ := Node.exists_tokensOf h
  rw [htokens] at hroot ⊢
  have hcontent : content? [] (t :: more) = some (node, []) := by
    rw [← hroot]
    cases t <;> first | rfl | cases ht
  have hfirst : first? (t :: more) = some (node, []) := by
    rw [← hroot]
    cases t <;> first | (simp [first?, directives?]; done) | cases ht
  refine ⟨node, hholds, ?_, ?_⟩
  · simp [ofTokens?, hfirst]
  · simp [ofTokens?, first?, directives?, hcontent]

theorem hasNoFloats_of_isRegular {json : Json} (h : json.IsRegular) : json.HasNoFloats := by
  induction h with
  | null => exact .null
  | bool b => exact .bool b
  | int n => exact .int n
  | str s => exact .str s
  | arr _ ih => exact .arr ih
  | obj _ _ ih => exact .obj ih

/-- **A document without floating numbers is read back from its text**, with or without the mark
that starts a document. -/
theorem yields_render {json : Json} (h : json.HasNoFloats) :
    yields (render json) json = true ∧ yields ("---\n" ++ render json) json = true := by
  obtain ⟨hplain, hmarked⟩ := Token.scan?_render h
  obtain ⟨node, hholds, hplainTokens, hmarkedTokens⟩ := Document.exists_ofTokens? h
  have hroot : (⟨.ofNode node, (Document.ofNode node).root⟩ : Value).holds json = true :=
    hholds (.ofNode node)
  constructor
  · simp [yields, Value.parse?, Document.parse?, hplain, hplainTokens, hroot]
  · simp [yields, Value.parse?, Document.parse?, hmarked, hmarkedTokens, hroot]

end Sidecar.Yaml
