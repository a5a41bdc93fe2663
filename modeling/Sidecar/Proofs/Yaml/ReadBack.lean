/-
**What is written as YAML is read back.**

In a YAML text every scalar is a text, and whoever asks decides what it reads as.  So it is not
enough that a document comes back with the same scalars: a text that reads as null, a truth value or
a number must come back in quotes, and what is none must come back without.  That is what styles
are for, and a node *holds* a document if it has its scalars, each in the style that the printer
chooses for it, and its sequences and mappings.

That a text comes back as such a node is for the scanner to say; here, from a node that holds the
document on, every question of a decoder is answered as the document answers it.

Main definitions:

* `Sidecar.Yaml.Value.holds` — whether a value holds a document;
* `Sidecar.Yaml.yields` — whether a text is read as a value that holds a document.

Main results:

* `Sidecar.Yaml.Plain.signed?_toString`, `Sidecar.Yaml.Plain.unsigned?_toString` — numbers are read
  back as they are written;
* `Sidecar.Yaml.Value.answers_of_holds` — **a value that holds a document answers for it.**
-/

import Sidecar.Proofs.Decode.ReadBack
import Sidecar.Proofs.Json.Written
import Sidecar.Yaml.Printer
import Sidecar.Yaml.Value

set_option autoImplicit false

namespace Sidecar.Yaml

/-! ### Numbers -/

namespace Plain

theorem hexValue?_of_isDigit {c : Char} (h : c.isDigit = true) :
    Text.hexValue? c = some (c.toNat - '0'.toNat) ∧ c.toNat - '0'.toNat < 10 := by
  obtain ⟨hlow, hhigh⟩ := Char.isDigit_iff_toNat.1 h
  have hrange : (decide ('0' ≤ c) && decide (c ≤ '9')) = true := by
    simpa [Char.isDigit, Char.le_def] using h
  have hnine : '9'.toNat = '0'.toNat + 9 := rfl
  exact ⟨by rw [Text.hexValue?, if_pos hrange], by omega⟩

/-- Decimal digits write the number that they are the digits of. -/
theorem digits?_of_isDigit {cs : List Char} (h : ∀ c ∈ cs, c.isDigit = true) (hne : cs ≠ []) :
    digits? 10 cs = some (Nat.ofDigitChars 10 cs 0) := by
  have hfold : ∀ n, cs.foldlM (fun n c => do
      let d ← Text.hexValue? c
      if d < 10 then some (n * 10 + d) else none) n = some (Nat.ofDigitChars 10 cs n) := by
    clear hne
    induction cs with
    | nil => exact fun n => rfl
    | cons c cs ih =>
      intro n
      rw [List.forall_mem_cons] at h
      obtain ⟨hvalue, hlt⟩ := hexValue?_of_isDigit h.1
      rw [List.foldlM_cons, hvalue, Option.bind_eq_bind, Option.bind_some, if_pos hlt,
        Nat.ofDigitChars_cons, Nat.mul_comm 10 n]
      exact ih h.2 _
  rw [digits?, if_neg (by simpa using hne)]
  exact hfold 0

theorem isDigit_of_mem_toDigits {n : Nat} : ∀ c ∈ Nat.toDigits 10 n, c.isDigit = true :=
  fun _ => Nat.isDigit_of_mem_toDigits (by decide) (by decide)

theorem digits?_toDigits (n : Nat) : digits? 10 (Nat.toDigits 10 n) = some n := by
  rw [digits?_of_isDigit isDigit_of_mem_toDigits Nat.toDigits_ne_nil, Nat.ofDigitChars_ten_toDigits]

/-- The digits of a number begin with no sign, and with a zero only for zero itself. -/
theorem toDigits_cases (n : Nat) : (n = 0 ∧ Nat.toDigits 10 n = ['0'])
    ∨ ∃ c cs, Nat.toDigits 10 n = c :: cs ∧ c ≠ '0' ∧ c ≠ '+' ∧ c ≠ '-' := by
  rcases Nat.eq_zero_or_pos n with rfl | hpos
  · exact .inl ⟨rfl, Nat.toDigits_zero 10⟩
  · cases hdigits : Nat.toDigits 10 n with
    | nil => exact absurd hdigits Nat.toDigits_ne_nil
    | cons c cs =>
      have hdigit := isDigit_of_mem_toDigits c (hdigits ▸ List.mem_cons_self)
      have hzero := Json.Pointer.head?_toDigits_ne_zero (Nat.ne_of_gt hpos)
      rw [hdigits, List.head?_cons] at hzero
      refine .inr ⟨c, cs, rfl, fun h => hzero (h ▸ rfl), ?_, ?_⟩
      · rintro rfl
        cases hdigit
      · rintro rfl
        cases hdigit

theorem based?_toDigits (n : Nat) : based? (Nat.toDigits 10 n) = none := by
  rcases toDigits_cases n with ⟨-, h⟩ | ⟨c, cs, h, hzero, -, -⟩
  · rw [h]
    rfl
  · rw [h, based?.eq_def]
    split <;> simp_all

theorem isPadded_toDigits (n : Nat) : isPadded (Nat.toDigits 10 n) = false := by
  rcases toDigits_cases n with ⟨-, h⟩ | ⟨c, cs, h, hzero, hplus, hminus⟩
  · rw [h]
    rfl
  · have hunsign : unsign (c :: cs) = c :: cs := by
      rw [unsign.eq_def]
      split <;> simp_all
    rw [h, isPadded, hunsign]
    split <;> simp_all

theorem natural?_toDigits (n : Nat) : natural? (Nat.toDigits 10 n) = some n := by
  have hplus : ∀ cs, Nat.toDigits 10 n ≠ '+' :: cs := fun cs heq => by
    have hdigit := isDigit_of_mem_toDigits '+' (heq ▸ List.mem_cons_self)
    cases hdigit
  rw [natural?, based?_toDigits]
  · simp only [isPadded_toDigits, Bool.false_eq_true, if_false, digits?_toDigits]
  · exact hplus

theorem negative?_minus_toDigits (n : Nat) : negative? ('-' :: Nat.toDigits 10 n) = some n := by
  rw [negative?, based?_toDigits]
  simp only [isPadded_toDigits, Bool.false_eq_true, if_false, digits?_toDigits]

/-- A number after a minus sign is not read as one without. -/
theorem natural?_minus (cs : List Char) : natural? ('-' :: cs) = none := by
  have hbased : based? ('-' :: cs) = none := rfl
  have hdigits : digits? 10 ('-' :: cs) = none := by
    rw [digits?, if_neg (by simp), List.foldlM_cons]
    rfl
  rw [natural?, hbased]
  · simp only [hdigits, ite_self]
  · exact fun _ heq => absurd (List.cons.inj heq).1 (by decide)

theorem toList_toString_ofNat (n : Nat) :
    (toString (Int.ofNat n)).toList = Nat.toDigits 10 n :=
  Nat.toList_repr

theorem toList_toString_negSucc (n : Nat) :
    (toString (Int.negSucc n)).toList = '-' :: Nat.toDigits 10 (n + 1) := by
  rw [Int.toString_eq_repr, Int.repr, String.toList_append, Nat.toList_repr]
  rfl

/-- A number of 64 bits without sign is read back. -/
theorem unsigned?_toString {n : Nat} (h : n < 2 ^ 64) :
    unsigned? (toString (Int.ofNat n)) = some n := by
  rw [unsigned?, toList_toString_ofNat, natural?_toDigits]
  simpa [UInt64.size] using h

/-- A number of 64 bits with a sign is read back. -/
theorem signed?_toString {n : Int} (hlow : -2 ^ 63 ≤ n) (hhigh : n < 2 ^ 63) :
    signed? (toString n) = some n := by
  cases n with
  | ofNat n =>
    have hlt : n < 1 <<< 63 := by
      have hcast : (n : Int) < 2 ^ 63 := hhigh
      rw [Nat.one_shiftLeft]
      omega
    rw [signed?, toList_toString_ofNat, natural?_toDigits]
    simp only [hlt, if_true]
    rfl
  | negSucc n =>
    have hle : n + 1 ≤ 1 <<< 63 := by
      rw [Nat.one_shiftLeft]
      omega
    rw [signed?, toList_toString_negSucc, natural?_minus, negative?_minus_toDigits]
    simp only [hle, if_true]
    rfl

/-- What reads as no number is not how a number is written. -/
theorem toString_ne (n : Int) {s : String} (hnatural : natural? s.toList = none)
    (hnegative : negative? s.toList = none) : toString n ≠ s := by
  rintro rfl
  cases n with
  | ofNat n =>
    rw [toList_toString_ofNat, natural?_toDigits] at hnatural
    cases hnatural
  | negSucc n =>
    rw [toList_toString_negSucc, negative?_minus_toDigits] at hnegative
    cases hnegative

theorem isNull_toString (n : Int) : isNull (toString n) = false := by
  simp only [isNull, toString_ne n (s := "null") rfl rfl, toString_ne n (s := "Null") rfl rfl,
    toString_ne n (s := "NULL") rfl rfl, toString_ne n (s := "~") rfl rfl, decide_false,
    Bool.or_self]

end Plain

/-! ### Values that hold a document -/

/-- What is written plain reads as a text. -/
theorem Printer.isText_of_style {s : String} (h : Printer.style s = .plain) :
    Plain.isText s = true := by
  rw [Printer.style] at h
  split at h
  · split at h <;> cases h
  · split at h
    · next hplain => exact (Bool.and_eq_true_iff.1 hplain).1
    · split at h <;> cases h

namespace Value

/-- Whether the value is a scalar of that style and text, without a tag. -/
def isScalar (style : Style) (text : String) (v : Value) : Bool :=
  match v.content with
  | .scalar mark style' text' => mark.tag.isNone && style' = style && text' = text
  | _ => false

mutual

/-- Whether the value is what is written for the document: each scalar in the style that the printer
chooses for it, and the sequences and mappings in the order given.  Floating numbers are left out;
no settings have any. -/
def holds (v : Value) : Json → Bool
  | .null => v.isScalar .plain "null"
  | .bool b => v.isScalar .plain (if b then "true" else "false")
  | .int n => v.isScalar .plain (toString n)
  | .float _ => false
  | .str s => v.isScalar (Printer.style s) s
  | .arr items =>
    match v.content with
    | .sequence _ nodes => holdsItems v nodes items
    | _ => false
  | .obj members =>
    match v.content with
    | .mapping _ entries => holdsMembers v entries members
    | _ => false

/-- Whether nodes are what is written for the items of a list. -/
def holdsItems (v : Value) : List Node → List Json → Bool
  | [], [] => true
  | node :: nodes, x :: xs => (v.withNode node).holds x && holdsItems v nodes xs
  | _, _ => false

/-- Whether entries are what is written for the members of an object. -/
def holdsMembers (v : Value) : List (Node × Node) → List (String × Json) → Bool
  | [], [] => true
  | (key, node) :: entries, (name, x) :: members =>
    (v.withNode key).isScalar (Printer.style name) name && (v.withNode node).holds x
      && holdsMembers v entries members
  | _, _ => false

end

theorem isScalar_iff {style : Style} {text : String} {v : Value} :
    v.isScalar style text = true
      ↔ ∃ mark : Mark, mark.tag = none ∧ v.content = .scalar mark style text := by
  unfold isScalar
  cases v.content with
  | scalar mark style' text' =>
    simp only [Bool.and_eq_true, decide_eq_true_eq, Option.isNone_iff_eq_none, Node.scalar.injEq]
    constructor
    · rintro ⟨⟨htag, rfl⟩, rfl⟩
      exact ⟨mark, htag, rfl, rfl, rfl⟩
    · rintro ⟨_, htag, rfl, rfl, rfl⟩
      exact ⟨⟨htag, rfl⟩, rfl⟩
  | _ => simp

/-- The text of a scalar is there for every question about texts. -/
theorem text_of_isScalar {style : Style} {text : String} {v : Value}
    (h : v.isScalar style text = true) : v.text = .ok text := by
  obtain ⟨mark, -, hcontent⟩ := isScalar_iff.1 h
  rw [Value.text, hcontent]
  rfl

theorem variant_of_isScalar {style : Style} {text : String} {v : Value}
    (h : v.isScalar style text = true) {names : List String} (hmem : text ∈ names) :
    variant names v = .ok text := by
  obtain ⟨mark, htag, hcontent⟩ := isScalar_iff.1 h
  rw [variant, hcontent]
  simp [tagName?, htag, hmem, pure, Except.pure]

/-- A scalar is present unless it is plain and reads as null. -/
theorem option_of_isScalar {style : Style} {text : String} {v : Value}
    (h : v.isScalar style text = true)
    (hnull : style = .plain → text ≠ "" ∧ Plain.isNull text = false) :
    v.option = .ok (some v) := by
  obtain ⟨mark, htag, hcontent⟩ := isScalar_iff.1 h
  rw [Value.option, hcontent]
  cases style with
  | plain =>
    obtain ⟨hempty, hnull⟩ := hnull rfl
    simp [htag, hempty, hnull, pure, Except.pure]
  | _ => rfl

theorem bare?_of_isScalar {text : String} {v : Value} (h : v.isScalar .plain text = true)
    (type : String) : v.bare? type = some text := by
  obtain ⟨mark, htag, hcontent⟩ := isScalar_iff.1 h
  rw [bare?, hcontent]

/-- A text is present: it is written plain only if it reads as a text. -/
theorem option_of_text {s : String} {v : Value} (h : v.isScalar (Printer.style s) s = true) :
    v.option = .ok (some v) := by
  refine option_of_isScalar h fun hplain => ?_
  have htext := Printer.isText_of_style hplain
  simp only [Plain.isText, Bool.not_eq_true', Bool.or_eq_false_iff] at htext
  obtain ⟨⟨⟨⟨⟨hempty, hnull⟩, -⟩, -⟩, -⟩, -⟩ := htext
  exact ⟨by simpa using hempty, hnull⟩

theorem holdsItems_iff {v : Value} {nodes : List Node} {items : List Json} :
    holdsItems v nodes items = true
      ↔ List.Forall₂ (fun node x => (v.withNode node).holds x = true) nodes items := by
  induction nodes generalizing items with
  | nil => cases items <;> simp [holdsItems]
  | cons node nodes ih => cases items <;> simp [holdsItems, ih]

theorem holdsMembers_iff {v : Value} {entries : List (Node × Node)}
    {members : List (String × Json)} :
    holdsMembers v entries members = true
      ↔ List.Forall₂ (fun e m => (v.withNode e.1).isScalar (Printer.style m.1) m.1 = true
        ∧ (v.withNode e.2).holds m.2 = true) entries members := by
  induction entries generalizing members with
  | nil => cases members <;> simp [holdsMembers]
  | cons e entries ih => cases members <;> simp [holdsMembers, ih]

/-- The entries of a mapping, by name, are those of the members that it holds. -/
theorem exists_named {v : Value} {entries : List (Node × Node)} {members : List (String × Json)}
    (h : holdsMembers v entries members = true) :
    ∃ given, v.named entries = .ok given ∧ given.map Prod.fst = members.map Prod.fst
      ∧ ∀ e ∈ given, ∃ json, (e.1, json) ∈ members ∧ e.2.holds json = true := by
  rw [holdsMembers_iff] at h
  induction h with
  | nil => exact ⟨[], rfl, rfl, by simp⟩
  | @cons e m entries members hfirst _ ih =>
    obtain ⟨given, hnamed, hnames, hholds⟩ := ih
    refine ⟨(m.1, v.withNode e.2) :: given, ?_, by rw [List.map_cons, List.map_cons, hnames], ?_⟩
    · rw [named] at hnamed
      rw [named, List.mapM_cons, hnamed]
      simp only [text_of_isScalar hfirst.1]
      rfl
    · rw [List.forall_mem_cons]
      refine ⟨⟨m.2, List.mem_cons_self, hfirst.2⟩, fun e' he' => ?_⟩
      obtain ⟨json, hjson, hvalue⟩ := hholds e' he'
      exact ⟨json, List.mem_cons_of_mem _ hjson, hvalue⟩

/-- **A value that holds a document answers for it.** -/
theorem answers_of_holds {json : Json} (hjson : json.IsRegular) {v : Value}
    (h : v.holds json = true) : Answers v json := by
  induction hjson generalizing v with
  | null =>
    rw [holds] at h
    obtain ⟨mark, htag, hcontent⟩ := isScalar_iff.1 h
    refine .null ?_
    simp [Source.option, Value.option, hcontent, htag, Plain.isNull, pure, Except.pure]
  | bool b =>
    rw [holds] at h
    refine .bool (option_of_isScalar h fun _ => by cases b <;> decide) ?_
    simp only [Source.bool, Value.bool, bare?_of_isScalar h]
    cases b <;> rfl
  | int n =>
    rw [holds] at h
    refine .int (option_of_isScalar h fun _ => ⟨Plain.toString_ne n rfl rfl,
      Plain.isNull_toString n⟩) fun signed expected hfits => ?_
    simp only [Source.int, Value.int, bare?_of_isScalar h, Option.bind_some]
    cases signed with
    | true =>
      rw [if_pos rfl, Plain.signed?_toString hfits.1 hfits.2]
      rfl
    | false =>
      obtain ⟨hlow, hhigh⟩ := hfits
      obtain ⟨n, rfl⟩ := Int.eq_ofNat_of_zero_le hlow
      have hlt : n < 2 ^ 64 := Int.ofNat_lt.1 hhigh
      have hread : Plain.unsigned? (toString (n : Int)) = some n := Plain.unsigned?_toString hlt
      rw [if_neg Bool.false_ne_true, hread]
      rfl
  | str s =>
    rw [holds] at h
    exact .str (option_of_text h) (text_of_isScalar h) fun _ hs => variant_of_isScalar h hs
  | @arr items _ ih =>
    rw [holds] at h
    split at h
    · next mark nodes hcontent =>
      have hitems : Source.items v = .ok (nodes.map v.withNode) := by
        simp [Source.items, Value.items, hcontent, pure, Except.pure]
      refine .arr ?_ hitems ?_
      · simp [Source.option, Value.option, hcontent, pure, Except.pure]
      · rw [holdsItems_iff] at h
        rw [List.forall₂_map_left_iff, List.forall₂_iff_zip]
        exact ⟨h.length_eq, fun hmem =>
          ih _ (List.of_mem_zip hmem).2 (List.forall₂_zip h hmem)⟩
    · cases h
  | @obj members hdistinct _ ih =>
    rw [holds] at h
    split at h
    · next mark entries hcontent =>
      obtain ⟨given, hnamed, hnames, hholds⟩ := exists_named h
      have hentries : Source.entries v = .ok given := by
        simp [Source.entries, Value.entries, hcontent, hnamed]
      refine .obj ?_ hentries ?_ (.of_eq hnames) ?_
      · simp [Source.option, Value.option, hcontent, pure, Except.pure]
      · intro typeName names
        simp [Source.record, Value.record, hcontent, hnamed, Except.map]
      · intro name value json hvalue hmember
        obtain ⟨other, hother, hheld⟩ := hholds _ hvalue
        have hfound := Entries.find?_eq_some_of_mem hdistinct hmember
        rw [Entries.find?_eq_some_of_mem hdistinct hother] at hfound
        cases hfound
        exact ih _ hmember hheld
    · cases h

end Value

/-- Whether the text is read as a value that holds the document. -/
def yields (text : String) (json : Json) : Bool :=
  (Value.parse? text).any (·.holds json)

theorem exists_of_yields {text : String} {json : Json} (h : yields text json = true) :
    ∃ v, Value.parse? text = some v ∧ v.holds json = true := by
  rw [yields] at h
  cases hparse : Value.parse? text with
  | none =>
    rw [hparse] at h
    cases h
  | some v =>
    rw [hparse] at h
    exact ⟨v, rfl, h⟩

end Sidecar.Yaml
