/-
**The segments that annotations are named by.**

The names of a rule's annotations end with its fingerprint or with its own name, behind a slash, and
the cluster takes them only if what is behind the slash is a *segment*: at most 63 bytes of letters,
digits and three marks, a letter or digit at either end.  Names are tested against a pattern and
measured in bytes, and this is a test for segments; fingerprints are made of digits.

Main definitions:

* `Sidecar.Text.IsSegment` — the text is a segment;
* `Sidecar.Text.segmentPattern` — the pattern that names are tested against;
* `Sidecar.Breaker.EndsInSegment`, `Sidecar.Breaker.timePart` — the name of an annotation ends with
  a segment, and what that is where the time is kept.

Main results:

* `Sidecar.Text.isSegment_iff_matches` — **the pattern and the measure tell which texts are
  segments**;
* `Sidecar.Rule.validate_eq_invalidName_iff` — **a name is found wrong exactly if it is none**;
* `Sidecar.Breaker.keys_end_in_segments` — **the annotations of valid rules end with segments.**
-/

import Mathlib.Computability.RegularExpressions
import Mathlib.Data.String.Basic
import Sidecar.Breaker
import Sidecar.Proofs.Fingerprint.Digits
import Sidecar.Proofs.Rule.Conversion
import Sidecar.Text.Alphanumeric

set_option autoImplicit false

namespace Sidecar

namespace Text

/-! ### Segments -/

/-- A letter or digit of ASCII, a hyphen, an underscore or a point. -/
def isSegmentChar (c : Char) : Bool :=
  c.isAlphanum || c = '-' || c = '_' || c = '.'

/-- The text is a segment of the name of an annotation. -/
structure IsSegment (text : String) : Prop where
  pos : 1 ≤ text.utf8ByteSize
  le : text.utf8ByteSize ≤ 63
  chars : ∀ c ∈ text.toList, isSegmentChar c = true
  first : ∀ c ∈ text.toList.head?, c.isAlphanum = true
  last : ∀ c ∈ text.toList.getLast?, c.isAlphanum = true

theorem toNat_lt_of_isAlphanum {c : Char} (h : c.isAlphanum = true) : c.toNat < 128 := by
  rw [isAlphanum_iff] at h
  omega

theorem isSegmentChar_of_isAlphanum {c : Char} (h : c.isAlphanum = true) :
    isSegmentChar c = true := by
  simp [isSegmentChar, h]

/-- The characters of segments are in ASCII. -/
theorem toNat_lt_of_isSegmentChar {c : Char} (h : isSegmentChar c = true) : c.toNat < 128 := by
  simp only [isSegmentChar, Bool.or_eq_true, decide_eq_true_eq] at h
  rcases h with ((h | rfl) | rfl) | rfl
  · exact toNat_lt_of_isAlphanum h
  all_goals decide

/-- There is no slash in a segment. -/
theorem IsSegment.slash_notMem {text : String} (h : IsSegment text) : '/' ∉ text.toList :=
  fun hmem => absurd (h.chars '/' hmem) (by decide)

theorem IsSegment.toList_ne_nil {text : String} (h : IsSegment text) : text.toList ≠ [] := by
  intro hnil
  have hpos := h.pos
  rw [String.toList_eq_nil_iff.1 hnil] at hpos
  exact absurd hpos (by decide)

/-- A text of characters of segments has as many bytes as characters. -/
theorem utf8ByteSize_eq_length {text : String}
    (h : ∀ c ∈ text.toList, isSegmentChar c = true) :
    text.utf8ByteSize = text.toList.length := by
  rw [← String.utf8Len_toList]
  revert h
  induction text.toList with
  | nil => simp
  | cons c cs ih =>
      intro h
      rw [List.forall_mem_cons] at h
      have hsize : c.utf8Size = 1 :=
        Char.utf8Size_eq_one_iff.2
          (UInt32.le_iff_toNat_le.2 (Nat.le_of_lt_succ (toNat_lt_of_isSegmentChar h.1)))
      rw [String.utf8Len_cons, ih h.2, hsize, List.length_cons]

/-! ### The pattern of segments -/

/-- The characters that the class `[A-Za-z0-9]` stands for. -/
def asciiAlphanumerics : List Char :=
  between 'A' 'Z' ++ between 'a' 'z' ++ between '0' '9'

/-- The characters that the class `[-A-Za-z0-9_.]` stands for. -/
def segmentChars : List Char :=
  '-' :: asciiAlphanumerics ++ ['_', '.']

/-- One of some characters. -/
def oneOf (cs : List Char) : RegularExpression Char :=
  (cs.map .char).sum

/-- The pattern `[A-Za-z0-9]([-A-Za-z0-9_.]*[A-Za-z0-9])?` of a whole text. -/
def segmentPattern : RegularExpression Char :=
  oneOf asciiAlphanumerics * (1 + .comp (.star (oneOf segmentChars)) (oneOf asciiAlphanumerics))

theorem mem_asciiAlphanumerics {c : Char} : c ∈ asciiAlphanumerics ↔ c.isAlphanum = true := by
  have hall : ∀ n < 128, (Char.ofNat n).isAlphanum = true → Char.ofNat n ∈ asciiAlphanumerics := by
    decide +kernel
  constructor
  · exact fun h => List.all_eq_true.1 (by decide : asciiAlphanumerics.all Char.isAlphanum) c h
  · intro h
    have hmem := hall c.toNat (toNat_lt_of_isAlphanum h)
    rw [Char.ofNat_toNat] at hmem
    exact hmem h

theorem mem_segmentChars {c : Char} : c ∈ segmentChars ↔ isSegmentChar c = true := by
  simp only [segmentChars, isSegmentChar, List.cons_append, List.mem_cons, List.mem_append,
    mem_asciiAlphanumerics, List.not_mem_nil, or_false, Bool.or_eq_true, decide_eq_true_eq]
  tauto

/-- A class matches each of its characters. -/
theorem mem_matches_oneOf {cs s : List Char} :
    s ∈ (oneOf cs).matches' ↔ ∃ c ∈ cs, s = [c] := by
  induction cs with
  | nil => simp [oneOf, Language.notMem_zero]
  | cons c cs ih =>
      have hcons : oneOf (c :: cs) = .char c + oneOf cs := by simp [oneOf]
      rw [hcons, RegularExpression.matches'_add, Language.mem_add, ih,
        RegularExpression.matches'_char, List.exists_mem_cons_iff]
      rfl

/-- A starred class matches the texts of its characters. -/
theorem mem_matches_star_oneOf {cs s : List Char} :
    s ∈ (RegularExpression.star (oneOf cs)).matches' ↔ ∀ c ∈ s, c ∈ cs := by
  rw [RegularExpression.matches'_star, Language.mem_kstar]
  constructor
  · rintro ⟨parts, rfl, hparts⟩ c hc
    obtain ⟨part, hpart, hc⟩ := List.mem_flatten.1 hc
    obtain ⟨d, hd, rfl⟩ := mem_matches_oneOf.1 (hparts part hpart)
    rwa [List.mem_singleton.1 hc]
  · intro h
    refine ⟨s.map fun c => [c], by rw [← List.flatMap_def, List.flatMap_singleton'], ?_⟩
    intro part hpart
    obtain ⟨c, hc, rfl⟩ := List.mem_map.1 hpart
    exact mem_matches_oneOf.2 ⟨c, h c hc, rfl⟩

/-- The pattern matches one letter or digit, or two with characters of segments in between. -/
theorem mem_matches_segmentPattern {s : List Char} :
    s ∈ segmentPattern.matches' ↔ ∃ c, c.isAlphanum = true ∧ (s = [c]
      ∨ ∃ inner d, d.isAlphanum = true ∧ (∀ e ∈ inner, isSegmentChar e = true)
        ∧ s = c :: inner ++ [d]) := by
  rw [segmentPattern, RegularExpression.matches'_mul, RegularExpression.matches'_add,
    RegularExpression.matches'_epsilon, RegularExpression.comp_def, RegularExpression.matches'_mul]
  simp only [Language.mem_mul, Language.mem_add, Language.mem_one, mem_matches_oneOf,
    mem_matches_star_oneOf, mem_asciiAlphanumerics, mem_segmentChars]
  constructor
  · rintro ⟨_, ⟨c, hc, rfl⟩, _, rfl | ⟨inner, hinner, _, ⟨d, hd, rfl⟩, rfl⟩, rfl⟩
    · exact ⟨c, hc, .inl rfl⟩
    · exact ⟨c, hc, .inr ⟨inner, d, hd, hinner, rfl⟩⟩
  · rintro ⟨c, hc, rfl | ⟨inner, d, hd, hinner, rfl⟩⟩
    · exact ⟨[c], ⟨c, hc, rfl⟩, [], .inl rfl, rfl⟩
    · exact ⟨[c], ⟨c, hc, rfl⟩, inner ++ [d], .inr ⟨inner, hinner, [d], ⟨d, hd, rfl⟩, rfl⟩, rfl⟩

/-- What the pattern matches, said of all characters and of the two ends. -/
theorem mem_matches_segmentPattern_iff {s : List Char} :
    s ∈ segmentPattern.matches' ↔ s ≠ [] ∧ (∀ c ∈ s, isSegmentChar c = true)
      ∧ (∀ c ∈ s.head?, c.isAlphanum = true) ∧ ∀ c ∈ s.getLast?, c.isAlphanum = true := by
  have hend : ∀ (c : Char) inner d, (c :: (inner ++ [d])).getLast? = some d :=
    fun c inner _ => List.getLast?_concat (l := c :: inner)
  rw [mem_matches_segmentPattern]
  constructor
  · rintro ⟨c, hc, rfl | ⟨inner, d, hd, hinner, rfl⟩⟩
    · simp [hc, isSegmentChar_of_isAlphanum hc]
    · rw [List.cons_append, hend]
      simp only [List.forall_mem_cons, List.forall_mem_append, List.head?_cons,
        Option.mem_some_iff, forall_eq']
      exact ⟨List.cons_ne_nil _ _, ⟨isSegmentChar_of_isAlphanum hc, hinner,
        isSegmentChar_of_isAlphanum hd, by simp⟩, hc, hd⟩
  · rintro ⟨hne, hall, hfirst, hlast⟩
    obtain ⟨c, rest, rfl⟩ := List.exists_cons_of_ne_nil hne
    refine ⟨c, hfirst c rfl, ?_⟩
    rcases List.eq_nil_or_concat' rest with rfl | ⟨inner, d, rfl⟩
    · exact .inl rfl
    · exact .inr ⟨inner, d, hlast d (hend c inner d), fun e he => hall e (by simp [he]), rfl⟩

/-- **The pattern and the measure tell which texts are segments.** -/
theorem isSegment_iff_matches {text : String} :
    IsSegment text ↔ text.utf8ByteSize ≤ 63 ∧ text.toList ∈ segmentPattern.matches' := by
  rw [mem_matches_segmentPattern_iff]
  constructor
  · intro h
    exact ⟨h.le, h.toList_ne_nil, h.chars, h.first, h.last⟩
  · rintro ⟨hle, hne, hchars, hfirst, hlast⟩
    refine ⟨?_, hle, hchars, hfirst, hlast⟩
    rw [utf8ByteSize_eq_length hchars]
    exact List.length_pos_of_ne_nil hne

end Text

/-! ### Names of rules -/

namespace Rule

/-- **The names are the segments.** -/
theorem isName_eq_true_iff {text : String} : isName text = true ↔ Text.IsSegment text := by
  have hany : ∀ {o : Option Char}, o.any Char.isAlphanum = true
      ↔ o ≠ none ∧ ∀ c ∈ o, c.isAlphanum = true := by
    intro o
    cases o <;> simp
  rw [Text.isSegment_iff_matches, Text.mem_matches_segmentPattern_iff]
  simp only [isName, Bool.and_eq_true, decide_eq_true_eq, List.all_eq_true, hany, ne_eq,
    List.head?_eq_none_iff, List.getLast?_eq_none_iff]
  change ((text.toList.length ≤ 63 ∧ ∀ c ∈ text.toList, Text.isSegmentChar c = true) ∧ _) ∧ _ ↔ _
  constructor
  · rintro ⟨⟨⟨hle, hchars⟩, hne, hfirst⟩, _, hlast⟩
    exact ⟨Text.utf8ByteSize_eq_length hchars ▸ hle, hne, hchars, hfirst, hlast⟩
  · rintro ⟨hle, hne, hchars, hfirst, hlast⟩
    exact ⟨⟨⟨Text.utf8ByteSize_eq_length hchars ▸ hle, hchars⟩, hne, hfirst⟩, hne, hlast⟩

instance : DecidablePred Text.IsSegment :=
  fun _ => decidable_of_iff _ isName_eq_true_iff

example : Text.IsSegment "a.b_c-9" ∧ ¬ Text.IsSegment "exporter-" ∧ ¬ Text.IsSegment "été" := by
  decide +kernel

/-! ### What is found wrong -/

section Errors

variable {text : String}

theorem Requirement.toCluster_ne_invalidName (kind : SelectorKind) (q : Requirement) :
    toCluster kind q ≠ .error (.invalidName text) := by
  unfold toCluster
  split
  · simp
  · split <;> simp

theorem LabelSelector.toCluster_ne_invalidName (s : LabelSelector) :
    s.toCluster ≠ .error (.invalidName text) :=
  bind_ne_error (mapM_ne_error (Requirement.toCluster_ne_invalidName _) _) fun _ h => by cases h

theorem Affinity.toCluster_ne_invalidName (a : Affinity) :
    a.toCluster ≠ .error (.invalidName text) := by
  have hterm : ∀ t : NodeSelectorTerm, t.toCluster ≠ .error (.invalidName text) := fun t =>
    bind_ne_error (mapM_ne_error (Requirement.toCluster_ne_invalidName _) _) fun _ =>
      bind_ne_error (mapM_ne_error (Requirement.toCluster_ne_invalidName _) _) fun _ h => by cases h
  have hselector : ∀ s : NodeSelector, s.toCluster ≠ .error (.invalidName text) := fun s =>
    bind_ne_error (mapM_ne_error hterm _) fun _ h => by cases h
  have hnodes : ∀ n : NodeAffinity, n.toCluster ≠ .error (.invalidName text) := fun n =>
    bind_ne_error (mapM_option_ne_error hselector _) fun _ h => by cases h
  exact bind_ne_error (mapM_option_ne_error hnodes _) fun _ h => by cases h

theorem Toleration.toCluster_ne_invalidName (t : Toleration) :
    t.toCluster ≠ .error (.invalidName text) := by
  unfold toCluster
  split
  · simp
  · split <;> simp

/-- What is wrong with a container is said of the container. -/
theorem Container.toCluster_ne_invalidName (c : Container) :
    c.toCluster ≠ .error (.invalidName text) := by
  intro h
  obtain ⟨_, _, herror⟩ := mapError_eq_error_iff.1 h
  cases herror

theorem EmptyDirSource.toCluster_ne_invalidName (e : EmptyDirSource) :
    e.toCluster ≠ .error (.invalidName text) := by
  have hquantity : Quantity.parse e.sizeLimit ≠ .error (.invalidName text) := by
    simp only [Quantity.parse]
    split <;> simp
  simp only [EmptyDirSource.toCluster]
  split
  · intro h
    cases h
  · rw [map_eq_pure_bind]
    exact bind_ne_error (bind_ne_error hquantity fun _ h => by cases h) fun _ h => by cases h

/-- The fault of a size becomes one of the volume, and any other error stays what it is. -/
theorem Volume.eq_of_sizeLimitFault_eq {name : String} {e : RuleError}
    (h : sizeLimitFault name e = .invalidName text) : e = .invalidName text := by
  cases e with
  | invalidQuantity value => cases h
  | _ => exact h

theorem Volume.toCluster_ne_invalidName (v : Volume) :
    v.toCluster ≠ .error (.invalidName text) := by
  unfold toCluster
  split
  · simp
  · refine bind_ne_error (fun h => ?_) fun _ h => by cases h
    obtain ⟨e, he, herror⟩ := mapError_eq_error_iff.1 h
    rw [eq_of_sizeLimitFault_eq herror.symm] at he
    exact mapM_option_ne_error EmptyDirSource.toCluster_ne_invalidName _ he

theorem VolumeMount.toCluster_ne_invalidName (m : VolumeMount) :
    m.toCluster ≠ .error (.invalidName text) := by
  unfold toCluster
  split
  · simp
  · split <;> simp

end Errors

/-- **A name is found wrong exactly if it is none**, and it is the name that the error gives. -/
theorem validate_eq_invalidName_iff {r : Rule} {text : String} :
    r.validate = .error (.invalidName text)
      ↔ text = r.name ∧ text ≠ "" ∧ ¬ Text.IsSegment text := by
  unfold validate
  by_cases hname : r.name ≠ "" ∧ (!isName r.name) = true
  · rw [if_pos hname]
    have hnone : ¬ Text.IsSegment r.name := fun h => by
      simp [isName_eq_true_iff.2 h] at hname
    constructor
    · intro h
      cases h
      exact ⟨rfl, hname.1, hnone⟩
    · rintro ⟨rfl, _⟩
      rfl
  · rw [if_neg hname]
    constructor
    · intro h
      -- the name has passed, and no part finds fault with a name
      refine absurd h (bind_ne_error (mapM_option_ne_error LabelSelector.toCluster_ne_invalidName _)
        fun _ => bind_ne_error (mapM_option_ne_error LabelSelector.toCluster_ne_invalidName _)
        fun _ => bind_ne_error (mapM_option_ne_error Affinity.toCluster_ne_invalidName _)
        fun _ => bind_ne_error (mapM_ne_error Toleration.toCluster_ne_invalidName _)
        fun _ => bind_ne_error (mapM_ne_error Container.toCluster_ne_invalidName _)
        fun _ => bind_ne_error (mapM_ne_error Volume.toCluster_ne_invalidName _)
        fun _ => bind_ne_error (mapM_ne_error VolumeMount.toCluster_ne_invalidName _) ?_)
      intro _ h
      cases h
    · rintro ⟨rfl, hne, hnone⟩
      refine absurd ⟨hne, ?_⟩ hname
      rw [Bool.not_eq_true', Bool.eq_false_iff]
      exact fun h => hnone (isName_eq_true_iff.1 h)

end Rule

/-! ### Fingerprints -/

namespace Text

/-- Letters and digits that are no more than 63 make a segment. -/
theorem isSegment_of_isAlphanum {text : String} (hne : text.toList ≠ [])
    (hle : text.toList.length ≤ 63) (h : ∀ c ∈ text.toList, c.isAlphanum = true) :
    IsSegment text := by
  have hchars : ∀ c ∈ text.toList, isSegmentChar c = true :=
    fun c hc => isSegmentChar_of_isAlphanum (h c hc)
  have hsize := utf8ByteSize_eq_length hchars
  refine ⟨hsize ▸ List.length_pos_of_ne_nil hne, hsize ▸ hle, hchars, ?_, ?_⟩
  · exact fun c hc => h c (List.mem_of_mem_head? hc)
  · exact fun c hc => h c (List.mem_of_getLast? hc)

/-- A segment may be continued by characters of segments up to a letter or digit, if that makes it
not too long. -/
theorem IsSegment.append {start rest : String} (h : IsSegment start) (hne : rest.toList ≠ [])
    (hchars : ∀ c ∈ rest.toList, isSegmentChar c = true)
    (hlast : ∀ c ∈ rest.toList.getLast?, c.isAlphanum = true)
    (hle : start.utf8ByteSize + rest.utf8ByteSize ≤ 63) : IsSegment (start ++ rest) := by
  refine ⟨?_, ?_, ?_, ?_, ?_⟩
  · rw [String.utf8ByteSize_append]
    exact Nat.le_add_right_of_le h.pos
  · rwa [String.utf8ByteSize_append]
  · rw [String.toList_append, List.forall_mem_append]
    exact ⟨h.chars, hchars⟩
  · rw [String.toList_append, List.head?_append_of_ne_nil _ h.toList_ne_nil]
    exact h.first
  · rw [String.toList_append, List.getLast?_append_of_ne_nil _ hne]
    exact hlast

end Text

namespace Rule

/-- A fingerprint is a segment. -/
theorem isSegment_fingerprint (r : Rule) : Text.IsSegment r.fingerprint := by
  refine Text.isSegment_of_isAlphanum ?_ ?_ fun c hc => isAlphanum_of_mem_fingerprint hc
  · exact List.ne_nil_of_length_pos (by rw [length_toList_fingerprint]; decide)
  · rw [length_toList_fingerprint]
    decide

/-- A fingerprint is a segment still with the ending that tells a time from a counter. -/
theorem isSegment_fingerprint_processed (r : Rule) :
    Text.IsSegment (r.fingerprint ++ "-processed") := by
  have hlast : "-processed".toList.getLast? = some 'd' := by decide
  refine (isSegment_fingerprint r).append (by decide) (List.all_eq_true.1 (by decide)) ?_ ?_
  · rw [hlast]
    exact fun c hc => Option.some.inj hc ▸ (by decide)
  · rw [Text.utf8ByteSize_eq_length r.isSegment_fingerprint.chars, length_toList_fingerprint]
    decide

end Rule

/-! ### The names of annotations -/

namespace Breaker

/-- The text is the name of an annotation: what comes before the slash, the slash, and a segment
after it. -/
structure EndsInSegment (keyPrefix part key : String) : Prop where
  written : key = keyPrefix ++ "/" ++ part
  segment : Text.IsSegment part
  slash : '/' ∉ part.toList

theorem endsInSegment_of_isSegment {part : String} (h : Text.IsSegment part) (keyPrefix : String) :
    EndsInSegment keyPrefix part (keyPrefix ++ "/" ++ part) :=
  ⟨rfl, h, h.slash_notMem⟩

/-- What the name of the annotation with the time ends with: the name of the rule, or if it has none
its fingerprint and an ending. -/
def timePart (r : Rule) : String :=
  if r.name = "" then r.fingerprint ++ "-processed" else r.name

/-- What the name of the annotation with the time of a valid rule ends with is a segment. -/
theorem isSegment_timePart {r : Rule} (h : r.validate = .ok ()) : Text.IsSegment (timePart r) := by
  unfold timePart
  split
  · exact r.isSegment_fingerprint_processed
  · next hname => exact Rule.isName_eq_true_iff.1 ((Rule.validate_eq_ok_iff.1 h).1 hname)

theorem timestampKey_ofRule (keyPrefix : String) (r : Rule) :
    timestampKey ⟨keyPrefix, .ofRule r⟩ = keyPrefix ++ "/" ++ timePart r := by
  simp only [timestampKey, RegisteredRule.ofRule, timePart, String.isEmpty_iff]
  split
  · rw [String.append_assoc]
  · rfl

/-- **The annotations of valid rules end with segments.**  A name is found wrong exactly if there is
one that is no segment, which is what the pattern and the measure tell; a fingerprint has sixteen
digits, those of a number of 64 bits; and a valid rule, named or not, keeps its counter and its time
under names that end with a slash and a segment. -/
theorem keys_end_in_segments (r : Rule) :
    (∀ text, r.validate = .error (.invalidName text)
        ↔ text = r.name ∧ text ≠ "" ∧ ¬ Text.IsSegment text)
      ∧ (Text.IsSegment r.name ↔ r.name.utf8ByteSize ≤ 63
        ∧ r.name.toList ∈ Text.segmentPattern.matches')
      ∧ r.fingerprint.toList = Text.paddedHex 16 (Feed.ofBigEndian ((Sha256.digest r.feed).take 8))
      ∧ r.fingerprint.toList.length = 16 ∧ (∀ c ∈ r.fingerprint.toList, c ∈ Text.lowerHex)
      ∧ (r.validate = .ok () → ∀ keyPrefix,
        EndsInSegment keyPrefix r.fingerprint (counterKey ⟨keyPrefix, .ofRule r⟩)
          ∧ EndsInSegment keyPrefix (timePart r) (timestampKey ⟨keyPrefix, .ofRule r⟩)) := by
  refine ⟨fun text => Rule.validate_eq_invalidName_iff, Text.isSegment_iff_matches,
    r.toList_fingerprint, r.length_toList_fingerprint,
    fun c hc => Rule.mem_lowerHex_of_mem_fingerprint hc, ?_⟩
  intro hvalid keyPrefix
  refine ⟨endsInSegment_of_isSegment r.isSegment_fingerprint keyPrefix, ?_⟩
  rw [timestampKey_ofRule]
  exact endsInSegment_of_isSegment (isSegment_timePart hvalid) keyPrefix

/-- A rule with a name, and one of the same content without. -/
theorem keys_end_in_segments_of_exporter :
    Rule.validate { (default : Rule) with name := "exporter" } = .ok ()
      ∧ EndsInSegment "sidecar.example.org" "exporter"
        (timestampKey ⟨"sidecar.example.org", .ofRule { (default : Rule) with name := "exporter" }⟩)
      ∧ Rule.validate default = .ok ()
      ∧ EndsInSegment "sidecar.example.org" "3c0f39bbe7162420-processed"
        (timestampKey ⟨"sidecar.example.org", .ofRule default⟩) := by
  have hnamed : Rule.validate { (default : Rule) with name := "exporter" } = .ok () := by
    decide +kernel
  have hunnamed : Rule.validate default = .ok () := by decide +kernel
  have hpart : timePart default = "3c0f39bbe7162420-processed" := by decide +kernel
  have hkeys := ((keys_end_in_segments default).2.2.2.2.2 hunnamed "sidecar.example.org").2
  rw [hpart] at hkeys
  exact ⟨hnamed,
    ((keys_end_in_segments { (default : Rule) with name := "exporter" }).2.2.2.2.2 hnamed _).2,
    hunnamed, hkeys⟩

end Breaker

end Sidecar
