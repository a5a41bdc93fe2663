/-
**Patches in their written form.**

A patch travels as text: each operation is an object whose paths are written as pointers, with a
tilde before each character that would end a segment.  Reading takes the text apart again without
loss, whatever the segments hold, so what a patch does may be said of its operations alone.

Main definition: `Sidecar.Json.Pointer.WellFormed` — the texts that are pointers.

Main results:

* `Sidecar.Json.Pointer.segments_escapeChars` — a written segment is read up to its end;
* `Sidecar.Json.Pointer.parse?_render` — a pointer is read back as it is written;
* `Sidecar.Json.Pointer.isSome_parse?_iff`, `Sidecar.Json.Pointer.wellFormed_render` — which texts
  are pointers, and that every pointer is written as one;
* `Sidecar.Json.Pointer.index?_toString` — so is a position in a list;
* `Sidecar.Json.Patch.ofJson?_toJson` — **a patch is read back as it is written.**
-/

import Sidecar.Json.Patch

set_option autoImplicit false

namespace Sidecar.Json

namespace Pointer

/-! ### Pointers -/

/-- One written character is read as the character. -/
theorem segments_escapeChar (c : Char) (read rest : List Char) :
    segments read (escapeChar c ++ rest) = segments (c :: read) rest := by
  unfold escapeChar
  split
  · next h =>
    subst h
    simp [segments]
  · next htilde =>
    split
    · next h =>
      subst h
      simp [segments]
    · simp [segments, htilde]

/-- A written segment is read up to its end. -/
theorem segments_escapeChars (cs read rest : List Char) :
    segments read (escapeChars cs ++ rest) = segments (cs.reverse ++ read) rest := by
  induction cs generalizing read with
  | nil => rfl
  | cons c cs ih =>
      have happend : escapeChars (c :: cs) = escapeChar c ++ escapeChars cs := rfl
      rw [happend, List.append_assoc, segments_escapeChar, ih, List.reverse_cons,
        List.append_assoc, List.singleton_append]

/-- The segments behind the first slash of a pointer are those that were written. -/
theorem segments_renderChars (segment : String) (rest : Pointer) :
    segments [] (escapeChars segment.toList ++ renderChars rest) = some (segment :: rest) := by
  induction rest generalizing segment with
  | nil =>
      rw [segments_escapeChars]
      simp [renderChars, segments]
  | cons next rest ih =>
      have hrender : renderChars (next :: rest)
          = '/' :: (escapeChars next.toList ++ renderChars rest) := rfl
      rw [segments_escapeChars, hrender, segments, ih]
      simp

/-- **A pointer is read back as it is written.** -/
theorem parse?_render (pointer : Pointer) : parse? pointer.render = some pointer := by
  rw [parse?, render, String.toList_ofList]
  cases pointer with
  | nil => rfl
  | cons segment rest => exact segments_renderChars segment rest

/-! ### Which texts are pointers -/

/-- Each tilde is followed by a zero or a one. -/
def TildesMarked (cs : List Char) : Prop :=
  ∀ before after, cs = before ++ '~' :: after → ∃ c rest, after = c :: rest ∧ (c = '0' ∨ c = '1')

/-- A text starts with a slash, unless it is empty, and each tilde in it is followed by a zero or a
one. -/
structure WellFormed (text : String) : Prop where
  start : ∀ c, text.toList.head? = some c → c = '/'
  tildes : TildesMarked text.toList

theorem tildesMarked_nil : TildesMarked [] := by
  intro before after h
  simp at h

theorem tildesMarked_cons {c : Char} (hc : c ≠ '~') (cs : List Char) :
    TildesMarked (c :: cs) ↔ TildesMarked cs := by
  constructor
  · intro h before after heq
    exact h (c :: before) after (by rw [heq, List.cons_append])
  · intro h before after heq
    cases before with
    | nil => exact absurd (List.cons.inj heq).1 hc
    | cons b before => exact h before after (List.cons.inj heq).2

theorem tildesMarked_tilde_cons (c : Char) (cs : List Char) :
    TildesMarked ('~' :: c :: cs) ↔ (c = '0' ∨ c = '1') ∧ TildesMarked cs := by
  constructor
  · intro h
    obtain ⟨d, rest, heq, hd⟩ := h [] (c :: cs) rfl
    obtain ⟨rfl, rfl⟩ := List.cons.inj heq
    refine ⟨hd, fun before after heq => ?_⟩
    exact h ('~' :: c :: before) after (by rw [heq, List.cons_append, List.cons_append])
  · rintro ⟨hc, h⟩ before after heq
    match before with
    | [] =>
      obtain rfl := (List.cons.inj heq).2
      exact ⟨c, cs, rfl, hc⟩
    | [b] =>
      -- the mark itself is no tilde
      obtain rfl := (List.cons.inj (List.cons.inj heq).2).1
      rcases hc with h | h <;> cases h
    | b :: d :: before => exact h before after (List.cons.inj (List.cons.inj heq).2).2

/-- Segments can be read exactly if their tildes are marked. -/
theorem isSome_segments_iff (read cs : List Char) :
    (segments read cs).isSome = true ↔ TildesMarked cs := by
  induction read, cs using segments.induct with
  | case1 read => exact iff_of_true rfl tildesMarked_nil
  | case2 read rest ih =>
      rw [segments, Option.isSome_map, ih, tildesMarked_cons (by decide)]
  | case3 read rest ih =>
      rw [segments, ih, tildesMarked_tilde_cons]
      simp
  | case4 read rest ih =>
      rw [segments, ih, tildesMarked_tilde_cons]
      simp
  | case5 read rest _ hzero hone =>
      have hnone : segments read ('~' :: rest) = none := by
        rw [segments]
        · simp
        · simp
        · exact fun rest' _ heq => hzero rest' rfl heq
        · exact fun rest' _ heq => hone rest' rfl heq
      refine iff_of_false (by simp [hnone]) fun h => ?_
      obtain ⟨c, rest', rfl, rfl | rfl⟩ := h [] rest rfl
      · exact hzero rest' rfl rfl
      · exact hone rest' rfl rfl
  | case6 read c rest hslash hzero hone hc ih =>
      have hread : segments read (c :: rest) = segments (c :: read) rest := by
        rw [segments]
        · rw [if_neg hc]
        · exact hslash
        · exact hzero
        · exact hone
      rw [hread, ih, tildesMarked_cons hc]

/-- **The texts that can be read as pointers** are those that start with a slash, or are empty, and
whose tildes are marked. -/
theorem isSome_parse?_iff (text : String) : (parse? text).isSome = true ↔ WellFormed text := by
  have hiff : WellFormed text ↔ (∀ c, text.toList.head? = some c → c = '/')
      ∧ TildesMarked text.toList := ⟨fun h => ⟨h.1, h.2⟩, fun h => ⟨h.1, h.2⟩⟩
  rw [hiff, parse?]
  split
  · next heq => exact iff_of_true rfl ⟨by simp [heq], heq ▸ tildesMarked_nil⟩
  · next rest heq =>
    rw [isSome_segments_iff, heq, tildesMarked_cons (by decide)]
    simp
  · next hnil hslash =>
    refine iff_of_false (by simp) ?_
    rintro ⟨hstart, _⟩
    cases hcs : text.toList with
    | nil => exact hnil hcs
    | cons c rest => exact hslash rest (by rw [hcs, hstart c (by rw [hcs, List.head?_cons])])

/-- **A pointer is written as such a text**, whatever its segments hold. -/
theorem wellFormed_render (pointer : Pointer) : WellFormed pointer.render := by
  rw [← isSome_parse?_iff, parse?_render]
  rfl

/-! ### Positions -/

/-- The first digit of a number is zero for zero alone. -/
theorem head?_toDigits_ne_zero {n : Nat} (hn : n ≠ 0) : (Nat.toDigits 10 n).head? ≠ some '0' := by
  -- induction on the number without its last digit
  induction n using Nat.strongRecOn with
  | ind n ih =>
      rcases Nat.lt_or_ge n 10 with hlt | hge
      · rw [Nat.toDigits_of_lt_base hlt]
        match n, hn, hlt with
        | 1, _, _ | 2, _, _ | 3, _, _ | 4, _, _ | 5, _, _ | 6, _, _ | 7, _, _ | 8, _, _ | 9, _, _ =>
          decide
      · have hrest := ih (n / 10) (by omega) (by omega)
        rw [Nat.toDigits_of_base_le (by decide) hge, List.head?_append]
        cases hhead : (Nat.toDigits 10 (n / 10)).head? with
        | none => exact absurd (List.head?_eq_none_iff.1 hhead) Nat.toDigits_ne_nil
        | some c =>
            rw [hhead] at hrest
            exact hrest

/-- A position in a list is read back as it is written. -/
theorem index?_toString (n : Nat) : index? (toString n) = some n := by
  have hdigits : (toString n).toList = Nat.toDigits 10 n := by
    rw [Nat.toString_eq_repr, Nat.toList_repr]
  have hall : (Nat.toDigits 10 n).all Char.isDigit = true := by
    rw [List.all_eq_true]
    exact fun c hc => Nat.isDigit_of_mem_toDigits (by decide) (by decide) hc
  have hvalue : Nat.ofDigitChars 10 (Nat.toDigits 10 n) 0 = n := Nat.ofDigitChars_ten_toDigits
  rw [index?, hdigits]
  split
  · next heq => exact absurd heq Nat.toDigits_ne_nil
  · next heq =>
    rw [heq] at hvalue
    exact congrArg some hvalue
  · next rest hrest heq =>
    -- a leading zero stands for zero alone, and zero has no other digit
    rcases Classical.em (n = 0) with rfl | hn
    · rw [Nat.toDigits_zero] at heq
      exact absurd (List.cons.inj heq).2.symm hrest
    · exact absurd (congrArg List.head? heq) (head?_toDigits_ne_zero hn)
  · rw [if_pos hall, hvalue]

end Pointer

namespace Operation

/-- An operation is read back as it is written. -/
theorem ofJson?_toJson (op : Operation) : ofJson? op.toJson = some op := by
  cases op <;>
    simp [ofJson?, toJson, pointer?, Json.object, member?, Entries.find?_ofList,
      Entries.find?_cons, Pointer.parse?_render]

end Operation

/-- **A patch is read back as it is written.** -/
theorem Patch.ofJson?_toJson (patch : Patch) : Patch.ofJson? patch.toJson = some patch := by
  rw [Patch.toJson, Patch.ofJson?]
  induction patch with
  | nil => rfl
  | cons op patch ih =>
      rw [List.map_cons, List.mapM_cons, Operation.ofJson?_toJson, ih]
      rfl

end Sidecar.Json
