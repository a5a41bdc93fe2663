/-
**Counters that others write.**

The counter of a rule is an annotation like any other, so whoever may edit the pod may write any
number into it, between blanks and with zeros before it.  The breaker reads such a numeral as the
number that it writes if that number has 32 bits; a greater one it reads as it reads no counter at
all.  So a rule is stopped by every numeral from its limit up to the greatest number of 32 bits, and
goes on after a greater one as if the pod were new.

Main definition: `Sidecar.Breaker.Writes` — a text is a numeral of a number.

Main results:

* `Sidecar.Breaker.writes_toString` — the decimal form between blanks is one;
* `Sidecar.Breaker.toNat_iterations_of_writes` — the count that is read of a numeral;
* `Sidecar.Breaker.find?_counterKey_bookkeeping_iff` — when the next count stands in the annotation;
* `Sidecar.Breaker.evaluate_of_writes` — **what a rule does with every numeral**;
* `Sidecar.Breaker.restarts_of_numeral_too_large` — a rule with a limit of one that goes on after
  more than four thousand million changes.
-/

import Sidecar.Proofs.Breaker.Keys

set_option autoImplicit false

namespace Sidecar.Breaker

/-- The text writes the number in decimal digits, perhaps with zeros before it and between
blanks. -/
def Writes (text : String) (n : Nat) : Prop :=
  ∃ before digits after, text.toList = before ++ digits ++ after
    ∧ (∀ c ∈ before, Text.isBlank c = true) ∧ (∀ c ∈ after, Text.isBlank c = true)
    ∧ digits ≠ [] ∧ (∀ c ∈ digits, c.isDigit = true) ∧ Nat.ofDigitChars 10 digits 0 = n

/-- The decimal form of a number between blanks writes it. -/
theorem writes_toString (n : Nat) (before after : String)
    (hbefore : ∀ c ∈ before.toList, Text.isBlank c = true)
    (hafter : ∀ c ∈ after.toList, Text.isBlank c = true) :
    Writes (before ++ toString n ++ after) n := by
  have hdigits : (toString n).toList = Nat.toDigits 10 n := by
    rw [Nat.toString_eq_repr, Nat.toList_repr]
  refine ⟨before.toList, (toString n).toList, after.toList, by simp, hbefore, hafter, ?_, ?_, ?_⟩
  · rw [hdigits]
    exact Nat.toDigits_ne_nil
  · intro c hc
    exact isDigit_of_mem_toString hc
  · rw [hdigits, Nat.ofDigitChars_ten_toDigits]

/-! ### Reading a numeral -/

/-- Of a numeral the count is the number that it writes, if that has 32 bits. -/
theorem parseCount_trim_of_writes {text : String} {n : Nat} (h : Writes text n) :
    parseCount (Text.trim text) = if n < UInt32.size then some (UInt32.ofNat n) else none := by
  obtain ⟨before, digits, after, htext, hbefore, hafter, hne, hdigits, rfl⟩ := h
  have htrim : (Text.trim text).toList = digits :=
    Text.toList_trim_of_blanks htext hbefore hafter fun c hc => isBlank_of_isDigit (hdigits c hc)
  have hcount : (Text.trim text).toList ≠ [] ∧ ∀ c ∈ (Text.trim text).toList, c.isDigit = true := by
    rw [htrim]
    exact ⟨hne, hdigits⟩
  rw [parseCount_of_isDigit hcount.1 hcount.2, htrim]

section Numeral

variable {b : Breaker} {annotations : Option StringMap} {text : String} {n : Nat}

/-- The count that is read of a numeral, which is nothing if it has more than 32 bits. -/
theorem toNat_iterations_of_writes (hcounter : annotations.bind (·.find? b.counterKey) = some text)
    (hwrites : Writes text n) :
    (b.iterations annotations).toNat = if n < UInt32.size then n else 0 := by
  rw [iterations, hcounter, Option.bind_some, parseCount_trim_of_writes hwrites]
  split
  · next hlt =>
    rw [Option.getD_some]
    exact UInt32.toNat_ofNat_of_lt hlt
  · rfl

/-- A numeral of more than 32 bits is read as no counter is. -/
theorem iterations_of_writes_large
    (hcounter : annotations.bind (·.find? b.counterKey) = some text) (hwrites : Writes text n)
    (hlarge : UInt32.size ≤ n) : b.iterations annotations = b.iterations none := by
  have hcount := toNat_iterations_of_writes hcounter hwrites
  rw [if_neg (by omega)] at hcount
  exact UInt32.toNat_inj.1 hcount

end Numeral

/-! ### What follows from it -/

/-- A rule is stopped, or goes on and leaves its bookkeeping behind. -/
theorem evaluate_cases (b : Breaker) (annotations : Option StringMap) (now : Timestamp) :
    (b.rule.rule.maxIterations ≤ b.iterations annotations
        ∧ b.evaluate annotations now = .tripped (b.iterations annotations))
      ∨ (b.iterations annotations < b.rule.rule.maxIterations
        ∧ b.evaluate annotations now
          = .proceed (b.bookkeeping (b.iterations annotations) now)) := by
  by_cases hle : b.rule.rule.maxIterations ≤ b.iterations annotations
  · exact .inl ⟨hle, (evaluate_eq_tripped_iff b annotations now _).2 ⟨rfl, hle⟩⟩
  · have hlt := UInt32.not_le.1 hle
    exact .inr ⟨hlt, (evaluate_eq_proceed_iff b annotations now _).2 ⟨hlt, rfl⟩⟩

/-- The next count stands in the annotation of the counter, unless the rule is called by its own
fingerprint. -/
theorem find?_counterKey_bookkeeping_iff {b : Breaker} (hlength : b.rule.fingerprint.length = 16)
    {n m : UInt32} (hlt : n < m) (now : Timestamp) :
    (b.bookkeeping n now).find? b.counterKey = some (toString (n.toNat + 1))
      ↔ b.rule.rule.name ≠ b.rule.fingerprint := by
  have hkeys := timestampKey_eq_counterKey_iff b.keyPrefix hlength hlength
  rw [find?_bookkeeping, ne_eq, ← hkeys]
  by_cases hsame : b.timestampKey = b.counterKey
  · -- the time stands where the count should
    rw [if_pos hsame, Option.some.injEq]
    exact iff_of_false (render_ne_toString _ _) (not_not_intro hsame)
  · rw [if_neg hsame, if_pos rfl, toNat_next_of_lt hlt]
    exact iff_of_true rfl hsame

/-- **What a rule does with every numeral.**  Let the counter of a registered rule be a numeral of
`n`.  The rule is stopped exactly if `n` has reached its limit and is a number of 32 bits, or the
limit is zero, and if `n` has 32 bits it is what the verdict reports.  Below the limit the rule goes
on, and leaves the decimal form of `n + 1` in the annotation unless it is called by its own
fingerprint.  After a greater number than one of 32 bits it does what it does on a pod without
annotations. -/
theorem evaluate_of_writes {rules : List Rule} {registry : Registry}
    (hbuild : Registry.build rules = .ok registry) {r : RegisteredRule} (hr : r ∈ registry.rules)
    (keyPrefix : String) {annotations : Option StringMap} {text : String} {n : Nat}
    (hcounter : annotations.bind (·.find? (counterKey ⟨keyPrefix, r⟩)) = some text)
    (hwrites : Writes text n) (now : Timestamp) :
    ((∃ k, evaluate ⟨keyPrefix, r⟩ annotations now = .tripped k)
        ↔ r.rule.maxIterations.toNat ≤ n ∧ (n < UInt32.size ∨ r.rule.maxIterations = 0))
      ∧ (∀ k, evaluate ⟨keyPrefix, r⟩ annotations now = .tripped k → n < UInt32.size →
        k.toNat = n)
      ∧ (n < r.rule.maxIterations.toNat →
        ∃ bookkeeping, evaluate ⟨keyPrefix, r⟩ annotations now = .proceed bookkeeping
          ∧ (bookkeeping.find? (counterKey ⟨keyPrefix, r⟩) = some (toString (n + 1))
            ↔ r.rule.name ≠ r.fingerprint))
      ∧ (UInt32.size ≤ n →
        evaluate ⟨keyPrefix, r⟩ annotations now = evaluate ⟨keyPrefix, r⟩ none now) := by
  have hlength := (Registry.sound_of_build hbuild).length_fingerprint hr
  have hlimit := r.rule.maxIterations.toNat_lt
  have hsize : UInt32.size = 2 ^ 32 := rfl
  have hzero : r.rule.maxIterations = 0 ↔ r.rule.maxIterations.toNat = 0 :=
    UInt32.toNat_inj.symm
  have hread := toNat_iterations_of_writes (b := ⟨keyPrefix, r⟩) hcounter hwrites
  refine ⟨?_, ?_, ?_, ?_⟩
  · rw [hzero]
    rcases evaluate_cases ⟨keyPrefix, r⟩ annotations now with ⟨hle, heq⟩ | ⟨hlt, heq⟩
    · rw [UInt32.le_iff_toNat_le, hread] at hle
      refine iff_of_true ⟨_, heq⟩ ?_
      by_cases hsmall : n < UInt32.size
      · rw [if_pos hsmall] at hle
        exact ⟨hle, .inl hsmall⟩
      · rw [if_neg hsmall] at hle
        exact ⟨by omega, .inr (Nat.le_zero.1 hle)⟩
    · rw [UInt32.lt_iff_toNat_lt, hread] at hlt
      refine iff_of_false (by simp [heq]) ?_
      rintro ⟨hle, hsmall | hnone⟩
      · rw [if_pos hsmall] at hlt
        exact absurd hle (Nat.not_le.2 hlt)
      · exact absurd hlt (by simp [hnone])
  · intro k htripped hsmall
    obtain ⟨rfl, _⟩ := (evaluate_eq_tripped_iff _ annotations now k).1 htripped
    rw [hread, if_pos hsmall]
  · intro hlt
    have hsmall : n < UInt32.size := by omega
    rw [if_pos hsmall] at hread
    have hbelow : iterations ⟨keyPrefix, r⟩ annotations < r.rule.maxIterations := by
      rwa [UInt32.lt_iff_toNat_lt, hread]
    have hnext := find?_counterKey_bookkeeping_iff (b := ⟨keyPrefix, r⟩) hlength hbelow now
    rw [hread] at hnext
    exact ⟨_, (evaluate_eq_proceed_iff _ annotations now _).2 ⟨hbelow, rfl⟩, hnext⟩
  · intro hlarge
    rw [evaluate, evaluate, iterations_of_writes_large hcounter hwrites hlarge]

/-- The third change of three: the counter stands between a blank and a tabulator. -/
theorem evaluate_of_writes_second :
    ∃ registry : Registry,
      Registry.build [{ (default : Rule) with name := "exporter", maxIterations := 3 }]
          = .ok registry
        ∧ ∃ r ∈ registry.rules, Writes " 02\t" 2
          ∧ ∃ bookkeeping : StringMap,
            evaluate ⟨"example.org", r⟩
                (some (.ofList [(counterKey ⟨"example.org", r⟩, " 02\t")])) .epoch
              = .proceed bookkeeping
            ∧ bookkeeping.find? (counterKey ⟨"example.org", r⟩) = some "3" := by
  let rule : Rule := { (default : Rule) with name := "exporter", maxIterations := 3 }
  have hbuild : Registry.build [rule] = .ok ⟨[.ofRule rule]⟩ := by
    decide +kernel
  have hwrites : Writes " 02\t" 2 :=
    ⟨[' '], ['0', '2'], ['\t'], by decide, List.all_eq_true.1 (by decide),
      List.all_eq_true.1 (by decide), by decide, List.all_eq_true.1 (by decide), by decide⟩
  have hcounter : (some (StringMap.ofList
        [(counterKey ⟨"example.org", .ofRule rule⟩, " 02\t")])).bind
      (·.find? (counterKey ⟨"example.org", .ofRule rule⟩)) = some " 02\t" := by
    decide +kernel
  obtain ⟨bookkeeping, hproceed, hcount⟩ :=
    (evaluate_of_writes hbuild (List.mem_singleton.2 rfl) "example.org" hcounter hwrites
      .epoch).2.2.1 (by decide)
  exact ⟨_, hbuild, _, List.mem_singleton.2 rfl, hwrites, bookkeeping, hproceed,
    hcount.2 (by decide +kernel)⟩

/-- After 4294967296 changes a rule whose limit is one goes on, and counts them as one. -/
theorem restarts_of_numeral_too_large :
    ∃ registry : Registry,
      Registry.build [{ (default : Rule) with name := "exporter" }] = .ok registry
        ∧ ∃ r ∈ registry.rules, r.rule.maxIterations.toNat ≤ 4294967296
          ∧ counterKey ⟨"example.org", r⟩ = "example.org/3c0f39bbe7162420"
          ∧ Writes "4294967296" 4294967296
          ∧ evaluate ⟨"example.org", r⟩
              (some (.ofList [("example.org/3c0f39bbe7162420", "4294967296")])) .epoch
            = .proceed (.ofList [("example.org/3c0f39bbe7162420", "1"),
                ("example.org/exporter", "1970-01-01T00:00:00Z")]) :=
  ⟨⟨[.ofRule { (default : Rule) with name := "exporter" }]⟩, by decide +kernel, _,
    List.mem_singleton.2 rfl, by decide, by decide +kernel,
    (by decide +kernel : "" ++ toString 4294967296 ++ "" = "4294967296")
      ▸ writes_toString 4294967296 "" "" (by simp) (by simp), by decide +kernel⟩

end Sidecar.Breaker
