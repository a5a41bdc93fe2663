/-
**The annotations of the breaker and whose they are.**

A rule keeps its counter under its fingerprint and the time of its last change under its name.  The
fingerprints of registered rules differ, so no two counters share an annotation.  A name is chosen
freely, and a name can look like a fingerprint: what keeps the times off the counters is that no
registered rule is called by the fingerprint of one, and nothing less.

Main definition: `Sidecar.Registry.NamesApart` — no registered rule is called by a fingerprint.

Main results:

* `Sidecar.Breaker.parseCount_trim_toString` — a counter is read back as it is written;
* `Sidecar.Breaker.find?_bookkeeping` — what stands under each name after a change;
* `Sidecar.Breaker.timestampKey_eq_counterKey_iff` — when a time is written over a counter;
* `Sidecar.Breaker.bookkeeping_apart_iff` — **counters are kept exactly if names are apart from
  fingerprints**;
* `Sidecar.Breaker.counter_overwritten_of_namesake` — a rule called by its own fingerprint loses
  its counter.
-/

import Mathlib.Control.Monad.Basic
import Sidecar.Breaker
import Sidecar.Proofs.Registered
import Sidecar.Proofs.Text.Trimming

set_option autoImplicit false

namespace Sidecar

/-- No registered rule is called by the fingerprint of a registered rule. -/
def Registry.NamesApart (registry : Registry) : Prop :=
  ∀ r ∈ registry.rules, ∀ s ∈ registry.rules, r.rule.name ≠ s.fingerprint

/-- The fingerprint of a registered rule has sixteen characters. -/
theorem Registry.Sound.length_fingerprint {registry : Registry} (hs : registry.Sound)
    {r : RegisteredRule} (hr : r ∈ registry.rules) : r.fingerprint.length = 16 := by
  rw [hs.fingerprint r hr]
  exact Sidecar.length_fingerprint _

namespace Breaker

/-! ### The text of a counter -/

/-- A number is written in digits alone. -/
theorem isDigit_of_mem_toString {n : Nat} {c : Char} (h : c ∈ (toString n).toList) :
    c.isDigit = true := by
  rw [Nat.toString_eq_repr, Nat.toList_repr] at h
  exact Nat.isDigit_of_mem_toDigits (by decide) (by decide) h

/-- A digit is not blank. -/
theorem isBlank_of_isDigit {c : Char} (h : c.isDigit = true) : Text.isBlank c = false :=
  Text.isBlank_of_isDecimalDigit (Text.isDecimalDigit_of_isDigit c h)

/-- A number written in decimal has nothing to trim. -/
theorem trim_toString (n : Nat) : Text.trim (toString n) = toString n := by
  rw [Text.trim, Text.trimChars_of_ends, String.ofList_toList]
  · intro c hc
    exact isBlank_of_isDigit (isDigit_of_mem_toString (List.mem_of_mem_head? hc))
  · intro c hc
    exact isBlank_of_isDigit (isDigit_of_mem_toString (List.mem_of_getLast? hc))

/-- Of digits alone the count is the number that they write, if it has 32 bits. -/
theorem parseCount_of_isDigit {text : String} (hne : text.toList ≠ [])
    (hall : ∀ c ∈ text.toList, c.isDigit = true) :
    parseCount text = if Nat.ofDigitChars 10 text.toList 0 < UInt32.size then
      some (UInt32.ofNat (Nat.ofDigitChars 10 text.toList 0)) else none := by
  unfold parseCount
  cases hcs : text.toList with
  | nil => exact absurd hcs hne
  | cons c cs =>
      rw [hcs] at hall
      -- a sign would be dropped before the digits are read
      have hplus : c ≠ '+' := by
        rintro rfl
        exact absurd (hall '+' (List.mem_cons_self ..)) (by decide)
      have hguard : ((c :: cs).isEmpty || !(c :: cs).all Char.isDigit) = false := by
        simpa using hall
      split
      · next heq => exact absurd (List.cons.inj heq).1 hplus
      · simp only [hguard, Bool.false_eq_true, if_false]

/-- **A counter is read back as it is written.** -/
theorem parseCount_trim_toString (n : UInt32) :
    parseCount (Text.trim (toString n.toNat)) = some n := by
  have hdigits : (toString n.toNat).toList = Nat.toDigits 10 n.toNat := by
    rw [Nat.toString_eq_repr, Nat.toList_repr]
  rw [trim_toString, parseCount_of_isDigit (hdigits ▸ Nat.toDigits_ne_nil)
    fun c hc => isDigit_of_mem_toString hc]
  rw [hdigits, Nat.ofDigitChars_ten_toDigits, if_pos n.toNat_lt, UInt32.ofNat_toNat]

/-- Below some other number the next one is greater by one. -/
theorem toNat_next_of_lt {n m : UInt32} (h : n < m) : (next n).toNat = n.toNat + 1 := by
  have hlt : n.toNat < m.toNat := UInt32.lt_iff_toNat_lt.1 h
  have hm := m.toNat_lt
  have hne : n ≠ 0xffffffff := by
    rintro rfl
    simp at hlt
    omega
  rw [next, if_neg hne, UInt32.toNat_add]
  simp
  omega

/-- A time is no number: it ends with the letter of its zone. -/
theorem render_ne_toString (t : Timestamp) (n : Nat) : t.render ≠ toString n := by
  intro h
  have hz : 'Z' ∈ t.render.toList := by simp [Timestamp.render]
  rw [h] at hz
  exact absurd (isDigit_of_mem_toString hz) (by decide)

/-! ### The names -/

variable (keyPrefix : String)

/-- Two counters share an annotation exactly if the fingerprints are one. -/
theorem counterKey_inj (r s : RegisteredRule) :
    counterKey ⟨keyPrefix, r⟩ = counterKey ⟨keyPrefix, s⟩ ↔ r.fingerprint = s.fingerprint :=
  String.append_right_inj _

/-- **A time is written over a counter exactly if its rule is called by the fingerprint of the
other.**  A rule without a name writes its time under a name too long for a fingerprint. -/
theorem timestampKey_eq_counterKey_iff {r s : RegisteredRule} (hr : r.fingerprint.length = 16)
    (hs : s.fingerprint.length = 16) :
    timestampKey ⟨keyPrefix, r⟩ = counterKey ⟨keyPrefix, s⟩ ↔ r.rule.name = s.fingerprint := by
  simp only [timestampKey, counterKey]
  split
  · next hname =>
    -- the fingerprint of the rule stands in place of its name, with an ending behind it
    have hempty : r.rule.name = "" := String.isEmpty_iff.1 hname
    constructor
    · intro h
      rw [String.append_assoc, String.append_right_inj] at h
      have hlen := congrArg String.length h
      rw [String.length_append, hr, hs] at hlen
      exact absurd hlen (by decide)
    · intro h
      rw [hempty] at h
      rw [← h] at hs
      exact absurd hs (by decide)
  · exact String.append_right_inj _

/-- After a change a name holds the time if it is the time's, the count if it is the counter's, and
otherwise nothing. -/
theorem find?_bookkeeping (b : Breaker) (n : UInt32) (now : Timestamp) (key : String) :
    (b.bookkeeping n now).find? key = if b.timestampKey = key then some now.roundToSecond.render
      else if b.counterKey = key then some (toString (next n).toNat) else none := by
  simp [bookkeeping, StringMap.find?, StringMap.ofList, Entries.find?_ofList, Entries.find?_cons]

/-- A rule goes on exactly while its counter is below its limit. -/
theorem evaluate_eq_proceed_iff (b : Breaker) (annotations : Option StringMap) (now : Timestamp)
    (bookkeeping : StringMap) : b.evaluate annotations now = .proceed bookkeeping
      ↔ b.iterations annotations < b.rule.rule.maxIterations
        ∧ bookkeeping = b.bookkeeping (b.iterations annotations) now := by
  simp only [evaluate]
  split
  · next h =>
    constructor
    · intro heq
      cases heq
    · intro hlt
      exact absurd hlt.1 (UInt32.not_lt.2 h)
  · next h =>
    constructor
    · intro heq
      injection heq with heq
      exact ⟨UInt32.not_le.1 h, heq.symm⟩
    · intro hlt
      rw [hlt.2]

/-! ### Counters are kept -/

section Registered

variable {registry : Registry}

/-- The names of the counters of registered rules differ. -/
theorem nodup_counterKey (hs : registry.Sound) :
    (registry.rules.map fun r => counterKey ⟨keyPrefix, r⟩).Nodup := by
  have hmap : (registry.rules.map fun r => counterKey ⟨keyPrefix, r⟩)
      = (registry.rules.map (·.fingerprint)).map fun fp => keyPrefix ++ "/" ++ fp := by
    rw [List.map_map]
    rfl
  rw [hmap]
  exact hs.nodup.map fun _ _ => (String.append_right_inj _).1

/-- No time is written over a counter exactly if the names are apart from the fingerprints. -/
theorem timestampKey_ne_counterKey_iff (hs : registry.Sound) :
    (∀ r ∈ registry.rules, ∀ s ∈ registry.rules,
        timestampKey ⟨keyPrefix, r⟩ ≠ counterKey ⟨keyPrefix, s⟩) ↔ registry.NamesApart := by
  have hkeys : ∀ r ∈ registry.rules, ∀ s ∈ registry.rules,
      (timestampKey ⟨keyPrefix, r⟩ = counterKey ⟨keyPrefix, s⟩ ↔ r.rule.name = s.fingerprint) :=
    fun r hr s hsr => timestampKey_eq_counterKey_iff keyPrefix (hs.length_fingerprint hr)
      (hs.length_fingerprint hsr)
  constructor
  · intro h r hr s hsr heq
    exact h r hr s hsr ((hkeys r hr s hsr).2 heq)
  · intro h r hr s hsr heq
    exact h r hr s hsr ((hkeys r hr s hsr).1 heq)

/-- What a rule leaves behind holds its next count and touches no other counter exactly if the rule
is not called by a fingerprint of the registry. -/
theorem bookkeeping_keeps_counters_iff (hs : registry.Sound) {r : RegisteredRule}
    (hr : r ∈ registry.rules) {n : UInt32} (hn : n < r.rule.maxIterations) (now : Timestamp) :
    ((bookkeeping ⟨keyPrefix, r⟩ n now).find? (counterKey ⟨keyPrefix, r⟩)
          = some (toString (n.toNat + 1))
        ∧ ∀ s ∈ registry.rules, s ≠ r →
          (bookkeeping ⟨keyPrefix, r⟩ n now).find? (counterKey ⟨keyPrefix, s⟩) = none)
      ↔ ∀ s ∈ registry.rules, r.rule.name ≠ s.fingerprint := by
  have htime : ∀ s ∈ registry.rules,
      (timestampKey ⟨keyPrefix, r⟩ = counterKey ⟨keyPrefix, s⟩ ↔ r.rule.name = s.fingerprint) :=
    fun s hsr => timestampKey_eq_counterKey_iff keyPrefix (hs.length_fingerprint hr)
      (hs.length_fingerprint hsr)
  constructor
  · rintro ⟨hown, hothers⟩ s hsr hname
    rcases Classical.em (s = r) with rfl | hne
    · -- the time stands where the count should
      rw [find?_bookkeeping, if_pos ((htime s hsr).2 hname)] at hown
      exact render_ne_toString _ _ (Option.some.inj hown)
    · have hnone := hothers s hsr hne
      rw [find?_bookkeeping, if_pos ((htime s hsr).2 hname)] at hnone
      cases hnone
  · intro hname
    refine ⟨?_, ?_⟩
    · rw [find?_bookkeeping, if_neg fun h => hname r hr ((htime r hr).1 h), if_pos rfl,
        toNat_next_of_lt hn]
    · intro s hsr hne
      rw [find?_bookkeeping, if_neg fun h => hname s hsr ((htime s hsr).1 h), if_neg]
      intro h
      exact hne (hs.eq_of_fingerprint_eq hsr hr ((counterKey_inj keyPrefix r s).1 h).symm)

end Registered

/-- **Counters are kept exactly if names are apart from fingerprints.**  The counters of registered
rules have different names whatever the rules are called.  No time is written over a counter, and
what a rule leaves behind holds its next count and touches no other counter, exactly if no name is
a fingerprint. -/
theorem bookkeeping_apart_iff {rules : List Rule} {registry : Registry}
    (hbuild : Registry.build rules = .ok registry) (keyPrefix : String) :
    (registry.rules.map fun r => counterKey ⟨keyPrefix, r⟩).Nodup
      ∧ ((∀ r ∈ registry.rules, ∀ s ∈ registry.rules,
          timestampKey ⟨keyPrefix, r⟩ ≠ counterKey ⟨keyPrefix, s⟩) ↔ registry.NamesApart)
      ∧ ∀ r ∈ registry.rules, ∀ (annotations : Option StringMap) (now : Timestamp)
          (bookkeeping : StringMap),
        evaluate ⟨keyPrefix, r⟩ annotations now = .proceed bookkeeping →
        ((bookkeeping.find? (counterKey ⟨keyPrefix, r⟩)
              = some (toString ((iterations ⟨keyPrefix, r⟩ annotations).toNat + 1))
            ∧ ∀ s ∈ registry.rules, s ≠ r →
              bookkeeping.find? (counterKey ⟨keyPrefix, s⟩) = none)
          ↔ ∀ s ∈ registry.rules, r.rule.name ≠ s.fingerprint) := by
  have hs := Registry.sound_of_build hbuild
  refine ⟨nodup_counterKey keyPrefix hs, timestampKey_ne_counterKey_iff keyPrefix hs, ?_⟩
  intro r hr annotations now bookkeeping hproceed
  obtain ⟨hlt, rfl⟩ := (evaluate_eq_proceed_iff _ annotations now bookkeeping).1 hproceed
  exact bookkeeping_keeps_counters_iff keyPrefix hs hr hlt now

/-- Two rules with names of their own: no time is written over a counter. -/
theorem bookkeeping_apart_of_two_names :
    ∃ registry : Registry,
      Registry.build [{ (default : Rule) with name := "exporter" },
          { (default : Rule) with name := "proxy", maxIterations := 2 }] = .ok registry
        ∧ registry.NamesApart ∧ ∀ r ∈ registry.rules, ∀ s ∈ registry.rules,
          timestampKey ⟨"sidecar.example.org", r⟩ ≠ counterKey ⟨"sidecar.example.org", s⟩ := by
  have hbuild : Registry.build [{ (default : Rule) with name := "exporter" },
      { (default : Rule) with name := "proxy", maxIterations := 2 }]
        = .ok ⟨[⟨"3c0f39bbe7162420", { (default : Rule) with name := "exporter" }⟩,
          ⟨"d1713b29ebe7955a", { (default : Rule) with name := "proxy", maxIterations := 2 }⟩]⟩ := by
    decide +kernel
  have hapart : Registry.NamesApart
      ⟨[⟨"3c0f39bbe7162420", { (default : Rule) with name := "exporter" }⟩,
        ⟨"d1713b29ebe7955a", { (default : Rule) with name := "proxy", maxIterations := 2 }⟩]⟩ := by
    simp [Registry.NamesApart]
  exact ⟨_, hbuild, hapart, (bookkeeping_apart_iff hbuild "sidecar.example.org").2.1.2 hapart⟩

/-- A rule called by its own fingerprint writes the time where its count should stand. -/
theorem counter_overwritten_of_namesake :
    ∃ registry : Registry,
      Registry.build [{ (default : Rule) with name := "3c0f39bbe7162420" }] = .ok registry
        ∧ ∃ r ∈ registry.rules, ∃ bookkeeping : StringMap,
          timestampKey ⟨"sidecar.example.org", r⟩ = counterKey ⟨"sidecar.example.org", r⟩
            ∧ evaluate ⟨"sidecar.example.org", r⟩ none .epoch = .proceed bookkeeping
            ∧ bookkeeping.find? (counterKey ⟨"sidecar.example.org", r⟩)
              = some "1970-01-01T00:00:00Z" :=
  ⟨⟨[⟨"3c0f39bbe7162420", { (default : Rule) with name := "3c0f39bbe7162420" }⟩]⟩,
    by decide +kernel, _, List.mem_singleton.2 rfl, _, by decide +kernel, rfl, by decide +kernel⟩

end Breaker

end Sidecar
