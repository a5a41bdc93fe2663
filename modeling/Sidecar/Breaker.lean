/-
**The limit on a rule's changes to one pod.**

Every change that a rule makes to a pod leaves two annotations: a counter under the rule's
fingerprint, and the time under the rule's name.  Once the counter has reached the rule's limit,
the rule leaves the pod alone, which ends the loops of webhooks that undo each other's work.

Main definitions:

* `Sidecar.Breaker` — a rule and the start of the names of its annotations;
* `Sidecar.Breaker.counterKey`, `Sidecar.Breaker.timestampKey` — the two names;
* `Sidecar.Breaker.iterations` — the counter as it stands on a pod;
* `Sidecar.Breaker.evaluate` — whether the rule may go on.

Main result: `Sidecar.Breaker.evaluate_eq_tripped_iff` — a rule is stopped exactly if the counter
has reached its limit.
-/

import Sidecar.Registry
import Sidecar.Timestamp

set_option autoImplicit false

namespace Sidecar

/-- Whether a rule may change a pod once more. -/
inductive Verdict where
  /-- The rule has changed the pod that often already. -/
  | tripped (iterations : UInt32)
  /-- The annotations to leave behind. -/
  | proceed (bookkeeping : StringMap)
deriving DecidableEq

/-- A registered rule and the part of its annotations' names before the slash. -/
structure Breaker where
  keyPrefix : String
  rule : RegisteredRule

namespace Breaker

/-- The annotation that holds the counter. -/
def counterKey (b : Breaker) : String :=
  b.keyPrefix ++ "/" ++ b.rule.fingerprint

/-- The annotation that holds the time of the last change. -/
def timestampKey (b : Breaker) : String :=
  if b.rule.rule.name.isEmpty then b.keyPrefix ++ "/" ++ b.rule.fingerprint ++ "-processed"
  else b.keyPrefix ++ "/" ++ b.rule.rule.name

/-- The number of 32 bits that the text writes in decimal, perhaps after a plus sign. -/
def parseCount (text : String) : Option UInt32 :=
  let digits := match text.toList with
    | '+' :: rest => rest
    | cs => cs
  if digits.isEmpty || !digits.all Char.isDigit then none
  else
    let n := Nat.ofDigitChars 10 digits 0
    if n < UInt32.size then some (UInt32.ofNat n) else none

/-- The counter on a pod with these annotations; one that is absent or no number reads as zero. -/
def iterations (b : Breaker) (annotations : Option StringMap) : UInt32 :=
  ((annotations.bind (·.find? b.counterKey)).bind fun text => parseCount (Text.trim text)).getD 0

/-- The next number, the greatest staying what it is. -/
def next (n : UInt32) : UInt32 :=
  if n = 0xffffffff then n else n + 1

/-- The annotations after a change at the given time; under one name, the time. -/
def bookkeeping (b : Breaker) (iterations : UInt32) (now : Timestamp) : StringMap :=
  .ofList [(b.counterKey, toString (next iterations).toNat),
    (b.timestampKey, now.roundToSecond.render)]

/-- Whether the rule may change a pod with these annotations once more. -/
def evaluate (b : Breaker) (annotations : Option StringMap) (now : Timestamp) : Verdict :=
  let iterations := b.iterations annotations
  if b.rule.rule.maxIterations ≤ iterations then .tripped iterations
  else .proceed (b.bookkeeping iterations now)

/-- A rule is stopped exactly if the counter has reached its limit. -/
theorem evaluate_eq_tripped_iff (b : Breaker) (annotations : Option StringMap) (now : Timestamp)
    (n : UInt32) : b.evaluate annotations now = .tripped n
      ↔ b.iterations annotations = n ∧ b.rule.rule.maxIterations ≤ n := by
  simp only [evaluate]
  split
  · next h =>
    constructor
    · intro heq
      injection heq with heq
      exact ⟨heq, heq ▸ h⟩
    · intro ⟨heq, _⟩
      rw [heq]
  · next h =>
    constructor
    · intro heq
      cases heq
    · intro ⟨heq, hle⟩
      exact absurd (heq ▸ hle) h

end Breaker

end Sidecar
