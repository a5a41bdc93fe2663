/-
**What the injector counts.**

Every admission is counted under the name of its rule and the way it ended, the operations of every
patch under the name of the rule, and every mutation's duration in a histogram.  Counters have 64
bits.  The exposition lists the counts as text for a collector.

Main definitions:

* `Sidecar.Tally` — counts under keys;
* `Sidecar.Histogram` — durations by their size;
* `Sidecar.Metrics`, `Sidecar.Metrics.record`, `Sidecar.Metrics.observe` — the counts, and what is
  added to them;
* `Sidecar.Metrics.exposition` — the counts as text.

Main result: `Sidecar.Tally.count_add` — what an addition does to each count.
-/

import Sidecar.Number.Shortest

set_option autoImplicit false

namespace Sidecar

/-! ### Tallies -/

/-- A count for each of some keys, in the order in which the keys came up. -/
structure Tally (κ : Type) where
  counts : List (κ × UInt64)
deriving DecidableEq

namespace Tally

variable {κ : Type} [DecidableEq κ]

/-- The tally without keys. -/
def empty : Tally κ := ⟨[]⟩

/-- The count of the key in a list of counts, zero if it is not there. -/
def countIn (key : κ) : List (κ × UInt64) → UInt64
  | [] => 0
  | (k, n) :: rest => if k = key then n else countIn key rest

/-- The counts with a number added under the key. -/
def addTo (key : κ) (n : UInt64) : List (κ × UInt64) → List (κ × UInt64)
  | [] => [(key, n)]
  | (k, m) :: rest => if k = key then (k, m + n) :: rest else (k, m) :: addTo key n rest

/-- The count under the key. -/
def count (t : Tally κ) (key : κ) : UInt64 :=
  countIn key t.counts

/-- The tally with a number added under the key. -/
def add (t : Tally κ) (key : κ) (n : UInt64) : Tally κ :=
  ⟨addTo key n t.counts⟩

/-- The sum of all counts. -/
def total (t : Tally κ) : UInt64 :=
  t.counts.foldr (fun (_, n) sum => n + sum) 0

@[simp] theorem count_empty (key : κ) : (empty : Tally κ).count key = 0 := rfl

omit [DecidableEq κ] in
@[simp] theorem total_empty : (empty : Tally κ).total = 0 := rfl

/-- An addition changes the count of its key and no other. -/
theorem count_add (t : Tally κ) (key other : κ) (n : UInt64) :
    (t.add key n).count other = if key = other then t.count other + n else t.count other := by
  obtain ⟨counts⟩ := t
  simp only [count, add]
  induction counts with
  | nil =>
    by_cases h : key = other <;> simp [addTo, countIn, h]
  | cons c counts ih =>
    obtain ⟨k, m⟩ := c
    by_cases hk : k = key
    · subst hk
      by_cases ho : k = other <;> simp [addTo, countIn, ho]
    · by_cases ho : k = other
      · subst ho
        simp [addTo, countIn, hk, Ne.symm hk]
      · simp [addTo, countIn, hk, ho, ih]

end Tally

/-! ### Histograms -/

/-- Numbers by their size: the sum of all, how many there are, and for each bound how many are at
most that and above the bound before it. -/
structure Histogram where
  sum : Binary64
  count : UInt64
  buckets : List (Binary64 × UInt64)
deriving DecidableEq

namespace Histogram

/-- The histogram of no numbers, with these bounds in ascending order. -/
def ofBounds (bounds : List Binary64) : Histogram :=
  ⟨.zero false, 0, bounds.map (·, 0)⟩

/-- Counts a number under the first bound that it does not exceed. -/
def place (x : Binary64) : List (Binary64 × UInt64) → List (Binary64 × UInt64)
  | [] => []
  | (bound, n) :: rest => if x.le bound then (bound, n + 1) :: rest else (bound, n) :: place x rest

/-- The histogram with one number more. -/
def observe (h : Histogram) (x : Binary64) : Histogram :=
  ⟨h.sum.add x, h.count + 1, place x h.buckets⟩

/-- For each bound how many numbers are at most that, if `below` are below all of them. -/
def cumulative (below : UInt64) : List (Binary64 × UInt64) → List (Binary64 × UInt64)
  | [] => []
  | (bound, n) :: rest => (bound, below + n) :: cumulative (below + n) rest

@[simp] theorem count_observe (h : Histogram) (x : Binary64) :
    (h.observe x).count = h.count + 1 := rfl

end Histogram

/-! ### The counts of the injector -/

/-- How an admission ended. -/
inductive AdmissionOutcome where
  /-- The pod was admitted with a patch. -/
  | patched
  /-- There was nothing to add, or the rule had its turns. -/
  | skipped
  /-- The pod was admitted as it is because of a failure. -/
  | error
  /-- The object is no pod, or there is no such rule. -/
  | ignored
deriving DecidableEq, Inhabited

namespace AdmissionOutcome

/-- The name of the outcome. -/
def name : AdmissionOutcome → String
  | .patched => "patched"
  | .skipped => "skipped"
  | .error => "error"
  | .ignored => "ignored"

/-- The outcome of that name. -/
def ofName? : String → Option AdmissionOutcome
  | "patched" => some .patched
  | "skipped" => some .skipped
  | "error" => some .error
  | "ignored" => some .ignored
  | _ => none

@[simp] theorem ofName?_name (o : AdmissionOutcome) : ofName? o.name = some o := by
  cases o <;> rfl

end AdmissionOutcome

/-- What the injector counts: admissions by rule and outcome, operations of patches by rule, and
durations of mutations in seconds. -/
structure Metrics where
  admissions : Tally (String × AdmissionOutcome)
  operations : Tally String
  durations : Histogram
deriving DecidableEq

namespace Metrics

/-- The bounds of durations: a tenth of a millisecond, doubled fourteen times, and the greatest
number. -/
def durationBounds : List Binary64 :=
  (List.range 15).map (Binary64.ofDecimal false 1 (-4)).timesPowerOfTwo ++ [.greatest]

/-- Nothing counted yet. -/
def fresh : Metrics :=
  ⟨.empty, .empty, .ofBounds durationBounds⟩

/-- Counts an admission and the operations of its patch. -/
def record (m : Metrics) (rule : String) (outcome : AdmissionOutcome) (operations : UInt64) :
    Metrics :=
  { m with
    admissions := m.admissions.add (rule, outcome) 1
    operations := if operations = 0 then m.operations else m.operations.add rule operations }

/-- Counts the duration of a mutation. -/
def observe (m : Metrics) (seconds : Binary64) : Metrics :=
  { m with durations := m.durations.observe seconds }

@[simp] theorem admissions_observe (m : Metrics) (seconds : Binary64) :
    (m.observe seconds).admissions = m.admissions := rfl

@[simp] theorem operations_observe (m : Metrics) (seconds : Binary64) :
    (m.observe seconds).operations = m.operations := rfl

@[simp] theorem durations_record (m : Metrics) (rule : String) (outcome : AdmissionOutcome)
    (operations : UInt64) : (m.record rule outcome operations).durations = m.durations := rfl

/-! ### Exposition -/

/-- Numbers are positional below `10 ^ 21` and down to `10 ^ -6`; an exponent has no plus sign. -/
def floatLayout : FloatLayout := ⟨21, -6, []⟩

/-- The text of a number. -/
def number (x : Binary64) : String :=
  if x.isFinite then x.text floatLayout
  else if x = .infinity false then "inf"
  else if x = .infinity true then "-inf"
  else "NaN"

/-- The lines before the series of a family. -/
def heading (family help kind : String) : List String :=
  ["# HELP " ++ family ++ " " ++ help ++ ".", "# TYPE " ++ family ++ " " ++ kind]

/-- A series: its name, its labels as they are, and its value. -/
def series (name : String) (labels : List (String × String)) (value : String) : String :=
  let label (l : String × String) : String := l.1 ++ "=\"" ++ l.2 ++ "\""
  let all := if labels.isEmpty then "" else
    "\x7b" ++ ",".intercalate (labels.map label) ++ "\x7d"
  name ++ all ++ " " ++ value

/-- The family of admissions. -/
def admissionLines (m : Metrics) : List String :=
  let family := "sidecar_injector_admission_requests"
  heading family "Total number of admission requests by rule and outcome" "counter"
    ++ m.admissions.counts.map fun ((rule, outcome), n) =>
      series (family ++ "_total") [("rule", rule), ("outcome", outcome.name)] (toString n.toNat)

/-- The family of operations. -/
def operationLines (m : Metrics) : List String :=
  let family := "sidecar_injector_patch_operations"
  heading family "Total number of JSON patch operations returned" "counter"
    ++ m.operations.counts.map fun (rule, n) =>
      series (family ++ "_total") [("rule", rule)] (toString n.toNat)

/-- The family of durations. -/
def durationLines (m : Metrics) : List String :=
  let family := "sidecar_injector_mutation_duration_seconds"
  let bucket (b : Binary64 × UInt64) : String :=
    let bound := if b.1 = .greatest then "+Inf" else number b.1
    series (family ++ "_bucket") [("le", bound)] (toString b.2.toNat)
  heading family "Time spent computing pod mutations in seconds" "histogram"
    ++ [series (family ++ "_sum") [] (number m.durations.sum),
      series (family ++ "_count") [] (toString m.durations.count.toNat)]
    ++ (Histogram.cumulative 0 m.durations.buckets).map bucket

/-- The lines of the exposition. -/
def lines (m : Metrics) : List String :=
  m.admissionLines ++ m.operationLines ++ m.durationLines ++ ["# EOF"]

/-- The counts as text. -/
def exposition (m : Metrics) : String :=
  String.join (m.lines.map (· ++ "\n"))

end Metrics

end Sidecar
