/-
**The pointers of an injection.**

A pointer is built from its segments as a text, and the text is read back by a reader, which may
refuse what is no pointer; an injection would then have no answer.  `Engine.mutateWith` is the
engine with such a reader at each place where a pointer is built.  A reader that accepts what is well
formed never refuses anything, whatever the keys of the rule's labels and annotations are, so that
it makes no difference to the answers.

Main definitions:

* `Sidecar.Json.Pointer.Reader`, `Sidecar.Json.PatchError` — a reader of pointers, and its refusal;
* `Sidecar.Json.Patch.mergePointers` — the pointers that are built to merge a map;
* `Sidecar.Engine.mutateWith` — the engine whose pointers are read.

Main results:

* `Sidecar.Json.Pointer.Reader.strict_eq_none_iff` — what the strictest reader accepts;
* `Sidecar.Json.Pointer.readAll_eq_ok_iff` — when all pointers are read;
* `Sidecar.Engine.mutateWith_eq` — **a reader makes no difference if it accepts all that is well
  formed.**
-/

import Sidecar.Injection
import Sidecar.Proofs.Json.Written
import Sidecar.Proofs.Rule.Conversion
import Sidecar.Text.Quoted

set_option autoImplicit false

namespace Sidecar

/-! ### Readers of pointers -/

namespace Json

/-- Why a patch cannot be built. -/
inductive PatchError where
  | invalidPointer (path reason : String)
deriving DecidableEq

/-- The wording of the error. -/
def PatchError.message : PatchError → String
  | .invalidPointer path reason => "invalid JSON pointer " ++ Text.quoted path ++ ": " ++ reason

namespace Pointer

/-- A reader says of a text why it is no pointer, or nothing if it is one. -/
abbrev Reader := String → Option String

/-- The reader that refuses a text that cannot be parsed. -/
def Reader.strict : Reader := fun text =>
  if (parse? text).isSome then none else some "not a pointer"

/-- It accepts exactly the texts that are well formed. -/
theorem Reader.strict_eq_none_iff {text : String} : strict text = none ↔ WellFormed text := by
  rw [strict, ← isSome_parse?_iff]
  split
  · next h => simp [h]
  · next h => simp [h]

/-- Has the text of the pointer read. -/
def read (reader : Reader) (pointer : Pointer) : Except PatchError Unit :=
  match reader pointer.render with
  | none => .ok ()
  | some reason => .error (.invalidPointer pointer.render reason)

/-- Has one pointer after the other read, up to the first that is refused. -/
def readAll (reader : Reader) : List Pointer → Except PatchError Unit
  | [] => .ok ()
  | pointer :: rest => do
    pointer.read reader
    readAll reader rest

theorem read_eq_ok_iff {reader : Reader} {pointer : Pointer} :
    pointer.read reader = .ok () ↔ reader pointer.render = none := by
  unfold read
  split
  · next h => simp [h]
  · next h => simp [h]

/-- All pointers are read exactly if the reader accepts each of them. -/
theorem readAll_eq_ok_iff {reader : Reader} {pointers : List Pointer} :
    readAll reader pointers = .ok () ↔ ∀ p ∈ pointers, reader p.render = none := by
  induction pointers with
  | nil => simp [readAll]
  | cons p rest ih =>
      rw [readAll, bind_eq_ok_iff, List.forall_mem_cons, ← ih, ← read_eq_ok_iff]
      constructor
      · rintro ⟨_, hread, hrest⟩
        exact ⟨hread, hrest⟩
      · rintro ⟨hread, hrest⟩
        exact ⟨(), hread, hrest⟩

end Pointer

/-- The pointers of an operation. -/
def Operation.pointers : Operation → List Pointer
  | .add path _ => [path]
  | .remove path => [path]
  | .replace path _ => [path]
  | .move source path => [source, path]
  | .copy source path => [source, path]
  | .test path _ => [path]

/-- The pointers that are built to bring the entries of `desired` into the map at the place; those
of entries that are there already are built as well, although no operation has them. -/
def Patch.mergePointers (base : Pointer) (existing : Option StringMap) (desired : StringMap) :
    List Pointer :=
  if desired.isEmpty then []
  else
    match existing with
    | none => [base]
    | some existing =>
      if existing.isEmpty then [base] else desired.entries.map fun entry => base ++ [entry.1]

end Json

open Json

/-! ### The engine with a reader -/

/-- Why an engine whose pointers are read has no answer. -/
inductive MutationError where
  | injection (cause : InjectionError)
  | patch (cause : PatchError)
deriving DecidableEq

/-- The wording of the error. -/
def MutationError.message : MutationError → String
  | .injection cause => cause.message
  | .patch cause => cause.message

namespace Injection

variable (reader : Pointer.Reader)

/-- The operations of a stage.  The stage converts what it needs first, and then builds the
pointers. -/
def stageWith (stage : Except RuleError Patch) : Except MutationError Patch := do
  let operations ← stage.mapError fun cause => .injection (.rule cause)
  (Pointer.readAll reader (operations.flatMap (·.pointers))).mapError .patch
  pure operations

/-- The operations that bring entries into a map. -/
def mergeWith (base : Pointer) (existing : Option StringMap) (desired : StringMap) :
    Except MutationError Patch := do
  (Pointer.readAll reader (Patch.mergePointers base existing desired)).mapError .patch
  pure (.mergeMap base existing desired)

/-- The operations of all stages but the annotations. -/
def contentWith (rule : Rule) (pod : Cluster.Pod) (spec : Cluster.PodSpec) :
    Except MutationError Patch := do
  let volumes ← stageWith reader (volumes rule spec)
  let volumeMounts ← stageWith reader (volumeMounts rule spec)
  let containers ← stageWith reader (containers rule spec)
  let affinity ← stageWith reader (affinity rule spec)
  let tolerations ← stageWith reader (tolerations rule spec)
  let labels ← mergeWith reader ["metadata", "labels"] pod.labels rule.labels
  pure (volumes ++ volumeMounts ++ containers ++ affinity ++ tolerations ++ labels)

end Injection

namespace Engine

/-- The answer for a pod whose specification is given and a rule that is registered. -/
def injectWith (engine : Engine) (reader : Pointer.Reader) (registered : RegisteredRule)
    (pod : Cluster.Pod) (spec : Cluster.PodSpec) (now : Timestamp) :
    Except MutationError Outcome := do
  let rule := registered.rule
  let ops ← Injection.contentWith reader rule pod spec
  if ops.isEmpty && !Injection.annotationsPending rule pod then
    pure (.nothingToInject registered.displayName)
  else
    match Breaker.evaluate ⟨engine.keyPrefix, registered⟩ pod.annotations now with
    | .tripped iterations => pure (.iterationLimitReached registered.displayName iterations)
    | .proceed bookkeeping => do
      let desired := rule.annotations.override bookkeeping
      let merge ← Injection.mergeWith reader ["metadata", "annotations"] pod.annotations desired
      pure (.patched registered.displayName (ops ++ merge))

/-- **The answer of an engine whose pointers are read when they are built.** -/
def mutateWith (engine : Engine) (reader : Pointer.Reader) (fingerprint : String)
    (pod : Cluster.Pod) (now : Timestamp) : Except MutationError Outcome :=
  match engine.registry.resolve? fingerprint with
  | none => .ok .unknownRule
  | some registered =>
    match pod.spec with
    | none => .error (.injection .missingSpec)
    | some spec => engine.injectWith reader registered pod spec now

end Engine

/-! ### Readers that accept every pointer -/

section Accepts

variable {reader : Pointer.Reader} (h : ∀ text, Pointer.WellFormed text → reader text = none)

include h

/-- Every pointer is accepted, whatever its segments are. -/
theorem Json.Pointer.readAll_of_accepts (pointers : List Pointer) :
    Pointer.readAll reader pointers = .ok () :=
  Pointer.readAll_eq_ok_iff.2 fun p _ => h _ p.wellFormed_render

namespace Injection

theorem stageWith_eq (stage : Except RuleError Patch) :
    stageWith reader stage = stage.mapError fun cause => .injection (.rule cause) := by
  unfold stageWith
  cases stage with
  | error cause => rfl
  | ok operations =>
      simp only [Pointer.readAll_of_accepts h]
      rfl

theorem mergeWith_eq (base : Pointer) (existing : Option StringMap) (desired : StringMap) :
    mergeWith reader base existing desired = .ok (.mergeMap base existing desired) := by
  rw [mergeWith, Pointer.readAll_of_accepts h]
  rfl

/-- The stages write with a reader what they write without. -/
theorem contentWith_eq (rule : Rule) (pod : Cluster.Pod) (spec : Cluster.PodSpec) :
    contentWith reader rule pod spec
      = (content rule pod spec).mapError fun cause => .injection (.rule cause) := by
  simp only [contentWith, content, stageWith_eq h, mergeWith_eq h, mapError_bind]
  rfl

end Injection

namespace Engine

theorem injectWith_eq (engine : Engine) (r : RegisteredRule) (pod : Cluster.Pod)
    (spec : Cluster.PodSpec) (now : Timestamp) :
    engine.injectWith reader r pod spec now
      = (engine.inject r pod spec now).mapError fun cause => .injection (.rule cause) := by
  rw [injectWith, inject, mapError_bind, Injection.contentWith_eq h]
  refine congrArg (Except.bind _) (funext fun ops => ?_)
  split
  · rfl
  · cases Breaker.evaluate ⟨engine.keyPrefix, r⟩ pod.annotations now with
    | tripped n => rfl
    | proceed bookkeeping =>
        simp only [Injection.mergeWith_eq h]
        rfl

/-- **A reader makes no difference if it accepts all that is well formed**: the engine answers as it
does without one. -/
theorem mutateWith_eq (engine : Engine) (fingerprint : String) (pod : Cluster.Pod)
    (now : Timestamp) :
    engine.mutateWith reader fingerprint pod now
      = (engine.mutate fingerprint pod now).mapError .injection := by
  unfold mutateWith mutate
  cases engine.registry.resolve? fingerprint with
  | none => rfl
  | some r =>
      cases pod.spec with
      | none => rfl
      | some spec =>
          simp only [mapError_mapError]
          exact injectWith_eq h engine r pod spec now

end Engine

end Accepts

end Sidecar
