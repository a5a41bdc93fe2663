/-
**An authority over runs.**

An authority gives a serial number before it signs, and a signature may fail; it makes a
certificate of its own when it first needs one, and the certificate that was asked for may then fail
nevertheless.  So neither the replies of its calls nor its state after them tell all that it has
done.  A *journal* does: it notes each number that is given, each certificate of the authority's own
that is put in place, and each bundle that is returned, in this order.

What an authority becomes by a part of its journal is said once, and holds of one stage of a call,
of a call, and of a run: the parts are put together by appending them.

Main definitions:

* `Sidecar.AuthorityCall`, `Sidecar.AuthorityReply` — the calls of an authority and their replies;
* `Sidecar.JournalEntry` — what an authority does;
* `Sidecar.Authority.entries`, `Sidecar.Authority.journal` — what it does in a call, and in a run;
* `Sidecar.Authority.Becomes` — an authority becomes another by what it does.

Main results:

* `Sidecar.Authority.regenerate_cases` — all that a regeneration can come to;
* `Sidecar.Authority.becomes_journal` — **a run does what its journal says;**
* `Sidecar.Authority.length_numbers_journal_le` — at most one number a call, and one more;
* `Sidecar.Authority.orderly_along_run` — **consecutive numbers, and certificates of the authority
  that stay.**
-/

import Mathlib.Algebra.Group.Nat.Defs
import Mathlib.Data.List.Nodup
import Sidecar.Authority
import Sidecar.Proofs.Rule.Conversion

set_option autoImplicit false

namespace Sidecar

open Rule

/-- A call of an authority. -/
inductive AuthorityCall where
  | regenerate
  | issue
deriving DecidableEq

/-- What a call returns; `κ` is the type of keys. -/
inductive AuthorityReply (κ : Type) where
  | failed (error : CertificateError)
  | regenerated (ca : CaMaterial κ)
  | issued (bundle : Bundle κ)
deriving DecidableEq

/-- What an authority does. -/
inductive JournalEntry (κ : Type) where
  /-- A serial number is given. -/
  | numbered (serial : BitVec 128)
  /-- A certificate of the authority's own is put in place. -/
  | installed (ca : CaMaterial κ)
  /-- A bundle is returned. -/
  | issued (bundle : Bundle κ)
deriving DecidableEq

namespace JournalEntry

variable {κ : Type}

/-- The serial number that is given, if one is. -/
def number? : JournalEntry κ → Option (BitVec 128)
  | .numbered serial => some serial
  | _ => none

/-- The certificate of the authority's own that is put in place, if one is. -/
def installed? : JournalEntry κ → Option (CaMaterial κ)
  | .installed ca => some ca
  | _ => none

/-- The certificate that is new in the entry, if one is. -/
def certificate? : JournalEntry κ → Option (Certificate κ)
  | .numbered _ => none
  | .installed ca => some ca.certificate
  | .issued bundle => some bundle.leaf

end JournalEntry

namespace Authority

variable {κ : Type}

/-! ### Journals -/

/-- The serial numbers that are given. -/
def numbers (entries : List (JournalEntry κ)) : List (BitVec 128) :=
  entries.filterMap JournalEntry.number?

/-- The certificates of the authority's own. -/
def installations (entries : List (JournalEntry κ)) : List (CaMaterial κ) :=
  entries.filterMap JournalEntry.installed?

/-- The serial numbers of the certificates that are new. -/
def certified (entries : List (JournalEntry κ)) : List (BitVec 128) :=
  (entries.filterMap JournalEntry.certificate?).map (·.serial)

/-- The number at which the counter stands, if it has moved. -/
def moved (before after : Authority κ) : List (JournalEntry κ) :=
  if after.serial = before.serial then [] else [.numbered after.serial]

/-- What a regeneration does: the counter moves or not, and there is a certificate or not. -/
def regenerateEntries (a : Authority κ) (t : Attempt κ) : List (JournalEntry κ) :=
  moved a (a.regenerate t).2 ++
    match (a.regenerate t).1 with
    | .ok ca => [.installed ca]
    | .error _ => []

/-- What an authority does to have a certificate of its own. -/
def provideEntries (a : Authority κ) (t : Attempt κ) : List (JournalEntry κ) :=
  if a.ca.isNone then a.regenerateEntries t else []

/-- What an authority does in a call. -/
def entries (a : Authority κ) (t : Attempt κ) : AuthorityCall → List (JournalEntry κ)
  | .regenerate => a.regenerateEntries t
  | .issue =>
    a.provideEntries t ++ moved (a.provideCa t).2 (a.issue t).2 ++
      match (a.issue t).1 with
      | .ok bundle => [.issued bundle]
      | .error _ => []

/-- The reply to a call. -/
def reply (a : Authority κ) (t : Attempt κ) : AuthorityCall → AuthorityReply κ
  | .regenerate =>
    match (a.regenerate t).1 with
    | .ok ca => .regenerated ca
    | .error e => .failed e
  | .issue =>
    match (a.issue t).1 with
    | .ok bundle => .issued bundle
    | .error e => .failed e

/-- The authority after a call. -/
def after (a : Authority κ) (t : Attempt κ) : AuthorityCall → Authority κ
  | .regenerate => (a.regenerate t).2
  | .issue => (a.issue t).2

/-- The authority after calls one after another. -/
def run (a : Authority κ) (calls : List (AuthorityCall × Attempt κ)) : Authority κ :=
  calls.foldl (fun a c => a.after c.2 c.1) a

/-- What an authority does in calls one after another. -/
def journal : Authority κ → List (AuthorityCall × Attempt κ) → List (JournalEntry κ)
  | _, [] => []
  | a, (call, t) :: rest => a.entries t call ++ journal (a.after t call) rest

theorem run_append (a : Authority κ) (before more : List (AuthorityCall × Attempt κ)) :
    a.run (before ++ more) = (a.run before).run more :=
  List.foldl_append

theorem numbers_append (first second : List (JournalEntry κ)) :
    numbers (first ++ second) = numbers first ++ numbers second :=
  List.filterMap_append

/-! ### Consecutive numbers -/

/-- The numbers that come after one, in the order in which they are given; the last of all is
followed by the first. -/
def numbersAfter (serial : BitVec 128) (n : Nat) : List (BitVec 128) :=
  (List.range n).map fun i => serial + BitVec.ofNat 128 (i + 1)

theorem length_numbersAfter (serial : BitVec 128) (n : Nat) :
    (numbersAfter serial n).length = n := by
  rw [numbersAfter, List.length_map, List.length_range]

theorem numbersAfter_add (serial : BitVec 128) (m n : Nat) :
    numbersAfter serial (m + n)
      = numbersAfter serial m ++ numbersAfter (serial + BitVec.ofNat 128 m) n := by
  rw [numbersAfter, List.range_add, List.map_append, List.map_map]
  congr 1
  refine List.map_congr_left fun i _ => ?_
  rw [Function.comp_apply, BitVec.add_assoc, ← BitVec.ofNat_add, Nat.add_assoc]

/-- Up to the number of all numbers, none comes twice. -/
theorem nodup_numbersAfter (serial : BitVec 128) {n : Nat} (h : n ≤ 2 ^ 128) :
    (numbersAfter serial n).Nodup := by
  refine List.Nodup.map_on ?_ List.nodup_range
  intro i hi j hj heq
  have hsame : BitVec.ofNat 128 (i + 1) = BitVec.ofNat 128 (j + 1) :=
    (BitVec.add_right_inj serial).1 heq
  have hnat := congrArg BitVec.toNat hsame
  rw [List.mem_range] at hi hj
  simp only [BitVec.toNat_ofNat] at hnat
  omega

/-! ### What an authority becomes -/

/-- An authority becomes another by what it does. -/
structure Becomes (a : Authority κ) (does : List (JournalEntry κ)) (next : Authority κ) : Prop where
  /-- The numbers that are given follow the number given last. -/
  numbers : ∃ n, numbers does = numbersAfter a.serial n
    ∧ next.serial = a.serial + BitVec.ofNat 128 n
  /-- New certificates bear numbers that are given, in their order. -/
  certified : (certified does).Sublist (Authority.numbers does)
  /-- The certificate of the authority's own is the one put in place last. -/
  ca : next.ca = (installations does).getLast?.or a.ca
  /-- Each of these is for the key that it comes with. -/
  keyed : ∀ ca ∈ installations does, ca.certificate.publicKey = ca.key

theorem Becomes.refl (a : Authority κ) : a.Becomes [] a :=
  ⟨⟨0, rfl, (BitVec.add_zero _).symm⟩, List.Sublist.refl _, rfl, by simp [installations]⟩

theorem Becomes.trans {a b c : Authority κ} {first second : List (JournalEntry κ)}
    (hfirst : a.Becomes first b) (hsecond : b.Becomes second c) :
    a.Becomes (first ++ second) c := by
  obtain ⟨m, hm, hserial⟩ := hfirst.numbers
  obtain ⟨n, hn, hlast⟩ := hsecond.numbers
  constructor
  · refine ⟨m + n, ?_, ?_⟩
    · rw [numbers_append, hm, hn, hserial, numbersAfter_add]
    · rw [hlast, hserial, BitVec.add_assoc, BitVec.ofNat_add]
  · rw [Authority.certified, numbers_append, List.filterMap_append, List.map_append]
    exact hfirst.certified.append hsecond.certified
  · rw [hsecond.ca, hfirst.ca, installations, installations, installations,
      List.filterMap_append, List.getLast?_append, Option.or_assoc]
  · intro ca hca
    rw [installations, List.filterMap_append, List.mem_append] at hca
    exact hca.elim (hfirst.keyed ca) (hsecond.keyed ca)

/-- A number is given. -/
theorem becomes_advance (a : Authority κ) : a.Becomes [.numbered a.advance.serial] a.advance :=
  ⟨⟨1, rfl, rfl⟩, List.nil_sublist _, rfl, by simp [installations, JournalEntry.installed?]⟩

/-! ### Calls -/

/-- A counter that has not moved gives no number. -/
theorem moved_of_serial_eq {a b : Authority κ} (h : b.serial = a.serial) : moved a b = [] :=
  if_pos h

/-- A counter that has moved on gives one. -/
theorem moved_of_serial_eq_advance {a b : Authority κ} (h : b.serial = a.advance.serial) :
    moved a b = [.numbered a.advance.serial] := by
  have hne : b.serial ≠ a.serial := by
    rw [h, serial_advance]
    bv_omega
  rw [moved, if_neg hne, h]

/-- All that a regeneration can come to: it fails before a number is given, or after that, or there
is a new certificate for a new key. -/
theorem regenerate_cases (a : Authority κ) (t : Attempt κ) :
    (∃ e, a.regenerate t = (.error e, a)) ∨ (∃ e, a.regenerate t = (.error e, a.advance))
      ∨ ∃ ca b, a.regenerate t = (.ok ca, b) ∧ b.serial = a.advance.serial ∧ b.ca = some ca
        ∧ ca.certificate.serial = a.advance.serial ∧ ca.certificate.publicKey = ca.key := by
  unfold regenerate
  cases t.step .generateCaKey with
  | error e => exact .inl ⟨e, rfl⟩
  | ok _ =>
    cases t.validity .dateCa with
    | error e => exact .inl ⟨e, rfl⟩
    | ok validity =>
      cases t.step .signCa with
      | error e => exact .inr (.inl ⟨e, rfl⟩)
      | ok _ => exact .inr (.inr ⟨_, _, rfl, rfl, rfl, rfl, rfl⟩)

/-- A bundle has the authority's certificate and one that is signed with its key. -/
theorem of_bundle_eq_ok {a : Authority κ} {ca : CaMaterial κ} {t : Attempt κ} {bundle : Bundle κ}
    (h : a.bundle ca t = .ok bundle) :
    bundle.ca = ca.certificate ∧ bundle.leaf.signedBy = ca.key
      ∧ bundle.leaf.issuer = ca.certificate.subject ∧ bundle.leaf.serial = a.serial := by
  unfold Authority.bundle at h
  simp only [bind_eq_ok_iff, pure_eq_ok_iff] at h
  obtain ⟨_, _, _, _, _, _, _, _, _, _, _, _, rfl⟩ := h
  exact ⟨rfl, rfl, rfl, rfl⟩

/-- Issuing with a certificate of the authority's own: a number is given, and there may be a
bundle. -/
theorem issue_of_provideCa {a b : Authority κ} {ca : CaMaterial κ} {t : Attempt κ}
    (h : a.provideCa t = (.ok ca, b)) : a.issue t = (b.advance.bundle ca t, b.advance) := by
  rw [issue, h]

/-- Issuing fails without one. -/
theorem issue_of_provideCa_error {a b : Authority κ} {e : CertificateError} {t : Attempt κ}
    (h : a.provideCa t = (.error e, b)) : a.issue t = (.error e, b) := by
  rw [issue, h]

/-- What a regeneration does makes the authority what it is then. -/
theorem becomes_regenerate (a : Authority κ) (t : Attempt κ) :
    a.Becomes (a.regenerateEntries t) (a.regenerate t).2 := by
  unfold regenerateEntries
  rcases a.regenerate_cases t with ⟨e, h⟩ | ⟨e, h⟩ | ⟨ca, b, h, hserial, hca, hnumber, hkey⟩
  · rw [h, moved_of_serial_eq rfl]
    exact Becomes.refl a
  · rw [h, moved_of_serial_eq_advance rfl]
    exact a.becomes_advance
  · rw [h, moved_of_serial_eq_advance hserial]
    constructor
    · exact ⟨1, rfl, hserial⟩
    · change [ca.certificate.serial].Sublist [a.advance.serial]
      rw [hnumber]
    · exact hca
    · intro own hown
      obtain rfl := List.mem_singleton.1 hown
      exact hkey

/-- So does what it does to have a certificate of its own. -/
theorem becomes_provideCa (a : Authority κ) (t : Attempt κ) :
    a.Becomes (a.provideEntries t) (a.provideCa t).2 := by
  cases hca : a.ca with
  | some ca =>
    have hprovide : a.provideCa t = (.ok ca, a) := by
      rw [provideCa, hca]
    rw [hprovide, provideEntries, hca]
    exact Becomes.refl a
  | none =>
    have hprovide : a.provideCa t = a.regenerate t := by
      rw [provideCa, hca]
    rw [hprovide, provideEntries, hca]
    exact a.becomes_regenerate t

/-- An authority that provides a certificate has it. -/
theorem ca_provideCa {a b : Authority κ} {ca : CaMaterial κ} {t : Attempt κ}
    (h : a.provideCa t = (.ok ca, b)) : b.ca = some ca := by
  unfold provideCa at h
  cases hca : a.ca with
  | some own =>
    simp only [hca, Prod.mk.injEq, Except.ok.injEq] at h
    rw [← h.2, hca, h.1]
  | none =>
    simp only [hca] at h
    rcases a.regenerate_cases t with ⟨e, hcase⟩ | ⟨e, hcase⟩ | ⟨_, _, hcase, _, hown, _⟩
    · cases hcase.symm.trans h
    · cases hcase.symm.trans h
    · cases hcase.symm.trans h
      exact hown

/-- **What an authority does in a call makes it what it is then.** -/
theorem becomes_entries (a : Authority κ) (t : Attempt κ) (call : AuthorityCall) :
    a.Becomes (a.entries t call) (a.after t call) := by
  cases call with
  | regenerate => exact a.becomes_regenerate t
  | issue =>
    have hprovided := a.becomes_provideCa t
    unfold entries after
    rw [List.append_assoc]
    refine hprovided.trans ?_
    rcases hprovide : a.provideCa t with ⟨e | ca, b⟩
    · rw [issue_of_provideCa_error hprovide, moved_of_serial_eq rfl]
      exact Becomes.refl b
    · rw [issue_of_provideCa hprovide, moved_of_serial_eq_advance rfl]
      cases hbundle : b.advance.bundle ca t with
      | error e => exact b.becomes_advance
      | ok bundle =>
        obtain ⟨-, -, -, hserial⟩ := of_bundle_eq_ok hbundle
        refine ⟨⟨1, rfl, rfl⟩, ?_, rfl, fun ca hca => absurd hca (List.not_mem_nil)⟩
        change [bundle.leaf.serial].Sublist [b.advance.serial]
        rw [hserial]

/-- **A run does what its journal says.** -/
theorem becomes_journal (a : Authority κ) (calls : List (AuthorityCall × Attempt κ)) :
    a.Becomes (a.journal calls) (a.run calls) := by
  induction calls generalizing a with
  | nil => exact Becomes.refl a
  | cons c calls ih => exact (a.becomes_entries c.2 c.1).trans (ih (a.after c.2 c.1))

/-! ### How many numbers -/

/-- The number that an authority will spend on a certificate of its own. -/
def owed (a : Authority κ) : Nat :=
  if a.ca.isNone then 1 else 0

theorem owed_of_some {a : Authority κ} {ca : CaMaterial κ} (h : a.ca = some ca) : a.owed = 0 := by
  rw [owed, h]
  rfl

theorem owed_le_one (a : Authority κ) : a.owed ≤ 1 := by
  unfold owed
  split <;> omega

/-- A certificate of the authority's own is never taken away. -/
theorem Becomes.owed_le {a b : Authority κ} {does : List (JournalEntry κ)}
    (h : a.Becomes does b) : b.owed ≤ a.owed := by
  cases hca : a.ca with
  | none =>
    have ha : a.owed = 1 := by
      rw [owed, hca]
      rfl
    rw [ha]
    exact b.owed_le_one
  | some ca =>
    have hb := h.ca
    rw [hca] at hb
    cases hlast : (installations does).getLast? with
    | none =>
      rw [hlast] at hb
      rw [owed_of_some hb]
      exact Nat.zero_le _
    | some last =>
      rw [hlast] at hb
      rw [owed_of_some hb]
      exact Nat.zero_le _

/-- A regeneration gives one number at most. -/
theorem length_numbers_regenerateEntries_le (a : Authority κ) (t : Attempt κ) :
    (numbers (a.regenerateEntries t)).length ≤ 1 := by
  unfold regenerateEntries
  rcases a.regenerate_cases t with ⟨e, h⟩ | ⟨e, h⟩ | ⟨ca, b, h, hserial, -⟩
  · rw [h, moved_of_serial_eq rfl]
    exact Nat.zero_le _
  · rw [h, moved_of_serial_eq_advance rfl]
    exact Nat.le_refl _
  · rw [h, moved_of_serial_eq_advance hserial]
    exact Nat.le_refl _

/-- To have a certificate of its own an authority gives the number that it owes. -/
theorem length_numbers_provideEntries_le (a : Authority κ) (t : Attempt κ) :
    (numbers (a.provideEntries t)).length ≤ a.owed := by
  unfold provideEntries owed
  split
  · exact a.length_numbers_regenerateEntries_le t
  · exact Nat.le_refl 0

/-- A call gives one number at most, and one more if it puts the first certificate of the
authority's own in place. -/
theorem length_numbers_entries_le (a : Authority κ) (t : Attempt κ) (call : AuthorityCall) :
    (numbers (a.entries t call)).length + (a.after t call).owed ≤ 1 + a.owed := by
  cases call with
  | regenerate =>
    have hnumbers := a.length_numbers_regenerateEntries_le t
    have howed := (a.becomes_regenerate t).owed_le
    exact Nat.add_le_add hnumbers howed
  | issue =>
    have hprovided := a.length_numbers_provideEntries_le t
    have hbundle : numbers (match (a.issue t).1 with
        | .ok bundle => [JournalEntry.issued bundle]
        | .error _ => []) = [] := by
      cases (a.issue t).1 <;> rfl
    rw [entries, numbers_append, numbers_append, hbundle, List.append_nil, List.length_append]
    rcases hprovide : a.provideCa t with ⟨e | ca, b⟩
    · -- without a certificate of its own there is no number for another
      rw [issue_of_provideCa_error hprovide, moved_of_serial_eq rfl]
      have howed := (a.after t .issue).owed_le_one
      change _ + 0 + _ ≤ 1 + a.owed
      omega
    · have howed : (a.after t .issue).owed = 0 := by
        have hown : b.advance.ca = some ca := (ca_advance b).trans (ca_provideCa hprovide)
        rw [after, issue_of_provideCa hprovide]
        exact owed_of_some hown
      rw [howed, issue_of_provideCa hprovide, moved_of_serial_eq_advance rfl]
      change _ + 1 + 0 ≤ 1 + a.owed
      omega

/-- A run gives one number a call at most, and one more. -/
theorem length_numbers_journal_le (a : Authority κ) (calls : List (AuthorityCall × Attempt κ)) :
    (numbers (a.journal calls)).length + (a.run calls).owed ≤ calls.length + a.owed := by
  induction calls generalizing a with
  | nil => exact Nat.le_refl _
  | cons c calls ih =>
    have hcall := a.length_numbers_entries_le c.2 c.1
    have hrest := ih (a.after c.2 c.1)
    have hsplit : (numbers (a.journal (c :: calls))).length
        = (numbers (a.entries c.2 c.1)).length
          + (numbers ((a.after c.2 c.1).journal calls)).length := by
      rw [journal, numbers_append, List.length_append]
    have hrun : a.run (c :: calls) = (a.after c.2 c.1).run calls := rfl
    rw [hsplit, hrun, List.length_cons]
    omega

/-! ### Runs -/

/-- How a call goes after others. -/
structure Goes (start : Authority κ) (before : List (AuthorityCall × Attempt κ))
    (call : AuthorityCall) (t : Attempt κ) : Prop where
  /-- A bundle has the certificate of the authority's own that was put in place last, and the other
  one in it is signed with the key of that. -/
  bundle : ∀ bundle, (start.run before).reply t call = .issued bundle →
    ∃ ca, (installations (start.journal (before ++ [(call, t)]))).getLast? = some ca
      ∧ bundle.ca = ca.certificate ∧ bundle.leaf.signedBy = ca.key
      ∧ bundle.leaf.signedBy = bundle.ca.publicKey ∧ bundle.leaf.issuer = bundle.ca.subject
  /-- Issuing puts no certificate in place if there was one. -/
  implicit : call = .issue → installations (start.journal before) ≠ [] →
    installations ((start.run before).entries t call) = []
  /-- A failure leaves a certificate that was there in place. -/
  failed : ∀ e, (start.run before).reply t call = .failed e → ∀ ca,
    (start.run before).ca = some ca → (start.run (before ++ [(call, t)])).ca = some ca

/-- A bundle has the certificate that the authority has then. -/
theorem exists_ca_of_issue {a b : Authority κ} {t : Attempt κ} {bundle : Bundle κ}
    (h : a.issue t = (.ok bundle, b)) :
    ∃ ca, b.ca = some ca ∧ bundle.ca = ca.certificate ∧ bundle.leaf.signedBy = ca.key
      ∧ bundle.leaf.issuer = ca.certificate.subject := by
  rcases hprovide : a.provideCa t with ⟨e | ca, c⟩
  · cases (issue_of_provideCa_error hprovide).symm.trans h
  · rw [issue_of_provideCa hprovide, Prod.mk.injEq] at h
    obtain ⟨hbundle, rfl⟩ := h
    obtain ⟨hca, hsigned, hissuer, -⟩ := of_bundle_eq_ok hbundle
    exact ⟨ca, (ca_advance c).trans (ca_provideCa hprovide), hca, hsigned, hissuer⟩

/-- An authority that has a certificate of its own puts none in place to issue another. -/
theorem installations_issue_of_some {a : Authority κ} {ca : CaMaterial κ} (h : a.ca = some ca)
    (t : Attempt κ) : installations (a.entries t .issue) = [] := by
  have hprovided : a.provideEntries t = [] := by
    rw [provideEntries, h]
    rfl
  have hprovide : a.provideCa t = (.ok ca, a) := by
    rw [provideCa, h]
  rw [entries, hprovided, hprovide, issue_of_provideCa hprovide, moved_of_serial_eq_advance rfl]
  cases a.advance.bundle ca t <;> rfl

/-- A call that fails leaves a certificate of the authority's own alone. -/
theorem ca_after_of_failed {a : Authority κ} {t : Attempt κ} {call : AuthorityCall}
    {e : CertificateError} (h : a.reply t call = .failed e) {ca : CaMaterial κ}
    (hca : a.ca = some ca) : (a.after t call).ca = some ca := by
  cases call with
  | issue => exact ca_issue_of_some t hca
  | regenerate =>
    cases hregenerate : (a.regenerate t).1 with
    | error e => exact (ca_regenerate_of_error hregenerate).trans hca
    | ok own =>
      rw [reply, hregenerate] at h
      cases h

/-- How a call goes after others, if the authority started without a certificate of its own. -/
theorem goes {start : Authority κ} (hstart : start.ca = none)
    (before : List (AuthorityCall × Attempt κ)) (call : AuthorityCall) (t : Attempt κ) :
    start.Goes before call t := by
  have hrun : start.run (before ++ [(call, t)]) = (start.run before).after t call :=
    start.run_append before [(call, t)]
  constructor
  · intro bundle hreply
    have hbecomes := start.becomes_journal (before ++ [(call, t)])
    have hlast := hbecomes.ca
    rw [hrun, hstart, Option.or_none] at hlast
    cases call with
    | regenerate =>
      rw [reply] at hreply
      split at hreply <;> cases hreply
    | issue =>
      rcases hissue : (start.run before).issue t with ⟨e | own, b⟩
      · rw [reply, hissue] at hreply
        cases hreply
      · rw [reply, hissue] at hreply
        cases hreply
        obtain ⟨ca, hca, hbundle, hsigned, hissuer⟩ := exists_ca_of_issue hissue
        rw [after, hissue] at hlast
        rw [hca] at hlast
        have hkey := hbecomes.keyed ca (List.mem_of_getLast? hlast.symm)
        exact ⟨ca, hlast.symm, hbundle, hsigned, by rw [hsigned, hbundle, hkey],
          by rw [hissuer, hbundle]⟩
  · rintro rfl hinstalled
    have hbefore := (start.becomes_journal before).ca
    rw [hstart, Option.or_none, List.getLast?_eq_some_getLast hinstalled] at hbefore
    exact installations_issue_of_some hbefore t
  · intro e hreply ca hca
    rw [hrun]
    exact ca_after_of_failed hreply hca

/-- **What an authority does in any run**, from any serial number, with any step failing in any of
its calls.  The numbers that it gives follow that number one by one, and new certificates bear them
in this order; so among the certificates of fewer than `2 ^ 128` calls in a row no two have the same
number.  Its own certificate is the one put in place last, and every call goes as
`Sidecar.Authority.Goes` says. -/
theorem orderly_along_run (organization : String) {hosts : List String} (hhosts : hosts ≠ [])
    (seed : BitVec 128) :
    ∃ start : Authority κ, create organization hosts seed = .ok start
      ∧ ∀ calls : List (AuthorityCall × Attempt κ),
        numbers (start.journal calls)
            = numbersAfter seed (numbers (start.journal calls)).length
          ∧ (certified (start.journal calls)).Sublist (numbers (start.journal calls))
          ∧ (∀ before window rest, calls = before ++ window ++ rest → window.length < 2 ^ 128 →
            (certified ((start.run before).journal window)).Nodup)
          ∧ (start.run calls).ca = (installations (start.journal calls)).getLast?
          ∧ ∀ before call t rest, calls = before ++ (call, t) :: rest →
            start.Goes before call t := by
  refine ⟨⟨organization, hosts, seed, none⟩, ?_, fun calls => ?_⟩
  · rw [create, if_neg (by simpa using hhosts)]
  · have hbecomes := becomes_journal ⟨organization, hosts, seed, none⟩ calls
    obtain ⟨n, hnumbers, -⟩ := hbecomes.numbers
    refine ⟨?_, hbecomes.certified, ?_, ?_, ?_⟩
    · rw [hnumbers, length_numbersAfter]
    · intro before window rest _ hwindow
      have hpart := becomes_journal (run ⟨organization, hosts, seed, none⟩ before) window
      have hlength :=
        length_numbers_journal_le (run ⟨organization, hosts, seed, none⟩ before) window
      have howed := owed_le_one (run ⟨organization, hosts, seed, none⟩ before)
      obtain ⟨m, hm, -⟩ := hpart.numbers
      rw [hm, length_numbersAfter] at hlength
      have hle : m ≤ 2 ^ 128 := by omega
      have hnodup := nodup_numbersAfter (run ⟨organization, hosts, seed, none⟩ before).serial hle
      rw [← hm] at hnodup
      exact hnodup.sublist hpart.certified
    · rw [hbecomes.ca, Option.or_none]
    · intro before call t rest _
      exact goes rfl before call t

/-- An attempt at some time with keys of its own, in which a step may fail. -/
def attempt (key : Nat) (failing : Option KeyStep) : Attempt Nat :=
  ⟨2 * key, 2 * key + 1, .epoch, fun step => if failing = some step then some "refused" else none⟩

/-- Calls of which the first makes the authority's certificate and then fails, and the third fails
to replace it. -/
def troubled : List (AuthorityCall × Attempt Nat) :=
  [(.issue, attempt 1 (some .signLeaf)), (.issue, attempt 2 none),
    (.regenerate, attempt 3 (some .signCa)), (.issue, attempt 4 none)]

/-- The numbers go over the last one without a gap, those of failures included, and the last bundle
has the certificate that the first call has made. -/
theorem orderly_along_run_of_troubled :
    ∃ start : Authority Nat, create "example.org" ["injector.svc", "10.0.0.1"]
        (BitVec.allOnes 128) = .ok start
      ∧ numbers (start.journal troubled) = [0, 1, 2, 3, 4]
      ∧ (certified (start.journal troubled)).Nodup
      ∧ ∃ bundle, (start.run (troubled.take 3)).reply (attempt 4 none) .issue = .issued bundle
        ∧ bundle.leaf.signedBy = 2 ∧ bundle.leaf.signedBy = bundle.ca.publicKey := by
  obtain ⟨start, hcreate, hruns⟩ := orderly_along_run (κ := Nat) "example.org"
    (show ["injector.svc", "10.0.0.1"] ≠ [] by decide) (BitVec.allOnes 128)
  obtain ⟨hnumbers, -, hnodup, -, hgoes⟩ := hruns troubled
  refine ⟨start, hcreate, ?_, hnodup [] troubled [] rfl (by decide), ?_⟩
  · rw [hnumbers]
    cases hcreate
    decide +kernel
  · have hlast := (hgoes (troubled.take 3) .issue (attempt 4 none) [] rfl).bundle
    cases hcreate
    obtain ⟨bundle, hreply, hsigned⟩ : ∃ bundle,
        (run ⟨"example.org", ["injector.svc", "10.0.0.1"], BitVec.allOnes 128, none⟩
          (troubled.take 3)).reply (attempt 4 none) .issue = .issued bundle
        ∧ bundle.leaf.signedBy = 2 := ⟨_, rfl, rfl⟩
    obtain ⟨_, -, -, -, hpublic, -⟩ := hlast bundle hreply
    exact ⟨bundle, hreply, hsigned, hpublic⟩

end Authority

end Sidecar
