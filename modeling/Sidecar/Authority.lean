/-
**The certificate authority.**

The injector is its own authority: it signs the certificate of its service with a certificate of
its own making.  Both take their serial numbers from one counter, which wraps around and never goes
back, whatever fails.  Keys are opaque, and so is what is done with them: making, loading and using
a key may fail at any time.

Main definitions:

* `Sidecar.Certificate`, `Sidecar.Bundle` — certificates, and what a server needs;
* `Sidecar.Attempt` — what the world contributes to one call;
* `Sidecar.Attempt.validity` — from when until when a certificate is valid that is made in it;
* `Sidecar.Authority.create`, `Sidecar.Authority.regenerate`, `Sidecar.Authority.issue` — an
  authority and its calls.

Main results: `Sidecar.Authority.ca_regenerate_of_error`, `Sidecar.Authority.ca_issue_of_some` — no
failing call removes or replaces an authority's own certificate, and issuing never replaces it.
-/

import Sidecar.Address
import Sidecar.Text.Quoted
import Sidecar.Timestamp

set_option autoImplicit false

namespace Sidecar

/-! ### Certificates -/

/-- What a key may be used for. -/
inductive KeyUsage where
  | digitalSignature
  | keyEncipherment
  | keyCertSign
deriving DecidableEq

/-- The name of the use. -/
def KeyUsage.name : KeyUsage → String
  | .digitalSignature => "Digital Signature"
  | .keyEncipherment => "Key Encipherment"
  | .keyCertSign => "Key Cert Sign"

/-- A name for which a certificate stands. -/
inductive AltName where
  | ip (address : IpAddress)
  | dns (name : String)
deriving DecidableEq

/-- The alternative name of a host, an address or a name of ASCII characters. -/
def AltName.ofHost? (host : String) : Option AltName :=
  match IpAddress.parse? host with
  | some address => some (.ip address)
  | none => if host.toList.all fun c => c.toNat < 128 then some (.dns host) else none

/-- Who holds a certificate, or signed one. -/
structure DistinguishedName where
  commonName : Option String
  organization : String
deriving DecidableEq

/-- From when until when a certificate is valid. -/
structure Validity where
  notBefore : Timestamp
  notAfter : Timestamp
deriving DecidableEq

/-- A certificate; `κ` is the type of keys. -/
structure Certificate (κ : Type) where
  subject : DistinguishedName
  issuer : DistinguishedName
  serial : BitVec 128
  isCa : Bool
  keyUsages : List KeyUsage
  /-- Whether it is limited to servers. -/
  isForServer : Bool
  altNames : List AltName
  validity : Validity
  publicKey : κ
  /-- The key whose signature it bears. -/
  signedBy : κ
deriving DecidableEq

namespace Certificate

variable {κ : Type} [DecidableEq κ]

/-- Whether the certificate names the other's subject as its issuer. -/
def issuerIs (c ca : Certificate κ) : Bool :=
  c.issuer = ca.subject

/-- Whether the certificate bears the signature of the other's key. -/
def isSignedBy (c ca : Certificate κ) : Bool :=
  c.signedBy = ca.publicKey

end Certificate

/-- What a server needs: the certificate to trust, its own, and its key. -/
structure Bundle (κ : Type) where
  ca : Certificate κ
  leaf : Certificate κ
  key : κ
deriving DecidableEq

/-- Whether a server can be run with the bundle: the key is the certificate's. -/
def Bundle.isServable {κ : Type} [DecidableEq κ] (b : Bundle κ) : Bool :=
  b.leaf.publicKey = b.key

/-! ### What may fail -/

/-- A step that may fail. -/
inductive KeyStep where
  | generateCaKey
  | dateCa
  | signCa
  | loadCaKey
  | loadCa
  | generateKey
  | dateLeaf
  | signLeaf
deriving DecidableEq

/-- Why there is no certificate. -/
inductive CertificateError where
  | unspecifiedHosts
  | invalidName (host : String)
  | failed (step : KeyStep) (cause : String)
deriving DecidableEq

/-- The wording of the error. -/
def CertificateError.message : CertificateError → String
  | .unspecifiedHosts => "no hosts specified for the serving certificate"
  | .invalidName host =>
    "failed to generate certificate: invalid DNS name " ++ Text.quoted host
      ++ ": Invalid IA5String: '" ++ host ++ "'"
  | .failed .generateCaKey cause => "failed to regenerate CA: failed to generate CA key: " ++ cause
  | .failed .dateCa cause => "failed to regenerate CA: " ++ cause
  | .failed .signCa cause => "failed to regenerate CA: failed to create CA cert: " ++ cause
  | .failed .loadCaKey cause => "failed to generate certificate: failed to load CA key: " ++ cause
  | .failed .loadCa cause => "failed to generate certificate: failed to load CA: " ++ cause
  | .failed .generateKey cause => "failed to generate private key: " ++ cause
  | .failed .dateLeaf cause => "failed to generate certificate: " ++ cause
  | .failed .signLeaf cause => "failed to generate certificate: " ++ cause

/-- What the world contributes to one call: the keys that are made in it, its time, and which steps
fail. -/
structure Attempt (κ : Type) where
  caKey : κ
  leafKey : κ
  now : Timestamp
  fault : KeyStep → Option String

namespace Attempt

variable {κ : Type}

/-- Does a step. -/
def step (t : Attempt κ) (s : KeyStep) : Except CertificateError Unit :=
  match t.fault s with
  | some cause => .error (.failed s cause)
  | none => .ok ()

/-- Nanoseconds in an hour. -/
def hour : Int := 3600 * nanosPerSecond

/-- The hour nearest to a day ago. -/
def start? (t : Attempt κ) : Option Timestamp := do
  let yesterday ← Timestamp.ofNanos? (t.now.nanos - 24 * hour)
  Timestamp.ofNanos? (Timestamp.nearest hour yesterday.nanos)

/-- A year from now, in whole seconds. -/
def end? (t : Attempt κ) : Option Timestamp :=
  t.now.nextYear?.map (·.wholeSeconds)

/-- The validity of a new certificate. -/
def validity (t : Attempt κ) (s : KeyStep) : Except CertificateError Validity := do
  t.step s
  match t.start?, t.end? with
  | none, _ => .error (.failed s "the start of validity is out of bounds")
  | some _, none => .error (.failed s "the end of validity is out of bounds")
  | some notBefore, some notAfter => .ok ⟨notBefore, notAfter⟩

end Attempt

/-! ### The authority -/

/-- The certificate of an authority with its key. -/
structure CaMaterial (κ : Type) where
  certificate : Certificate κ
  key : κ
deriving DecidableEq

/-- An authority for the certificates of some hosts. -/
structure Authority (κ : Type) where
  organization : String
  hosts : List String
  /-- The serial number given last. -/
  serial : BitVec 128
  ca : Option (CaMaterial κ)
deriving DecidableEq

namespace Authority

variable {κ : Type}

/-- An authority without a certificate of its own yet. -/
def create (organization : String) (hosts : List String) (serial : BitVec 128) :
    Except CertificateError (Authority κ) :=
  if hosts.isEmpty then .error .unspecifiedHosts else .ok ⟨organization, hosts, serial, none⟩

/-- The authority after it has given a serial number. -/
def advance (a : Authority κ) : Authority κ :=
  { a with serial := a.serial + 1 }

@[simp] theorem ca_advance (a : Authority κ) : a.advance.ca = a.ca := rfl

@[simp] theorem serial_advance (a : Authority κ) : a.advance.serial = a.serial + 1 := rfl

/-- The certificate of the authority with the serial number given last. -/
def certificate (a : Authority κ) (key : κ) (validity : Validity) : Certificate κ :=
  let name : DistinguishedName := ⟨none, a.organization⟩
  { subject := name
    issuer := name
    serial := a.serial
    isCa := true
    keyUsages := [.digitalSignature, .keyCertSign]
    isForServer := false
    altNames := []
    validity
    publicKey := key
    signedBy := key }

/-- Makes a new certificate for the authority, in place of any it has. -/
def regenerate (a : Authority κ) (t : Attempt κ) :
    Except CertificateError (CaMaterial κ) × Authority κ :=
  match t.step .generateCaKey, t.validity .dateCa with
  | .error e, _ => (.error e, a)
  | .ok _, .error e => (.error e, a)
  | .ok _, .ok validity =>
    let a := a.advance
    match t.step .signCa with
    | .error e => (.error e, a)
    | .ok _ =>
      let ca : CaMaterial κ := ⟨a.certificate t.caKey validity, t.caKey⟩
      (.ok ca, { a with ca := some ca })

/-- The authority's certificate, made if it has none. -/
def provideCa (a : Authority κ) (t : Attempt κ) :
    Except CertificateError (CaMaterial κ) × Authority κ :=
  match a.ca with
  | some ca => (.ok ca, a)
  | none => a.regenerate t

/-- The alternative names of the hosts, or the first host that has none. -/
def altNames (a : Authority κ) : Except CertificateError (List AltName) :=
  a.hosts.mapM fun host =>
    match AltName.ofHost? host with
    | some name => .ok name
    | none => .error (.invalidName host)

/-- A certificate for the hosts with the serial number given last, signed by the authority. -/
def bundle (a : Authority κ) (ca : CaMaterial κ) (t : Attempt κ) :
    Except CertificateError (Bundle κ) := do
  t.step .loadCaKey
  t.step .loadCa
  t.step .generateKey
  let validity ← t.validity .dateLeaf
  let altNames ← a.altNames
  t.step .signLeaf
  pure {
    ca := ca.certificate
    leaf := {
      subject := ⟨a.hosts.head?, a.organization⟩
      issuer := ca.certificate.subject
      serial := a.serial
      isCa := false
      keyUsages := [.digitalSignature, .keyEncipherment]
      isForServer := true
      altNames
      validity
      publicKey := t.leafKey
      signedBy := ca.key }
    key := t.leafKey }

/-- Issues a certificate for the hosts. -/
def issue (a : Authority κ) (t : Attempt κ) : Except CertificateError (Bundle κ) × Authority κ :=
  match a.provideCa t with
  | (.error e, a) => (.error e, a)
  | (.ok ca, a) => (a.advance.bundle ca t, a.advance)

/-! ### What calls leave alone -/

/-- A failing call leaves the authority's certificate alone. -/
theorem ca_regenerate_of_error {a : Authority κ} {t : Attempt κ} {e : CertificateError}
    (h : (a.regenerate t).1 = .error e) : (a.regenerate t).2.ca = a.ca := by
  unfold regenerate at h ⊢
  split
  · rfl
  · rfl
  · next hkey hdate =>
    simp only [hkey, hdate] at h
    dsimp only at h ⊢
    cases hsign : t.step .signCa with
    | error e => rfl
    | ok _ => simp [hsign] at h

/-- Issuing leaves a certificate that the authority has alone, whether it succeeds or not. -/
theorem ca_issue_of_some {a : Authority κ} {ca : CaMaterial κ} (t : Attempt κ)
    (h : a.ca = some ca) : (a.issue t).2.ca = some ca := by
  simp [issue, provideCa, h]

end Authority

end Sidecar
